/-
  Runs of checks.

  A check looks at one slot and may leave a default in it.  It knows where it is (`Scope`), and it
  carries on what the run has come to (`Progress`): the slot, the ids registered, the defaults
  written and the journal.  A check that fails still leaves its progress behind, so a default
  written on the way to a failure stays.

  `atChild` runs a check on a member of the value at hand: the member's slot is taken out of the
  container, checked, and put back, whether the check succeeds or fails.  Path and depth belong to
  the scope, so nothing has to restore them.
-/
import Conformance.Journal

namespace Conformance

/-- Where a check is: the key of its value, the path that messages show, the place of the value, the
    places where values have been gone over, how many checks it is nested in, and the settings of
    the run. -/
structure Scope where
  key : Value
  trail : Trail
  place : Place
  renewals : List Place
  depth : Nat
  interactive : Bool
  limit : Nat

/-- The scope of a member of the value at hand. -/
def Scope.child (s : Scope) (step : Step) : Scope :=
  { s with
    key := step.key
    trail := s.trail ++ [step]
    place := (s.place.down step).current s.renewals }

/-- What a run has come to; the latest write and the latest event stand first. -/
structure Progress where
  slot : Slot
  registry : Registry
  writes : List Write
  journal : Journal

/-- A check with a result. -/
def Check (α : Type) : Type := Scope → Progress → Except Failure α × Progress

namespace Check

/-- A check that does nothing. -/
def ofPure {α : Type} (a : α) : Check α := fun _ p => (.ok a, p)

/-- One check after another; a failure ends the run. -/
def andThen {α β : Type} (c : Check α) (f : α → Check β) : Check β := fun s p =>
  match c s p with
  | (.ok a, p') => f a s p'
  | (.error e, p') => (.error e, p')

instance : Monad Check where
  pure := ofPure
  bind := andThen

/-! ## Laws of sequencing -/

theorem pure_run {α : Type} (a : α) (s : Scope) (p : Progress) :
    (pure a : Check α) s p = (.ok a, p) := rfl

theorem bind_run {α β : Type} (c : Check α) (f : α → Check β) (s : Scope) (p : Progress) :
    (c >>= f) s p = match c s p with
      | (.ok a, p') => f a s p'
      | (.error e, p') => (.error e, p') := rfl

theorem bind_run_ok {α β : Type} {c : Check α} {f : α → Check β} {s : Scope} {p p' : Progress}
    {a : α} (h : c s p = (.ok a, p')) : (c >>= f) s p = f a s p' := by
  rw [bind_run, h]

theorem bind_run_error {α β : Type} {c : Check α} {f : α → Check β} {s : Scope} {p p' : Progress}
    {e : Failure} (h : c s p = (.error e, p')) : (c >>= f) s p = (.error e, p') := by
  rw [bind_run, h]

instance : LawfulMonad Check := LawfulMonad.mk' Check
  (fun c => by
    funext s p
    rcases h : c s p with ⟨r, p'⟩
    cases r <;> simp [Functor.map, andThen, ofPure, h])
  (fun a f => rfl)
  (fun c f g => by
    funext s p
    rcases h : c s p with ⟨r, p'⟩
    cases r <;> simp [bind, andThen, h])

/-! ## Reading -/

/-- The scope. -/
def scope : Check Scope := fun s p => (.ok s, p)

/-- The progress so far. -/
def progress : Check Progress := fun _ p => (.ok p, p)

/-- The value at hand; the mark of an absent key if there is none. -/
def value : Check Value := fun _ p => (.ok p.slot.value, p)

/-- What a schema node says now. -/
def content (n : Node) : Check Value := fun _ p => (.ok (n.content p.writes), p)

/-- What a schema node says under a name, if anything. -/
def field? (n : Node) (name : String) : Check (Option Value) := fun _ p =>
  (.ok ((n.content p.writes).get? name), p)

/-- What a schema node says under a name; nothing said reads as null. -/
def field (n : Node) (name : String) : Check Value := fun _ p =>
  (.ok (((n.content p.writes).get? name).getD .null), p)

/-- An element of a schema node that is a list. -/
def element (n : Node) (i : Nat) : Check Node := fun _ p =>
  (.ok (n.down (.index i) (((n.content p.writes).child? (.index i)).getD .missing)), p)

section Laws

variable {β : Type} (n : Node) (s : Scope) (p : Progress)

theorem scope_bind (f : Scope → Check β) : (scope >>= f) s p = f s s p := rfl

theorem progress_bind (f : Progress → Check β) : (progress >>= f) s p = f p s p := rfl

theorem value_bind (f : Value → Check β) : (value >>= f) s p = f p.slot.value s p := rfl

theorem content_bind (f : Value → Check β) :
    (content n >>= f) s p = f (n.content p.writes) s p := rfl

theorem field?_bind (name : String) (f : Option Value → Check β) :
    (field? n name >>= f) s p = f ((n.content p.writes).get? name) s p := rfl

end Laws

/-! ## Failing -/

/-- Ends the run. -/
def stop {α : Type} (f : Failure) : Check α := fun _ p => (.error f, p)

/-- Ends the run for a cause at the value at hand. -/
def fail {α : Type} (cause : Cause) : Check α := fun s p =>
  (.error (.violation ⟨cause, s.key, some s.trail⟩), p)

/-- Ends the run for a cause at the entry of the value at hand under a key. -/
def failAt {α : Type} (key : Key) (cause : Cause) : Check α := fun s p =>
  (.error (.violation ⟨cause, key.value, some (s.trail ++ [.entry key])⟩), p)

/-- Ends the run for a cause at the value at hand, without a key. -/
def failKeyless {α : Type} (cause : Cause) : Check α := fun s p =>
  (.error (.violation ⟨cause, .null, some s.trail⟩), p)

/-- Ends the run for a cause without a place. -/
def failPlaceless {α : Type} (cause : Cause) : Check α := fun s p =>
  (.error (.violation ⟨cause, s.key, none⟩), p)

/-- Runs a check and gives back the violation of the data it ends with, if it does.  Errors of the
    schema, of nesting, and faults end the run as before. -/
def attempt (c : Check Unit) : Check (Option Violation) := fun s p =>
  match c s p with
  | (.ok _, p') => (.ok none, p')
  | (.error (.violation v), p') =>
    if v.errorClass = .data then (.ok (some v), p') else (.error (.violation v), p')
  | (.error f, p') => (.error f, p')

/-! ## Writing -/

/-- Adds an event to the journal. -/
def note (e : Event) : Check Unit := fun _ p => (.ok (), { p with journal := e :: p.journal })

/-- Registers a schema under an id. -/
def register (id : String) (schema : Node) : Check Unit := fun _ p =>
  (.ok (), { p with
    registry := p.registry.insert id schema
    journal := p.registry.news id schema ++ p.journal })

/-- Leaves a slot with a default just written, and records the write. -/
def written (slot : Slot) (v : Value) : Check Unit := fun s p =>
  (.ok (), { p with
    slot := slot
    writes := ⟨s.place, v⟩ :: p.writes
    journal := .defaultWritten s.trail v :: p.journal })

/-- Asks whether the key is there.  A key that mappings cannot be asked for ends the run. -/
def askKey : Check Unit := fun _ p =>
  match p.slot with
  | .unaskable className => (.error (.fault (.unhashable className)), p)
  | _ => (.ok (), p)

/-- Writes a default where the key is absent.  A key that is there, be it by an earlier default,
    keeps what it has; a negative index never counts as being there. -/
def writeDefault (v : Value) : Check Unit := fun s p =>
  match p.slot with
  | .free => written (.filled v) v s p
  | .fromEnd _ => written (.fromEnd (some v)) v s p
  | .outOfReach index length => (.error (.fault (.ofIndex index length)), p)
  | .closed className => note (.notWritable s.trail className) s p
  | .present _ => (.ok (), p)
  | .held => (.ok (), p)
  | .filled _ => (.ok (), p)
  | .unaskable _ => (.ok (), p)

/-! ## Members -/

/-- Runs a check on a member of the value at hand.  Where there is no value, its members count as
    held, and nothing can be put there. -/
def atChild {α : Type} (step : Step) (c : Check α) : Check α := fun s p =>
  match p.slot with
  | .present container =>
    let (r, p') := c (s.child step) { p with slot := container.slotBelow step }
    (r, { p' with slot := .present (container.settle step p'.slot) })
  | slot =>
    -- the slot itself stays as it was
    let (r, p') := c (s.child step) { p with slot := .held }
    (r, { p' with slot := slot })

/-- How many list elements may be appended to a list while its elements are visited. -/
def growthRoom : Nat := 0x100000000

/-- Visits the elements of a list from an index on, those appended meanwhile included. -/
def visitAppended (n : Node) (visit : Nat → Node → Check Unit) : Nat → Nat → Check Unit
  | 0, _ => pure ()
  | room + 1, i => do
    match (← content n).listItems[i]? with
    | none => pure ()
    | some v =>
      visit i (n.down (.index i) v)
      visitAppended n visit room (i + 1)

/-- Visits the elements of a list from an index on. -/
def visitFrom (n : Node) (visit : Nat → Node → Check Unit) : Nat → List Value → Check Unit
  | i, [] => visitAppended n visit growthRoom i
  | i, v :: rest => do
    visit i (n.down (.index i) v)
    visitFrom n visit (i + 1) rest

/-- Visits the elements of a list in a schema in order.  A list inside an instance can grow on the
    way; what is appended is visited too. -/
def eachElement (n : Node) (visit : Nat → Node → Check Unit) : Check Unit := do
  visitFrom n visit 0 (← content n).listItems

/-- Runs a check for each of several things in order. -/
def each {α : Type} (c : α → Check Unit) : List α → Check Unit
  | [] => pure ()
  | a :: rest => do
    c a
    each c rest

/-- Runs a check against a schema one level deeper, its beginning and its end in the journal. -/
def nested (n : Node) (c : Check Unit) : Check Unit := fun s p =>
  let (r, p') := c { s with depth := s.depth + 1 }
    { p with journal := .entered n s.trail (s.depth + 1) :: p.journal }
  (r, { p' with journal := .left n r :: p'.journal })

end Check

end Conformance

/-
  Runs that carry path and depth along.

  A validator has one path and one count of nesting for all its checks.  Before a check of a member a
  step is pushed onto the path, and after it the last step is popped; a nested check adds one to the
  count and takes one off again; and whoever reports an error reads the path as it is then.  Here
  checks are runs of that kind (`Stateful`): path and count are a `Cursor` that one run hands on to
  the next, whatever comes of it.

  `Renders` compares such a run with a check that is told its path and depth by its scope: the two
  come to the same, and the cursor is afterwards what it was before.  It has one rule for each way in
  which checks are put together.
-/
import Conformance.Validator

namespace Conformance

/-- Path and depth of a validator at work; and, for the record only, the depths at which values have
    been handed to a schema so far, the latest first. -/
structure Cursor where
  path : Trail
  depth : Nat
  visited : List Nat

/-- What a run is given that it does not change: all of a scope but path and depth. -/
structure Frame where
  key : Value
  place : Place
  renewals : List Place
  interactive : Bool
  limit : Nat

/-- The frame of a member of the value at hand. -/
def Frame.child (f : Frame) (step : Step) : Frame :=
  { f with key := step.key, place := (f.place.down step).current f.renewals }

/-- Frame and cursor together say where a run is. -/
def Frame.scope (f : Frame) (k : Cursor) : Scope :=
  ⟨f.key, k.path, f.place, f.renewals, k.depth, f.interactive, f.limit⟩

/-- A check that carries a cursor along, with a result. -/
def Stateful (α : Type) : Type :=
  Frame → Cursor → Progress → Except Failure α × Cursor × Progress

namespace Stateful

variable {α β : Type}

/-- A run that does nothing. -/
def ofPure (a : α) : Stateful α := fun _ k p => (.ok a, k, p)

/-- One run after another; a failure ends both, and leaves the cursor where it is. -/
def andThen (r : Stateful α) (g : α → Stateful β) : Stateful β := fun f k p =>
  match r f k p with
  | (.ok a, k', p') => g a f k' p'
  | (.error e, k', p') => (.error e, k', p')

instance : Monad Stateful where
  pure := ofPure
  bind := andThen

/-- A check that reads path and depth and leaves them alone. -/
def reading (c : Check α) : Stateful α := fun f k p =>
  let (result, p') := c (f.scope k) p
  (result, k, p')

instance : MonadLift Check Stateful := ⟨reading⟩

/-- Runs with one more step on the path.  Afterwards the last step is popped, whatever has come of
    the run. -/
def withStep (step : Step) (r : Stateful α) : Stateful α := fun f k p =>
  let (result, k', p') := r f { k with path := k.path ++ [step] } p
  (result, { k' with path := k'.path.dropLast }, p')

/-- Runs one level deeper, unless the limit has been reached.  Afterwards one is taken off the
    depth, whatever has come of the run. -/
def nested (n : Node) (r : Stateful Unit) : Stateful Unit := fun f k p =>
  if f.limit ≤ k.depth then
    (.error (.violation ⟨.tooDeep f.limit, f.key, some k.path⟩), k, p)
  else
    let (result, k', p') := r f { k with depth := k.depth + 1 }
      { p with journal := .entered n k.path (k.depth + 1) :: p.journal }
    (result, { k' with depth := k'.depth - 1 }, { p' with journal := .left n result :: p'.journal })

/-- Puts on record at which depth a value is handed to a schema. -/
def arrive : Stateful Unit := fun _ k p => (.ok (), { k with visited := k.depth :: k.visited }, p)

/-- Runs and gives back the violation of the data that the run ends with, if it does. -/
def attempt (r : Stateful Unit) : Stateful (Option Violation) := fun f k p =>
  match r f k p with
  | (.ok _, k', p') => (.ok none, k', p')
  | (.error (.violation v), k', p') =>
    if v.errorClass = .data then (.ok (some v), k', p') else (.error (.violation v), k', p')
  | (.error e, k', p') => (.error e, k', p')

/-- Runs on the slot of a member of the value at hand. -/
def onMember (step : Step) (r : Stateful α) : Stateful α := fun f k p =>
  match p.slot with
  | .present container =>
    let (result, k', p') := r (f.child step) k { p with slot := container.slotBelow step }
    (result, k', { p' with slot := .present (container.settle step p'.slot) })
  | slot =>
    let (result, k', p') := r (f.child step) k { p with slot := .held }
    (result, k', { p' with slot := slot })

/-- Runs on a member of the value at hand. -/
def atChild (step : Step) (r : Stateful α) : Stateful α := withStep step (onMember step r)

/-- Ends the run for a cause at the entry of the value at hand under a key. -/
def failAt (key : Key) (cause : Cause) : Stateful α :=
  withStep (.entry key) fun _ k p =>
    (.error (.violation ⟨cause, key.value, some k.path⟩), k, p)

/-! ## The same as a check -/

/-- A run comes to what a check comes to, and hands on the cursor as it was, where limit and depth
    are given.  On the way no value has been handed to a schema beyond the limit. -/
def Renders (limit depth : Nat) (r : Stateful α) (c : Check α) : Prop :=
  ∀ f k p, f.limit = limit → k.depth = depth →
    ∃ new : List Nat, (∀ d ∈ new, d ≤ limit) ∧
      r f k p =
        ((c (f.scope k) p).1, { k with visited := new ++ k.visited }, (c (f.scope k) p).2)

namespace Renders

variable {limit depth : Nat}

/-- What only reads path and depth renders itself. -/
theorem lift (c : Check α) : Renders limit depth (liftM c : Stateful α) c :=
  fun _ _ _ _ _ => ⟨[], fun _ h => absurd h List.not_mem_nil, rfl⟩

theorem pure (a : α) : Renders limit depth (Pure.pure a : Stateful α) (Pure.pure a) :=
  fun _ _ _ _ _ => ⟨[], fun _ h => absurd h List.not_mem_nil, rfl⟩

/-- Runs and checks that go the same way one step at a time go the same way. -/
theorem bind {r : Stateful α} {c : Check α} {g : α → Stateful β} {h : α → Check β}
    (hr : Renders limit depth r c) (hg : ∀ a, Renders limit depth (g a) (h a)) :
    Renders limit depth (r >>= g) (c >>= h) := by
  intro f k p hf hk
  obtain ⟨new, hnew, hrun⟩ := hr f k p hf hk
  show ∃ new, _ ∧ andThen r g f k p = _
  unfold andThen
  rw [hrun, Check.bind_run]
  rcases c (f.scope k) p with ⟨result, p'⟩
  cases result with
  | error e => exact ⟨new, hnew, rfl⟩
  | ok a =>
    -- what is on record is no part of the scope
    obtain ⟨more, hmore, hrest⟩ := hg a f { k with visited := new ++ k.visited } p' hf hk
    refine ⟨more ++ new, fun d hd => (List.mem_append.mp hd).elim (hmore d) (hnew d), ?_⟩
    rw [List.append_assoc]
    exact hrest

theorem attempt {r : Stateful Unit} {c : Check Unit} (h : Renders limit depth r c) :
    Renders limit depth (Stateful.attempt r) (Check.attempt c) := by
  intro f k p hf hk
  obtain ⟨new, hnew, hrun⟩ := h f k p hf hk
  refine ⟨new, hnew, ?_⟩
  unfold Stateful.attempt Check.attempt
  rw [hrun]
  rcases c (f.scope k) p with ⟨result, p'⟩
  cases result with
  | ok _ => rfl
  | error e =>
    cases e with
    | fault _ => rfl
    | violation v =>
      dsimp only
      split <;> rfl

/-- **A step that is pushed is popped.**  Whatever comes of the run on a member, the path is
    afterwards what it was. -/
theorem atChild {r : Stateful α} {c : Check α} (h : Renders limit depth r c) (step : Step) :
    Renders limit depth (Stateful.atChild step r) (Check.atChild step c) := by
  intro f k p hf hk
  have hscope : (f.child step).scope { k with path := k.path ++ [step] } =
      (f.scope k).child step := rfl
  unfold Stateful.atChild withStep onMember Check.atChild
  cases p.slot with
  | present container =>
    obtain ⟨new, hnew, hrun⟩ := h (f.child step) { k with path := k.path ++ [step] }
      { p with slot := container.slotBelow step } hf hk
    refine ⟨new, hnew, ?_⟩
    dsimp only
    rw [hrun, hscope, List.dropLast_concat]
  | _ =>
    obtain ⟨new, hnew, hrun⟩ := h (f.child step) { k with path := k.path ++ [step] }
      { p with slot := .held } hf hk
    refine ⟨new, hnew, ?_⟩
    dsimp only
    rw [hrun, hscope, List.dropLast_concat]

theorem failAt (key : Key) (cause : Cause) :
    Renders limit depth (Stateful.failAt key cause : Stateful α) (Check.failAt key cause) := by
  intro f k p _ _
  refine ⟨[], fun _ h => absurd h List.not_mem_nil, ?_⟩
  show (_, { k with path := (k.path ++ [Step.entry key]).dropLast }, _) = _
  rw [List.dropLast_concat]
  rfl

/-- **A level that is entered is left.**  Below the limit a nested run is a nested check, and the
    depth is afterwards what it was. -/
theorem nested {r : Stateful Unit} {c : Check Unit} (hlt : depth < limit)
    (h : Renders limit (depth + 1) r c) (n : Node) :
    Renders limit depth (Stateful.nested n r) (Check.nested n c) := by
  intro f k p hf hk
  obtain ⟨new, hnew, hrun⟩ := h f { k with depth := k.depth + 1 }
    { p with journal := .entered n k.path (k.depth + 1) :: p.journal } hf (by rw [hk])
  refine ⟨new, hnew, ?_⟩
  unfold Stateful.nested Check.nested
  rw [if_neg (by omega)]
  dsimp only
  rw [hrun]
  rfl

/-- At the limit a nested run ends with the error of the limit. -/
theorem nested_at_limit (r : Stateful Unit) (n : Node) :
    Renders limit limit (Stateful.nested n r) (do Check.fail (.tooDeep (← Check.scope).limit)) := by
  intro f k p hf hk
  refine ⟨[], fun _ h => absurd h List.not_mem_nil, ?_⟩
  unfold Stateful.nested
  rw [if_pos (by omega)]
  rfl

/-- A run of which it is put on record that it has been started within the limit. -/
theorem arrive {r : Stateful α} {c : Check α} (hle : depth ≤ limit) (h : Renders limit depth r c) :
    Renders limit depth (Stateful.arrive >>= fun _ => r) c := by
  intro f k p hf hk
  obtain ⟨new, hnew, hrun⟩ := h f { k with visited := k.depth :: k.visited } p hf hk
  refine ⟨new ++ [k.depth], fun d hd => ?_, ?_⟩
  · rcases List.mem_append.mp hd with hd | hd
    · exact hnew d hd
    · rw [List.mem_singleton.mp hd, hk]
      exact hle
  · rw [List.append_assoc]
    exact hrun

end Renders

end Stateful

end Conformance

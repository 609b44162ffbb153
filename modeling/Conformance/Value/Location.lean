/-
  Places inside documents, and what a container holds under a key.

  A `Step` leads from a container to one of its members, a `Trail` is the steps from the root.  A
  `Slot` is what a check finds under a key and what it leaves there: a value, or one of the ways
  in which there is none.  `slotBelow` looks into the container and `settle` puts the slot back, so a
  check of a member is a function from slot to slot and the container is mended once, afterwards.
-/
import Conformance.Value.Equality
import Conformance.Value.Text

namespace Conformance

/-! ## Steps and trails -/

/-- A key as a value. -/
def Key.value : Key → Value
  | .name s => .str s
  | .null => .null
  | .bool b => .bool b
  | .int i => .int i
  | .float x => .float x
  | .other t => .str t

/-- One step down: an entry of a mapping or an element of a list. -/
inductive Step where
  | entry (key : Key)
  | index (i : Nat)
deriving DecidableEq

/-- The step to the entry under a name. -/
def Step.name (s : String) : Step := .entry (.name s)

/-- The key a step goes by. -/
def Step.key : Step → Value
  | .entry k => k.value
  | .index i => .int i

/-- A step as paths show it: integers and booleans in brackets, other keys after a point. -/
def Step.text : Step → String
  | .entry (.int i) => "[" ++ (Key.int i).text ++ "]"
  | .entry (.bool b) => "[" ++ (Key.bool b).text ++ "]"
  | .entry k => "." ++ k.text
  | .index i => "[" ++ integerText i ++ "]"

/-- The steps from a root, outermost first. -/
abbrev Trail := List Step

/-- The path of a trail, from the root `$`. -/
def Trail.text (t : Trail) : String := "$" ++ joined "" (t.map Step.text)

theorem Trail.text_nil : Trail.text [] = "$" := by decide +kernel

/-! ## Slots -/

/-- What there is under a key of a container. -/
inductive Slot where
  /-- A value is there. -/
  | present (value : Value)
  /-- The key is taken, though its value counts as missing. -/
  | held
  /-- The key is absent and the container can take it. -/
  | free
  /-- The key was absent, and this value has been put there. -/
  | filled (value : Value)
  /-- The key is absent from something that cannot be written to, of the class named. -/
  | closed (className : String)
  /-- A negative index counted from the end of a list; a value written goes over the old one. -/
  | fromEnd (written : Option Value)
  /-- An index at which a list of this length can neither be read nor written. -/
  | outOfReach (index : Int) (length : Nat)
  /-- The key is one that mappings cannot be asked for, because of a part of the class named. -/
  | unaskable (className : String)
deriving DecidableEq

namespace Slot

/-- The value in a slot; what was missing stays missing, even where a default has been put. -/
def value : Slot → Value
  | .present v => v
  | _ => .missing

/-- The slot of a value looked up or handed in. -/
def ofValue : Value → Slot
  | .missing => .held
  | v => .present v

/-- A value in a slot is never the mark of an absent key. -/
theorem value_ofValue (v : Value) : (ofValue v).value = v := by
  cases v <;> rfl

end Slot

namespace Value

/-- A key as an index: an integer, or a boolean in the role of zero or one. -/
def index? : Value → Option Int
  | .int i => some i
  | .bool b => some (if b then 1 else 0)
  | _ => none

mutual

/-- The class of the first part of a value for which there is no looking up at all: a list or a
    mapping, possibly inside tuples. -/
def unhashable? : Value → Option String
  | .list items => some (Value.list items).className
  | .map entries => some (Value.map entries).className
  | .tuple items => unhashableAmong? items
  | _ => none

/-- The class of the first such part among several values. -/
def unhashableAmong? : List Value → Option String
  | [] => none
  | v :: rest => (unhashable? v).or (unhashableAmong? rest)

end

/-- A value as a key of a mapping. -/
def toKey : Value → Key
  | .str s => .name s
  | .null => .null
  | .bool b => .bool b
  | .int i => .int i
  | .float x => .float x
  | v => .other v.repr

/-- How many elements a list can be made to have by an index that was handed in. -/
def listRoom : Nat := 0x100000000

/-- The member that a step leads to. -/
def child? (v : Value) (step : Step) : Option Value :=
  match v, step with
  | .map es, .entry k => entryAt? k es
  | .list items, .index i => items[i]?
  | .tuple items, .index i => items[i]?
  | _, _ => none

/-- The slot at a step that leads to no member. -/
def gap (container : Value) (step : Step) : Slot :=
  match container, step with
  | .map _, .entry _ => .free
  | .list _, .index _ => .free
  | _, _ => .closed container.className

/-- What a container holds one step down. -/
def slotBelow (container : Value) (step : Step) : Slot :=
  match container.child? step with
  | some v => .ofValue v
  | none => container.gap step

/-- What a container holds under a key that was handed in. -/
def slotAt (container key : Value) : Slot :=
  match container with
  | .map _ =>
    match key.unhashable? with
    | some name => .unaskable name
    | none => container.slotBelow (.entry key.toKey)
  | .list items =>
    match key.index? with
    -- the steps of a check are as many as there are schemas, but a key can be any number
    | some (.ofNat i) =>
      if items.length ≤ i ∧ listRoom ≤ i then .outOfReach i items.length
      else container.slotBelow (.index i)
    -- a negative index is never found, yet a write through it counts from the end
    | some (.negSucc i) =>
      if i < items.length then .fromEnd none else .outOfReach (.negSucc i) items.length
    | none => .closed container.className
  | .tuple _ =>
    match key.index? with
    | some (.ofNat i) => container.slotBelow (.index i)
    | _ => .closed container.className
  | _ => .closed container.className

/-- The step that a key which was handed in takes. -/
def stepTo (container key : Value) : Step :=
  match container, key.index? with
  | .list _, some (.ofNat i) => .index i
  | .tuple _, some (.ofNat i) => .index i
  | .list items, some (.negSucc i) => .index (items.length - (i + 1))
  | .map es, _ => .entry (((entryWith? key.toKey es).map (·.1)).getD key.toKey)
  | _, _ => .entry key.toKey

/-- Puts a value in the place of the one under a key. -/
def setEntry (key : Key) (v : Value) : List (Key × Value) → List (Key × Value)
  | [] => []
  | (k, old) :: rest => if k.same key then (k, v) :: rest else (k, old) :: setEntry key v rest

/-- Appends a value at an index past the end, with nulls up to it. -/
def padTo (items : List Value) (i : Nat) (v : Value) : List Value :=
  items ++ List.replicate (i - items.length) .null ++ [v]

/-- A container whose member one step down is exchanged for another value. -/
def replace (container : Value) (step : Step) (value : Value) : Value :=
  match container, step with
  | .map es, .entry k => .map (setEntry k value es)
  | .list items, .index i => .list (items.set i value)
  | .tuple items, .index i => .tuple (items.set i value)
  | c, _ => c

/-- A container that takes a value one step down, where it has none. -/
def adopt (container : Value) (step : Step) (value : Value) : Value :=
  match container, step with
  | .map es, .entry k => .map (es ++ [(k, value)])
  | .list items, .index i => .list (padTo items i value)
  | c, _ => c

/-- The container after a check has left a slot one step down. -/
def settle (container : Value) (step : Step) : Slot → Value
  | .present v => container.replace step v
  | .filled v => container.adopt step v
  | .fromEnd (some v) => container.replace step v
  | _ => container

/-- The value at the end of a trail. -/
def at? : Value → Trail → Option Value
  | v, [] => some v
  | v, step :: rest => (v.child? step).bind (·.at? rest)

/-- Writes a default at the end of a trail, where the key is free; what is there already stays. -/
def fillAt (root : Value) (trail : Trail) (value : Value) : Value :=
  match trail with
  | [] => root
  | [step] => match root.slotBelow step with
    | .free => root.adopt step value
    | _ => root
  | step :: rest => match root.child? step with
    | some member => root.replace step (member.fillAt rest value)
    | none => root

/-! ## Small laws -/

theorem entryAt?_setEntry (es : List (Key × Value)) (key : Key) (v old : Value)
    (h : entryAt? key es = some old) : entryAt? key (setEntry key v es) = some v := by
  induction es with
  | nil => simp [entryAt?, entryWith?] at h
  | cons e rest ih =>
    obtain ⟨k, w⟩ := e
    cases hk : k.same key with
    | true => simp [setEntry, hk, entryAt?, entryWith?]
    | false =>
      simp only [entryAt?, entryWith?, List.find?_cons, hk] at h
      simp only [setEntry, hk, Bool.false_eq_true, if_false, entryAt?, entryWith?, List.find?_cons]
      exact ih h

theorem setEntry_keys (es : List (Key × Value)) (key : Key) (v : Value) :
    (setEntry key v es).map (·.1) = es.map (·.1) := by
  induction es with
  | nil => rfl
  | cons e rest ih =>
    obtain ⟨k, w⟩ := e
    by_cases hk : k.same key = true <;> simp [setEntry, hk, ih]

end Value

end Conformance

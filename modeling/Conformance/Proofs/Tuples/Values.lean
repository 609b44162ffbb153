/-
  Values that differ in their tuples only.

  `Value.untupled` has a list for every tuple of a value, at any depth.  Two values are the same but
  for their tuples if they have the same untupled form; turning one tuple into a list, wherever it
  stands, does not change that form (`untupled_exchangeAt`).

  Whatever a rule reads of a value is read alike of its untupled form: its kind, what stands one
  step down (`child?_untupled`), how many elements there are, and what it is equal to
  (`equal_untupled`).
-/
import Conformance.Proofs.Memory.Effects

namespace Conformance

namespace Value

mutual

/-- The value with a list for every tuple. -/
def untupled : Value → Value
  | .list items => .list (untupledItems items)
  | .tuple items => .list (untupledItems items)
  | .map es => .map (untupledEntries es)
  | .missing => .missing
  | .null => .null
  | .bool b => .bool b
  | .int i => .int i
  | .float x => .float x
  | .str s => .str s
  | .cls c => .cls c

/-- Element by element. -/
def untupledItems : List Value → List Value
  | [] => []
  | v :: rest => v.untupled :: untupledItems rest

/-- Entry by entry, under the same keys. -/
def untupledEntries : List (Key × Value) → List (Key × Value)
  | [] => []
  | (key, v) :: rest => (key, v.untupled) :: untupledEntries rest

end

/-- The elements of an untupled list are the untupled elements, -/
theorem untupledItems_eq (items : List Value) : untupledItems items = items.map untupled := by
  induction items with
  | nil => rfl
  | cons v rest ih => rw [untupledItems, ih, List.map_cons]

/-- and the entries of an untupled mapping are the untupled entries. -/
theorem untupledEntries_eq (es : List (Key × Value)) :
    untupledEntries es = es.map fun e => (e.1, e.2.untupled) := by
  induction es with
  | nil => rfl
  | cons e rest ih => rw [untupledEntries, ih, List.map_cons]

/-! ## What is read of a value -/

/-- Values without members have no tuples to be changed. -/
theorem untupled_of_atom {v : Value} (harray : v.elements? = none) (hobject : v.isMap = false) :
    v.untupled = v := by
  cases v with
  | list items => cases harray
  | tuple items => cases harray
  | map es => cases hobject
  | _ => rfl

/-- A tuple and a list are of one kind. -/
theorem kind_untupled (v : Value) : v.untupled.kind = v.kind := by cases v <;> rfl

/-- Mappings remain mappings. -/
theorem isMap_untupled (v : Value) : v.untupled.isMap = v.isMap := by cases v <;> rfl

/-- Numbers remain the same numbers. -/
theorem number?_untupled (v : Value) : v.untupled.number? = v.number? := by cases v <;> rfl

/-- Arrays remain arrays, with untupled elements. -/
theorem elements?_untupled (v : Value) :
    v.untupled.elements? = v.elements?.map (List.map untupled) := by
  cases v <;> first | rfl | exact congrArg some (untupledItems_eq _)

/-- The keys of a mapping remain, in their order. -/
theorem keys_untupled (v : Value) : v.untupled.keys = v.keys := by
  cases v with
  | map es =>
    rw [untupled, keys_map, keys_map, untupledEntries_eq, List.map_map]
    rfl
  | _ => rfl

/-- Under a key there is what there was, untupled. -/
theorem entryAt?_untupled (key : Key) (es : List (Key × Value)) :
    entryAt? key (untupledEntries es) = (entryAt? key es).map untupled := by
  induction es with
  | nil => rfl
  | cons e rest ih =>
    obtain ⟨k, v⟩ := e
    unfold entryAt? entryWith? at ih ⊢
    rw [untupledEntries, List.find?_cons, List.find?_cons]
    cases k.same key with
    | true => rfl
    | false => exact ih

/-- What stands one step down is read alike. -/
theorem child?_untupled (v : Value) (step : Step) :
    v.untupled.child? step = (v.child? step).map untupled := by
  cases v with
  -- lists and tuples have elements, mappings have entries, and no other value has members
  | list items =>
    cases step with
    | entry key => rfl
    | index i =>
      rw [untupled, untupledItems_eq]
      exact List.getElem?_map ..
  | tuple items =>
    cases step with
    | entry key => rfl
    | index i =>
      rw [untupled, untupledItems_eq]
      exact List.getElem?_map ..
  | map es =>
    cases step with
    | entry key => exact entryAt?_untupled key es
    | index i => rfl
  | _ => rfl

/-- A member is read alike, be it there or missing. -/
theorem member_untupled (v : Value) (step : Step) :
    v.untupled.member step = (v.member step).untupled := by
  unfold member
  rw [child?_untupled]
  cases v.child? step <;> rfl

/-! ## Equality -/

mutual

/-- What a value is equal to it is equal to without tuples. -/
theorem equal_untupled : ∀ a b : Value, a.equal b.untupled = a.equal b
  -- lists and tuples are compared with the elements of any array
  | .list as, b => by
    rw [equal, equal, elements?_untupled]
    cases b.elements? with
    | none => rfl
    | some bs => exact elementsEqual_untupled as bs
  | .tuple as, b => by
    rw [equal, equal, elements?_untupled]
    cases b.elements? with
    | none => rfl
    | some bs => exact elementsEqual_untupled as bs
  | .map as, b => by
    cases b with
    | map bs => simp [untupled, equal, untupledEntries_eq, ← entriesEqual_untupled as bs]
    | _ => rfl
  | .bool _, b => by cases b <;> rfl
  | .int _, b => by rw [equal, equal, number?_untupled]
  | .float _, b => by rw [equal, equal, number?_untupled]
  | .str _, b => by cases b <;> rfl
  | .null, b => by cases b <;> rfl
  | .missing, b => by cases b <;> rfl
  | .cls _, b => by cases b <;> rfl

/-- The same for the elements of two arrays, -/
theorem elementsEqual_untupled :
    ∀ as bs : List Value, elementsEqual as (bs.map untupled) = elementsEqual as bs
  | [], [] => rfl
  | [], _ :: _ => rfl
  | _ :: _, [] => rfl
  | a :: as, b :: bs => by
    rw [List.map_cons, elementsEqual, elementsEqual, equal_untupled a b,
      elementsEqual_untupled as bs]

/-- and for the entries of two mappings. -/
theorem entriesEqual_untupled :
    ∀ as bs : List (Key × Value), entriesEqual as (untupledEntries bs) = entriesEqual as bs
  | [], _ => rfl
  | (key, a) :: as, bs => by
    rw [entriesEqual, entriesEqual, entryAt?_untupled, entriesEqual_untupled as bs]
    cases entryAt? key bs with
    | none => rfl
    | some b =>
      -- what stands under the key is compared without its tuples
      dsimp only [Option.map_some]
      rw [equal_untupled a b]

end

/-! ## Tuples exchanged one by one -/

/-- An entry may be set before or after tuples are changed. -/
theorem untupledEntries_setEntry (key : Key) (v : Value) (es : List (Key × Value)) :
    untupledEntries (setEntry key v es) = setEntry key v.untupled (untupledEntries es) := by
  induction es with
  | nil => rfl
  | cons e rest ih =>
    obtain ⟨k, w⟩ := e
    rw [setEntry, untupledEntries, setEntry]
    -- the entry is changed where its key is met first
    cases k.same key with
    | true => rfl
    | false =>
      rw [if_neg Bool.false_ne_true, if_neg Bool.false_ne_true, untupledEntries, ih]

/-- A member may be replaced before or after. -/
theorem untupled_replace (v : Value) (step : Step) (x : Value) :
    (v.replace step x).untupled = v.untupled.replace step x.untupled := by
  cases v with
  | list items => cases step <;> simp [replace, untupled, untupledItems_eq, List.map_set]
  | tuple items => cases step <;> simp [replace, untupled, untupledItems_eq, List.map_set]
  | map es => cases step <;> simp [replace, untupled, untupledEntries_setEntry]
  | _ => cases step <;> rfl

/-- A tuple, at whatever depth, may become a list with the same elements: whatever takes the place
    of a part, the value is the same but for tuples if the part is. -/
theorem untupled_exchangeAt {v x y : Value} {t : Trail} (h : v.at? t = some x)
    (hxy : y.untupled = x.untupled) : (v.exchangeAt t y).untupled = v.untupled := by
  induction t generalizing v with
  -- by induction on the way to the part: the part itself, or one of the members on the way
  | nil =>
    obtain rfl : v = x := by simpa [at?] using h
    exact hxy
  | cons step rest ih =>
    cases hc : v.child? step with
    | none => simp [at?, hc] at h
    | some c =>
      have hbelow : (c.exchangeAt rest y).untupled = c.untupled := ih (by simpa [at?, hc] using h)
      have hchild : v.untupled.child? step = some c.untupled := by rw [child?_untupled, hc]; rfl
      rw [exchangeAt, hc]
      dsimp only
      -- the member is the same but for tuples, so replacing it makes no difference
      rw [untupled_replace, hbelow, replace_self hchild]

end Value

end Conformance

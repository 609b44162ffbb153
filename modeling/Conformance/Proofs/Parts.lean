/-
  The parts of a value, and conditions on all mappings inside it.

  The parts of a container are its elements or the values of its entries, which is all that a step
  down can reach (`mem_parts_of_child?`), and they are smaller than the container.  A slot below a
  container shows the member there (`slotBelow_value`), and putting the slot back as it was found
  changes nothing (`settle_slotBelow`).

  `everyMapping` asks one question of the entries of every mapping of a value, `innerMappings` of
  all but the top.  Three such questions matter to checks: whether a schema names another one
  (`refFree`), whether the schemas that an instance carries do (`ownRefFree`), and whether it
  carries any below its top (`plain`).
-/
import Conformance.Value.Location

namespace Conformance

namespace Value

/-! ## Parts -/

/-- The values one step down. -/
def parts : Value → List Value
  | .list items => items
  | .tuple items => items
  | .map es => es.map (·.2)
  | _ => []

/-- The member one step down; the mark of an absent key if there is none. -/
def member (v : Value) (step : Step) : Value := (v.child? step).getD .missing

/-- What is found under a key stands in an entry. -/
theorem mem_of_entryAt? {es : List (Key × Value)} {key : Key} {x : Value}
    (h : entryAt? key es = some x) : x ∈ es.map (·.2) := by
  obtain ⟨e, he, rfl⟩ := Option.map_eq_some_iff.mp h
  exact List.mem_map_of_mem (List.mem_of_find?_eq_some he)

/-- A step down leads to a part. -/
theorem mem_parts_of_child? {v x : Value} {step : Step} (h : v.child? step = some x) :
    x ∈ v.parts := by
  unfold child? at h
  split at h
  · exact mem_of_entryAt? h
  · exact List.mem_of_getElem? h
  · exact List.mem_of_getElem? h
  · cases h

/-- A member is a part, or there is none. -/
theorem member_mem_parts (v : Value) (step : Step) :
    v.member step ∈ v.parts ∨ v.member step = .missing := by
  unfold member
  cases h : v.child? step with
  | none => exact Or.inr rfl
  | some x => exact Or.inl (mem_parts_of_child? h)

/-- A rule is the member under its name. -/
theorem child?_name (v : Value) (name : String) : v.child? (.name name) = v.get? name := by
  cases v <;> rfl

/-- A rule is a part of the schema. -/
theorem mem_parts_of_get? {v x : Value} {name : String} (h : v.get? name = some x) :
    x ∈ v.parts := by
  rw [← child?_name] at h
  exact mem_parts_of_child? h

theorem sizeOf_list_pos {α : Type} [SizeOf α] (xs : List α) : 0 < sizeOf xs := by
  cases xs with
  | nil => exact Nat.one_pos
  | cons x xs =>
    rw [List.cons.sizeOf_spec]
    omega

/-- The mark of an absent key is as small as a value can be. -/
theorem sizeOf_missing_le (v : Value) : sizeOf Value.missing ≤ sizeOf v := by
  cases v <;> first | exact Nat.le_refl _ | exact Nat.le_add_right _ _

/-- Parts are smaller than the whole. -/
theorem sizeOf_lt_of_mem_parts {v x : Value} (h : x ∈ v.parts) : sizeOf x < sizeOf v := by
  -- elements and entries are in a list that the container is built from
  cases v with
  | list items =>
    have hx : sizeOf x < sizeOf items := List.sizeOf_lt_of_mem h
    simp; omega
  | tuple items =>
    have hx : sizeOf x < sizeOf items := List.sizeOf_lt_of_mem h
    simp; omega
  | map es =>
    obtain ⟨⟨key, w⟩, he, rfl⟩ := List.mem_map.mp h
    have hentry := List.sizeOf_lt_of_mem he
    rw [Prod.mk.sizeOf_spec] at hentry
    show sizeOf w < sizeOf (map es)
    rw [map.sizeOf_spec]
    omega
  | _ => cases h

/-- A member of a container is smaller than the container, be it there or not. -/
theorem sizeOf_member_lt {v : Value} (step : Step)
    (h : v.isMap = true ∨ v.elements?.isSome = true) : sizeOf (v.member step) < sizeOf v := by
  -- a member that is not there is the mark, which is as small as can be, and a container is larger
  rcases v.member_mem_parts step with hp | hm
  · exact sizeOf_lt_of_mem_parts hp
  · rw [hm]
    cases v <;> simp_all [isMap, elements?, sizeOf_list_pos]

/-! ## Slots below a container -/

/-- Where a step leads to no member, the container can take one or cannot be written to. -/
theorem gap_eq (v : Value) (step : Step) :
    v.gap step = .free ∨ v.gap step = .closed v.className := by
  unfold gap
  split
  · exact Or.inl rfl
  · exact Or.inl rfl
  · exact Or.inr rfl

/-- Where a step leads to no member, nothing is shown. -/
theorem gap_value (v : Value) (step : Step) : (v.gap step).value = .missing := by
  rcases v.gap_eq step with h | h <;> rw [h] <;> rfl

/-- A slot below a container shows the member there. -/
theorem slotBelow_value (v : Value) (step : Step) : (v.slotBelow step).value = v.member step := by
  unfold slotBelow member
  split
  · next x hx => rw [hx, Slot.value_ofValue]; rfl
  · next hx => rw [hx, gap_value]; rfl

/-- To exchange an entry for itself changes nothing. -/
theorem setEntry_self {es : List (Key × Value)} {key : Key} {x : Value}
    (h : entryAt? key es = some x) : setEntry key x es = es := by
  induction es with
  | nil => rfl
  | cons e rest ih =>
    obtain ⟨k, w⟩ := e
    by_cases hk : k.same key = true
    · simp [entryAt?, entryWith?, hk] at h
      simp [setEntry, hk, h]
    · simp only [entryAt?, entryWith?, List.find?_cons, hk] at h
      simp only [setEntry, hk, Bool.false_eq_true, if_false]
      rw [ih h]

/-- Putting a member back where it was changes nothing. -/
theorem replace_self {v x : Value} {step : Step} (h : v.child? step = some x) :
    v.replace step x = v := by
  have hset {items : List Value} {i : Nat} (h : items[i]? = some x) : items.set i x = items := by
    obtain ⟨hi, rfl⟩ := List.getElem?_eq_some_iff.mp h
    exact List.set_getElem_self hi
  unfold child? at h
  split at h
  · simp [replace, setEntry_self h]
  · simp [replace, hset h]
  · simp [replace, hset h]
  · cases h

/-- A slot put back as it was found changes nothing. -/
theorem settle_slotBelow (v : Value) (step : Step) : v.settle step (v.slotBelow step) = v := by
  unfold slotBelow
  split
  · next x hx => cases x <;> first | exact replace_self hx | rfl
  -- where no member is there, nothing is put back
  · rcases v.gap_eq step with h | h <;> rw [h] <;> rfl

end Value

/-- Only a value that is present shows. -/
theorem Slot.eq_present {σ : Slot} (h : σ.value ≠ .missing) : σ = .present σ.value := by
  cases σ with
  | present v => rfl
  | _ => exact absurd rfl h

/-- A slot that can be asked about, and written to if it is free. -/
def Slot.InReach : Slot → Prop
  | .outOfReach _ _ => False
  | .unaskable _ => False
  | _ => True

/-- Values that were looked up below a container are within reach. -/
theorem Slot.inReach_slotBelow (container : Value) (step : Step) :
    (container.slotBelow step).InReach := by
  unfold Value.slotBelow
  cases container.child? step with
  | some v => cases v <;> trivial
  | none =>
    rcases container.gap_eq step with hgap | hgap
    · rw [hgap]
      trivial
    · rw [hgap]
      trivial

/-- The slot of a value is within reach. -/
theorem Slot.inReach_ofValue (v : Value) : (Slot.ofValue v).InReach := by
  cases v <;> trivial

namespace Value

/-! ## Conditions on all mappings -/

/-- Whether the entries of a value satisfy a condition, if it is a mapping. -/
def atTop (q : List (Key × Value) → Bool) : Value → Bool
  | .map es => q es
  | _ => true

mutual

/-- Whether the entries of every mapping below the top of a value satisfy a condition. -/
def innerMappings (q : List (Key × Value) → Bool) : Value → Bool
  | .list items => innerOfItems q items
  | .tuple items => innerOfItems q items
  | .map es => innerOfEntries q es
  | _ => true

/-- The same of all mappings in the elements of an array. -/
def innerOfItems (q : List (Key × Value) → Bool) : List Value → Bool
  | [] => true
  | v :: rest => atTop q v && innerMappings q v && innerOfItems q rest

/-- The same of all mappings in the values of entries. -/
def innerOfEntries (q : List (Key × Value) → Bool) : List (Key × Value) → Bool
  | [] => true
  | (_, v) :: rest => atTop q v && innerMappings q v && innerOfEntries q rest

end

/-- Whether the entries of every mapping of a value satisfy a condition. -/
def everyMapping (q : List (Key × Value) → Bool) (v : Value) : Bool := atTop q v && innerMappings q v

variable {q : List (Key × Value) → Bool}

/-- What holds of all mappings in elements holds of those of each. -/
theorem innerOfItems_mem {items : List Value} (h : innerOfItems q items = true) {x : Value}
    (hx : x ∈ items) : everyMapping q x = true := by
  induction items with
  | nil => cases hx
  | cons v rest ih =>
    simp only [innerOfItems, Bool.and_eq_true] at h
    rcases List.mem_cons.mp hx with rfl | hx
    · simp [everyMapping, h.1]
    · exact ih h.2 hx

theorem innerOfEntries_mem {es : List (Key × Value)} (h : innerOfEntries q es = true) {x : Value}
    (hx : x ∈ es.map (·.2)) : everyMapping q x = true := by
  induction es with
  | nil => cases hx
  | cons e rest ih =>
    obtain ⟨k, v⟩ := e
    simp only [innerOfEntries, Bool.and_eq_true] at h
    rcases List.mem_cons.mp hx with rfl | hx
    · simp [everyMapping, h.1]
    · exact ih h.2 hx

/-- What holds of all mappings below the top holds of all mappings of a part. -/
theorem innerMappings_part {v x : Value} (h : innerMappings q v = true) (hx : x ∈ v.parts) :
    everyMapping q x = true := by
  cases v with
  | list items => exact innerOfItems_mem h hx
  | tuple items => exact innerOfItems_mem h hx
  | map es => exact innerOfEntries_mem h hx
  | _ => cases hx

/-- What holds of all mappings of a value holds of all mappings of a part. -/
theorem everyMapping_part {v x : Value} (h : everyMapping q v = true) (hx : x ∈ v.parts) :
    everyMapping q x = true := by
  simp only [everyMapping, Bool.and_eq_true] at h
  exact innerMappings_part h.2 hx

/-- A schema in which no mapping names another schema. -/
def refFree : Value → Bool :=
  everyMapping fun es =>
    match entryAt? (.name "$ref") es with
    | some (.str _) => false
    | _ => true

/-- An instance whose mappings carry only such schemas. -/
def ownRefFree : Value → Bool :=
  everyMapping fun es => ((entryAt? (.name "$schema") es).getD .null).refFree

/-- An instance in which no mapping below the top carries a schema to be enforced. -/
def plain : Value → Bool :=
  innerMappings fun es => !((entryAt? (.name "$schema") es).getD .null).isTruthy

/-- A schema without references says none at its top. -/
theorem get?_ref_of_refFree {v : Value} (h : v.refFree = true) (s : String) :
    v.get? "$ref" ≠ some (.str s) := by
  cases v with
  | map es =>
    intro hs
    rw [get?_map] at hs
    simp [refFree, everyMapping, atTop, hs] at h
  | _ => simp [get?]

end Value

end Conformance

/-
  The schemas inside a schema.

  A schema has further ones for the members of a value: one for items, one for each declared
  property, and the policy on additional members (`Node.subschemas`).  They are nested less deep
  than the schema itself (`Node.nesting_subschema`), so all that it reaches is found in as many
  steps as its mappings are nested (`Node.Reaches.mem_reached`), and what holds of all mappings of
  the schema holds of theirs.
-/
import Conformance.Proofs.Runs

namespace Conformance

namespace Value

/-! ## How deep mappings are nested -/

mutual

/-- How deep the mappings of a value are nested. -/
def nesting : Value → Nat
  | .map entries => nestingOfEntries entries + 1
  | .list items => nestingOfItems items
  | .tuple items => nestingOfItems items
  | _ => 0

/-- How deep the mappings in elements are nested. -/
def nestingOfItems : List Value → Nat
  | [] => 0
  | v :: rest => max v.nesting (nestingOfItems rest)

/-- How deep the mappings in the values of entries are nested. -/
def nestingOfEntries : List (Key × Value) → Nat
  | [] => 0
  | (_, v) :: rest => max v.nesting (nestingOfEntries rest)

end

theorem nesting_le_of_mem_items {items : List Value} {x : Value} (h : x ∈ items) :
    x.nesting ≤ nestingOfItems items := by
  induction items with
  | nil => cases h
  | cons v rest ih =>
    rw [nestingOfItems]
    rcases List.mem_cons.mp h with rfl | h
    · exact Nat.le_max_left ..
    · exact Nat.le_trans (ih h) (Nat.le_max_right ..)

theorem nesting_le_of_mem_entries {es : List (Key × Value)} {x : Value} (h : x ∈ es.map (·.2)) :
    x.nesting ≤ nestingOfEntries es := by
  induction es with
  | nil => cases h
  | cons e rest ih =>
    obtain ⟨k, v⟩ := e
    rw [nestingOfEntries]
    rcases List.mem_cons.mp h with rfl | h
    · exact Nat.le_max_left ..
    · exact Nat.le_trans (ih h) (Nat.le_max_right ..)

/-- The mappings of a part are nested no deeper than those of the whole. -/
theorem nesting_le_of_mem_parts {v x : Value} (h : x ∈ v.parts) : x.nesting ≤ v.nesting := by
  cases v with
  | list items => exact nesting_le_of_mem_items h
  | tuple items => exact nesting_le_of_mem_items h
  | map es => exact Nat.le_succ_of_le (nesting_le_of_mem_entries h)
  | _ => cases h

/-- What a mapping says under a name is nested less deep. -/
theorem nesting_lt_of_get? {v x : Value} {name : String} (h : v.get? name = some x) :
    x.nesting < v.nesting := by
  cases v with
  | map es => exact Nat.lt_succ_of_le (nesting_le_of_mem_entries (mem_of_entryAt? h))
  | _ => cases h

theorem nesting_pos_of_map {v : Value} (h : v.isMap = true) : 0 < v.nesting := by
  cases v with
  | map es => exact Nat.succ_pos _
  | _ => cases h

theorem mem_parts_of_mem_entries {v : Value} {e : Key × Value} (h : e ∈ v.entries) :
    e.2 ∈ v.parts := by
  cases v with
  | map es => exact List.mem_map_of_mem h
  | _ => cases h

end Value

/-! ## Nodes of a schema -/

namespace Node

/-- The schemas that a schema has for members of a value. -/
def subschemas (n : Node) : List Node :=
  let items := (n.tree.rule? "items").map (n.down (.name "items"))
  let declarations := (n.tree.rule? "properties").map (n.down (.name "properties"))
  let policy := (n.tree.get? "additionalProperties").map (n.down (.name "additionalProperties"))
  items.toList ++ policy.toList ++
    declarations.toList.flatMap fun r => r.tree.entries.map fun e => r.down (.entry e.1) e.2

/-- A schema inside another one, or that one itself. -/
inductive Reaches (n : Node) : Node → Prop
  | self : Reaches n n
  | step {k l : Node} (h : Reaches n k) (hl : l ∈ k.subschemas) : Reaches n l

theorem mem_subschemas {n l : Node} : l ∈ n.subschemas ↔
    (∃ r, n.tree.rule? "items" = some r ∧ l = n.down (.name "items") r) ∨
    (∃ r, n.tree.get? "additionalProperties" = some r ∧
      l = n.down (.name "additionalProperties") r) ∨
    ∃ r, n.tree.rule? "properties" = some r ∧
      ∃ e ∈ r.entries, l = (n.down (.name "properties") r).down (.entry e.1) e.2 := by
  simp only [subschemas, List.mem_append, Option.mem_toList, Option.map_eq_some_iff,
    List.mem_flatMap, List.mem_map, eq_comm (b := l), or_assoc]
  refine or_congr_right (or_congr_right ⟨?_, ?_⟩)
  · rintro ⟨_, ⟨r, hr, rfl⟩, e, he, hl⟩
    exact ⟨r, hr, e, he, hl⟩
  · rintro ⟨r, hr, e, he, hl⟩
    exact ⟨_, ⟨r, hr, rfl⟩, e, he, hl⟩

variable {n k l : Node}

/-- What holds of all mappings of a schema holds of those of a subschema. -/
theorem everyMapping_subschema {q : List (Key × Value) → Bool} (h : n.tree.everyMapping q = true)
    (hl : l ∈ n.subschemas) : l.tree.everyMapping q = true := by
  rcases mem_subschemas.mp hl with ⟨r, hr, rfl⟩ | ⟨r, hr, rfl⟩ | ⟨r, hr, e, he, rfl⟩
  · exact Value.everyMapping_part h (Value.mem_parts_of_rule? hr)
  · exact Value.everyMapping_part h (Value.mem_parts_of_get? hr)
  · exact Value.everyMapping_part (Value.everyMapping_part h (Value.mem_parts_of_rule? hr))
      (Value.mem_parts_of_mem_entries he)

theorem nesting_subschema (hl : l ∈ n.subschemas) : l.tree.nesting < n.tree.nesting := by
  have hrule {name : String} {r : Value} (hr : n.tree.rule? name = some r) :
      r.nesting < n.tree.nesting := Value.nesting_lt_of_get? (Option.eq_some_of_filter_eq_some hr)
  rcases mem_subschemas.mp hl with ⟨r, hr, rfl⟩ | ⟨r, hr, rfl⟩ | ⟨r, hr, e, he, rfl⟩
  · exact hrule hr
  · exact Value.nesting_lt_of_get? hr
  · have hpart := Value.nesting_le_of_mem_parts (Value.mem_parts_of_mem_entries he)
    exact Nat.lt_of_le_of_lt hpart (hrule hr)

theorem InSchema.subschema (h : n.InSchema) (hl : l ∈ n.subschemas) : l.InSchema := by
  rcases mem_subschemas.mp hl with ⟨r, _, rfl⟩ | ⟨r, _, rfl⟩ | ⟨r, _, e, _, rfl⟩ <;> exact h

theorem Reaches.inSchema (h : n.Reaches k) (hn : n.InSchema) : k.InSchema := by
  induction h with
  | self => exact hn
  | step _ hl ih => exact ih.subschema hl

theorem Reaches.everyMapping {q : List (Key × Value) → Bool} (h : n.Reaches k)
    (hn : n.tree.everyMapping q = true) : k.tree.everyMapping q = true := by
  induction h with
  | self => exact hn
  | step _ hl ih => exact everyMapping_subschema ih hl

/-- A node and the nodes inside it, down to some depth. -/
def reached : Nat → Node → List Node
  | 0, n => [n]
  | depth + 1, n => n :: n.subschemas.flatMap (reached depth)

theorem mem_reached_self (depth : Nat) (n : Node) : n ∈ n.reached depth := by
  cases depth <;> exact List.mem_cons_self ..

theorem reached_closed {depth : Nat} (hdepth : n.tree.nesting ≤ depth) (hk : k ∈ n.reached depth)
    (hl : l ∈ k.subschemas) : l ∈ n.reached depth := by
  induction depth generalizing n with
  | zero =>
    obtain rfl := List.mem_singleton.mp hk
    exact absurd (nesting_subschema hl) (by omega)
  | succ depth ih =>
    rw [reached] at hk ⊢
    refine List.mem_cons_of_mem _ (List.mem_flatMap.mpr ?_)
    rcases List.mem_cons.mp hk with rfl | hk
    · exact ⟨l, hl, l.mem_reached_self depth⟩
    · obtain ⟨m, hm, hk⟩ := List.mem_flatMap.mp hk
      exact ⟨m, hm, ih (by have := nesting_subschema hm; omega) hk⟩

/-- All nodes inside a node are found as deep as its mappings are nested. -/
theorem Reaches.mem_reached (h : n.Reaches k) : k ∈ n.reached n.tree.nesting := by
  induction h with
  | self => exact n.mem_reached_self _
  | step _ hl ih => exact reached_closed (Nat.le_refl _) ih hl

end Node

end Conformance

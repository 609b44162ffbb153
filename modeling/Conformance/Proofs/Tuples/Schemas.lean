/-
  Schemas that do not tell lists from tuples.

  The one thing that tells a tuple from a list is a class of arrays that a type expression names
  itself; the type name `array` stands for both (`isInstance_untupled`).  A schema is blind to
  tuples if no type expression has such a class among its alternatives, be it its own or one of a
  schema that it leads to (`Value.BlindToTuples`), and then its type expressions are resolved to
  tests that take all arrays alike (`TypeTest.blindToTuples_ofValue`).  It is enough that no mapping
  in the schema says otherwise (`Value.blindToTuples_of_everyMapping`).
-/
import Mathlib.Logic.Relation
import Conformance.Proofs.Frame
import Conformance.Proofs.Subschemas
import Conformance.Proofs.Tuples.Values

namespace Conformance

namespace Value

/-- What stands among the alternatives of a type expression, in lists nested to any depth. -/
inductive Alternative : Value → Value → Prop
  | self (x : Value) : Alternative x x
  | element {items : List Value} {v x : Value} (hv : v ∈ items) (h : Alternative v x) :
    Alternative (.list items) x

/-- The rules of a schema that are type expressions. -/
def typeRules : List String := ["type", "disallow"]

/-- No type expression of a schema names the class of lists or that of tuples. -/
def TakesArraysAlike (S : Value) : Prop :=
  ∀ name ∈ typeRules, ∀ expr, S.rule? name = some expr →
    ∀ c, expr.Alternative (.cls c) → c ≠ .list ∧ c ≠ .tuple

/-- One schema has a value, or a member of it, checked against another. -/
inductive Applies (S : Value) : Value → Prop
  | base {b : Value} (hb : b ∈ S.bases) : Applies S b
  | inline {name : String} {expr T : Value} (hname : name ∈ typeRules)
    (hexpr : S.rule? name = some expr) (h : expr.Alternative T) : Applies S T
  | item {r b : Value} (hr : S.rule? "items" = some r) (hb : b ∈ r.listed) : Applies S b
  | property {r : Value} {e : Key × Value} (hr : S.rule? "properties" = some r)
    (he : e ∈ r.entries) : Applies S e.2
  | additional {r : Value} (hr : S.get? "additionalProperties" = some r) : Applies S r

/-- Neither a schema nor any that it leads to tells lists from tuples. -/
def BlindToTuples (S : Value) : Prop :=
  ∀ T, Relation.ReflTransGen Applies S T → T.TakesArraysAlike

theorem BlindToTuples.own {S : Value} (h : S.BlindToTuples) : S.TakesArraysAlike := h S .refl

theorem BlindToTuples.applies {S T : Value} (h : S.BlindToTuples) (hT : S.Applies T) :
    T.BlindToTuples := fun U hU => h U (.head hT hU)

/-- What is no mapping has no rules to tell them apart by. -/
theorem blindToTuples_of_not_map {S : Value} (h : S.isMap = false) : S.BlindToTuples := by
  have hget (name : String) : S.get? name = none := by
    cases S with
    | map es => cases h
    | _ => rfl
  have hrule (name : String) : S.rule? name = none := by rw [rule?, hget, Option.filter_none]
  have hno (T : Value) : ¬S.Applies T := by
    intro hT
    cases hT with
    | base hb => simp [bases, hrule] at hb
    | inline _ hexpr _ => simp [hrule] at hexpr
    | item hr _ => simp [hrule] at hr
    | property hr _ => simp [hrule] at hr
    | additional hr => simp [hget] at hr
  intro T hT
  rcases hT.cases_head with rfl | ⟨U, hU, -⟩
  · intro name _ expr hexpr
    simp [hrule] at hexpr
  · exact absurd hU (hno U)

/-! ## Telling such schemas -/

mutual

/-- Whether a type expression has no class of arrays among its alternatives. -/
def namesNoArrays : Value → Bool
  | .cls c => c != .list && c != .tuple
  | .list items => namesNoArraysItems items
  | _ => true

/-- Whether no element does. -/
def namesNoArraysItems : List Value → Bool
  | [] => true
  | v :: rest => v.namesNoArrays && namesNoArraysItems rest

end

theorem namesNoArrays_of_mem {items : List Value} (h : namesNoArraysItems items = true) {v : Value}
    (hv : v ∈ items) : v.namesNoArrays = true := by
  induction items with
  | nil => cases hv
  | cons w rest ih =>
    rw [namesNoArraysItems, Bool.and_eq_true] at h
    rcases List.mem_cons.mp hv with rfl | hv
    · exact h.1
    · exact ih h.2 hv

theorem Alternative.namesNoArrays {v x : Value} (h : v.Alternative x)
    (hv : v.namesNoArrays = true) : x.namesNoArrays = true := by
  induction h with
  | self x => exact hv
  | element hmem _ ih => exact ih (namesNoArrays_of_mem hv hmem)

/-- What holds of all mappings of a type expression holds of those of its alternatives. -/
theorem Alternative.everyMapping {q : List (Key × Value) → Bool} {v x : Value}
    (h : v.Alternative x) (hv : v.everyMapping q = true) : x.everyMapping q = true := by
  induction h with
  | self x => exact hv
  | element hmem _ ih => exact ih (everyMapping_part hv hmem)

/-- What holds of all mappings of a schema holds of those of a schema that it applies. -/
theorem Applies.everyMapping {q : List (Key × Value) → Bool} {S T : Value} (h : S.Applies T)
    (hS : S.everyMapping q = true) : T.everyMapping q = true := by
  cases h with
  | base hb => exact everyMapping_base hS hb
  | inline _ hexpr h => exact h.everyMapping (everyMapping_part hS (mem_parts_of_rule? hexpr))
  | item hr hb => exact everyMapping_listed (everyMapping_part hS (mem_parts_of_rule? hr)) hb
  | property hr he =>
    exact everyMapping_part (everyMapping_part hS (mem_parts_of_rule? hr))
      (mem_parts_of_mem_entries he)
  | additional hr => exact everyMapping_part hS (mem_parts_of_get? hr)

/-- Whether the type expressions of a schema name no class of arrays, read off its entries. -/
def typesNameNoArrays (es : List (Key × Value)) : Bool :=
  typeRules.all fun name => (entryAt? (.name name) es).all namesNoArrays

theorem takesArraysAlike_of_typesNameNoArrays {S : Value} (h : atTop typesNameNoArrays S = true) :
    S.TakesArraysAlike := by
  intro name hname expr hexpr c hc
  cases S with
  | map es =>
    have hget : entryAt? (.name name) es = some expr := Option.eq_some_of_filter_eq_some hexpr
    have hall := List.all_eq_true.mp h name hname
    rw [hget] at hall
    simpa [Value.namesNoArrays] using hc.namesNoArrays hall
  | _ => cases hexpr

/-- A schema is blind to tuples if no mapping in it has a type expression that names a class of
    arrays, whether or not that mapping is ever read as a schema. -/
theorem blindToTuples_of_everyMapping {S : Value} (h : S.everyMapping typesNameNoArrays = true) :
    S.BlindToTuples := by
  intro T hT
  have hmappings : T.everyMapping typesNameNoArrays = true := by
    induction hT with
    | refl => exact h
    | tail _ happlies ih => exact happlies.everyMapping ih
  exact takesArraysAlike_of_typesNameNoArrays (everyMapping_iff.mp hmappings).1

/-! ## Type expressions -/

/-- A test for classes that has both lists and tuples, or neither, does not tell them apart. -/
theorem isInstance_untupled {members : List TypeClass}
    (h : members.any (·.includes .tuple) = members.any (·.includes .list)) (v : Value) :
    v.untupled.isInstance members = v.isInstance members := by
  cases v with
  | tuple items => exact h.symm
  | _ => rfl

end Value

namespace TypeTest

mutual

/-- A test takes all arrays alike, and so do the inline schemas in it. -/
def BlindToTuples : TypeTest → Prop
  | .anything => True
  | .classes members => members.any (·.includes .tuple) = members.any (·.includes .list)
  | .schema n => n.tree.BlindToTuples
  | .anyOf alternatives => AllBlindToTuples alternatives

/-- All of several tests do. -/
def AllBlindToTuples : List TypeTest → Prop
  | [] => True
  | t :: rest => t.BlindToTuples ∧ AllBlindToTuples rest

end

/-- Type names take all arrays alike: the only one that has any has both kinds. -/
theorem blindToTuples_ofText {name : String} {t : TypeTest} (h : ofText name = .ok t) :
    t.BlindToTuples := by
  have hname : ∀ t, ofName? name = some t → t.BlindToTuples := by
    intro t ht
    unfold ofName? at ht
    repeat' split at ht
    all_goals cases ht
    all_goals trivial
  unfold ofText at h
  cases ht : ofName? name with
  | none =>
    rw [ht] at h
    cases h
  | some u =>
    rw [ht] at h
    cases h
    exact hname _ ht

mutual

/-- An expression without classes of arrays is resolved to a test that takes all arrays alike. -/
theorem blindToTuples_ofValue : ∀ {v : Value} {origin : Place} {t : TypeTest},
    ofValue origin v = .ok t → (∀ c, v.Alternative (.cls c) → c ≠ .list ∧ c ≠ .tuple) →
      (∀ T, v.Alternative T → T.BlindToTuples) → t.BlindToTuples
  | .null, _, _, h, _, _ => by
    cases h
    trivial
  | .bool false, _, _, h, _, _ => by
    cases h
    trivial
  | .bool true, _, _, h, _, _ => by
    rw [ofValue] at h
    exact blindToTuples_ofText h
  | .map es, _, _, h, _, hschemas => by
    cases h
    exact hschemas _ (.self _)
  | .cls c, _, _, h, hclasses, _ => by
    cases h
    obtain ⟨hlist, htuple⟩ := hclasses c (.self _)
    show [TypeClass.exactly c].any (·.includes .tuple) =
      [TypeClass.exactly c].any (·.includes .list)
    cases c <;> first | rfl | contradiction
  | .list items, origin, t, h, hclasses, hschemas => by
    unfold ofValue at h
    cases hi : ofItems origin 0 items with
    | error name =>
      rw [hi] at h
      cases h
    | ok ts =>
      rw [hi] at h
      cases h
      exact blindToTuples_ofItems hi (fun v hv c hc => hclasses c (.element hv hc))
        fun v hv T hT => hschemas T (.element hv hT)
  | .missing, _, _, h, _, _ => by
    rw [ofValue] at h
    exact blindToTuples_ofText h
  | .int _, _, _, h, _, _ => by
    rw [ofValue] at h
    exact blindToTuples_ofText h
  | .float _, _, _, h, _, _ => by
    rw [ofValue] at h
    exact blindToTuples_ofText h
  | .str _, _, _, h, _, _ => by
    rw [ofValue] at h
    exact blindToTuples_ofText h
  | .tuple _, _, _, h, _, _ => by
    rw [ofValue] at h
    exact blindToTuples_ofText h

theorem blindToTuples_ofItems : ∀ {items : List Value} {origin : Place} {i : Nat}
    {ts : List TypeTest}, ofItems origin i items = .ok ts →
      (∀ v ∈ items, ∀ c, v.Alternative (.cls c) → c ≠ .list ∧ c ≠ .tuple) →
        (∀ v ∈ items, ∀ T, v.Alternative T → T.BlindToTuples) → AllBlindToTuples ts
  | [], _, _, _, h, _, _ => by
    cases h
    trivial
  | v :: rest, origin, i, ts, h, hclasses, hschemas => by
    unfold ofItems at h
    cases hfirst : ofValue (origin.down (.index i)) v with
    | error name =>
      rw [hfirst] at h
      cases h
    | ok t =>
      cases hrest : ofItems origin (i + 1) rest with
      | error name =>
        rw [hfirst, hrest] at h
        cases h
      | ok us =>
        rw [hfirst, hrest] at h
        cases h
        rw [List.forall_mem_cons] at hclasses hschemas
        exact ⟨blindToTuples_ofValue hfirst hclasses.1 hschemas.1,
          blindToTuples_ofItems hrest hclasses.2 hschemas.2⟩

end

end TypeTest

end Conformance

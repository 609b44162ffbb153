/-
  What it means for a value to conform to a schema.

  `Conforms` says it without an order of rules, without a run and without a bound on nesting: a value
  conforms if it conforms to all bases of the schema, fits the type and not what is disallowed, keeps
  the rules on itself (`LocalRules`), and if each of its members conforms to whatever the schema
  demands of it (`Demand`).  `Fits` is the same question for type expressions.

  A demand is made of a part of the value by a part of the schema, or by a schema inside that part of
  the value, so the two predicates are defined by recursion on the sizes of both.
-/
import Conformance.Check.Property
import Conformance.Proofs.Parts

namespace Conformance

namespace Value

/-! ## Rules as they are written -/

/-- A rule that counts as given: it is there, and neither null nor false. -/
def rule? (S : Value) (name : String) : Option Value := (S.get? name).filter isGiven

/-- A bound, if it is a number. -/
def bound? (S : Value) (name : String) : Option Number := (S.get? name).bind number?

/-- Whether a bound itself is allowed. -/
def boundAllowed (S : Value) (name : String) : Bool := ((S.get? name).map isTruthy).getD true

/-- The schemas that a rule lists; one that is no list stands for itself. -/
def listed : Value → List Value
  | .list bs => bs
  | b => [b]

/-- The schemas that a schema extends. -/
def bases (S : Value) : List Value :=
  match S.rule? "extends" with
  | some r => r.listed
  | none => []

/-- A rule that is given is a part of the schema. -/
theorem mem_parts_of_rule? {S r : Value} {name : String} (h : S.rule? name = some r) :
    r ∈ S.parts :=
  mem_parts_of_get? (Option.eq_some_of_filter_eq_some h)

theorem sizeOf_rule?_lt {S r : Value} {name : String} (h : S.rule? name = some r) :
    sizeOf r < sizeOf S := sizeOf_lt_of_mem_parts (mem_parts_of_rule? h)

/-- A base is a part of the schema, or a part of such a part. -/
theorem base_parts {S b : Value} (h : b ∈ S.bases) :
    ∃ r, S.rule? "extends" = some r ∧ (b = r ∨ b ∈ r.parts) := by
  unfold bases at h
  split at h
  · next r hr =>
    refine ⟨r, hr, ?_⟩
    cases r with
    | list bs => exact Or.inr h
    | _ => exact Or.inl (List.mem_singleton.mp h)
  · cases h

section Mappings

variable {q : List (Key × Value) → Bool} {S b : Value}

/-- What holds of all mappings of a rule holds of those of the schemas that it lists. -/
theorem everyMapping_listed (h : S.everyMapping q = true) (hb : b ∈ S.listed) :
    b.everyMapping q = true := by
  cases S with
  | list bs => exact everyMapping_part h hb
  | _ => exact List.mem_singleton.mp hb ▸ h

/-- What holds of all mappings of a schema holds of those of its bases. -/
theorem everyMapping_base (h : S.everyMapping q = true) (hb : b ∈ S.bases) :
    b.everyMapping q = true := by
  obtain ⟨r, hr, hbr⟩ := base_parts hb
  have hrule := everyMapping_part h (mem_parts_of_rule? hr)
  rcases hbr with rfl | hbr
  · exact hrule
  · exact everyMapping_part hrule hbr

end Mappings

/-- A base is smaller than the schema that extends it. -/
theorem sizeOf_base_lt {S b : Value} (h : b ∈ S.bases) : sizeOf b < sizeOf S := by
  obtain ⟨r, hr, hb⟩ := base_parts h
  have hlt := sizeOf_rule?_lt hr
  rcases hb with rfl | hb
  · exact hlt
  · exact Nat.lt_trans (sizeOf_lt_of_mem_parts hb) hlt

/-! ## What a schema demands of members -/

/-- A schema demands of a value that its member one step down conforms to another schema. -/
inductive Demand (S v : Value) : Step → Value → Prop
  /-- Items by position; those that the array lacks count as missing. -/
  | position {xs schemas : List Value} {i : Nat} {sub : Value} (hv : v.elements? = some xs)
    (hs : S.rule? "items" = some (.list schemas)) (hi : schemas[i]? = some sub) :
    Demand S v (.index i) sub
  /-- The policy on additional items, as a schema, is for all elements. -/
  | policyItem {xs schemas : List Value} {i : Nat} {policy : Value} (hv : v.elements? = some xs)
    (hs : S.rule? "items" = some (.list schemas))
    (hp : S.get? "additionalProperties" = some policy) (hi : i < xs.length) :
    Demand S v (.index i) policy
  /-- One schema for all elements. -/
  | item {xs : List Value} {i : Nat} {sub : Value} (hv : v.elements? = some xs)
    (hs : S.rule? "items" = some sub) (hl : ∀ schemas, sub ≠ .list schemas) (hi : i < xs.length) :
    Demand S v (.index i) sub
  /-- A declared property, be it there or not. -/
  | property {declared sub : Value} {key : Key} (hv : v.elements? = none)
    (hs : S.rule? "properties" = some declared) (hd : (key, sub) ∈ declared.entries)
    (hk : Check.isReserved key = false) : Demand S v (.entry key) sub
  /-- An entry without a declaration. -/
  | additional {declared policy : Value} {key : Key} (hv : v.elements? = none)
    (hs : S.rule? "properties" = some declared)
    (hp : S.get? "additionalProperties" = some policy) (hk : key ∈ v.keys)
    (hd : declared.hasKey key = false) : Demand S v (.entry key) policy
  /-- An entry with a schema of its own. -/
  | own {declared schema : Value} {key : Key} (hv : v.elements? = none)
    (hs : S.rule? "properties" = some declared) (hk : key ∈ v.keys)
    (ho : (v.member (.entry key)).get? "$schema" = some schema) : Demand S v (.entry key) schema
  /-- An entry of an object without declarations. -/
  | entry {policy : Value} {key : Key} (hv : v.elements? = none) (hs : S.rule? "properties" = none)
    (hp : S.get? "additionalProperties" = some policy) (hk : key ∈ v.keys) :
    Demand S v (.entry key) policy

/-- A member is no larger than the value, even if there is none. -/
theorem sizeOf_member_le (v : Value) (step : Step) : sizeOf (v.member step) ≤ sizeOf v := by
  rcases v.member_mem_parts step with hp | hm
  · exact Nat.le_of_lt (sizeOf_lt_of_mem_parts hp)
  · rw [hm]
    exact sizeOf_missing_le v

/-- Only a mapping has keys. -/
theorem isMap_of_mem_keys {v : Value} {key : Key} (h : key ∈ v.keys) : v.isMap = true := by
  cases v with
  | map _ => rfl
  | _ => cases h

/-- What is demanded is smaller than the schema, unless the member brings it along. -/
theorem Demand.smaller {S v sub : Value} {step : Step} (h : Demand S v step sub) :
    sizeOf (v.member step) < sizeOf v ∨
      sizeOf (v.member step) ≤ sizeOf v ∧ sizeOf sub < sizeOf S := by
  have hsub {name : String} {r x : Value} (hr : S.rule? name = some r) (hx : x ∈ r.parts) :
      sizeOf x < sizeOf S :=
    Nat.lt_trans (sizeOf_lt_of_mem_parts hx) (sizeOf_rule?_lt hr)
  -- a schema that an entry carries may be larger than the one at hand, but then the entry is
  -- smaller than the value
  cases h with
  | position _ hs hi => exact Or.inr ⟨sizeOf_member_le .., hsub hs (List.mem_of_getElem? hi)⟩
  | policyItem _ _ hp _ =>
    exact Or.inr ⟨sizeOf_member_le .., sizeOf_lt_of_mem_parts (mem_parts_of_get? hp)⟩
  | item _ hs _ _ => exact Or.inr ⟨sizeOf_member_le .., sizeOf_rule?_lt hs⟩
  | @property declared sub key _ hs hd _ =>
    refine Or.inr ⟨sizeOf_member_le .., hsub hs ?_⟩
    cases declared with
    | map es => exact List.mem_map_of_mem (f := (·.2)) hd
    | _ => cases hd
  | additional _ _ hp _ _ =>
    exact Or.inr ⟨sizeOf_member_le .., sizeOf_lt_of_mem_parts (mem_parts_of_get? hp)⟩
  | own _ _ hk _ => exact Or.inl (sizeOf_member_lt _ (Or.inl (isMap_of_mem_keys hk)))
  | entry _ _ hp _ =>
    exact Or.inr ⟨sizeOf_member_le .., sizeOf_lt_of_mem_parts (mem_parts_of_get? hp)⟩

/-! ## The rules on a value itself -/

/-- Bounds on the number of elements. -/
structure CountFits (S : Value) (length : Nat) : Prop where
  enough : ∀ b, S.bound? "minItems" = some b → (Check.count length).lt b = false
  not_too_many : ∀ b, S.bound? "maxItems" = some b → b.lt (Check.count length) = false

/-- A pattern that occurs in the text, and bounds on its length. -/
structure TextFits (S : Value) (s : String) : Prop where
  pattern : ∀ source, S.get? "pattern" = some (.str source) →
    ∃ compiled, Pattern.read source = .ok compiled ∧ compiled.search s = .something
  not_too_long : ∀ b, S.bound? "maxLength" = some b → b.lt (Check.count s.length) = false
  long_enough : ∀ b, S.bound? "minLength" = some b → (Check.count s.length).lt b = false

/-- Bounds on a number, which may themselves be allowed or not, and on its decimals. -/
structure NumberFits (S : Value) (x : Number) : Prop where
  not_below : ∀ b, S.bound? "minimum" = some b →
    (if S.boundAllowed "minimumCanEqual" then x.lt b else x.le b) = false
  not_above : ∀ b, S.bound? "maximum" = some b →
    (if S.boundAllowed "maximumCanEqual" then b.lt x else b.le x) = false
  decimals : ∀ b shown, S.bound? "maxDecimal" = some b → x.shownDecimals = some shown →
    b.lt (Check.count shown) = false

/-- What a value must be for declared properties, and what must be there along with its entries. -/
structure DeclarationsFit (S v declared : Value) : Prop where
  object : v.isMap = true
  admitted : S.get? "additionalProperties" = some (.bool false) → ∀ key ∈ v.keys,
    Check.isReserved key = false →
      Check.isUndeclared (entryAt? key declared.entries) = false
  required : ∀ key ∈ v.keys, ∀ name,
    Check.requirement (entryAt? key declared.entries) = .str name → v.hasKey (.name name) = true

/-- The rules on members that only look at how many there are and under which keys. -/
structure MemberRules (S v : Value) : Prop where
  count : ∀ xs, v.elements? = some xs → CountFits S xs.length
  no_extra_items : ∀ xs schemas, v.elements? = some xs → S.rule? "items" = some (.list schemas) →
    S.get? "additionalProperties" = some (.bool false) → xs.length ≤ schemas.length
  declarations : ∀ declared, v.elements? = none → S.rule? "properties" = some declared →
    DeclarationsFit S v declared
  no_entries : v.elements? = none → S.rule? "properties" = none →
    S.get? "additionalProperties" = some (.bool false) → v.keys = []

/-- The rules on texts and numbers. -/
structure ScalarRules (S v : Value) : Prop where
  text : ∀ s, v = .str s → TextFits S s
  number : ∀ x, v.number? = some x → NumberFits S x

/-- The value is one of those enumerated. -/
def Enumerated (S v : Value) : Prop :=
  ∀ e options, S.rule? "enum" = some e → Check.options? e = some options →
    options.any (·.equal v) = true

/-- The rules of a schema that only look at the value itself. -/
structure LocalRules (S v : Value) : Prop where
  members : MemberRules S v
  scalars : ScalarRules S v
  enumerated : Enumerated S v

/-- A type name fits the values of the kind it names; every integer is a number, and any value fits
    the name for all. -/
def fitsName (v : Value) (name : String) : Prop :=
  name = "any" ∨ v.kind = name ∨ name = "number" ∧ v.kind = "integer"

/-! ## Conforming -/

mutual

/-- A value, possibly missing, conforms to a schema.  What is no mapping is a schema without rules. -/
def Conforms (v S : Value) : Prop :=
  S.isMap = true →
    (∀ b, b ∈ S.bases → Conforms v b) ∧
    (v = .missing → S.get? "required" ≠ some (.bool true)) ∧
    (v ≠ .missing →
      (∀ t, S.rule? "type" = some t → Fits v t) ∧
      (∀ t, S.rule? "disallow" = some t → ¬ Fits v t) ∧
      (v ≠ .null →
        LocalRules S v ∧ ∀ step sub, Demand S v step sub → Conforms (v.member step) sub))
termination_by (sizeOf v, sizeOf S, 0)
decreasing_by
  · exact .right _ (.left _ _ (sizeOf_base_lt ‹_›))
  · exact .right _ (.left _ _ (sizeOf_rule?_lt ‹S.rule? "type" = some t›))
  · exact .right _ (.left _ _ (sizeOf_rule?_lt ‹S.rule? "disallow" = some t›))
  · rcases Demand.smaller ‹_› with hlt | ⟨hle, hlt⟩
    · exact .left _ _ hlt
    · rcases Nat.lt_or_eq_of_le hle with hlt' | heq
      · exact .left _ _ hlt'
      · rw [heq]
        exact .right _ (.left _ _ hlt)

/-- A value fits a type expression: a list of alternatives if it fits one of them, and an inline
    schema if it conforms to it. -/
def Fits (v : Value) : Value → Prop
  | .null => True
  | .bool false => True
  | .bool true => v.fitsName (Value.bool true).text
  | .map es => Conforms v (.map es)
  | .cls c => v.class? = some c
  | .list ts => ∃ t, ∃ _ : t ∈ ts, Fits v t
  | .missing => v.fitsName Value.missing.text
  | .int i => v.fitsName (Value.int i).text
  | .float x => v.fitsName (Value.float x).text
  | .str s => v.fitsName s
  | .tuple ts => v.fitsName (Value.tuple ts).text
termination_by expr => (sizeOf v, sizeOf expr, 1)
decreasing_by
  · exact .right _ (.right _ Nat.one_pos)
  · have hlt := List.sizeOf_lt_of_mem ‹_›
    exact .right _ (.left _ _ (by simp; omega))

end

end Value

end Conformance

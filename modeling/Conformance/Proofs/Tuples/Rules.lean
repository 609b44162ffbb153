/-
  Rules at values that differ in their tuples only.

  Each rule of a schema that is blind to tuples sees alike in two values that are the same but for
  tuples, if the visits that it makes do (`VisitsAlike`).  The rules on texts and numbers are those
  on one and the same value; what the rules on arrays and objects ask of a value, its untupled form
  answers alike.
-/
import Conformance.Proofs.Tuples.Checks

namespace Conformance

namespace Check

/-- Visits of schemas that are blind to tuples see alike in all values that are the same but for
    tuples. -/
def VisitsAlike (visit : Node → Check Unit) : Prop :=
  ∀ k : Node, k.tree.BlindToTuples → ∀ {v w : Value}, v.Paired w →
    SeesAlike v w Eq (visit k) (visit k)

variable {v w : Value} {n : Node} {visit : Node → Check Unit}

namespace SeesAlike

/-! ## Texts and numbers -/

/-- A pattern is looked for in one and the same text. -/
theorem patternRule (s : String) :
    SeesAlike v w Eq (Check.patternRule n s) (Check.patternRule n s) := by
  refine .field (.unlessNull _ fun y => ?_)
  cases y with
  | str pattern =>
    dsimp only
    cases Pattern.read pattern with
    | ok compiled =>
      dsimp only
      cases compiled.search s with
      | something => exact .skip
      | nothing => exact .fail _
      | reversedGroup => exact .fault _
    | error flaw =>
      cases flaw with
      | defect d => exact .fail _
      | _ => exact .fault _
  | _ => exact .fail _

/-- A text is its own untupled form, so its rules are the same ones. -/
theorem textRules (s : String) :
    SeesAlike v w Eq (Check.textRules n s) (Check.textRules n s) := by
  refine .bind (.patternRule s) fun _ _ _ => ?_
  refine .bind (R := Eq) ?_ fun _ _ _ => ?_
  · exact .withBound fun _ _ => .whenTrue (.fail _)
  · exact .withBound fun _ _ => .whenTrue (.fail _)

/-- What a schema says about its bounds does not depend on the value. -/
theorem boundAllowed (name : String) :
    SeesAlike v w Eq (Check.boundAllowed n name) (Check.boundAllowed n name) := by
  refine .field? ?_
  cases n.tree.get? name <;> exact .pure rfl

theorem decimalRule (x : Number) :
    SeesAlike v w Eq (Check.decimalRule n x) (Check.decimalRule n x) := by
  refine .field ?_
  cases ((n.tree.get? "maxDecimal").getD .null).number? with
  | none => exact .skip
  | some bound =>
    cases x.shownDecimals with
    | none => exact .skip
    | some shown => exact .whenTrue (.fail _)

/-- A number is its own untupled form. -/
theorem numberRules (x : Number) :
    SeesAlike v w Eq (Check.numberRules n x) (Check.numberRules n x) := by
  refine .bind (.withBound fun bound y => ?_) fun _ _ _ => ?_
  · refine .bind (.boundAllowed _) ?_
    rintro allowed _ rfl
    exact .whenTrue (.fail _)
  · refine .bind (.withBound fun bound y => ?_) fun _ _ _ => .decimalRule x
    refine .bind (.boundAllowed _) ?_
    rintro allowed _ rfl
    exact .whenTrue (.fail _)

/-! ## Rules on values of all kinds -/

section Values

variable (h : v.Paired w)

include h

/-- Values with members are neither texts nor numbers. -/
theorem scalarRules : SeesAlike v w Eq (Check.scalarRules n v) (Check.scalarRules n w) := by
  have hmembers {v : Value} (hv : (v.elements?.isSome || v.isMap) = true) :
      Check.scalarRules n v = Pure.pure () := by
    cases v <;> first | rfl | cases hv
  -- a value without members is its own untupled form, so one value faces itself
  cases hv : v.elements?.isSome || v.isMap with
  | true =>
    have hw : (w.elements?.isSome || w.isMap) = true := by rw [← h.isArray, ← h.isMap, hv]
    rw [hmembers hv, hmembers hw]
    exact .skip
  | false =>
    obtain ⟨harray, hobject⟩ := Bool.or_eq_false_iff.mp hv
    obtain rfl := h.eq_of_atom harray hobject
    unfold Check.scalarRules
    cases v with
    | str s => exact .textRules s
    | int i => exact .numberRules _
    | float x => exact .numberRules _
    | _ => exact .skip

/-- Options are compared by an equality that makes no difference between tuples and lists. -/
theorem enumRule : SeesAlike v w Eq (Check.enumRule n) (Check.enumRule n) := by
  refine .field? ?_
  cases n.tree.get? "enum" with
  | none => exact .skip
  | some e =>
    refine .whenTrue ?_
    cases options? e with
    | none => exact .fault _
    | some options =>
      refine .value ?_
      have hequal (o : Value) : o.equal v = o.equal w := h.read (Value.equal_untupled o)
      simp only [hequal]
      cases options.any fun o => o.equal w
      · exact .fail _
      · exact .skip

omit h in
/-- A label that is no text is objected to with a message about the value, but with the same report.
    -/
theorem labelRule (label : String) :
    SeesAlike v w Eq (Check.labelRule n label) (Check.labelRule n label) := by
  refine .field (.unlessNull _ fun y => ?_)
  cases y with
  | str s => exact .skip
  | _ => exact .value (.fails rfl rfl)

theorem closingRules : SeesAlike v w Eq (Check.closingRules n) (Check.closingRules n) := by
  refine .bind (.enumRule h) fun _ _ _ => ?_
  refine .bind (.labelRule "description") fun _ _ _ => ?_
  exact .labelRule "title"

/-! ## Type expressions -/

/-- A message names the kind of the value, which is that of its untupled form. -/
theorem mismatch {expr : Node} : SeesAlike v w Eq (Check.mismatch expr) (Check.mismatch expr) := by
  refine .value ?_
  rw [h.read Value.kind_untupled]
  exact .content (.fail _)

omit h in
mutual

/-- A test that names no arrays takes both values or neither; an inline schema sees alike in them.
    -/
theorem resolvedType (h : v.Paired w) (hvisit : VisitsAlike visit) :
    ∀ {t : TypeTest}, t.BlindToTuples → ∀ {expr : Node},
      SeesAlike v w Eq (Check.resolvedType visit t expr) (Check.resolvedType visit t expr)
  | .anything, _, _ => .skip
  | .classes members, hblind, expr => by
    refine .value ?_
    -- the classes that are named hold both the lists and the tuples, or neither
    rw [h.read (f := fun v => v.isInstance members) (Value.isInstance_untupled hblind)]
    cases w.isInstance members
    · exact .mismatch h
    · exact .skip
  | .schema n, hblind, _ => hvisit n hblind h
  | .anyOf ts, hblind, expr => by
    refine .bind (anyAlternative h hvisit hblind 0) ?_
    rintro b _ rfl
    cases b
    · exact .mismatch h
    · exact .skip

/-- The same alternatives are given up, one after the other. -/
theorem anyAlternative (h : v.Paired w) (hvisit : VisitsAlike visit) : ∀ {ts : List TypeTest},
    TypeTest.AllBlindToTuples ts → ∀ {expr : Node} (i : Nat),
      SeesAlike v w Eq (Check.anyAlternative visit ts expr i)
        (Check.anyAlternative visit ts expr i)
  | [], _, _, _ => .pure rfl
  | t :: rest, hblind, expr, i => by
    have hrest (j : Nat) : SeesAlike v w Eq (Check.anyAlternative visit rest expr j)
        (Check.anyAlternative visit rest expr j) := anyAlternative h hvisit hblind.2 j
    refine .element fun k => ?_
    refine .attempted (resolvedType h hvisit hblind.1) (.pure rfl) fun e e' => ?_
    -- the messages of what is given up may differ, and nothing reads them
    refine .scope fun s s' _ _ => .content ?_
    exact .bind (.note _ _) fun _ _ _ => hrest (i + 1)

end

/-- A rule of a schema that is a type expression. -/
theorem typeRule (hvisit : VisitsAlike visit) (hblind : n.tree.BlindToTuples) {name : String}
    (hname : name ∈ Value.typeRules) {r : Value} (hr : n.tree.rule? name = some r) :
    SeesAlike v w Eq (Check.typeRule visit (n.down (.name name) r))
      (Check.typeRule visit (n.down (.name name) r)) := by
  unfold Check.typeRule
  refine .content ?_
  -- the expression is resolved once, because both runs read the same schema
  cases ht : TypeTest.ofValue (n.down (.name name) r).origin (n.down (.name name) r).tree with
  | error name => exact .failPlaceless _
  | ok t =>
    refine .resolvedType h hvisit (TypeTest.blindToTuples_ofValue ht ?_ ?_)
    · exact hblind.own name hname r hr
    · exact fun T hT => hblind.applies (.inline hname hr hT)

/-- What is disallowed is rejected in both or in neither. -/
theorem disallowRule (hvisit : VisitsAlike visit) (hblind : n.tree.BlindToTuples) :
    SeesAlike v w Eq (Check.disallowRule visit n) (Check.disallowRule visit n) := by
  refine .whenGiven fun r hr => .attempted ?_ (.fail _) fun _ _ => .skip
  exact .typeRule h hvisit hblind (by decide) hr

/-! ## Arrays -/

/-- There are as many elements in one as in the other. -/
theorem itemCounts : SeesAlike v w Eq (Check.itemCounts n) (Check.itemCounts n) := by
  refine .bind (.withBound fun bound y => .value ?_) fun _ _ _ => ?_
  · rw [h.length]
    exact .whenTrue (.fail _)
  · refine .withBound fun bound y => .value ?_
    rw [h.length]
    exact .whenTrue (.fail _)

/-- Counting them comes to the same. -/
theorem length : SeesAlike v w Eq Check.length Check.length := by
  refine .value ?_
  rw [h.length]
  exact .pure rfl

/-- Every element of one array has its counterpart in the other. -/
theorem everyElement (hvisit : VisitsAlike visit) (hblind : n.tree.BlindToTuples) :
    SeesAlike v w Eq (Check.everyElement visit n) (Check.everyElement visit n) := by
  refine .bind (.length h) ?_
  rintro count _ rfl
  exact .each _ fun i _ => .atChild _ (hvisit n hblind (h.member _))

omit h in
/-- A policy that is a schema is one of those that the schema leads to. -/
theorem additionalPolicy (hblind : n.tree.BlindToTuples) :
    SeesAlike v w (fun a b => a = b ∧ a.tree.BlindToTuples) (Check.additionalPolicy n)
      (Check.additionalPolicy n) := by
  refine .field? ?_
  cases hp : n.tree.get? "additionalProperties" with
  | none => exact .pure ⟨rfl, Value.blindToTuples_of_not_map rfl⟩
  | some policy =>
    -- a policy that is given belongs to the schemas the property is about
    have hpolicy := hblind.applies (.additional hp)
    cases policy with
    | bool b => exact .pure ⟨rfl, hpolicy⟩
    | map es => exact .pure ⟨rfl, hpolicy⟩
    | _ => exact .fail _

/-- Schemas by position meet elements at the same index; the policy is one the schema leads to. -/
theorem positionalItems (hvisit : VisitsAlike visit) (hblind : n.tree.BlindToTuples) {r : Value}
    (hr : n.tree.rule? "items" = some r) :
    SeesAlike v w Eq (Check.positionalItems visit n (n.down (.name "items") r))
      (Check.positionalItems visit n (n.down (.name "items") r)) := by
  have hitem (x : Value) (hx : x ∈ r.listItems) : x.BlindToTuples := by
    refine hblind.applies (.item hr ?_)
    cases r <;> first | exact hx | cases hx
  have hpositions : SeesAlike v w Eq
      (Check.eachElement (n.down (.name "items") r) fun i k =>
        Check.atChild (.index i) (visit k))
      (Check.eachElement (n.down (.name "items") r) fun i k =>
        Check.atChild (.index i) (visit k)) := by
    refine .eachElement fun i x hx => ?_
    exact .atChild _ (hvisit _ (hitem x hx) (h.member _))
  refine .bind hpositions fun _ _ _ => ?_
  refine .content (.whenTrue (.bind (.additionalPolicy hblind) ?_))
  rintro policy _ ⟨rfl, hpolicy⟩
  -- a policy that forbids more elements counts them, and there are as many
  cases forbids policy.tree with
  | true =>
    refine .content (.bind (.length h) ?_)
    rintro count _ rfl
    split
    · exact .fail _
    · exact .skip
  | false =>
    cases allows policy.tree with
    | true => exact .skip
    | false => exact .everyElement h hvisit hpolicy

/-- The schemas for elements are ones that the schema leads to. -/
theorem items (hvisit : VisitsAlike visit) (hblind : n.tree.BlindToTuples) :
    SeesAlike v w Eq (Check.items visit n) (Check.items visit n) := by
  refine .bind (.whenGiven fun r hr => ?_) fun _ _ _ => .itemCounts h
  cases r with
  | list schemas => exact .positionalItems h hvisit hblind hr
  | _ =>
    exact .everyElement h hvisit (hblind.applies (.item hr (List.mem_singleton.mpr rfl)))

/-! ## Objects -/

omit h in
/-- Where nothing is written, no schema has changed. -/
theorem stillOfSize (size : Nat) :
    SeesAlike v w Eq (Check.stillOfSize n size) (Check.stillOfSize n size) := by
  refine .content ?_
  split
  · exact .fault _
  · exact .skip

/-- Definitions of properties see alike in the members at their keys. -/
theorem declaredProperties (hvisit : VisitsAlike visit) (size : Nat) {es : List (Key × Value)}
    (hblind : ∀ e ∈ es, e.2.BlindToTuples) :
    SeesAlike v w Eq (Check.declaredProperties visit n size es)
      (Check.declaredProperties visit n size es) := by
  induction es with
  | nil => exact .skip
  | cons e rest ih =>
    rw [List.forall_mem_cons] at hblind
    have hfirst : SeesAlike v w Eq (Check.declaredProperty visit n e.1 e.2)
        (Check.declaredProperty visit n e.1 e.2) :=
      .whenTrue (.atChild _ (hvisit _ hblind.1 (h.member _)))
    refine .bind hfirst fun _ _ _ => ?_
    exact .bind (.stillOfSize size) fun _ _ _ => ih hblind.2

omit h in
/-- Whether an entry is admitted depends on its key. -/
theorem admission (policy : Node) (key : Key) (declared : Option Value) :
    SeesAlike v w Eq (Check.admission policy key declared) (Check.admission policy key declared) :=
  .whenTrue (.failAt _ rfl rfl)

/-- Whether a requirement is met depends on the keys. -/
theorem requirementRule (key : Key) (declared : Option Value) :
    SeesAlike v w Eq (Check.requirementRule key declared) (Check.requirementRule key declared) := by
  unfold Check.requirementRule
  cases requirement declared with
  | null => exact .skip
  | str required =>
    refine .value ?_
    rw [h.hasKey]
    exact .whenTrue (.failAt _ rfl rfl)
  | _ => exact .failAt _ rfl rfl

/-- The policy sees alike in the members at a key. -/
theorem policyRule (hvisit : VisitsAlike visit) {policy : Node}
    (hpolicy : policy.tree.BlindToTuples) (key : Key) :
    SeesAlike v w Eq (Check.policyRule visit n policy key)
      (Check.policyRule visit n policy key) := by
  have hmember := hvisit policy hpolicy (h.member (.entry key))
  exact .content (.whenTrue (.atChild _ hmember))

/-- Neither value carries schemas of its own below the top. -/
theorem ownSchema (key : Key) :
    SeesAlike v w Eq (Check.ownSchema visit key) (Check.ownSchema visit key) := by
  intro s s' p p' hf
  -- no entry of a plain value has a schema, so nothing is done on either side
  rw [SameUnwritten.ownSchema_of_plain hf.silent (by rw [hf.value]; exact h.plain),
    SameUnwritten.ownSchema_of_plain hf.silent' (by rw [hf.value']; exact h.plain')]
  exact ⟨.ok rfl, hf, rfl, rfl⟩

/-- What is asked of an entry is asked of its counterpart. -/
theorem entry (hvisit : VisitsAlike visit) {policy : Node} (hpolicy : policy.tree.BlindToTuples)
    (key : Key) :
    SeesAlike v w Eq (Check.entry visit n policy key) (Check.entry visit n policy key) := by
  have hpolicyRule : SeesAlike v w Eq (Check.policyRule visit n policy key)
      (Check.policyRule visit n policy key) := .policyRule h hvisit hpolicy key
  have hown : SeesAlike v w Eq (Check.ownSchema visit key) (Check.ownSchema visit key) :=
    .ownSchema h key
  refine .content (.bind (.admission policy key _) fun _ _ _ => ?_)
  refine .bind (.requirementRule h key _) fun _ _ _ => ?_
  exact .bind hpolicyRule fun _ _ _ => hown

theorem objectOnly : SeesAlike v w Eq Check.objectOnly Check.objectOnly := by
  refine .value ?_
  rw [h.isMap, h.read Value.kind_untupled]
  exact .whenTrue (.failKeyless rfl rfl)

/-- Declared properties first, then the entries, which have the same keys. -/
theorem object (hvisit : VisitsAlike visit) (hblind : ∀ e ∈ n.tree.entries, e.2.BlindToTuples)
    {policy : Node} (hpolicy : policy.tree.BlindToTuples) :
    SeesAlike v w Eq (Check.object visit n policy) (Check.object visit n policy) := by
  refine .content ?_
  cases ht : n.tree with
  | map es =>
    rw [ht] at hblind
    have hdeclared : SeesAlike v w Eq (Check.declaredProperties visit n es.length es)
        (Check.declaredProperties visit n es.length es) :=
      .declaredProperties h hvisit _ hblind
    refine .bind (.objectOnly h) fun _ _ _ => ?_
    refine .bind hdeclared fun _ _ _ => .value ?_
    -- both have the same keys, so the same entries are gone through
    rw [h.read Value.keys_untupled]
    exact .each _ fun key _ => .entry h hvisit hpolicy key
  | _ => exact .failKeyless rfl rfl

/-- Entries without declarations, one by one. -/
theorem additionalOnly (hvisit : VisitsAlike visit) (hblind : n.tree.BlindToTuples) :
    SeesAlike v w Eq (Check.additionalOnly visit n) (Check.additionalOnly visit n) := by
  refine .value ?_
  rw [h.isMap, h.read Value.keys_untupled]
  cases allows n.tree || !w.isMap with
  | true => exact .skip
  | false =>
    refine .scope fun s s' _ _ => ?_
    refine .each _ fun key _ => ?_
    unfold additionalEntry
    cases forbids n.tree with
    | true => exact .failAt _ rfl rfl
    | false => exact .atChild _ (hvisit n hblind (h.member _))

/-! ## One value, one schema -/

omit h in
/-- A schema that is blind to tuples is registered by its id. -/
theorem idRule (hblind : n.tree.BlindToTuples) :
    SeesAlike v w Eq (Check.idRule n) (Check.idRule n) :=
  .whenGiven fun _ _ => .register _ hblind

/-- A schema that a name leads to is one of those registered. -/
theorem follow (hvisit : VisitsAlike visit) (ref : String) :
    SeesAlike v w Eq (Check.follow visit n ref) (Check.follow visit n ref) := by
  intro s s' p p' hf
  unfold Check.follow
  rw [progress_bind, progress_bind, hf.registry]
  cases hfound : p.registry.find? ref with
  | none => exact (SeesAlike.note _ _) s s' p p' hf
  | some target =>
    dsimp only
    -- a reference back to the node at hand is not followed
    split
    · exact SeesAlike.skip s s' p p' hf
    · exact hvisit target (hf.known ref target hfound) h s s' p p' hf

/-- A reference leads to a schema that was registered before, in both runs. -/
theorem refRule (hvisit : VisitsAlike visit) :
    SeesAlike v w Eq (Check.refRule visit n) (Check.refRule visit n) := by
  refine .field? ?_
  cases n.tree.get? "$ref" with
  | none => exact .skip
  | some r =>
    cases r with
    | str ref => exact .follow h hvisit ref
    | _ => exact .skip

/-- The bases are schemas that the schema leads to. -/
theorem extendsRule (hvisit : VisitsAlike visit) (hblind : n.tree.BlindToTuples) :
    SeesAlike v w Eq (Check.extendsRule visit n) (Check.extendsRule visit n) := by
  refine .whenGiven fun r hr => ?_
  -- a base that is listed is a base of the schema
  have hbase {b : Value} (hb : b ∈ r.listed) : b.BlindToTuples := by
    refine hblind.applies (.base ?_)
    rwa [Value.bases, hr]
  cases r with
  | list bs => exact .eachElement fun i b hb => hvisit _ (hbase hb) h
  | _ => exact hvisit _ (hbase (List.mem_singleton.mpr rfl)) h

omit h in
/-- A missing value is required in both or in neither. -/
theorem requiredRule : SeesAlike v w Eq (Check.requiredRule n) (Check.requiredRule n) := by
  refine .field? ?_
  split
  · exact .fail _
  · exact .skip

omit h in
/-- Nothing is filled in. -/
theorem defaultRule : SeesAlike v w Eq (Check.defaultRule n) (Check.defaultRule n) := by
  intro s s' p p' hf
  unfold Check.defaultRule
  rw [scope_bind, scope_bind, hf.silent, hf.silent']
  exact SeesAlike.skip s s' p p' hf

omit h in
/-- A missing value is met by the same rules. -/
theorem missingRules : SeesAlike v w Eq (Check.missingRules n) (Check.missingRules n) :=
  .bind .requiredRule fun _ _ _ => .defaultRule

/-- An array faces an array and an object an object, so the same rules go on. -/
theorem memberRules (hvisit : VisitsAlike visit) (hblind : n.tree.BlindToTuples) :
    SeesAlike v w Eq (Check.memberRules visit n v) (Check.memberRules visit n w) := by
  have harray := h.isArray
  have hadditional : SeesAlike v w Eq
      (Check.additionalPolicy n >>= Check.additionalOnly visit)
      (Check.additionalPolicy n >>= Check.additionalOnly visit) := by
    refine .bind (.additionalPolicy hblind) ?_
    rintro policy _ ⟨rfl, hpolicy⟩
    exact .additionalOnly h hvisit hpolicy
  unfold Check.memberRules
  cases hv : v.elements? with
  | some xs =>
    cases hw : w.elements? with
    -- an array cannot face anything else
    | none => simp [hv, hw] at harray
    | some ys => exact .items h hvisit hblind
  | none =>
    cases hw : w.elements? with
    | some ys => simp [hv, hw] at harray
    | none =>
      refine .given? (.content (.whenTrue hadditional)) fun r hr => ?_
      have hdeclared : ∀ e ∈ (n.down (.name "properties") r).tree.entries,
          e.2.BlindToTuples := fun e he => hblind.applies (.property hr he)
      refine .bind (.additionalPolicy hblind) ?_
      rintro policy _ ⟨rfl, hpolicy⟩
      exact .object h hvisit hdeclared hpolicy

theorem presentRules (hvisit : VisitsAlike visit) (hblind : n.tree.BlindToTuples) :
    SeesAlike v w Eq (Check.presentRules visit n v) (Check.presentRules visit n w) := by
  have htype : SeesAlike v w Eq (Check.whenGiven n "type" (Check.typeRule visit))
      (Check.whenGiven n "type" (Check.typeRule visit)) := by
    refine .whenGiven fun r hr => ?_
    exact .typeRule h hvisit hblind (by decide) hr
  have hdisallow : SeesAlike v w Eq (Check.disallowRule visit n) (Check.disallowRule visit n) :=
    .disallowRule h hvisit hblind
  have hcontent : SeesAlike v w Eq (contentRules visit n v) (contentRules visit n w) := by
    refine .bind (.memberRules h hvisit hblind) fun _ _ _ => ?_
    refine .bind (.scalarRules h) fun _ _ _ => ?_
    exact .closingRules h
  refine .bind htype fun _ _ _ => ?_
  refine .bind hdisallow fun _ _ _ => ?_
  -- null is its own untupled form, so it is null on both sides or on neither
  cases v with
  | null =>
    obtain rfl := h.eq_of_atom rfl rfl
    exact .skip
  | _ =>
    cases w with
    | null => cases h.same
    | _ => exact hcontent

theorem ownRules (hvisit : VisitsAlike visit) (hblind : n.tree.BlindToTuples) :
    SeesAlike v w Eq (Check.ownRules visit n) (Check.ownRules visit n) := by
  refine .value ?_
  have hpresent := SeesAlike.presentRules h hvisit hblind
  cases v with
  | missing =>
    obtain rfl := h.eq_of_atom rfl rfl
    exact .missingRules
  | _ =>
    cases w with
    | missing => cases h.same
    | _ => exact hpresent

theorem property (hvisit : VisitsAlike visit) (hblind : n.tree.BlindToTuples) :
    SeesAlike v w Eq (Check.property visit n) (Check.property visit n) := by
  have hid : SeesAlike v w Eq (Check.idRule n) (Check.idRule n) := .idRule hblind
  have href : SeesAlike v w Eq (Check.refRule visit n) (Check.refRule visit n) :=
    .refRule h hvisit
  have hextends : SeesAlike v w Eq (Check.extendsRule visit n) (Check.extendsRule visit n) :=
    .extendsRule h hvisit hblind
  have hown : SeesAlike v w Eq (Check.ownRules visit n) (Check.ownRules visit n) :=
    .ownRules h hvisit hblind
  refine .bind hid fun _ _ _ => ?_
  refine .bind href fun _ _ _ => ?_
  exact .bind hextends fun _ _ _ => hown

end Values

end SeesAlike

end Check

end Conformance

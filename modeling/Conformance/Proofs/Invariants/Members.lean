/-
  Invariants of the rules on types and members.

  One lemma for each rule, in the order in which the rules stand.  A rule reads nodes that are known
  and hands parts of them on to visits, which keep the invariant by hypothesis.  Members are only
  ever visited below a value with members, and an object is only ever objected to under a key that
  it has: that is why a loop over its keys reads the value first and stands on what it has read.
-/
import Conformance.Proofs.Invariants.Basic

namespace Conformance

namespace Check

namespace Preserves

variable {K : RunInvariant} (hK : K.Preserved) {n : Node} (hn : K.known n)
    {visit : Node → Check Unit}
  (hvisit : K.PreservedBy visit) {v : Value}

/-! ## Policies and types -/

include hK

/-- The policy on additional properties is known, or it is objected to. -/
theorem additionalPolicy {k : Node} (hk : K.known k) :
    Preserves K n (some v) (Check.additionalPolicy k) K.known := by
  refine .bind (.field? hK hk "additionalProperties") fun a ha => ?_
  cases a with
  | none => exact .pure (hK.blank hk _ (Or.inl rfl))
  | some policy =>
    cases policy with
    | bool b => exact .pure (ha _ rfl)
    | map es => exact .pure (ha _ rfl)
    | _ => exact .fail hK (by simp [Cause.kind])

theorem mismatch {k : Node} (hk : K.known k) :
    Preserves K n (some v) (Check.mismatch k) fun _ => True := by
  refine .value fun w _ => ?_
  refine .bind (.content hK hk) fun a _ => ?_
  exact .fail hK (by simp [Cause.kind])

omit hK

mutual

/-- A value against a test whose inline schemas are known. -/
theorem resolvedType (holds : K.Preserved) (visits : K.PreservedBy visit) {t u : TypeTest} :
    Parallel.LikeTest K.alike t u → ∀ {expr : Node}, K.known expr →
      Preserves K n (some v) (Check.resolvedType visit t expr) fun _ => True
  | .anything, _, _ => .skip
  | .classes members, expr, hexpr => by
    refine .value fun w _ => ?_
    cases w.isInstance members
    · exact .mismatch holds hexpr
    · exact .skip
  | .schema ⟨_, hk⟩, _, _ => .here visits hk
  | .anyOf ht, expr, hexpr => by
    refine .bind (anyAlternative holds visits ht hexpr 0) fun b _ => ?_
    cases b
    · exact .mismatch holds hexpr
    · exact .skip

theorem anyAlternative (holds : K.Preserved) (visits : K.PreservedBy visit)
    {ts us : List TypeTest} :
    Parallel.LikeTests K.alike ts us → ∀ {expr : Node}, K.known expr → ∀ i : Nat,
      Preserves K n (some v) (Check.anyAlternative visit ts expr i) fun _ => True
  | .nil, _, _, _ => .pure trivial
  | .cons ht hts, expr, hexpr, i => by
    refine .bind (.element holds hexpr i) fun alternative halternative => ?_
    refine .bind (.attempt (resolvedType holds visits ht halternative)) fun r _ => ?_
    cases r with
    | none => exact .pure trivial
    | some e =>
      refine .scope fun s => ?_
      refine .bind (.content holds halternative) fun a _ => ?_
      exact .bind (.note holds rfl rfl) fun _ _ => anyAlternative holds visits hts hexpr (i + 1)

end

include hK hvisit

/-- Parts of a known node are known, so the inline schemas of a type expression are. -/
theorem typeRule {expr : Node} (hexpr : K.known expr) :
    Preserves K n (some v) (Check.typeRule visit expr) fun _ => True := by
  refine .bind (.content hK hexpr) fun a ⟨ha, _⟩ => ?_
  have htest := Parallel.likeTest_ofValue (P := ⟨K.alike, visit, visit, n, n⟩) hK.likeness a
    (⟨rfl, ha⟩ : K.alike ⟨expr.origin, a⟩ ⟨expr.origin, a⟩)
  generalize TypeTest.ofValue expr.origin a = t at htest ⊢
  generalize hu : t = u at htest
  cases htest with
  | ok ht => exact .resolvedType hK hvisit ht hexpr
  | error name => exact .failPlaceless hK name

/-! ## Arrays -/

omit hvisit in
theorem visitAppended {k : Node} (hk : K.known k) {c : Nat → Node → Check Unit}
    {v? : Option Value} (hc : ∀ i m, K.known m → Preserves K n v? (c i m) fun _ => True)
    (room : Nat) :
    ∀ i, Preserves K n v? (Check.visitAppended k c room i) fun _ => True := by
  induction room with
  | zero => exact fun _ => .skip
  | succ room ih =>
    intro i
    refine .bind (.content hK hk) fun a ⟨ha, _⟩ => ?_
    cases hx : a.listItems[i]? with
    | none => exact .skip
    | some x =>
      -- an element that was appended is a part of what the list reads as now
      have hpart : x ∈ a.parts := by
        cases a <;> simp [Value.listItems] at hx
        exact List.mem_of_getElem? hx
      exact .bind (hc i _ (hK.part ha (.index i) hpart)) fun _ _ => ih (i + 1)

omit hvisit in
/-- The elements of a known list are known, those appended on the way included. -/
theorem eachElement {k : Node} (hk : K.known k) {c : Nat → Node → Check Unit} {v? : Option Value}
    (hc : ∀ i m, K.known m → Preserves K n v? (c i m) fun _ => True) :
    Preserves K n v? (Check.eachElement k c) fun _ => True := by
  have hfrom (xs : List Value) (i : Nat) (hx : ∀ step, ∀ x ∈ xs, K.known (k.down step x)) :
      Preserves K n v? (Check.visitFrom k c i xs) fun _ => True := by
    induction xs generalizing i with
    | nil => exact .visitAppended hK hk hc _ i
    | cons x rest ih =>
      refine .bind (hc i _ (hx _ x (List.mem_cons_self ..))) fun _ _ => ih (i + 1) ?_
      exact fun step y hy => hx step y (List.mem_cons_of_mem _ hy)
  refine .bind (.content hK hk) fun a ⟨ha, _⟩ => ?_
  refine hfrom a.listItems 0 fun step x hx => hK.part ha step ?_
  cases a <;> first | exact hx | cases hx

omit hK hvisit in
theorem length : Preserves K n (some v) Check.length fun _ => True :=
  .value fun _ _ => .pure trivial

/-- Every element of the array at hand is visited. -/
theorem everyElement (hv : v.IsContainer) {k : Node} (hk : K.known k) :
    Preserves K n (some v) (Check.everyElement visit k) fun _ => True := by
  refine .bind .length fun count _ => ?_
  exact .each fun i _ => .member hK hvisit hk hv (.index i)

include hn

theorem positionalItems (hv : v.IsContainer) {r : Node} (hr : K.known r) :
    Preserves K n (some v) (Check.positionalItems visit n r) fun _ => True := by
  refine .bind (.eachElement hK hr fun i m hm => .member hK hvisit hm hv (.index i)) fun _ _ => ?_
  refine .bind (.content hK hn) fun a _ => .whenTrue ?_
  refine .bind (.additionalPolicy hK hn) fun policy hpolicy => ?_
  cases forbids policy.tree with
  | true =>
    refine .bind (.content hK hr) fun b _ => .bind .length fun count _ => ?_
    split
    · exact .fail hK (by simp [Cause.kind])
    · exact .skip
  | false =>
    cases allows policy.tree with
    | true => exact .skip
    | false => exact .everyElement hK hvisit hv hpolicy

theorem items (hv : v.IsContainer) :
    Preserves K n (some v) (Check.items visit n) fun _ => True := by
  refine .bind (.whenGiven hK hn "items" fun r hr => ?_) fun _ _ =>
    (Judges.itemCounts n).preserves hK hn
  split
  · exact .positionalItems hK hn hvisit hv hr
  · exact .everyElement hK hvisit hv hr

/-! ## Objects -/

omit hn hvisit in
/-- A mapping that has grown since it was read has changed. -/
theorem stillOfSize {k : Node} (hk : K.known k) {es : List (Key × Value)}
    (hes : K.Reads k (.map es)) {v? : Option Value} :
    Preserves K n v? (Check.stillOfSize k es.length) fun _ => True := by
  obtain ⟨s₀, p₀, hinv₀, hread⟩ := hes
  intro s p hinv hbegun
  unfold Check.stillOfSize
  rw [content_bind]
  by_cases hsize : (k.content p.writes).entries.length ≠ es.length
  · rw [if_pos hsize]
    refine ⟨⟨hinv, ⟨[], .start⟩, ?_⟩, nofun⟩
    rintro _ ⟨⟩
    apply hK.changed hk hinv₀ hinv
    intro hsame
    apply hsize
    rw [hsame, hread]
    rfl
  · rw [if_neg hsize]
    exact ⟨⟨hinv, ⟨[], .start⟩, nofun⟩, fun _ _ => trivial⟩

omit hn in
theorem declaredProperties (hv : v.IsContainer) {k : Node} (hk : K.known k)
    {all : List (Key × Value)} (hread : K.Reads k (.map all)) (es : List (Key × Value))
    (hes : ∀ e ∈ es, K.known (k.down (.entry e.1) e.2)) :
    Preserves K n (some v) (Check.declaredProperties visit k all.length es) fun _ => True := by
  induction es with
  | nil => exact .skip
  | cons e rest ih =>
    obtain ⟨key, definition⟩ := e
    have hfirst : Preserves K n (some v) (Check.declaredProperty visit k key definition)
        fun _ => True := by
      have hdefinition := hes (key, definition) (List.mem_cons_self ..)
      exact .whenTrue (.member hK hvisit hdefinition hv (.entry key))
    refine .bind hfirst fun _ _ => .bind (.stillOfSize hK hk hread) fun _ _ => ?_
    exact ih fun e he => hes e (List.mem_cons_of_mem _ he)

omit hn hvisit in
theorem admission {policy : Node} {key : Key} (hkey : key ∈ v.keys) (declared : Option Value) :
    Preserves K n (some v) (Check.admission policy key declared) fun _ => True :=
  .whenTrue (.failAt hK hkey trivial)

omit hn hvisit in
theorem requirementRule {key : Key} (hkey : key ∈ v.keys) (declared : Option Value) :
    Preserves K n (some v) (Check.requirementRule key declared) fun _ => True := by
  unfold Check.requirementRule
  split
  · exact .skip
  · refine .value fun w hkept => .whenTrue ?_
    exact .failAt hK (Value.mem_keys_of_keptIn hkept hkey) trivial
  · exact .failAt hK hkey trivial

omit hn in
theorem policyRule (hv : v.IsContainer) {k policy : Node} (hk : K.known k)
    (hpolicy : K.known policy) (key : Key) :
    Preserves K n (some v) (Check.policyRule visit k policy key) fun _ => True := by
  refine .bind (.content hK hk) fun a _ => .whenTrue ?_
  exact .member hK hvisit hpolicy hv (.entry key)

omit hn in
/-- A schema that an entry carries is known where it is enforced, and otherwise passed over. -/
theorem ownSchema (hv : v.IsContainer) (key : Key) :
    Preserves K n (some v) (Check.ownSchema visit key) fun _ => True := by
  intro s p hinv hbegun
  have hpasses : K.Ends s p ((.ok (), p) : Except Failure Unit × Progress) :=
    ⟨hinv, ⟨[], .start⟩, nofun⟩
  unfold Check.ownSchema
  rw [scope_bind]
  cases hi : s.interactive with
  | true => exact ⟨hpasses, fun _ _ => trivial⟩
  | false =>
    simp only [Bool.false_eq_true, if_false]
    rw [value_bind]
    cases he : Value.entryAt? key p.slot.value.entries with
    | none => exact ⟨hpasses, fun _ _ => trivial⟩
    | some w =>
      cases w with
      | map es =>
        dsimp only
        cases ho : Value.entryAt? (.name "$schema") es with
        | none => exact ⟨hpasses, fun _ _ => trivial⟩
        | some own =>
          rw [Option.getD_some]
          cases own.isTruthy with
          | false => exact ⟨hpasses, fun _ _ => trivial⟩
          | true =>
            rw [if_pos rfl]
            cases own.isMap with
            | false => exact Preserves.note hK rfl rfl s p hinv hbegun
            | true =>
              rw [if_pos rfl]
              have hown := hK.carried hinv hi he ho
              exact Preserves.member hK hvisit hown hv (.entry key) s p hinv hbegun
      | _ => exact ⟨hpasses, fun _ _ => trivial⟩

omit hn in
theorem entry (hv : v.IsContainer) {k policy : Node} (hk : K.known k) (hpolicy : K.known policy)
    {key : Key} (hkey : key ∈ v.keys) :
    Preserves K n (some v) (Check.entry visit k policy key) fun _ => True := by
  refine .bind (.content hK hk) fun a _ => ?_
  refine .bind (.admission hK hkey _) fun _ _ => .bind (.requirementRule hK hkey _) fun _ _ => ?_
  exact .bind (.policyRule hK hvisit hv hk hpolicy key) fun _ _ => .ownSchema hK hvisit hv key

omit hn in
/-- Declared properties come first, and then the entries that the object has by then. -/
theorem object {k policy : Node} (hk : K.known k) (hpolicy : K.known policy) :
    Preserves K n (some v) (Check.object visit k policy) fun _ => True := by
  refine .bind (.content hK hk) fun a ⟨ha, hread⟩ => ?_
  cases a with
  | map es =>
    -- past this point the value is known to be a mapping
    refine .bind (Q := fun _ => v.isMap = true) ?_ fun _ hmap => ?_
    · refine .value fun w hkept => ?_
      have hclass : w.isMap = v.isMap := by
        cases v <;> cases w <;> first | rfl | cases hkept
      cases hmap : w.isMap with
      | true => exact .pure (hclass ▸ hmap)
      | false => exact .failKeyless hK trivial
    · have hes : ∀ e ∈ es, K.known (k.down (.entry e.1) e.2) := fun e he =>
        hK.part ha (.entry e.1) (List.mem_map_of_mem he)
      refine .bind (.declaredProperties hK hvisit (Or.inl hmap) hk hread es hes) fun _ _ => ?_
      refine .value fun w hkept => .each fun key hkey => ?_
      have hclass := Value.class?_of_keptIn hkept
      exact .entry hK hvisit (Value.isContainer_of_class? hclass (Or.inl hmap)) hk hpolicy hkey
  | _ => exact .failKeyless hK trivial

omit hn in
theorem additionalOnly {policy : Node} (hpolicy : K.known policy) :
    Preserves K n (some v) (Check.additionalOnly visit policy) fun _ => True := by
  refine .value fun w _ => ?_
  split
  · exact .skip
  · next hmap =>
    have hw : w.IsContainer := by
      left
      cases hw : w.isMap with
      | true => rfl
      | false =>
        rw [hw] at hmap
        simp at hmap
    refine .scope fun s => .each fun key hkey => ?_
    unfold additionalEntry
    split
    · exact .failAt hK hkey trivial
    · exact .member hK hvisit hpolicy hw (.entry key)

end Preserves

end Check

end Conformance

/-
  The rules on single values and on types, each with the question that it decides.

  An alternative of a type expression may be a schema of its own, which is left to `visit`, taken to
  decide whether the value conforms (`VisitDecides`).
-/
import Conformance.Proofs.Verdict

namespace Conformance

namespace Check

variable {v : Value} {n : Node}

/-! ## Rules on single values -/

theorem itemCounts_decides {xs : List Value} (hv : v.elements? = some xs) :
    Decides v (n.tree.CountFits xs.length) (itemCounts n) := by
  have hmin : Decides v (∀ b, n.tree.bound? "minItems" = some b →
      (count xs.length).lt b = false) (withBound n "minItems" fun bound w => do
        let length := ((← value).elements?.getD []).length
        if (count length).lt bound then fail (.tooFewItems w)) := by
    refine .withBound fun b w => .value ?_
    rw [hv]
    exact Decides.unless fun _ => .fail fun _ h => h
  have hmax : Decides v (∀ b, n.tree.bound? "maxItems" = some b →
      b.lt (count xs.length) = false) (withBound n "maxItems" fun bound w => do
        let length := ((← value).elements?.getD []).length
        if bound.lt (count length) then fail (.tooManyItems w)) := by
    refine .withBound fun b w => .value ?_
    rw [hv]
    exact Decides.unless fun _ => .fail fun _ h => h
  exact (hmin.and fun _ => hmax).congr ⟨fun h => ⟨h.1, h.2⟩, fun h => ⟨h.1, h.2⟩⟩

theorem patternRule_decides (s : String) :
    Decides v (∀ source, n.tree.get? "pattern" = some (.str source) →
      ∃ compiled, Pattern.read source = .ok compiled ∧ compiled.search s = .something)
      (patternRule n s) := by
  refine .field ?_
  cases hw : n.tree.get? "pattern" with
  | none => exact Decides.yes (by simp)
  | some w =>
    cases w with
    | null => exact Decides.yes (by simp)
    | str source =>
      dsimp only [Option.getD_some, unlessNull]
      cases hr : Pattern.read source with
      | error flaw =>
        cases flaw with
        | defect d => exact Decides.fail (by simp [hr])
        | _ => exact Decides.fault _
      | ok compiled =>
        dsimp only
        cases hs : compiled.search s with
        | something => exact Decides.yes (by simp [hr, hs])
        | nothing => exact Decides.fail (by simp [hr, hs])
        | reversedGroup => exact Decides.fault _
    | _ => exact Decides.fail fun h => by cases h

theorem textRules_decides (s : String) : Decides v (n.tree.TextFits s) (textRules n s) := by
  have hlong : Decides v (∀ b, n.tree.bound? "maxLength" = some b →
      b.lt (count s.length) = false) (withBound n "maxLength" fun bound w =>
        if bound.lt (count s.length) then fail (.tooLong w) else pure ()) :=
    .withBound fun b w => .unless fun _ => .fail fun _ h => h
  have hshort : Decides v (∀ b, n.tree.bound? "minLength" = some b →
      (count s.length).lt b = false) (withBound n "minLength" fun bound w =>
        if (count s.length).lt bound then fail (.tooShort w) else pure ()) :=
    .withBound fun b w => .unless fun _ => .fail fun _ h => h
  exact ((patternRule_decides s).and fun _ => hlong.and fun _ => hshort).congr
    ⟨fun h => ⟨h.1, h.2.1, h.2.2⟩, fun h => ⟨h.1, h.2, h.3⟩⟩

theorem boundAllowed_eq (n : Node) (name : String) :
    Check.boundAllowed n name =
      (Check.field? n name >>= fun w => pure ((w.map Value.isTruthy).getD true)) := by
  unfold Check.boundAllowed
  congr
  funext w
  cases w <;> rfl

theorem Ends.boundAllowed {α : Type} {Q : Except Failure α → Prop} {name : String}
    {f : Bool → Check α} (h : Ends v Q (f (n.tree.boundAllowed name))) :
    Ends v Q (Check.boundAllowed n name >>= f) := by
  rw [boundAllowed_eq, bind_assoc]
  exact .field? h

theorem numberRules_decides (x : Number) : Decides v (n.tree.NumberFits x) (numberRules n x) := by
  have hmin : Decides v (∀ b, n.tree.bound? "minimum" = some b →
      (if n.tree.boundAllowed "minimumCanEqual" then x.lt b else x.le b) = false)
      (withBound n "minimum" fun bound w => do
        let allowed ← boundAllowed n "minimumCanEqual"
        if (if allowed then x.lt bound else x.le bound) then fail (.belowMinimum w)) :=
    .withBound fun b w => .boundAllowed <| Decides.unless fun _ => .fail fun _ h => h
  have hmax : Decides v (∀ b, n.tree.bound? "maximum" = some b →
      (if n.tree.boundAllowed "maximumCanEqual" then b.lt x else b.le x) = false)
      (withBound n "maximum" fun bound w => do
        let allowed ← boundAllowed n "maximumCanEqual"
        if (if allowed then bound.lt x else bound.le x) then fail (.aboveMaximum w)) :=
    .withBound fun b w => .boundAllowed <| Decides.unless fun _ => .fail fun _ h => h
  have hdecimals : Decides v (∀ b shown, n.tree.bound? "maxDecimal" = some b →
      x.shownDecimals = some shown → b.lt (count shown) = false) (decimalRule n x) := by
    refine .field ?_
    have hbound : ((n.tree.get? "maxDecimal").getD .null).number? = n.tree.bound? "maxDecimal" := by
      cases hw : n.tree.get? "maxDecimal" <;> simp [Value.bound?, hw, Value.number?]
    rw [hbound]
    cases n.tree.bound? "maxDecimal" with
    | none => exact Decides.yes (by simp)
    | some b =>
      cases x.shownDecimals with
      | none => exact Decides.yes (by simp)
      | some shown => exact (Decides.unless fun _ => .fail fun _ h => h).congr (by simp)
  exact (hmin.and fun _ => hmax.and fun _ => hdecimals).congr
    ⟨fun h => ⟨h.1, h.2.1, h.2.2⟩, fun h => ⟨h.1, h.2, h.3⟩⟩

theorem enumRule_decides : Decides v (n.tree.Enumerated v) (enumRule n) := by
  unfold Value.Enumerated
  refine .field? ?_
  cases hw : n.tree.get? "enum" with
  | none => exact Decides.yes (by simp [Value.rule?, hw])
  | some e =>
    dsimp only
    cases hg : e.isGiven with
    | false =>
      have hrule : n.tree.rule? "enum" = none := by simp [Value.rule?, hw, hg]
      exact Decides.yes (by simp [hrule])
    | true =>
      have hrule : n.tree.rule? "enum" = some e := by simp [Value.rule?, hw, hg]
      rw [hrule, if_pos rfl]
      cases ho : options? e with
      | none => exact Decides.fault _
      | some options =>
        refine .value ?_
        have hquestion : (∀ e' options', some e = some e' → options? e' = some options' →
            options'.any (·.equal v) = true) ↔ options.any (·.equal v) = true := by
          constructor
          · exact fun h => h e options rfl ho
          · rintro h _ _ ⟨⟩ ho'
            cases ho.symm.trans ho'
            exact h
        rw [hquestion]
        cases ha : options.any fun o => o.equal v with
        | true => exact Decides.yes rfl
        | false => exact Decides.fail fun _ => by simp

/-- A label is no question about the value. -/
theorem labelRule_decides (label : String) : Decides v True (labelRule n label) := by
  refine .field (Decides.unlessNull (fun _ => trivial) fun _ => ?_)
  split
  · exact .yes trivial
  · exact .value (Decides.fail fun h => by cases h)

theorem closingRules_decides : Decides v (n.tree.Enumerated v) (closingRules n) :=
  (enumRule_decides.and fun _ => (labelRule_decides _).and fun _ => labelRule_decides _).congr
    (by simp)

/-! ## Type expressions -/

/-- A nested check decides whether the value conforms, if no reference leads elsewhere. -/
def VisitDecides (visit : Node → Check Unit) : Prop :=
  ∀ (n : Node) (v : Value), n.tree.refFree = true → v.ownRefFree = true →
    Decides v (v.Conforms n.tree) (visit n)

theorem mismatch_decides {P : Prop} (h : ¬ P) (expr : Node) : Decides v P (mismatch expr) :=
  .value <| .content <| Decides.fail fun _ => h

theorem classes_decide {P : Prop} {visit : Node → Check Unit} {members : List TypeClass}
    (h : v.isInstance members = true ↔ P) (expr : Node) :
    Decides v P (resolvedType visit (.classes members) expr) := by
  refine .value ?_
  cases hi : v.isInstance members with
  | true => exact Decides.yes (h.mp hi)
  | false => exact mismatch_decides (by rw [← h, hi]; simp) expr

/-- A type name that is known fits the values of the kind it names. -/
theorem name_decides {visit : Node → Check Unit} {name : String} {t : TypeTest}
    (h : TypeTest.ofName? name = some t) (expr : Node) :
    Decides v (v.fitsName name) (resolvedType visit t expr) := by
  unfold TypeTest.ofName? at h
  repeat' split at h
  all_goals cases h
  all_goals subst name
  -- the name for all kinds is the only one that is not resolved to classes
  case isFalse.isFalse.isFalse.isFalse.isFalse.isFalse.isFalse.isTrue =>
    exact Decides.yes (Or.inl rfl)
  all_goals
    refine classes_decide ?_ expr
    cases v <;>
      simp [Value.isInstance, Value.class?, Value.fitsName, Value.kind, TypeClass.includes]

theorem text_decides {visit : Node → Check Unit} {name : String} {t : TypeTest}
    (h : TypeTest.ofText name = .ok t) (expr : Node) :
    Decides v (v.fitsName name) (resolvedType visit t expr) := by
  unfold TypeTest.ofText at h
  split at h
  · cases h
    exact name_decides ‹_› expr
  · cases h

variable {visit : Node → Check Unit}

mutual

/-- A resolved expression decides whether the value fits it. -/
theorem resolvedType_decides (hvisit : VisitDecides visit) (hv : v.ownRefFree = true) :
    ∀ {tree : Value} {origin : Place} {t : TypeTest}, TypeTest.ofValue origin tree = .ok t →
      tree.refFree = true → ∀ expr, Decides v (v.Fits tree) (resolvedType visit t expr)
  | .null, _, _, h, _, _ => by
    cases h
    exact .yes (by rw [Value.Fits]; trivial)
  | .bool false, _, _, h, _, _ => by
    cases h
    exact .yes (by rw [Value.Fits]; trivial)
  | .map es, origin, _, h, hr, _ => by
    cases h
    rw [Value.Fits]
    exact hvisit ⟨origin, .map es⟩ v hr hv
  | .cls c, _, _, h, _, expr => by
    cases h
    rw [Value.Fits]
    refine classes_decide ?_ expr
    unfold Value.isInstance
    cases v.class? with
    | none => simp
    | some d => simp [TypeClass.includes, Eq.comm (a := c)]
  | .list items, origin, t, h, hr, expr => by
    unfold TypeTest.ofValue at h
    cases hi : TypeTest.ofItems origin 0 items with
    | error name =>
      rw [hi] at h
      cases h
    | ok ts =>
      rw [hi] at h
      cases h
      have hany := anyAlternative_decides hvisit hv hi
        (fun x hx => Value.everyMapping_part hr hx) expr 0
      have hfits : v.Fits (.list items) ↔ ∃ t ∈ items, v.Fits t := by
        rw [Value.Fits]
        simp
      refine hany.decide fun b hb => ?_
      rw [hfits, ← hb]
      cases b with
      | true => exact .yes rfl
      | false => exact mismatch_decides (by simp) expr
  | .bool true, _, _, h, _, expr => by
    rw [Value.Fits]
    exact text_decides (by rwa [TypeTest.ofValue] at h) expr
  | .missing, _, _, h, _, expr => by
    rw [Value.Fits]
    exact text_decides (by rwa [TypeTest.ofValue] at h) expr
  | .int _, _, _, h, _, expr => by
    rw [Value.Fits]
    exact text_decides (by rwa [TypeTest.ofValue] at h) expr
  | .float _, _, _, h, _, expr => by
    rw [Value.Fits]
    exact text_decides (by rwa [TypeTest.ofValue] at h) expr
  | .str _, _, _, h, _, expr => by
    rw [Value.Fits]
    exact text_decides (by rwa [TypeTest.ofValue] at h) expr
  | .tuple _, _, _, h, _, expr => by
    rw [Value.Fits]
    exact text_decides (by rwa [TypeTest.ofValue] at h) expr

/-- Trying alternatives answers whether the value fits one of them. -/
theorem anyAlternative_decides (hvisit : VisitDecides visit) (hv : v.ownRefFree = true) :
    ∀ {items : List Value} {origin : Place} {j : Nat} {ts : List TypeTest},
      TypeTest.ofItems origin j items = .ok ts → (∀ x ∈ items, x.refFree = true) → ∀ expr i,
      Ends v (Answer fun b => b = true ↔ ∃ t ∈ items, v.Fits t) (anyAlternative visit ts expr i)
  | [], _, _, _, h, _, _, _ => by
    cases h
    exact .pure (by simp)
  | x :: rest, origin, j, ts, h, hr, expr, i => by
    unfold TypeTest.ofItems at h
    cases hx : TypeTest.ofValue (origin.down (.index j)) x with
    | error name =>
      rw [hx] at h
      cases h
    | ok t =>
      cases hrest : TypeTest.ofItems origin (j + 1) rest with
      | error name =>
        rw [hx, hrest] at h
        cases h
      | ok us =>
        rw [hx, hrest] at h
        cases h
        have hfirst := resolvedType_decides hvisit hv hx (hr x (List.mem_cons_self ..))
        have hothers := anyAlternative_decides hvisit hv hrest
          (fun y hy => hr y (List.mem_cons_of_mem _ hy)) expr (i + 1)
        refine .element ((Ends.attempt (hfirst _)).answer fun e he => ?_)
        cases e with
        | none => exact .pure (by simp [he.mp rfl])
        | some e =>
          -- the first alternative has been rejected, so the others are all that matters
          have hno : ¬ v.Fits x := fun hx => absurd (he.mpr hx) (by simp)
          have hsame : (∃ t ∈ x :: rest, v.Fits t) ↔ ∃ t ∈ rest, v.Fits t := by simp [hno]
          rw [hsame]
          exact .scope fun s _ => .content (.note hothers)

end

/-- The rule on types decides whether the value fits the expression. -/
theorem typeRule_decides (hvisit : VisitDecides visit) (hn : n.tree.refFree = true)
    (hv : v.ownRefFree = true) : Decides v (v.Fits n.tree) (typeRule visit n) := by
  refine .content ?_
  cases ht : TypeTest.ofValue n.origin n.tree with
  | error name => exact Decides.failPlaceless fun h => by cases h
  | ok t => exact resolvedType_decides hvisit hv ht hn n

end Check

end Conformance

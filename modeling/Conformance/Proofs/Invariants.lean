/-
  Invariants of whole checks.

  A check against a schema keeps every invariant that survives its single steps
  (`against_preserves`): from wherever the condition holds, it holds at the end, and a failure is as
  the invariant says.  So a condition on progress has to be looked at for each thing that a check
  does, once, and not for each rule.

  The induction is on the depth that remains.  Entering a schema and registering it under its id are
  one step: between the two no other check is made, and a condition that ties the registry to the
  schemas entered holds only after both.
-/
import Conformance.Proofs.Invariants.Members
import Conformance.Proofs.Record

namespace Conformance

namespace Check

/-- A missing value that is an error is missing where it is required, or it is out of reach. -/
theorem of_missed_fails {schema : Value} {s : Scope} {slot : Slot} {f : Failure}
    (h : missed schema s slot = .fails f) :
    f = .violation ⟨.missing, s.key, some s.trail⟩ ∨ ¬ slot.InReach ∧ ∃ g, f = .fault g := by
  unfold missed at h
  split at h
  · cases h
    exact Or.inl rfl
  · split at h
    · cases h
    · split at h <;> cases h
      · exact Or.inr ⟨id, _, rfl⟩
      · exact Or.inr ⟨id, _, rfl⟩

/-- A remark on a missing value tells of no default. -/
theorem deposit?_of_missed {schema : Value} {s : Scope} {slot : Slot} {e : Event}
    (h : missed schema s slot = .remarks e) : e.deposit? = none := by
  unfold missed at h
  split at h
  · cases h
  · split at h
    · cases h
    · split at h <;> cases h
      rfl

/-- Registering a schema under its id never fails. -/
theorem idRule_run (n : Node) (s : Scope) (p : Progress) : idRule n s p = (.ok (), p.named n) := by
  unfold idRule whenGiven given? Progress.named
  rw [bind_assoc, field?_bind]
  unfold Value.rule?
  cases (n.content p.writes).get? "id" with
  | none => rfl
  | some id =>
    rw [Option.filter_some]
    dsimp only
    cases id.isGiven <;> rfl

/-- Registering deposits nothing. -/
theorem named_silent (n : Node) (p : Progress) : Silent p (p.named n) := by
  unfold Progress.named
  split
  · exact ⟨rfl, rfl, _, rfl, deposits_news ..⟩
  · exact .refl p

namespace Preserves

variable {K : RunInvariant} (hK : K.Preserved) {n : Node} (hn : K.known n)
    {visit : Node → Check Unit}
  (hvisit : K.PreservedBy visit) {v : Value} {v? : Option Value}

include hK hn

/-! ## Missing values -/

theorem missingRules {s : Scope} {p : Progress} (hinv : K.inv s p) (hbegun : RulesBegun n v? s p)
    (hmissing : p.slot.value = .missing) : K.Ends s p (Check.missingRules n s p) := by
  have hmoves : ∃ ds, Moves s p ds (Check.missingRules n s p).2 :=
    (missingRules_tracked n s p (Or.inl hbegun.entered)).2.2
  rw [missingRules_run] at hmoves ⊢
  cases hm : missed (n.content p.writes) s p.slot with
  | passes => exact ⟨hinv, ⟨[], .start⟩, nofun⟩
  | remarks e =>
    rw [hm] at hmoves
    exact ⟨hK.note hinv e (frames_of_missed hm) (deposit?_of_missed hm), hmoves, nofun⟩
  | filled σ w =>
    rw [hm] at hmoves
    exact ⟨hK.written hinv hn hm, hmoves, nofun⟩
  | fails f =>
    refine ⟨hinv, ⟨[], .start⟩, ?_⟩
    rintro _ ⟨⟩
    -- the failures are those of the requirement and of a key that is out of reach
    rcases of_missed_fails hm with rfl | ⟨hreach, g, rfl⟩
    · exact hK.missing hinv hmissing
    · exact hK.astray hinv hreach g

/-! ## Values that are there -/

include hvisit

/-- The type is attempted, and success is the failure. -/
theorem disallowRule : Preserves K n (some v) (Check.disallowRule visit n) fun _ => True := by
  refine .whenGiven hK hn "disallow" fun expr hexpr => ?_
  refine .bind (.attempt (.typeRule hK hvisit hexpr)) fun r _ => ?_
  cases r with
  | none => exact .fail hK (by simp [Cause.kind])
  | some e => exact .skip

theorem memberRules : Preserves K n (some v) (Check.memberRules visit n v) fun _ => True := by
  unfold Check.memberRules
  -- arrays have items, any other value has declarations, a policy, or neither
  cases hv : v.elements? with
  | some xs => exact .items hK hn hvisit (Or.inr (by rw [hv]; rfl))
  | none =>
    refine .bind (.given? hK hn "properties") fun declarations hdeclarations => ?_
    cases declarations with
    | some k =>
      refine .bind (.additionalPolicy hK hn) fun policy hpolicy => ?_
      exact .object hK hvisit (hdeclarations k rfl) hpolicy
    | none =>
      refine .bind (.content hK hn) fun a _ => .whenTrue ?_
      refine .bind (.additionalPolicy hK hn) fun policy hpolicy => ?_
      exact .additionalOnly hK hvisit hpolicy

theorem presentRules : Preserves K n (some v) (Check.presentRules visit n v) fun _ => True := by
  have hcontent : Preserves K n (some v) (contentRules visit n v) fun _ => True := by
    refine .bind (.memberRules hK hn hvisit) fun _ _ => ?_
    refine .bind ((Judges.scalarRules n v).preserves hK hn) fun _ _ => ?_
    exact (Judges.closingRules n).preserves hK hn
  refine .bind (.whenGiven hK hn "type" fun r hr => .typeRule hK hvisit hr) fun _ _ => ?_
  refine .bind (.disallowRule hK hn hvisit) fun _ _ => ?_
  cases v with
  | null => exact .skip
  | _ => exact hcontent

/-! ## References and bases -/

/-- A reference leads to a node that is registered, and those are known. -/
theorem refRule : Preserves K n v? (Check.refRule visit n) fun _ => True := by
  refine .bind (.field? hK hn "$ref") fun a _ => ?_
  split
  · next ref _ =>
    intro s p hinv hbegun
    unfold follow
    rw [progress_bind]
    cases hfind : p.registry.find? ref with
    | none =>
      dsimp only
      rw [scope_bind]
      exact Preserves.note hK rfl rfl s p hinv hbegun
    | some target =>
      dsimp only
      -- a reference to the node itself is passed over
      by_cases hself : target.origin = n.origin
      · rw [if_pos hself]
        exact Preserves.skip s p hinv hbegun
      · rw [if_neg hself]
        exact ⟨hvisit target (hK.found hinv hfind) s p hinv, fun _ _ => trivial⟩
  · exact .skip

/-- Bases are parts of a known node, and those are known. -/
theorem extendsRule : Preserves K n v? (Check.extendsRule visit n) fun _ => True := by
  refine .whenGiven hK hn "extends" fun r hr => ?_
  split
  · exact .eachElement hK hr fun _ base hbase => .here hvisit hbase
  · exact .here hvisit hr

/-! ## All rules -/

/-- The rules for a value, be it missing or not. -/
theorem ownRules : Preserves K n v? (Check.ownRules visit n) fun _ => True := by
  intro s p hinv hbegun
  by_cases hmissing : p.slot.value = .missing
  · have hrun : Check.ownRules visit n s p = Check.missingRules n s p := by
      unfold Check.ownRules
      rw [value_bind, hmissing]
    rw [hrun]
    exact ⟨missingRules hK hn hinv hbegun hmissing, fun _ _ => trivial⟩
  · have hrun : Check.ownRules visit n s p = Check.presentRules visit n p.slot.value s p := by
      unfold Check.ownRules
      rw [value_bind]
      cases hvalue : p.slot.value with
      | missing => exact absurd hvalue hmissing
      | _ => rfl
    rw [hrun]
    refine Preserves.presentRules hK hn hvisit s p hinv ⟨hbegun.entered, ?_⟩
    rintro _ ⟨⟩
    exact ⟨hmissing, p.slot.value, Slot.eq_present hmissing, Value.keptIn_refl _⟩

end Preserves

variable {K : RunInvariant} (hK : K.Preserved)

include hK

/-- Checks keep an invariant one level deeper, if they keep it where the rules visit. -/
theorem nested_ends {visit : Node → Check Unit} (hvisit : K.PreservedBy visit) {k : Node}
    (hk : K.known k) {s : Scope} {p : Progress} (hinv : K.inv s p) :
    K.Ends s p (nested k (property visit k) s p) := by
  let p₁ := p.tell (.entered k s.trail s.deeper.depth)
  have hentered : Silent p p₁ := .of_events rfl rfl [_] rfl (by simp [Event.deposit?])
  have hnamed : Silent p₁ (p₁.named k) := named_silent k p₁
  have hrun : property visit k s.deeper p₁ =
      (refRule visit k >>= fun _ => extendsRule visit k >>= fun _ => ownRules visit k)
        s.deeper (p₁.named k) := bind_run_ok (idRule_run k s.deeper p₁)
  -- the id has been registered before the other rules begin, and the journal tells of the beginning
  have hbegun : RulesBegun k none s.deeper (p₁.named k) := by
    refine ⟨⟨s.deeper.depth, ?_⟩, fun v hv => absurd hv (Option.not_mem_none v)⟩
    exact (Moves.of_silent (s := s) hnamed).mem_journal (List.mem_cons_self ..)
  have hrules : Preserves K k none
      (refRule visit k >>= fun _ => extendsRule visit k >>= fun _ => ownRules visit k)
      fun _ => True :=
    .bind (.refRule hK hk hvisit) fun _ _ => .bind (.extendsRule hK hk hvisit) fun _ _ =>
      .ownRules hK hk hvisit
  obtain ⟨⟨hinv', ⟨ds, hm⟩, hfails⟩, _⟩ := hrules s.deeper _ (hK.enter hk hinv) hbegun
  rw [← hrun] at hinv' hm hfails
  refine ⟨hK.leave hinv' _, ⟨[] ++ ds, ?_⟩, fun f hf => hK.fails_leave (hfails f hf) _⟩
  refine .silent ((Moves.of_silent (hentered.trans hnamed)).trans hm.deeper) ?_
  exact .of_events rfl rfl [_] rfl (by simp [Event.deposit?])

/-- Checks against schemas keep every invariant that survives their single steps. -/
theorem against_preserves (depth : Nat) : K.PreservedBy (against depth) := by
  induction depth with
  | zero =>
    intro k hk s p hinv
    cases hm : (k.content p.writes).isMap with
    | true =>
      rw [against_zero_of_map hm]
      refine ⟨hinv, ⟨[], .start⟩, ?_⟩
      rintro _ ⟨⟩
      exact hK.tooDeep hinv
    | false =>
      rw [against_of_not_map hm]
      exact ⟨hinv, ⟨[], .start⟩, nofun⟩
  | succ depth ih =>
    intro k hk s p hinv
    cases hm : (k.content p.writes).isMap with
    | true =>
      rw [against_succ_of_map hm]
      exact nested_ends hK ih hk hinv
    | false =>
      rw [against_of_not_map hm]
      exact ⟨hinv, ⟨[], .start⟩, nofun⟩

/-- So does the check of a whole instance, if the schema it is checked against is known. -/
theorem rootCheck_ends (v : Validator) {inst schema : Node}
    (hknown : ∀ k, Validator.rootSchema? inst schema = some k → K.known k) {s : Scope} {p : Progress}
    (hinv : K.inv s p) : K.Ends s p (v.rootCheck inst schema s p) := by
  cases hroot : Validator.rootSchema? inst schema with
  | some k =>
    rw [Validator.rootCheck_of_some hroot]
    exact against_preserves hK v.settings.maxDepth k (hknown k hroot) s p hinv
  | none =>
    obtain ⟨remarks, hremarks, hrun⟩ := Validator.rootCheck_of_none hroot
    rw [hrun]
    refine ⟨?_, ⟨[], .of_silent (.of_events rfl rfl remarks rfl ?_)⟩, nofun⟩
    -- one remark after the other keeps the condition
    · clear hrun
      induction remarks with
      | nil => exact hinv
      | cons e rest ih =>
        obtain ⟨kind, rfl⟩ := hremarks e (List.mem_cons_self ..)
        exact hK.note (ih fun f hf => hremarks f (List.mem_cons_of_mem _ hf)) _ rfl rfl
    · intro e he
      obtain ⟨kind, rfl⟩ := hremarks e he
      rfl

end Check

end Conformance

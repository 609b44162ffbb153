/-
  Runs that write nothing.

  A check that has written no default comes to the same where defaults are not written at all, if
  the value carries no schemas to be enforced (`against_sameUnwritten`).  Whatever was registered or
  written before is the same for the two runs.  They differ at two rules only, those on a missing
  value and on the schema that an entry carries, and there the first run would have written
  something, or been cut short, if it had made a difference.
-/
import Conformance.Proofs.EqualSchemas

namespace Conformance

namespace Check

/-! ## Moves without writes -/

/-- Moves that add no writes leave the slot alone. -/
theorem Moves.slot_of_writes {s : Scope} {p q : Progress} {ds : List Deposit} (h : Moves s p ds q)
    (hw : q.writes = p.writes) : q.slot = p.slot := by
  have hlength := congrArg List.length (h.writes.symm.trans hw)
  have hnil : ds = [] := by
    apply List.length_eq_zero_iff.mp
    simpa using hlength
  exact h.slot.eq_of_nil hnil

/-- Moves one after the other that add no writes in all add none each. -/
theorem Moves.writes_eq {s : Scope} {p q r : Progress} {ds es : List Deposit}
    (h : Moves s p ds q) (h' : Moves s q es r) (hw : r.writes = p.writes) :
    q.writes = p.writes ∧ r.writes = q.writes := by
  have hq := h.writes
  have hr := h'.writes
  rw [hr, hq, ← List.append_assoc, List.append_left_eq_self, List.append_eq_nil_iff] at hw
  rw [hw.1] at hr
  rw [hw.2] at hq
  exact ⟨hq, hr⟩

/-! ## SameButMode -/

/-- Places in one run where defaults are written and one where they are not, with the same behind
    them and a value that carries no schemas to be enforced. -/
structure SameButMode (s s' : Scope) (p p' : Progress) : Prop where
  key : s.key = s'.key
  trail : s.trail = s'.trail
  interactive : s.interactive = true
  interactive' : s'.interactive = false
  slot : p.slot = p'.slot
  registry : p.registry = p'.registry
  writes : p.writes = p'.writes
  plain : p.slot.value.plain = true

/-- A check that has written nothing is cut short, or comes to the same where nothing is written. -/
def SameUnwritten {α β : Type} (Pre : Scope → Progress → Prop) (R : α → β → Prop) (c : Check α)
    (d : Check β) : Prop :=
  ∀ s s' p p', Pre s p → SameButMode s s' p p' → (c s p).2.writes = p.writes →
    CutShort (c s p).1 ∨ SameEnd R (c s p).1 (d s' p').1 ∧ (d s' p').2.slot = p'.slot ∧
      (d s' p').2.writes = p'.writes ∧ (c s p).2.registry = (d s' p').2.registry

namespace SameUnwritten

variable {Pre : Scope → Progress → Prop}

theorem of_still {α β : Type} {R : α → β → Prop} {c : Check α} {d : Check β}
    (hc : ∀ s p, (c s p).2.registry = p.registry) (hd : ∀ s p, (d s p).2.slot = p.slot ∧
      (d s p).2.writes = p.writes ∧ (d s p).2.registry = p.registry)
    (h : ∀ s s' p p', SameButMode s s' p p' → SameEnd R (c s p).1 (d s' p').1) :
    SameUnwritten Pre R c d := by
  intro s s' p p' _ ha _
  obtain ⟨hslot, hwrites, hregistry⟩ := hd s' p'
  refine Or.inr ⟨h s s' p p' ha, hslot, hwrites, ?_⟩
  rw [hc, hregistry, ha.registry]

theorem bind {α β γ δ : Type} {n : Node} {R : α → β → Prop} {Q : γ → δ → Prop} {c : Check α}
    {d : Check β} {f : α → Check γ} {g : β → Check δ} (ht : Tracked n R c d)
    (hft : ∀ a b, R a b → Tracked n Q (f a) (g b)) (hc : SameUnwritten (Ready n) R c d)
    (hf : ∀ a b, R a b → SameUnwritten (Ready n) Q (f a) (g b)) :
    SameUnwritten (Ready n) Q (c >>= f) (d >>= g) := by
  intro s s' p p' hn ha hw
  obtain ⟨hr, _, ds, hm⟩ := ht s p hn
  rw [bind_run] at hw ⊢
  rw [bind_run]
  have hfirst := hc s s' p p' hn ha
  rcases hcr : c s p with ⟨r, q⟩
  rcases hcr' : d s p with ⟨r₀, q₀⟩
  rcases hdr : d s' p' with ⟨r', q'⟩
  rw [hcr] at hw hm
  rw [hcr, hcr'] at hr
  rw [hcr, hdr] at hfirst
  cases r with
  | error e =>
    rcases hfirst hw with ⟨f, he, hearly⟩ | ⟨hsame, hrest⟩
    · cases he
      exact Or.inl ⟨e, rfl, hearly⟩
    · cases hsame
      exact Or.inr ⟨.error _, hrest⟩
  | ok a =>
    cases hr with
    | @ok _ b hab =>
      have hn' := hn.of_moves hm
      obtain ⟨_, _, es, hm'⟩ := hft a b hab s q hn'
      -- what has written nothing in all has written nothing before, and nothing after
      obtain ⟨hw₁, hw₂⟩ := hm.writes_eq hm' hw
      rcases hfirst hw₁ with ⟨f, he, _⟩ | ⟨hsame, hslot, hwrites, hregistry⟩
      · cases he
      · cases hsame with
        | @ok _ b' hab' =>
          have hq := hm.slot_of_writes hw₁
          have ha' : SameButMode s s' q q' :=
            ⟨ha.key, ha.trail, ha.interactive, ha.interactive', (hq.trans ha.slot).trans hslot.symm,
              hregistry, (hw₁.trans ha.writes).trans hwrites.symm, by rw [hq]; exact ha.plain⟩
          have hrest := hf a b' hab' s s' q q' hn' ha' hw₂
          rwa [hslot, hwrites] at hrest

theorem attempt {c d : Check Unit} (h : SameUnwritten Pre Eq c d) :
    SameUnwritten Pre Eq (Check.attempt c) (Check.attempt d) := by
  intro s s' p p' hn ha hw
  rw [attempt_progress] at hw ⊢
  rw [attempt_progress]
  rcases h s s' p p' hn ha hw with hcut | ⟨hsame, hrest⟩
  · exact Or.inl (attempt_cutShort hcut)
  · exact Or.inr ⟨attempt_sameEnd hsame, hrest⟩

/-- A member of a value that carries no schemas to be enforced carries none. -/
theorem plain_member {v : Value} (h : v.plain = true) (step : Step) :
    (v.member step).plain = true := by
  rcases v.member_mem_parts step with hp | hm
  · have hpart := Value.innerMappings_part h hp
    simp only [Value.everyMapping, Bool.and_eq_true] at hpart
    exact hpart.2
  · rw [hm]
    rfl

theorem atChild {α β : Type} {R : α → β → Prop} {c : Check α} {d : Check β}
    (h : SameUnwritten (fun _ _ => True) R c d) (step : Step) :
    SameUnwritten Pre R (Check.atChild step c) (Check.atChild step d) := by
  intro s s' p p' _ ha hw
  have hmember (σ : Slot) (hσ : σ.value.plain = true)
      (hwσ : (c (s.child step) { p with slot := σ }).2.writes = p.writes) :=
    h (s.child step) (s'.child step) { p with slot := σ } { p' with slot := σ } trivial
      ⟨rfl, congrArg (fun t => t ++ [step]) ha.trail, ha.interactive, ha.interactive', rfl,
        ha.registry, ha.writes, hσ⟩ hwσ
  have hplain := ha.plain
  unfold Check.atChild at hw ⊢
  rw [← ha.slot]
  split at hw
  · next container hp =>
    rw [hp] at hplain ⊢
    have hσ : (container.slotBelow step).value.plain = true := by
      rw [Value.slotBelow_value]
      exact plain_member hplain step
    rcases hmember _ hσ hw with hcut | ⟨hsame, hslot, hrest⟩
    · exact Or.inl hcut
    · refine Or.inr ⟨hsame, ?_, hrest⟩
      dsimp only
      rw [hslot, Value.settle_slotBelow, ← hp, ha.slot]
  · next hp =>
    rcases hmember .held rfl hw with hcut | ⟨hsame, _, hrest⟩
    · refine Or.inl ?_
      cases p.slot <;> exact hcut
    · refine Or.inr ?_
      cases hslot : p.slot with
      | present container => exact absurd hslot (hp container)
      | _ => exact ⟨hsame, rfl, hrest⟩

variable {visit : Node → Check Unit}

/-- Both runs find the same schema under a name. -/
theorem follow (hvisit : ∀ k, SameUnwritten (fun _ _ => True) Eq (visit k) (visit k)) (n : Node)
    (ref : String) :
    SameUnwritten Pre Eq (Check.follow visit n ref) (Check.follow visit n ref) := by
  intro s s' p p' _ ha hw
  unfold Check.follow at hw ⊢
  rw [progress_bind] at hw ⊢
  rw [progress_bind, ← ha.registry]
  generalize p.registry.find? ref = found at hw ⊢
  cases found with
  | none => exact Or.inr ⟨.ok rfl, rfl, rfl, ha.registry⟩
  | some target =>
    dsimp only at hw ⊢
    by_cases ho : target.origin = n.origin
    · rw [if_pos ho]
      exact Or.inr ⟨.ok rfl, rfl, rfl, ha.registry⟩
    · rw [if_neg ho] at hw ⊢
      exact hvisit target s s' p p' trivial ha hw

theorem refRule (hvisit : ∀ k, SameUnwritten (fun _ _ => True) Eq (visit k) (visit k)) (n : Node) :
    SameUnwritten Pre Eq (Check.refRule visit n) (Check.refRule visit n) := by
  intro s s' p p' hn ha hw
  have hfield : (n.content p'.writes).get? "$ref" = (n.content p.writes).get? "$ref" := by
    rw [ha.writes]
  unfold Check.refRule at hw ⊢
  rw [field?_bind] at hw ⊢
  rw [field?_bind, hfield]
  generalize (n.content p.writes).get? "$ref" = r at hw ⊢
  cases r with
  | none => exact Or.inr ⟨.ok rfl, rfl, rfl, ha.registry⟩
  | some r =>
    cases r with
    | str ref => exact follow hvisit n ref s s' p p' hn ha hw
    | _ => exact Or.inr ⟨.ok rfl, rfl, rfl, ha.registry⟩

/-- An entry that carries no schema to be enforced has none to be checked against. -/
theorem ownSchema_of_plain {key : Key} {s : Scope} {p : Progress} (hs : s.interactive = false)
    (hp : p.slot.value.plain = true) : Check.ownSchema visit key s p = (.ok (), p) := by
  unfold Check.ownSchema
  rw [scope_bind, hs, if_neg (by simp), value_bind]
  cases hv : p.slot.value with
  | map es =>
    cases he : Value.entryAt? key es with
    | none => simp only [Value.entries, he]; rfl
    | some w =>
      cases w with
      | map entries =>
        rw [hv] at hp
        have hpart := Value.innerMappings_part hp (Value.mem_of_entryAt? he)
        simp only [Value.everyMapping, Value.atTop, Bool.and_eq_true, Bool.not_eq_true'] at hpart
        simp only [Value.entries, he, hpart.1]
        rfl
      | _ => simp only [Value.entries, he]; rfl
  | _ => rfl

theorem ownSchema (key : Key) :
    SameUnwritten Pre Eq (Check.ownSchema visit key) (Check.ownSchema visit key) := by
  intro s s' p p' _ ha _
  rw [ownSchema_eq ha.interactive, ownSchema_of_plain ha.interactive' (ha.slot ▸ ha.plain)]
  exact Or.inr ⟨.ok rfl, rfl, rfl, ha.registry⟩

theorem writeDefault_ends (v : Value) (s : Scope) (p : Progress) :
    ((writeDefault v s p).1 = .ok () ∨ CutShort (writeDefault v s p).1) ∧
      (writeDefault v s p).2.registry = p.registry := by
  unfold writeDefault
  split
  case h_3 => exact ⟨Or.inr ⟨_, rfl, trivial⟩, rfl⟩
  all_goals exact ⟨Or.inl rfl, rfl⟩

theorem defaultRule_ends (n : Node) (s : Scope) (p : Progress) :
    ((defaultRule n s p).1 = .ok () ∨ CutShort (defaultRule n s p).1) ∧
      (defaultRule n s p).2.registry = p.registry := by
  unfold defaultRule
  rw [scope_bind]
  cases s.interactive with
  | false => exact ⟨Or.inl rfl, rfl⟩
  | true =>
    rw [if_pos rfl]
    have hask : askKey s p = (.ok (), p) ∨ ∃ f, askKey s p = (.error (.fault f), p) := by
      unfold askKey
      split
      · exact Or.inr ⟨_, rfl⟩
      · exact Or.inl rfl
    rcases hask with hask | ⟨f, hask⟩
    · rw [bind_run_ok hask, content_bind]
      cases offer? (n.content p.writes) with
      | none => exact ⟨Or.inl rfl, rfl⟩
      | some v => exact writeDefault_ends v s p
    · rw [bind_run_error hask]
      exact ⟨Or.inr ⟨_, rfl, trivial⟩, rfl⟩

theorem missingRules (n : Node) :
    SameUnwritten (Ready n) Eq (Check.missingRules n) (Check.missingRules n) := by
  refine .bind (requiredRule_tracked n n) (fun _ _ _ => defaultRule_tracked n) ?_ fun _ _ _ => ?_
  · intro s s' p p' _ ha _
    rw [requiredRule_run, requiredRule_run, ← ha.key, ← ha.trail, ← ha.writes]
    refine Or.inr ?_
    split
    · exact ⟨.error _, rfl, ha.writes.symm, ha.registry⟩
    · exact ⟨.ok rfl, rfl, ha.writes.symm, ha.registry⟩
  · -- the second run does nothing here, and the first one ends well unless it is cut short
    intro s s' p p' _ ha _
    obtain ⟨hends, hregistry⟩ := defaultRule_ends n s p
    have hright : defaultRule n s' p' = (.ok (), p') := by
      unfold defaultRule
      rw [scope_bind, ha.interactive']
      rfl
    rw [hright, hregistry]
    rcases hends with hok | hcut
    · rw [hok]
      exact Or.inr ⟨.ok rfl, rfl, rfl, ha.registry⟩
    · exact Or.inl hcut

end SameUnwritten

/-- A check that goes the same way as itself is quiet, if the visits it makes are. -/
theorem Parallel.sameUnwritten {visit : Node → Check Unit} {n : Node}
    (hmoving : ∀ k, Moving (visit k))
    (hvisit : ∀ k, SameUnwritten (fun _ _ => True) Eq (visit k) (visit k)) {α β : Type}
    {R : α → β → Prop}
    {c : Check α} {d : Check β} (h : Parallel ⟨Eq, visit, visit, n, n⟩ R c d) :
    SameUnwritten (Ready n) R c d := by
  induction h with
  | pure hab =>
    exact .of_still (fun _ _ => rfl) (fun _ _ => ⟨rfl, rfl, rfl⟩) fun _ _ _ _ _ => .ok hab
  | bind first rest ihc ihf =>
    exact .bind (first.tracked hmoving) (fun a b hab => (rest a b hab).tracked hmoving) ihc ihf
  | attempt _ ih => exact .attempt ih
  | scope =>
    exact .of_still (fun _ _ => rfl) (fun _ _ => ⟨rfl, rfl, rfl⟩) fun _ _ _ _ ha =>
      .ok ⟨ha.key, ha.trail⟩
  | value =>
    exact .of_still (fun _ _ => rfl) (fun _ _ => ⟨rfl, rfl, rfl⟩) fun _ _ _ _ ha =>
      .ok (congrArg Slot.value ha.slot)
  | @content k l hkl =>
    cases hkl
    refine .of_still (fun _ _ => rfl) (fun _ _ => ⟨rfl, rfl, rfl⟩) fun _ _ p p' ha => .ok ?_
    rw [ha.writes]
    exact ⟨rfl, rfl⟩
  | stop f =>
    refine .of_still (fun _ _ => rfl) (fun _ _ => ⟨rfl, rfl, rfl⟩) fun _ _ _ _ ha => ?_
    rw [ha.key, ha.trail]
    exact .error _
  | rejected trail description message =>
    exact .of_still (fun _ _ => rfl) (fun _ _ => ⟨rfl, rfl, rfl⟩) fun _ _ _ _ _ => .ok rfl
  | register id hkl =>
    cases hkl
    intro s s' p p' _ ha _
    refine Or.inr ⟨.ok rfl, rfl, rfl, ?_⟩
    simp only [Check.register, ha.registry]
  | here hkl =>
    cases hkl
    exact fun s s' p p' _ ha hw => hvisit _ s s' p p' trivial ha hw
  | member step hkl =>
    cases hkl
    exact .atChild (hvisit _) step
  | reference => exact .refRule hvisit n
  | own key => exact .ownSchema key
  | missing => exact .missingRules n

/-- A check against a schema that has written nothing comes to the same where nothing is written. -/
theorem against_sameUnwritten (depth : Nat) (n : Node) :
    SameUnwritten (fun _ _ => True) Eq (against depth n) (against depth n) := by
  induction depth generalizing n with
  | zero =>
    intro s s' p p' _ ha _
    cases hm : (n.content p.writes).isMap with
    | true =>
      rw [against_zero_of_map hm]
      exact Or.inl ⟨_, rfl, rfl⟩
    | false =>
      rw [against_of_not_map hm, against_of_not_map (by rwa [← ha.writes])]
      exact Or.inr ⟨.ok rfl, rfl, rfl, ha.registry⟩
  | succ depth ih =>
    intro s s' p p' _ ha hw
    cases hm : (n.content p.writes).isMap with
    | true =>
      rw [against_succ_of_map hm] at hw ⊢
      rw [against_succ_of_map (by rwa [← ha.writes])]
      have hproperty := Parallel.sameUnwritten (against_moves depth) ih
        (Parallel.property (P := ⟨Eq, against depth, against depth, n, n⟩) .eq rfl)
      exact hproperty { s with depth := s.depth + 1 } { s' with depth := s'.depth + 1 }
        { p with journal := .entered n s.trail (s.depth + 1) :: p.journal }
        { p' with journal := .entered n s'.trail (s'.depth + 1) :: p'.journal }
        (Or.inl ⟨_, List.mem_cons_self ..⟩)
        ⟨ha.key, ha.trail, ha.interactive, ha.interactive', ha.slot, ha.registry, ha.writes,
          ha.plain⟩ hw
    | false =>
      rw [against_of_not_map hm, against_of_not_map (by rwa [← ha.writes])]
      exact Or.inr ⟨.ok rfl, rfl, rfl, ha.registry⟩

end Check

end Conformance

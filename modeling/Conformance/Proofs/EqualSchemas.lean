/-
  Runs against schemas that read the same.

  Two checks against schemas that read the same (`SameReading`) come to the same, whatever has been
  registered, written or recorded before, and wherever the schemas stand, as long as they name no
  other schemas and cannot change meanwhile.  The second run may have more depth to go, so it is only
  where the first one ends for want of depth that nothing can be said (`against_sameUncut`).
-/
import Conformance.Proofs.Moves
import Conformance.Proofs.Runs

namespace Conformance

/-- Schemas that read the same, name no others, and never change. -/
structure SameReading (k l : Node) : Prop where
  tree_eq : k.tree = l.tree
  refFree : k.tree.refFree = true
  left : k.InSchema
  right : l.InSchema

theorem SameReading.down {k l : Node} (h : SameReading k l) (step : Step) {v : Value}
    (hv : v.refFree = true) :
    SameReading (k.down step v) (l.down step v) := ⟨rfl, hv, h.left, h.right⟩

theorem SameReading.likeness : Check.Likeness SameReading where
  tree_eq h := h.tree_eq
  part h step _ hv := h.down step (Value.everyMapping_part h.refFree hv)
  blank h step _ hv := h.down step (by rcases hv with rfl | rfl <;> rfl)

theorem SameReading.content_left {k l : Node} (h : SameReading k l) (writes : List Write) :
    k.content writes = k.tree := h.left.content writes

theorem SameReading.content_right {k l : Node} (h : SameReading k l) (writes : List Write) :
    l.content writes = k.tree := (h.right.content writes).trans h.tree_eq.symm

namespace Check

/-! ## Runs that come to the same -/

/-- A failure that ends a run early: for want of depth, or because it cannot go on at all. -/
def EndsEarly : Failure → Prop
  | .violation e => e.errorClass = .nesting
  | .fault _ => True

/-- A run that has ended early. -/
def CutShort {α : Type} (r : Except Failure α) : Prop := ∃ f, r = .error f ∧ EndsEarly f

/-- An attempt that ends early ends as the check does. -/
theorem attempt_cutShort {c : Check Unit} {s : Scope} {p : Progress} (h : CutShort (c s p).1) :
    CutShort (attempt c s p).1 := by
  obtain ⟨f, hf, hearly⟩ := h
  refine ⟨f, ?_, hearly⟩
  unfold attempt
  rcases hcr : c s p with ⟨r, q⟩
  rw [hcr] at hf
  obtain rfl : r = .error f := hf
  cases f with
  | fault _ => rfl
  | violation e =>
    have hclass : e.errorClass = .nesting := hearly
    simp [hclass]

/-- From equal slots, at equal places, where defaults are written: the first check ends early, or both
    end alike and leave equal slots. -/
def SameUncut {α β : Type} (R : α → β → Prop) (c : Check α) (d : Check β) : Prop :=
  ∀ s s' p p', s.key = s'.key → s.trail = s'.trail → s.interactive = true →
    s'.interactive = true → p.slot = p'.slot →
      CutShort (c s p).1 ∨
        SameEnd R (c s p).1 (d s' p').1 ∧ (c s p).2.slot = (d s' p').2.slot

namespace SameUncut

/-- Two checks that leave their slots alone. -/
theorem of_still {α β : Type} {R : α → β → Prop} {c : Check α} {d : Check β}
    (hc : ∀ s p, (c s p).2.slot = p.slot) (hd : ∀ s p, (d s p).2.slot = p.slot)
    (h : ∀ s s' p p', s.key = s'.key → s.trail = s'.trail → s.interactive = true →
      s'.interactive = true → p.slot = p'.slot → SameEnd R (c s p).1 (d s' p').1) :
    SameUncut R c d := by
  intro s s' p p' hk ht hi hi' hp
  rw [hc, hd]
  exact Or.inr ⟨h s s' p p' hk ht hi hi' hp, hp⟩

theorem bind {α β γ δ : Type} {R : α → β → Prop} {Q : γ → δ → Prop} {c : Check α} {d : Check β}
    {f : α → Check γ} {g : β → Check δ} (hc : SameUncut R c d)
    (hf : ∀ a b, R a b → SameUncut Q (f a) (g b)) : SameUncut Q (c >>= f) (d >>= g) := by
  intro s s' p p' hk ht hi hi' hp
  rw [bind_run, bind_run]
  have hfirst := hc s s' p p' hk ht hi hi' hp
  rcases hcr : c s p with ⟨r, q⟩
  rcases hdr : d s' p' with ⟨r', q'⟩
  rw [hcr, hdr] at hfirst
  rcases hfirst with ⟨e, rfl, he⟩ | ⟨hsame, hslot⟩
  · exact Or.inl ⟨e, rfl, he⟩
  · cases hsame with
    | error e => exact Or.inr ⟨.error e, hslot⟩
    | ok hab => exact hf _ _ hab s s' q q' hk ht hi hi' hslot

theorem attempt {c d : Check Unit} (h : SameUncut Eq c d) :
    SameUncut Eq (Check.attempt c) (Check.attempt d) := by
  intro s s' p p' hk ht hi hi' hp
  rcases h s s' p p' hk ht hi hi' hp with hcut | ⟨hsame, hslot⟩
  · exact Or.inl (attempt_cutShort hcut)
  · rw [attempt_progress, attempt_progress]
    exact Or.inr ⟨attempt_sameEnd hsame, hslot⟩

theorem atChild {α β : Type} {R : α → β → Prop} {c : Check α} {d : Check β} (h : SameUncut R c d)
    (step : Step) : SameUncut R (Check.atChild step c) (Check.atChild step d) := by
  intro s s' p p' hk ht hi hi' hp
  have htrail : (s.child step).trail = (s'.child step).trail :=
    congrArg (fun t => t ++ [step]) ht
  have hmember (σ : Slot) := h (s.child step) (s'.child step) { p with slot := σ }
    { p' with slot := σ } rfl htrail hi hi' rfl
  unfold Check.atChild
  rw [← hp]
  split
  · next container _ =>
    rcases hmember (container.slotBelow step) with ⟨e, he, hn⟩ | ⟨hsame, hslot⟩
    · exact Or.inl ⟨e, he, hn⟩
    · exact Or.inr ⟨hsame, by dsimp only; rw [hslot]⟩
  · rcases hmember .held with ⟨e, he, hn⟩ | ⟨hsame, _⟩
    · exact Or.inl ⟨e, he, hn⟩
    · exact Or.inr ⟨hsame, rfl⟩

end SameUncut

/-- What happens to a slot when a default is written to it. -/
theorem writeDefault_sameUncut (v : Value) : SameUncut Eq (writeDefault v) (writeDefault v) := by
  intro s s' p p' _ _ _ _ hp
  refine Or.inr ?_
  unfold writeDefault
  rw [← hp]
  split
  all_goals first
    | exact ⟨.ok rfl, rfl⟩
    | exact ⟨.error _, hp⟩
    | exact ⟨.ok rfl, hp⟩

theorem askKey_sameUncut : SameUncut Eq askKey askKey := by
  intro s s' p p' _ _ _ _ hp
  refine Or.inr ?_
  unfold askKey
  rw [← hp]
  split
  · exact ⟨.error _, hp⟩
  · exact ⟨.ok rfl, hp⟩

theorem content_sameUncut {k l : Node} (h : SameReading k l) :
    SameUncut (fun a b => a = k.tree ∧ b = k.tree) (Check.content k) (Check.content l) :=
  .of_still (fun _ _ => rfl) (fun _ _ => rfl) fun _ _ p p' _ _ _ _ _ =>
    .ok ⟨h.content_left p.writes, h.content_right p'.writes⟩

theorem missingRules_sameUncut {k l : Node} (h : SameReading k l) :
    SameUncut Eq (missingRules k) (missingRules l) := by
  have hfield (name : String) : SameUncut (fun a b => a = k.tree.get? name ∧ b = k.tree.get? name)
      (Check.field? k name) (Check.field? l name) := by
    refine .of_still (fun _ _ => rfl) (fun _ _ => rfl) fun _ _ p p' _ _ _ _ _ => .ok ⟨?_, ?_⟩
    · rw [h.content_left]
    · rw [h.content_right]
  have hrequired : SameUncut Eq (requiredRule k) (requiredRule l) := by
    refine (hfield "required").bind ?_
    rintro _ _ ⟨rfl, rfl⟩
    split
    · refine .of_still (fun _ _ => rfl) (fun _ _ => rfl) fun s s' _ _ hk ht _ _ _ => ?_
      simp only [Check.fail, hk, ht]
      exact .error _
    · exact .of_still (fun _ _ => rfl) (fun _ _ => rfl) fun _ _ _ _ _ _ _ _ _ => .ok rfl
  refine hrequired.bind fun _ _ _ => ?_
  have hscope : SameUncut (fun a b : Scope => a.interactive = true ∧ b.interactive = true)
      Check.scope Check.scope :=
    .of_still (fun _ _ => rfl) (fun _ _ => rfl) fun _ _ _ _ _ _ hi hi' _ => .ok ⟨hi, hi'⟩
  refine hscope.bind fun a b ⟨ha, hb⟩ => ?_
  -- both runs write defaults, and both schemas offer the same one
  rw [ha, hb, if_pos rfl, if_pos rfl]
  refine askKey_sameUncut.bind fun _ _ _ => (content_sameUncut h).bind ?_
  rintro _ _ ⟨rfl, rfl⟩
  cases offer? k.tree with
  | none => exact .of_still (fun _ _ => rfl) (fun _ _ => rfl) fun _ _ _ _ _ _ _ _ _ => .ok rfl
  | some v => exact writeDefault_sameUncut v

/-- Checks that go the same way come to the same, if the visits they make do. -/
theorem Parallel.sameUncut {visit visit' : Node → Check Unit} {n n' : Node} (hn : SameReading n n')
    (hvisit : ∀ k l, SameReading k l → SameUncut Eq (visit k) (visit' l)) {α β : Type}
    {R : α → β → Prop}
    {c : Check α} {d : Check β} (h : Parallel ⟨SameReading, visit, visit', n, n'⟩ R c d) :
    SameUncut R c d := by
  induction h with
  | pure hab =>
    exact .of_still (fun _ _ => rfl) (fun _ _ => rfl) fun _ _ _ _ _ _ _ _ _ => .ok hab
  | bind _ _ ihc ihf => exact .bind ihc ihf
  | attempt _ ih => exact .attempt ih
  | scope =>
    exact .of_still (fun _ _ => rfl) (fun _ _ => rfl) fun _ _ _ _ hk ht _ _ _ => .ok ⟨hk, ht⟩
  | value =>
    exact .of_still (fun _ _ => rfl) (fun _ _ => rfl) fun _ _ _ _ _ _ _ _ hp =>
      .ok (congrArg Slot.value hp)
  | @content k l hkl =>
    refine .of_still (fun _ _ => rfl) (fun _ _ => rfl) fun _ _ p p' _ _ _ _ _ => .ok ?_
    rw [hkl.content_left, hkl.content_right]
    refine ⟨rfl, ?_⟩
    rw [show (⟨l.origin, k.tree⟩ : Node) = l by rw [hkl.tree_eq]]
    exact hkl
  | stop f =>
    refine .of_still (fun _ _ => rfl) (fun _ _ => rfl) fun s s' _ _ hk ht _ _ _ => ?_
    rw [hk, ht]
    exact .error _
  | rejected trail description message =>
    exact .of_still (fun _ _ => rfl) (fun _ _ => rfl) fun _ _ _ _ _ _ _ _ _ => .ok rfl
  | register id hkl =>
    exact .of_still (fun _ _ => rfl) (fun _ _ => rfl) fun _ _ _ _ _ _ _ _ _ => .ok rfl
  | here hkl => exact hvisit _ _ hkl
  | member step hkl => exact .atChild (hvisit _ _ hkl) step
  | reference =>
    have hleft := refRule_eq hn.left hn.refFree visit
    have hright := refRule_eq hn.right (hn.tree_eq ▸ hn.refFree) visit'
    refine .of_still (fun s p => ?_) (fun s p => ?_) fun s s' p p' _ _ _ _ _ => ?_
    · rw [hleft]
    · rw [hright]
    · rw [hleft, hright]
      exact .ok rfl
  | own key =>
    intro s s' p p' _ _ hi hi' hp
    rw [ownSchema_eq hi, ownSchema_eq hi']
    exact Or.inr ⟨.ok rfl, hp⟩
  | missing => exact missingRules_sameUncut hn

theorem nested_sameUncut {k l : Node} {c d : Check Unit} (h : SameUncut Eq c d) :
    SameUncut Eq (nested k c) (nested l d) := by
  intro s s' p p' hk ht hi hi' hp
  exact h { s with depth := s.depth + 1 } { s' with depth := s'.depth + 1 }
    { p with journal := .entered k s.trail (s.depth + 1) :: p.journal }
    { p' with journal := .entered l s'.trail (s'.depth + 1) :: p'.journal } hk ht hi hi' hp

/-- Checks against schemas that read the same come to the same, if the second may go as deep. -/
theorem against_sameUncut {depth depth' : Nat} (hd : depth ≤ depth') {k l : Node}
    (h : SameReading k l) :
    SameUncut Eq (against depth k) (against depth' l) := by
  induction depth generalizing depth' k l with
  | zero =>
    intro s s' p p' _ _ _ _ hp
    cases hm : k.tree.isMap with
    | true =>
      -- the second run may go on where the first one has no depth left
      rw [against_zero_of_map (by rwa [h.content_left])]
      exact Or.inl ⟨_, rfl, rfl⟩
    | false =>
      rw [against_of_not_map (by rwa [h.content_left]),
        against_of_not_map (by rwa [h.content_right])]
      exact Or.inr ⟨.ok rfl, hp⟩
  | succ depth ih =>
    obtain ⟨depth', rfl⟩ := Nat.exists_eq_add_of_lt hd
    intro s s' p p' hk ht hi hi' hp
    cases hm : k.tree.isMap with
    | true =>
      rw [against_succ_of_map (by rwa [h.content_left]),
        against_succ_of_map (by rwa [h.content_right])]
      have hproperty := Parallel.sameUncut h (fun k l hkl => ih (by omega) hkl)
        (Parallel.property (P := ⟨SameReading, against depth, against (depth + depth'), k, l⟩)
          SameReading.likeness h)
      exact nested_sameUncut hproperty s s' p p' hk ht hi hi' hp
    | false =>
      rw [against_of_not_map (by rwa [h.content_left]),
        against_of_not_map (by rwa [h.content_right])]
      exact Or.inr ⟨.ok rfl, hp⟩

end Check

end Conformance

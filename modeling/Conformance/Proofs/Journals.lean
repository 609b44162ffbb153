/-
  The journal plays no part.

  A check adds to the journal and never reads it.  So a run that begins with further events in its
  journal comes to the same, and has these events behind its own at the end (`IgnoresJournal`).
  Every check that is put together from such visits is so (`Parallel.ignoresJournal`), and with that
  every check against a schema (`against_ignoresJournal`).

  Two runs that begin alike but for what their journals tell are the case that is put to use:
  `Progress.Agrees` is what they go on sharing, the paths on record among it, and
  `IgnoresJournal.agrees` that they do.
-/
import Conformance.Proofs.Record
import Conformance.Proofs.Runs

namespace Conformance

/-- The same progress in a run that has further events behind it. -/
def Progress.since (p : Progress) (j : Journal) : Progress := { p with journal := p.journal ++ j }

namespace Check

/-- Two checks that come to the same, whatever further events the second one has behind it. -/
def IgnoresJournal {α β : Type} (R : α → β → Prop) (c : Check α) (d : Check β) : Prop :=
  ∀ s p j, SameEnd R (c s p).1 (d s (p.since j)).1 ∧ (d s (p.since j)).2 = (c s p).2.since j

namespace IgnoresJournal

/-! ## Putting such checks together -/

theorem of_still {α β : Type} {R : α → β → Prop} {c : Check α} {d : Check β}
    (hc : ∀ s p, (c s p).2 = p) (hd : ∀ s p, (d s p).2 = p)
    (h : ∀ s p j, SameEnd R (c s p).1 (d s (p.since j)).1) : IgnoresJournal R c d := by
  intro s p j
  rw [hc, hd]
  exact ⟨h s p j, rfl⟩

theorem skip : IgnoresJournal Eq (Pure.pure () : Check Unit) (Pure.pure ()) :=
  .of_still (fun _ _ => rfl) (fun _ _ => rfl) fun _ _ _ => .ok rfl

theorem note (e : Event) : IgnoresJournal Eq (Check.note e) (Check.note e) :=
    fun _ _ _ => ⟨.ok rfl, rfl⟩

theorem bind {α β γ δ : Type} {R : α → β → Prop} {Q : γ → δ → Prop} {c : Check α} {d : Check β}
    {f : α → Check γ} {g : β → Check δ} (hc : IgnoresJournal R c d)
    (hf : ∀ a b, R a b → IgnoresJournal Q (f a) (g b)) : IgnoresJournal Q (c >>= f) (d >>= g) := by
  intro s p j
  obtain ⟨hend, hprogress⟩ := hc s p j
  rw [bind_run, bind_run]
  rcases hcr : c s p with ⟨r, q⟩
  rcases hdr : d s (p.since j) with ⟨r', q'⟩
  rw [hcr, hdr] at hend hprogress
  obtain rfl : q' = q.since j := hprogress
  cases hend with
  | error e => exact ⟨.error e, rfl⟩
  | ok hab => exact hf _ _ hab s q j

theorem attempt {c d : Check Unit} (h : IgnoresJournal Eq c d) :
    IgnoresJournal Eq (Check.attempt c) (Check.attempt d) := by
  intro s p j
  rw [attempt_progress, attempt_progress]
  exact ⟨attempt_sameEnd (h s p j).1, (h s p j).2⟩

theorem atChild {c d : Check Unit} (h : IgnoresJournal Eq c d) (step : Step) :
    IgnoresJournal Eq (Check.atChild step c) (Check.atChild step d) := by
  intro s p j
  have hmember (σ : Slot) := h (s.child step) { p with slot := σ } j
  unfold Check.atChild
  rw [show (p.since j).slot = p.slot from rfl]
  split
  · next container _ =>
    obtain ⟨hend, hprogress⟩ := hmember (container.slotBelow step)
    exact ⟨hend, congrArg (fun q : Progress =>
      { q with slot := .present (container.settle step q.slot) }) hprogress⟩
  · obtain ⟨hend, hprogress⟩ := hmember .held
    exact ⟨hend, congrArg (fun q : Progress => { q with slot := p.slot }) hprogress⟩

theorem nested {c d : Check Unit} (h : IgnoresJournal Eq c d) (n : Node) :
    IgnoresJournal Eq (Check.nested n c) (Check.nested n d) := by
  intro s p j
  let entered : Progress := { p with journal := .entered n s.trail (s.depth + 1) :: p.journal }
  let deeper : Scope := { s with depth := s.depth + 1 }
  obtain ⟨hend, hprogress⟩ := h deeper entered j
  have hrun : d deeper (entered.since j) = ((c deeper entered).1, (c deeper entered).2.since j) :=
    Prod.ext hend.eq hprogress
  exact ⟨hend, congrArg (fun x : Except Failure Unit × Progress =>
    { x.2 with journal := .left n x.1 :: x.2.journal }) hrun⟩

variable {visit : Node → Check Unit}

theorem refRule (h : ∀ k, IgnoresJournal Eq (visit k) (visit k)) (n : Node) :
    IgnoresJournal Eq (Check.refRule visit n) (Check.refRule visit n) := by
  refine .bind (R := Eq) (.of_still (fun _ _ => rfl) (fun _ _ => rfl) fun _ _ _ => .ok rfl) ?_
  rintro v _ rfl
  split
  · intro s p j
    unfold follow
    rw [progress_bind, progress_bind, show (p.since j).registry = p.registry from rfl]
    cases p.registry.find? _ with
    | none => exact ⟨.ok rfl, rfl⟩
    | some target =>
      dsimp only
      split
      · exact ⟨.ok rfl, rfl⟩
      · exact h target s p j
  · exact .skip

theorem ownSchema (h : ∀ k, IgnoresJournal Eq (visit k) (visit k)) (key : Key) :
    IgnoresJournal Eq (Check.ownSchema visit key) (Check.ownSchema visit key) := by
  refine .bind (R := Eq) (.of_still (fun _ _ => rfl) (fun _ _ => rfl) fun _ _ _ => .ok rfl) ?_
  rintro s _ rfl
  split
  · exact .skip
  · refine .bind (R := Eq) (.of_still (fun _ _ => rfl) (fun _ _ => rfl) fun _ _ _ => .ok rfl) ?_
    rintro v _ rfl
    split
    · dsimp only
      split
      · split
        · exact .atChild (h _) _
        · exact .note _
      · exact .skip
    · exact .skip

theorem missingRules (n : Node) :
    IgnoresJournal Eq (Check.missingRules n) (Check.missingRules n) := by
  intro s p j
  rw [missingRules_run, missingRules_run, show missed (n.content (p.since j).writes) s
    (p.since j).slot = missed (n.content p.writes) s p.slot from rfl]
  cases missed (n.content p.writes) s p.slot with
  | fails f => exact ⟨.error f, rfl⟩
  | _ => exact ⟨.ok rfl, rfl⟩

end IgnoresJournal

/-! ## Whole checks -/

/-- Checks that go the same way as themselves do not look at the journal, if the visits they make do
    not. -/
theorem Parallel.ignoresJournal {visit : Node → Check Unit} {n : Node}
    (hvisit : ∀ k, IgnoresJournal Eq (visit k) (visit k)) {α β : Type} {R : α → β → Prop}
    {c : Check α} {d : Check β} (h : Parallel ⟨Eq, visit, visit, n, n⟩ R c d) :
    IgnoresJournal R c d := by
  induction h with
  | pure hab => exact .of_still (fun _ _ => rfl) (fun _ _ => rfl) fun _ _ _ => .ok hab
  | bind _ _ ihc ihf => exact .bind ihc ihf
  | attempt _ ih => exact .attempt ih
  | scope => exact .of_still (fun _ _ => rfl) (fun _ _ => rfl) fun _ _ _ => .ok ⟨rfl, rfl⟩
  | value => exact .of_still (fun _ _ => rfl) (fun _ _ => rfl) fun _ _ _ => .ok rfl
  | content hkl =>
    cases hkl
    exact .of_still (fun _ _ => rfl) (fun _ _ => rfl) fun _ _ _ => .ok ⟨rfl, rfl⟩
  | stop f => exact .of_still (fun _ _ => rfl) (fun _ _ => rfl) fun _ _ _ => .error _
  | rejected trail description message => exact .note _
  | register id hkl =>
    cases hkl
    exact fun s p j => ⟨.ok rfl, by simp [Check.register, Progress.since]⟩
  | here hkl =>
    cases hkl
    exact hvisit _
  | member step hkl =>
    cases hkl
    exact .atChild (hvisit _) step
  | reference => exact .refRule hvisit n
  | own key => exact .ownSchema hvisit key
  | missing => exact .missingRules n

/-- A check against a schema does not look at the journal. -/
theorem against_ignoresJournal (depth : Nat) (n : Node) :
    IgnoresJournal Eq (against depth n) (against depth n) := by
  induction depth generalizing n with
  | zero =>
    refine .bind (R := Eq) (.of_still (fun _ _ => rfl) (fun _ _ => rfl) fun _ _ _ => .ok rfl) ?_
    rintro v _ rfl
    split
    · exact .of_still (fun _ _ => rfl) (fun _ _ => rfl) fun _ _ _ => .error _
    · exact .skip
  | succ depth ih =>
    refine .bind (R := Eq) (.of_still (fun _ _ => rfl) (fun _ _ => rfl) fun _ _ _ => .ok rfl) ?_
    rintro v _ rfl
    split
    · have hproperty := Parallel.property (P := ⟨Eq, against depth, against depth, n, n⟩) .eq rfl
      exact .nested (hproperty.ignoresJournal ih) n
    · exact .skip

/-! ## Runs that begin alike -/

end Check

/-- Two runs have come to the same but for what their journals tell besides the paths on record. -/
structure Progress.Agrees (p q : Progress) : Prop where
  slot : q.slot = p.slot
  registry : q.registry = p.registry
  writes : q.writes = p.writes
  recorded : Check.recorded q = Check.recorded p

namespace Progress.Agrees

theorem refl (p : Progress) : p.Agrees p := ⟨rfl, rfl, rfl, rfl⟩

theorem symm {p q : Progress} (h : p.Agrees q) : q.Agrees p :=
  ⟨h.slot.symm, h.registry.symm, h.writes.symm, h.recorded.symm⟩

theorem trans {p q r : Progress} (h : p.Agrees q) (h' : q.Agrees r) : p.Agrees r :=
  ⟨h'.slot.trans h.slot, h'.registry.trans h.registry, h'.writes.trans h.writes,
    h'.recorded.trans h.recorded⟩

/-- An event that tells of no default makes no difference. -/
theorem tell (p : Progress) {e : Event} (he : Journal.appliedPath? e = none) :
    p.Agrees { p with journal := e :: p.journal } := by
  refine ⟨rfl, rfl, rfl, ?_⟩
  simp [Check.recorded, Journal.appliedPaths, he]

end Progress.Agrees

namespace Check

theorem recorded_since (p : Progress) (j : Journal) :
    recorded (p.since j) = Journal.appliedPaths j.reverse ++ recorded p := by
  simp [recorded, Progress.since, Journal.appliedPaths_append]

/-- Runs that begin alike end alike. -/
theorem IgnoresJournal.agrees {c : Check Unit} (h : IgnoresJournal Eq c c) {p q : Progress}
    (hpq : p.Agrees q)
    (s : Scope) : (c s q).1 = (c s p).1 ∧ (c s p).2.Agrees (c s q).2 := by
  -- both are one run that begins with nothing in its journal, with its own events behind it
  let bare : Progress := { p with journal := [] }
  have hp : p = bare.since p.journal := rfl
  have hq : q = bare.since q.journal := by
    obtain ⟨slot, registry, writes, journal⟩ := q
    obtain ⟨rfl, rfl, rfl, _⟩ := hpq
    rfl
  obtain ⟨hend, hprogress⟩ := h s bare p.journal
  obtain ⟨hend', hprogress'⟩ := h s bare q.journal
  rw [← hp] at hend hprogress
  rw [← hq] at hend' hprogress'
  refine ⟨hend'.eq.trans hend.eq.symm, ?_⟩
  rw [hprogress, hprogress']
  refine ⟨rfl, rfl, rfl, ?_⟩
  rw [recorded_since, recorded_since]
  exact congrArg (· ++ _) hpq.recorded

end Check

end Conformance

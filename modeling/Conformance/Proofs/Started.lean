/-
  Checks started in the course of a run.

  `Starts d s' p' c s p` says that the run of `c` in the scope `s` on the progress `p` gets to a run
  of `d` in `s'` on `p'`.  It follows how checks are put together: a sequence starts its first check,
  and the rest where the first one succeeds; an attempt, a check of a member and a nested check start
  what they are made of.

  Two facts make this worth having.  An error that blames the schema or the nesting ends every run in
  which a started check ends with it (`Starts.ends`): no attempt takes it for a verdict.  And the
  journal is complete (`against_journalComplete`): every check of a value against a schema that it
  tells the end of was started, and ended as told.
-/
import Conformance.Proofs.Compositional
import Conformance.Proofs.Runs

namespace Conformance

/-- An error that blames the schema or the nesting, and not the data. -/
def Violation.IsSevere (e : Violation) : Prop := e.errorClass ≠ .data

namespace Check

/-- A run of one check gets to a run of another. -/
inductive Starts {δ : Type} (d : Check δ) (s' : Scope) (p' : Progress) :
    {α : Type} → Check α → Scope → Progress → Prop
  | self : Starts d s' p' d s' p'
  | first {α β : Type} {c : Check α} {f : α → Check β} {s : Scope} {p : Progress}
    (h : Starts d s' p' c s p) : Starts d s' p' (c >>= f) s p
  | rest {α β : Type} {c : Check α} {f : α → Check β} {s : Scope} {p q : Progress} {a : α}
    (done : c s p = (.ok a, q)) (h : Starts d s' p' (f a) s q) : Starts d s' p' (c >>= f) s p
  | attempt {c : Check Unit} {s : Scope} {p : Progress} (h : Starts d s' p' c s p) :
    Starts d s' p' (Check.attempt c) s p
  | member {α : Type} {c : Check α} {step : Step} {s : Scope} {p : Progress} {container : Value}
    (there : p.slot = .present container)
    (h : Starts d s' p' c (s.child step) { p with slot := container.slotBelow step }) :
    Starts d s' p' (atChild step c) s p
  | memberOfNothing {α : Type} {c : Check α} {step : Step} {s : Scope} {p : Progress}
    (none : ∀ container, p.slot ≠ .present container)
    (h : Starts d s' p' c (s.child step) { p with slot := .held }) :
    Starts d s' p' (atChild step c) s p
  | nested {n : Node} {c : Check Unit} {s : Scope} {p : Progress}
    (h : Starts d s' p' c { s with depth := s.depth + 1 }
      { p with journal := .entered n s.trail (s.depth + 1) :: p.journal }) :
    Starts d s' p' (Check.nested n c) s p

/-! ## Members -/

variable {α : Type}

theorem atChild_run_present {step : Step} {c : Check α} {s : Scope} {p : Progress}
    {container : Value} (h : p.slot = .present container) :
    (atChild step c s p).1 = (c (s.child step) { p with slot := container.slotBelow step }).1 ∧
      (atChild step c s p).2.journal =
        (c (s.child step) { p with slot := container.slotBelow step }).2.journal := by
  unfold atChild
  rw [h]
  exact ⟨rfl, rfl⟩

theorem atChild_run_nothing {step : Step} {c : Check α} {s : Scope} {p : Progress}
    (h : ∀ container, p.slot ≠ .present container) :
    (atChild step c s p).1 = (c (s.child step) { p with slot := .held }).1 ∧
      (atChild step c s p).2.journal = (c (s.child step) { p with slot := .held }).2.journal := by
  unfold atChild
  split
  · next container hp => exact absurd hp (h container)
  · exact ⟨rfl, rfl⟩

/-! ## Errors that end every run -/

/-- An attempt ends with every error but those of the data. -/
theorem attempt_error_of_severe {c : Check Unit} {s : Scope} {p : Progress} {e : Violation}
    (h : (c s p).1 = .error (.violation e)) (he : e.IsSevere) :
    (attempt c s p).1 = .error (.violation e) := by
  unfold attempt
  rcases hc : c s p with ⟨r, q⟩
  rw [hc] at h
  obtain rfl : r = .error (.violation e) := h
  dsimp only
  rw [if_neg he]

/-- **No check swallows what blames the schema or the nesting.**  If a check that is started in the
    course of a run ends with such an error, the run ends with that very error. -/
theorem Starts.ends {δ : Type} {d : Check δ} {s' : Scope} {p' : Progress} {c : Check α} {s : Scope}
    {p : Progress} (h : Starts d s' p' c s p) {e : Violation} (he : e.IsSevere)
    (hd : (d s' p').1 = .error (.violation e)) : (c s p).1 = .error (.violation e) := by
  induction h with
  | self => exact hd
  | @first _ _ c f s p _ ih =>
    rw [bind_run_error (Prod.ext ih rfl : c s p = (_, (c s p).2))]
  | rest done _ ih =>
    rw [bind_run_ok done]
    exact ih
  | attempt _ ih => exact attempt_error_of_severe ih he
  | member there _ ih => exact (atChild_run_present there).1.trans ih
  | memberOfNothing none _ ih => exact (atChild_run_nothing none).1.trans ih
  | nested _ ih => exact ih

/-! ## The journal tells of every check that is over -/

/-- What a run adds to the journal tells the end of started checks only, and tells it right; and its
    results have partners. -/
def JournalComplete {β : Type} (R : α → β → Prop) (c : Check α) : Prop :=
  ∀ s p, (∃ events, (c s p).2.journal = events ++ p.journal ∧
      ∀ n r, .left n r ∈ events → ∃ depth s' p',
        Starts (against depth n) s' p' c s p ∧ (against depth n s' p').1 = r) ∧
    ∀ a, (c s p).1 = .ok a → ∃ b, R a b

namespace JournalComplete

/-- A check that adds no such event. -/
theorem of_events {β : Type} {R : α → β → Prop} {c : Check α}
    (hc : ∀ s p, ∃ events, (c s p).2.journal = events ++ p.journal ∧
      ∀ n r, .left n r ∉ events)
    (h : ∀ s p a, (c s p).1 = .ok a → ∃ b, R a b) : JournalComplete R c := by
  intro s p
  obtain ⟨events, hj, hnone⟩ := hc s p
  exact ⟨⟨events, hj, fun n r hm => absurd hm (hnone n r)⟩, h s p⟩

theorem of_still {β : Type} {R : α → β → Prop} {c : Check α} (hc : ∀ s p, (c s p).2 = p)
    (h : ∀ s p a, (c s p).1 = .ok a → ∃ b, R a b) : JournalComplete R c :=
  .of_events (fun s p => ⟨[], by rw [hc, List.nil_append], fun _ _ => List.not_mem_nil⟩) h

theorem note {e : Event} (he : ∀ n r, e ≠ .left n r) : JournalComplete Eq (Check.note e) :=
  .of_events (fun _ _ => ⟨[e], rfl, fun n r hm => he n r (List.mem_singleton.mp hm).symm⟩)
    fun _ _ a _ => ⟨a, rfl⟩

theorem register (id : String) (k : Node) : JournalComplete Eq (Check.register id k) := by
  refine .of_events (fun _ p => ⟨p.registry.news id k, rfl, fun n r => ?_⟩) fun _ _ a _ => ⟨a, rfl⟩
  unfold Registry.news
  split
  · simp
  · split <;> simp

theorem missingRules (n : Node) : JournalComplete Eq (Check.missingRules n) := by
  refine .of_events (fun s p => ?_) fun _ _ a _ => ⟨a, rfl⟩
  rw [missingRules_run]
  cases hm : missed (n.content p.writes) s p.slot with
  | fails f => exact ⟨[], rfl, fun _ _ => List.not_mem_nil⟩
  | passes => exact ⟨[], rfl, fun _ _ => List.not_mem_nil⟩
  | filled σ v => exact ⟨[.defaultWritten s.trail v], rfl, by simp⟩
  | remarks e =>
    refine ⟨[e], rfl, fun k r hmem => ?_⟩
    rw [List.mem_singleton] at hmem
    subst hmem
    -- the only remark is that a place takes no default
    unfold missed at hm
    repeat' split at hm
    all_goals cases hm

variable {β γ δ : Type}

theorem bind {R : α → β → Prop} {R' : γ → δ → Prop} {c : Check α} {f : α → Check γ}
    (hc : JournalComplete R c) (hf : ∀ a b, R a b → JournalComplete R' (f a)) : JournalComplete R' (c >>= f) := by
  intro s p
  obtain ⟨⟨events, hj, hleft⟩, hpartner⟩ := hc s p
  rcases hcr : c s p with ⟨r, q⟩
  rw [hcr] at hj hpartner
  cases r with
  | error e =>
    rw [bind_run_error hcr]
    refine ⟨⟨events, hj, fun n r hm => ?_⟩, fun a ha => by cases ha⟩
    obtain ⟨depth, s', p', hstarts, hend⟩ := hleft n r hm
    exact ⟨depth, s', p', .first hstarts, hend⟩
  | ok a =>
    obtain ⟨b, hab⟩ := hpartner a rfl
    obtain ⟨⟨more, hj', hleft'⟩, hpartner'⟩ := hf a b hab s q
    rw [bind_run_ok hcr]
    refine ⟨⟨more ++ events, by rw [hj', hj, List.append_assoc], fun n r hm => ?_⟩, hpartner'⟩
    rcases List.mem_append.mp hm with hm | hm
    · obtain ⟨depth, s', p', hstarts, hend⟩ := hleft' n r hm
      exact ⟨depth, s', p', .rest hcr hstarts, hend⟩
    · obtain ⟨depth, s', p', hstarts, hend⟩ := hleft n r hm
      exact ⟨depth, s', p', .first hstarts, hend⟩

theorem attempt {c : Check Unit} (h : JournalComplete Eq c) :
    JournalComplete (Eq : Option Violation → Option Violation → Prop) (Check.attempt c) := by
  intro s p
  rw [attempt_progress]
  obtain ⟨⟨events, hj, hleft⟩, _⟩ := h s p
  refine ⟨⟨events, hj, fun n r hm => ?_⟩, fun a _ => ⟨a, rfl⟩⟩
  obtain ⟨depth, s', p', hstarts, hend⟩ := hleft n r hm
  exact ⟨depth, s', p', .attempt hstarts, hend⟩

theorem atChild {c : Check Unit} (h : JournalComplete Eq c) (step : Step) :
    JournalComplete Eq (Check.atChild step c) := by
  intro s p
  by_cases hp : ∃ container, p.slot = .present container
  · obtain ⟨container, hp⟩ := hp
    obtain ⟨⟨events, hj, hleft⟩, _⟩ := h (s.child step) { p with slot := container.slotBelow step }
    refine ⟨⟨events, (atChild_run_present hp).2.trans hj, fun n r hm => ?_⟩, fun a _ => ⟨a, rfl⟩⟩
    obtain ⟨depth, s', p', hstarts, hend⟩ := hleft n r hm
    exact ⟨depth, s', p', .member hp hstarts, hend⟩
  · have hnone : ∀ container, p.slot ≠ .present container := fun container hc => hp ⟨container, hc⟩
    obtain ⟨⟨events, hj, hleft⟩, _⟩ := h (s.child step) { p with slot := .held }
    refine ⟨⟨events, (atChild_run_nothing hnone).2.trans hj, fun n r hm => ?_⟩,
      fun a _ => ⟨a, rfl⟩⟩
    obtain ⟨depth, s', p', hstarts, hend⟩ := hleft n r hm
    exact ⟨depth, s', p', .memberOfNothing hnone hstarts, hend⟩

end JournalComplete

/-- To tell what has been started is kept where checks are put together. -/
theorem journalComplete_compositional : Compositional @JournalComplete where
  still := .of_still
  bind := .bind
  attempt := .attempt
  atChild := .atChild
  note := .note
  register := .register
  missing := .missingRules

/-- A nested check of a schema tells its own end as well. -/
theorem nested_journalComplete {depth : Nat} {n : Node}
    (h : JournalComplete Eq (property (against depth) n)) : JournalComplete Eq (against (depth + 1) n) := by
  intro s p
  refine ⟨?_, fun a _ => ⟨a, rfl⟩⟩
  by_cases hmap : (n.content p.writes).isMap = true
  · have hrun := against_succ_of_map hmap depth (s := s)
    obtain ⟨⟨events, hj, hleft⟩, _⟩ := h { s with depth := s.depth + 1 }
      { p with journal := .entered n s.trail (s.depth + 1) :: p.journal }
    refine ⟨.left n (against (depth + 1) n s p).1 ::
      (events ++ [.entered n s.trail (s.depth + 1)]), ?_, fun k r hm => ?_⟩
    · rw [hrun]
      show .left n _ :: (property (against depth) n _ _).2.journal = _
      rw [hj, List.cons_append, List.append_assoc]
      rfl
    · simp only [List.mem_cons, List.mem_append, List.not_mem_nil, or_false, reduceCtorEq] at hm
      rcases hm with hm | hm
      · cases hm
        exact ⟨depth + 1, s, p, .self, rfl⟩
      · obtain ⟨depth', s', p', hstarts, hend⟩ := hleft k r hm
        refine ⟨depth', s', p', ?_, hend⟩
        have hnested : Starts (against depth' k) s' p' (nested n (property (against depth) n)) s p :=
          .nested hstarts
        refine .rest (c := content n) (a := n.content p.writes) rfl ?_
        rw [hmap]
        exact hnested
  · rw [against_of_not_map (by simpa using hmap)]
    exact ⟨[], rfl, fun _ _ hm => absurd hm List.not_mem_nil⟩

/-- **The journal is complete.**  Every end of a check against a schema that a run tells is the end
    of a check started in its course. -/
theorem against_journalComplete (depth : Nat) (n : Node) : JournalComplete Eq (against depth n) :=
  journalComplete_compositional.against (fun _ _ hproperty => nested_journalComplete hproperty) depth n

end Check

end Conformance

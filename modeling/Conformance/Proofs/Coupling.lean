/-
  Two runs side by side.

  A `Coupling` says which scopes and which states of progress of two runs correspond, which
  failures of the first run leave nothing to say of the second (`cut`), and which states of the
  first run do (`off`).  Two checks are `Coupled` if, from corresponding states with equal slots,
  either the first is cut, or both end alike, in corresponding states, with equal slots.

  Checks that go the same way are coupled if the visits they make are (`Parallel.coupled`), for any
  coupling that is `Preserved`: it must survive what a check does to its progress.  Three rules are
  left to each coupling, those at which a derivation allows two runs to differ; where they do not
  differ after all, `refRule_coupled_of_known`, `ownSchema_coupled` and `missingRules_coupled` settle
  them.  The induction on the depth that remains is made once, in `against_coupled`; there the second
  run may have more depth to go than the first.
-/
import Conformance.Proofs.Lasting
import Conformance.Proofs.Runs

namespace Conformance

/-- Progress with one more event in its journal. -/
def Progress.tell (p : Progress) (e : Event) : Progress := { p with journal := e :: p.journal }

/-- The same progress with another slot. -/
def Progress.at (p : Progress) (σ : Slot) : Progress := { p with slot := σ }

/-- Whether an event is the beginning or the end of a check against a schema. -/
def Event.frames : Event → Bool
  | .entered _ _ _ => true
  | .left _ _ => true
  | _ => false

/-- The scope of a check one level deeper. -/
def Scope.deeper (s : Scope) : Scope := { s with depth := s.depth + 1 }

namespace Check

/-- What is remarked about a missing value is no frame of a check. -/
theorem frames_of_missed {schema : Value} {s : Scope} {slot : Slot} {e : Event}
    (h : missed schema s slot = .remarks e) : e.frames = false := by
  unfold missed at h
  split at h
  · cases h
  · split at h
    · cases h
    · split at h <;> cases h
      rfl

/-- Nor is what is told of an id. -/
theorem news_frames (r : Registry) (id : String) (n : Node) :
    ∀ e ∈ r.news id n, e.frames = false := by
  intro e he
  unfold Registry.news at he
  split at he
  · obtain rfl := List.mem_singleton.mp he
    rfl
  · split at he
    · cases he
    · obtain rfl := List.mem_singleton.mp he
      rfl

/-- What ties two runs together. -/
structure Coupling where
  /-- Scopes that correspond where so many checks may still be nested. -/
  scopes : Nat → Scope → Scope → Prop
  /-- States of progress that correspond. -/
  states : Progress → Progress → Prop
  /-- Failures of the first run that leave nothing to say. -/
  cut : Failure → Progress → Prop
  /-- Progress of the first run that leaves nothing to say. -/
  off : Progress → Prop
  /-- What is known of the slots. -/
  data : Slot → Prop
  /-- Whether slots stay as they are. -/
  still : Prop

namespace Coupling

variable (K : Coupling)

/-- The first run has ended so that nothing is said. -/
def Cut {α : Type} (x : Except Failure α × Progress) : Prop := ∃ f, x.1 = .error f ∧ K.cut f x.2

/-- Both runs have ended alike, from a slot. -/
structure Joined {α β : Type} (R : α → β → Prop) (σ : Slot) (x : Except Failure α × Progress)
    (y : Except Failure β × Progress) : Prop where
  result : SameEnd R x.1 y.1
  states : K.states x.2 y.2
  slot : x.2.slot = y.2.slot
  still : K.still → x.2.slot = σ

end Coupling

/-- Two checks whose runs go on corresponding. -/
def Coupled (K : Coupling) (depth : Nat) {α β : Type} (R : α → β → Prop) (c : Check α)
    (d : Check β) : Prop :=
  ∀ s s' p p', K.scopes depth s s' → K.states p p' → p.slot = p'.slot → K.data p.slot →
    ¬ K.off (c s p).2 → K.Cut (c s p) ∨ K.Joined R p.slot (c s p) (d s' p')

/-- A coupling that survives what checks do to their progress, where nodes that are alike stand for
    each other. -/
structure Coupling.Preserved (K : Coupling) (alike : Node → Node → Prop) : Prop where
  like : Likeness alike
  place : ∀ {depth s s'}, K.scopes depth s s' → s.key = s'.key ∧ s.trail = s'.trail
  child : ∀ {depth s s'}, K.scopes depth s s' →
    ∀ step, K.scopes depth (s.child step) (s'.child step)
  slot : ∀ {p p'}, K.states p p' → ∀ σ, K.states (p.at σ) (p'.at σ)
  note : ∀ {p p'}, K.states p p' → ∀ e, e.frames = false → K.states (p.tell e) (p'.tell e)
  register : ∀ {k l}, alike k l → ∀ {s s' p p'} id, K.states p p' →
    ¬ K.off (Check.register id k s p).2 →
      K.states (Check.register id k s p).2 (Check.register id l s' p').2
  content : ∀ {k l}, alike k l → ∀ {p p'}, K.states p p' → ¬ K.off p →
    k.content p.writes = l.content p'.writes ∧
      alike ⟨k.origin, k.content p.writes⟩ ⟨l.origin, l.content p'.writes⟩
  cut_at : ∀ {f p}, K.cut f p → ∀ σ, K.cut f (p.at σ)
  not_data : ∀ {e p}, K.cut (.violation e) p → e.errorClass ≠ .data
  enter : ∀ {k l}, alike k l → ∀ {depth s s' p p'}, K.scopes (depth + 1) s s' → K.states p p' →
    K.scopes depth s.deeper s'.deeper ∧
      K.states (p.tell (.entered k s.trail s.deeper.depth))
        (p'.tell (.entered l s'.trail s'.deeper.depth))
  leave : ∀ {k l}, alike k l → ∀ {p p'}, K.states p p' → ∀ r, ¬ K.Cut (r, p) →
    K.states (p.tell (.left k r)) (p'.tell (.left l r))
  cut_leave : ∀ {f p}, K.cut f p → ∀ k, K.cut f (p.tell (.left k (.error f)))
  data_below : ∀ {c}, K.data (.present c) → ∀ step, K.data (c.slotBelow step)
  data_held : K.data .held
  still_or : K.still ∨ ∀ σ, K.data σ
  lasting : Lasting K.off
  /-- Nothing is ever off, or nodes are alike whatever they have come to say. -/
  total : (∀ p, ¬ K.off p) ∨ ∀ k l, alike k l → ∀ t, alike ⟨k.origin, t⟩ ⟨l.origin, t⟩

namespace Coupled

variable {K : Coupling} {depth : Nat} {alike : Node → Node → Prop}

/-! ## Putting coupled checks together -/

/-- Two checks that leave their progress alone. -/
theorem of_still {α β : Type} {R : α → β → Prop} {c : Check α} {d : Check β}
    (hc : ∀ s p, (c s p).2 = p) (hd : ∀ s p, (d s p).2 = p)
    (h : ∀ s s' p p', K.scopes depth s s' → K.states p p' → p.slot = p'.slot → ¬ K.off p →
      SameEnd R (c s p).1 (d s' p').1) : Coupled K depth R c d := by
  intro s s' p p' hs hp hslot _ hoff
  rw [hc] at hoff
  refine Or.inr ⟨h s s' p p' hs hp hslot hoff, ?_, ?_, fun _ => ?_⟩
  · rwa [hc, hd]
  · rwa [hc, hd]
  · rw [hc]

theorem pure {α β : Type} {R : α → β → Prop} {a : α} {b : β} (h : R a b) :
    Coupled K depth R (Pure.pure a : Check α) (Pure.pure b : Check β) :=
  .of_still (fun _ _ => rfl) (fun _ _ => rfl) fun _ _ _ _ _ _ _ _ => .ok h

theorem skip : Coupled K depth Eq (Pure.pure () : Check Unit) (Pure.pure ()) := .pure rfl

/-- One check after the other: the second starts from states that the first has left corresponding.
    -/
theorem bind (hK : K.Preserved alike) {α β γ δ : Type} {R : α → β → Prop} {Q : γ → δ → Prop}
    {c : Check α} {d : Check β} {f : α → Check γ} {g : β → Check δ} (hc : Coupled K depth R c d)
    (hlast : ∀ s p a, (c s p).1 = .ok a → K.off (c s p).2 → K.off (f a s (c s p).2).2)
    (hf : ∀ a b, R a b → Coupled K depth Q (f a) (g b)) :
    Coupled K depth Q (c >>= f) (d >>= g) := by
  intro s s' p p' hs hp hslot hdata hoff
  have hfirst := hc s s' p p' hs hp hslot hdata
  have hback := hlast s p
  rw [bind_run] at hoff ⊢
  rw [bind_run]
  rcases hcr : c s p with ⟨r, q⟩
  rcases hdr : d s' p' with ⟨r', q'⟩
  rw [hcr] at hoff hback
  rw [hcr, hdr] at hfirst
  cases r with
  | error e =>
    -- an error ends both runs, and the second check does not start
    rcases hfirst hoff with ⟨f, he, hcut⟩ | hjoined
    · cases he
      exact Or.inl ⟨e, rfl, hcut⟩
    · obtain ⟨hend, hstates, hslots, hstill⟩ := hjoined
      cases hend
      exact Or.inr ⟨.error _, hstates, hslots, hstill⟩
  | ok a =>
    -- what has not gone off by the end has not gone off before
    have hmid : ¬ K.off q := fun hq => hoff (hback a rfl hq)
    rcases hfirst hmid with ⟨f, he, _⟩ | ⟨hend, hstates, hslots, hstill⟩
    · cases he
    · cases hend with
      | @ok _ b hab =>
        -- what is known of slots is known of this one, as it is the old one, or as it is known of
        -- all
        have hq : K.data q.slot := by
          rcases hK.still_or with hs | hall
          · have hsame : q.slot = p.slot := hstill hs
            rwa [hsame]
          · exact hall _
        rcases hf a b hab s s' q q' hs hstates hslots hq hoff with hcut | hjoined
        · exact Or.inl hcut
        · exact Or.inr ⟨hjoined.result, hjoined.states, hjoined.slot,
            fun hs => (hjoined.still hs).trans (hstill hs)⟩

/-- An attempt takes up errors that blame the data, and no cut is one of these. -/
theorem attempt (hK : K.Preserved alike) {c d : Check Unit} (h : Coupled K depth Eq c d) :
    Coupled K depth Eq (Check.attempt c) (Check.attempt d) := by
  intro s s' p p' hs hp hslot hdata hoff
  rw [attempt_progress] at hoff
  rcases h s s' p p' hs hp hslot hdata hoff with ⟨f, hf, hcut⟩ | hjoined
  · refine Or.inl ⟨f, ?_, by rwa [attempt_progress]⟩
    unfold Check.attempt
    rcases hcr : c s p with ⟨r, q⟩
    rw [hcr] at hf hcut
    obtain rfl : r = .error f := hf
    -- a fault passes through an attempt, and so does a violation that is not about the data
    cases f with
    | fault _ => rfl
    | violation e => exact congrArg Prod.fst (if_neg (hK.not_data hcut))
  · refine Or.inr ⟨attempt_sameEnd hjoined.result, ?_, ?_, ?_⟩
    · rw [attempt_progress, attempt_progress]
      exact hjoined.states
    · rw [attempt_progress, attempt_progress]
      exact hjoined.slot
    · rw [attempt_progress]
      exact hjoined.still

/-- A check of a member is coupled at the slot of the member, which is then put back. -/
theorem atChild (hK : K.Preserved alike) {c d : Check Unit} (h : Coupled K depth Eq c d)
    (step : Step) :
    Coupled K depth Eq (Check.atChild step c) (Check.atChild step d) := by
  intro s s' p p' hs hp hslot hdata hoff
  have hmember (σ : Slot) (hσ : K.data σ) (hq : ¬ K.off (c (s.child step) (p.at σ)).2) :=
    h (s.child step) (s'.child step) (p.at σ) (p'.at σ) (hK.child hs step) (hK.slot hp σ) rfl hσ hq
  unfold Check.atChild at hoff ⊢
  rw [← hslot]
  -- a value that is there has a slot for the member, otherwise the member is a gap
  split at hoff
  · next container hcontainer =>
    rw [hcontainer] at hdata ⊢
    have hq : ¬ K.off (c (s.child step) (p.at (container.slotBelow step))).2 :=
      fun hq => hoff (hK.lasting.slot _ hq)
    rcases hmember _ (hK.data_below hdata step) hq with ⟨f, hf, hcut⟩ | hjoined
    · exact Or.inl ⟨f, hf, hK.cut_at hcut _⟩
    · refine Or.inr ⟨hjoined.result, ?_, ?_, fun hs => ?_⟩
      -- the members have come out equal, so the containers are put back equal
      · have hsettled := hK.slot hjoined.states
          (.present (container.settle step (c (s.child step)
            (p.at (container.slotBelow step))).2.slot))
        have hend := hjoined.slot
        dsimp only
        rw [← show (c (s.child step) (p.at (container.slotBelow step))).2.slot =
          (d (s'.child step) { p' with slot := container.slotBelow step }).2.slot from hend]
        exact hsettled
      · exact congrArg (fun σ => Slot.present (container.settle step σ)) hjoined.slot
      · have hstill := hjoined.still hs
        dsimp only
        rw [show (c (s.child step) { p with slot := container.slotBelow step }).2.slot =
          container.slotBelow step from hstill, Value.settle_slotBelow]
  · next hnone =>
    have hq : ¬ K.off (c (s.child step) (p.at .held)).2 := fun hq => hoff (hK.lasting.slot _ hq)
    rcases hmember .held hK.data_held hq with ⟨f, hf, hcut⟩ | hjoined
    · refine Or.inl ⟨f, ?_⟩
      cases hpslot : p.slot with
      | present container => exact absurd hpslot (hnone container)
      | _ => exact ⟨hf, hK.cut_at hcut _⟩
    · refine Or.inr ?_
      cases hpslot : p.slot with
      | present container => exact absurd hpslot (hnone container)
      | _ => exact ⟨hjoined.result, hK.slot hjoined.states _, rfl, fun _ => rfl⟩

/-- Both journals get the same event. -/
theorem note (hK : K.Preserved alike) {e : Event} (he : e.frames = false) :
    Coupled K depth Eq (Check.note e) (Check.note e) :=
  fun _ _ _ _ _ hp hslot _ _ => Or.inr ⟨.ok rfl, hK.note hp e he, hslot, fun _ => rfl⟩

end Coupled

/-- Checks that go the same way are coupled, if the visits they make are, and the three rules at
    which two runs may differ. -/
theorem Parallel.coupled {K : Coupling} {depth : Nat} {P : Pairing} (hK : K.Preserved P.alike)
    (hlast : ∀ k, Lasts K.off Eq (P.visit k))
    (hvisit : ∀ k l, P.alike k l → Coupled K depth Eq (P.visit k) (P.visit' l))
    (href : Coupled K depth Eq (refRule P.visit P.node) (refRule P.visit' P.node'))
    (hown : ∀ key, Coupled K depth Eq (ownSchema P.visit key) (ownSchema P.visit' key))
    (hmissing : Coupled K depth Eq (missingRules P.node) (missingRules P.node'))
    {α β : Type} {R : α → β → Prop} {c : Check α} {d : Check β} (h : Parallel P R c d) :
    Coupled K depth R c d := by
  -- one case per way in which derivations put checks together
  induction h with
  | pure hab => exact .pure hab
  | bind first rest ihc ihf =>
    refine .bind hK ihc (fun s p a ha hq => ?_) ihf
    -- a rest that started off must not come on again, which is known of checks that go the same way
    rcases hK.total with hnever | htotal
    · exact absurd hq (hnever _)
    · have hlasts := lasts_compositional hK.lasting
      obtain ⟨_, hpartner⟩ := hlasts.of_parallel htotal hlast first s p
      obtain ⟨b, hab⟩ := hpartner a ha
      exact (hlasts.of_parallel htotal hlast (rest a b hab) s _).1 hq
  | attempt _ ih => exact .attempt hK ih
  | scope =>
    exact .of_still (fun _ _ => rfl) (fun _ _ => rfl) fun _ _ _ _ hs _ _ _ => .ok (hK.place hs)
  | value =>
    exact .of_still (fun _ _ => rfl) (fun _ _ => rfl) fun _ _ _ _ _ _ hslot _ =>
      .ok (congrArg Slot.value hslot)
  | content hkl =>
    exact .of_still (fun _ _ => rfl) (fun _ _ => rfl) fun _ _ _ _ _ hp _ hoff =>
      .ok (hK.content hkl hp hoff)
  | stop f =>
    refine .of_still (fun _ _ => rfl) (fun _ _ => rfl) fun s s' _ _ hs _ _ _ => ?_
    obtain ⟨hkey, htrail⟩ := hK.place hs
    rw [hkey, htrail]
    exact .error _
  | rejected trail description message => exact .note hK rfl
  | register id hkl =>
    intro s s' p p' _ hp hslot _ hoff
    exact Or.inr ⟨.ok rfl, hK.register hkl id hp hoff, hslot, fun _ => rfl⟩
  | here hkl => exact hvisit _ _ hkl
  | member step hkl => exact .atChild hK (hvisit _ _ hkl) step
  | reference => exact href
  | own key => exact hown key
  | missing => exact hmissing

/-! ## Rules at which runs need not differ -/

section Rules

variable {K : Coupling} {depth : Nat} {alike : Node → Node → Prop} (hK : K.Preserved alike)

include hK

/-- What like nodes say is read off alike. -/
theorem content_coupled {k l : Node} (h : alike k l) :
    Coupled K depth (fun a b => a = b ∧ alike ⟨k.origin, a⟩ ⟨l.origin, b⟩) (Check.content k)
      (Check.content l) :=
  .of_still (fun _ _ => rfl) (fun _ _ => rfl) fun _ _ _ _ _ hp _ hoff => .ok (hK.content h hp hoff)

/-- A reading comes first: what goes off afterwards was not off before. -/
theorem Coupled.read {α β γ δ : Type} {R : α → β → Prop} {Q : γ → δ → Prop} {c : Check α}
    {d : Check β} {f : α → Check γ} {g : β → Check δ} (hstill : ∀ s p, (c s p).2 = p)
    (hc : Coupled K depth R c d) (hlast : ∀ s p a, K.off p → K.off (f a s p).2)
    (hf : ∀ a b, R a b → Coupled K depth Q (f a) (g b)) :
    Coupled K depth Q (c >>= f) (d >>= g) := by
  refine .bind hK hc (fun s p a _ hq => ?_) hf
  rw [hstill] at hq ⊢
  exact hlast s p a hq

/-- A schema follows its reference alike, if whatever the first run finds under a name is known and
    the second one finds it, and what the first reports as unknown the second does not know. -/
theorem refRule_coupled_of_known {visit visit' : Node → Check Unit} {n : Node} (h : alike n n)
    {known : Node → Prop} (hlast : ∀ k, Lasts K.off Eq (visit k))
    (hvisit : ∀ k, known k → Coupled K depth Eq (visit k) (visit' k))
    (hfound : ∀ {p p'}, K.states p p' → ∀ {ref target}, p.registry.find? ref = some target →
      known target ∧ p'.registry.find? ref = some target)
    (hnone : ∀ {p p'}, K.states p p' → ∀ {trail ref}, p.registry.find? ref = none →
      ¬ K.off (p.tell (.unresolved trail ref)) → p'.registry.find? ref = none) :
    Coupled K depth Eq (refRule visit n) (refRule visit' n) := by
  intro s s' p p' hs hp hslot hdata hoff
  -- the rule itself would not have come on again, so it started on
  have hp_on : ¬ K.off p := fun hq =>
    hoff (((lasts_compositional hK.lasting).refRule hlast n s p).1 hq)
  obtain ⟨hsame, _⟩ := hK.content h hp hp_on
  have hskip : K.Joined Eq p.slot ((.ok (), p) : Except Failure Unit × Progress) (.ok (), p') :=
    ⟨.ok rfl, hp, hslot, fun _ => rfl⟩
  unfold refRule at hoff ⊢
  rw [field?_bind] at hoff ⊢
  rw [field?_bind, ← hsame]
  cases hr : (n.content p.writes).get? "$ref" with
  | none => exact Or.inr hskip
  | some r =>
    rw [hr] at hoff
    cases r with
    | str ref =>
      dsimp only at hoff ⊢
      unfold follow at hoff ⊢
      rw [progress_bind] at hoff ⊢
      rw [progress_bind]
      -- found in both registries, or unknown in both
      cases hfind : p.registry.find? ref with
      | none =>
        rw [hfind] at hoff
        have hunknown : p'.registry.find? ref = none := hnone hp hfind hoff
        rw [hunknown]
        have htrail := (hK.place hs).2
        dsimp only
        rw [scope_bind, scope_bind, htrail]
        exact Or.inr ⟨.ok rfl, hK.note hp _ rfl, hslot, fun _ => rfl⟩
      | some target =>
        rw [hfind] at hoff
        obtain ⟨hknown, hfind'⟩ := hfound hp hfind
        rw [hfind']
        dsimp only at hoff ⊢
        -- a schema that refers to itself is passed over
        by_cases horigin : target.origin = n.origin
        · rw [if_pos horigin, if_pos horigin]
          exact Or.inr hskip
        · rw [if_neg horigin] at hoff ⊢
          rw [if_neg horigin]
          exact hvisit target hknown s s' p p' hs hp hslot hdata hoff
    | _ => exact Or.inr hskip

/-- The same if the visits are coupled whatever has been registered. -/
theorem refRule_coupled_of_find {visit visit' : Node → Check Unit} {n : Node} (h : alike n n)
    (hlast : ∀ k, Lasts K.off Eq (visit k))
    (hvisit : ∀ k, Coupled K depth Eq (visit k) (visit' k))
    (hfound : ∀ {p p'}, K.states p p' → ∀ {ref target}, p.registry.find? ref = some target →
      p'.registry.find? ref = some target)
    (hnone : ∀ {p p'}, K.states p p' → ∀ {trail ref}, p.registry.find? ref = none →
      ¬ K.off (p.tell (.unresolved trail ref)) → p'.registry.find? ref = none) :
    Coupled K depth Eq (refRule visit n) (refRule visit' n) :=
  refRule_coupled_of_known hK h hlast (fun k (_ : True) => hvisit k)
    (fun hp _ _ hfind => ⟨trivial, hfound hp hfind⟩) hnone

/-- The schemas that entries carry are checked alike, if they are alike. -/
theorem ownSchema_coupled {visit visit' : Node → Check Unit}
    (hvisit : ∀ k l, alike k l → Coupled K depth Eq (visit k) (visit' l))
    (hinteractive : ∀ {s s'}, K.scopes depth s s' → s.interactive = s'.interactive)
    (hown : ∀ {s s'}, K.scopes depth s s' → s.interactive = false → ∀ {σ}, K.data σ →
      ∀ {key es own}, Value.entryAt? key σ.value.entries = some (.map es) →
        Value.entryAt? (.name "$schema") es = some own → own.isMap = true →
          alike ⟨(s.child (.entry key)).place.down (.name "$schema"), own⟩
            ⟨(s'.child (.entry key)).place.down (.name "$schema"), own⟩)
    (key : Key) : Coupled K depth Eq (ownSchema visit key) (ownSchema visit' key) := by
  intro s s' p p' hs hp hslot hdata hoff
  unfold ownSchema at hoff ⊢
  rw [scope_bind] at hoff ⊢
  rw [scope_bind, ← hinteractive hs]
  -- both runs look for such a schema, or neither does
  cases hi : s.interactive with
  | true => exact Or.inr ⟨.ok rfl, hp, hslot, fun _ => rfl⟩
  | false =>
    rw [hi] at hoff
    simp only [Bool.false_eq_true, if_false] at hoff ⊢
    rw [value_bind] at hoff ⊢
    rw [value_bind, ← hslot]
    cases he : Value.entryAt? key p.slot.value.entries with
    | none => exact Or.inr ⟨.ok rfl, hp, hslot, fun _ => rfl⟩
    | some w =>
      cases w with
      | map es =>
        rw [he] at hoff
        dsimp only at hoff ⊢
        cases ho : Value.entryAt? (.name "$schema") es with
        | none => exact Or.inr ⟨.ok rfl, hp, hslot, fun _ => rfl⟩
        | some own =>
          rw [ho] at hoff
          simp only [Option.getD_some] at hoff ⊢
          cases ht : own.isTruthy with
          | false => exact Or.inr ⟨.ok rfl, hp, hslot, fun _ => rfl⟩
          | true =>
            rw [ht] at hoff
            simp only [if_true] at hoff ⊢
            cases hm : own.isMap with
            | false =>
              have htrail := (hK.place hs).2
              simp only [Bool.false_eq_true, if_false]
              rw [htrail]
              exact Or.inr ⟨.ok rfl, hK.note hp _ rfl, hslot, fun _ => rfl⟩
            | true =>
              rw [hm] at hoff
              simp only [if_true] at hoff ⊢
              -- only here is a schema visited, and it is the same one for both runs
              have halike := hown hs hi hdata he ho hm
              exact Coupled.atChild hK (hvisit _ _ halike) (.entry key) s s' p p' hs hp hslot hdata
                hoff
      | _ => exact Or.inr ⟨.ok rfl, hp, hslot, fun _ => rfl⟩

/-- The rules for a missing value go alike, if what they write does. -/
theorem missingRules_coupled
    (hinteractive : ∀ {s s'}, K.scopes depth s s' → s.interactive = s'.interactive)
    (hstill : ∀ {s s'}, K.scopes depth s s' → K.still → s.interactive = false) {n n' : Node}
    (h : alike n n')
    (hwritten : ∀ {s s'}, K.scopes depth s s' → ∀ {p p'}, K.states p p' → ∀ {σ v},
      missed (n.content p.writes) s p.slot = .filled σ v → ¬ K.off (written σ v s p).2 →
        K.states (written σ v s p).2 (written σ v s' p').2) :
    Coupled K depth Eq (missingRules n) (missingRules n') := by
  intro s s' p p' hs hp hslot hdata hoff
  have hlast := Lasts.missingRules hK.lasting n s p
  obtain ⟨hsame, _⟩ := hK.content h hp fun hq => hoff (hlast.1 hq)
  obtain ⟨hkey, htrail⟩ := hK.place hs
  rw [missingRules_run] at hoff ⊢
  -- the verdict depends on the place, the mode, the schema and the slot, and all four agree
  rw [missingRules_run, ← hsame, ← hslot, ← missed_congr hkey htrail (hinteractive hs)]
  refine Or.inr ?_
  cases hm : missed (n.content p.writes) s p.slot with
  | fails f => exact ⟨.error f, hp, hslot, fun _ => rfl⟩
  | passes => exact ⟨.ok rfl, hp, hslot, fun _ => rfl⟩
  | remarks e => exact ⟨.ok rfl, hK.note hp e (frames_of_missed hm), hslot, fun _ => rfl⟩
  | filled σ v =>
    rw [hm] at hoff
    refine ⟨.ok rfl, hwritten hs hp hm hoff, rfl, fun hk => ?_⟩
    -- where slots stay as they are, nothing is written
    have hnot := hstill hs hk
    rw [(of_missed_filled hm).1] at hnot
    cases hnot

end Rules

/-! ## All depths -/

/-- A coupling that survives whole checks against schemas, where the second run may go so much
    deeper than the first. -/
structure Coupling.Inductive (K : Coupling) (alike : Node → Node → Prop) (more : Nat) : Prop
    extends K.Preserved alike where
  bottom : ∀ {k l}, alike k l → Coupled K 0 Eq (against 0 k) (against more l)
  reference : ∀ {depth depth' k l}, alike k l →
    (∀ k l, alike k l → Coupled K depth Eq (against depth k) (against depth' l)) →
      Coupled K depth Eq (refRule (against depth) k) (refRule (against depth') l)
  own : ∀ {depth depth'},
    (∀ k l, alike k l → Coupled K depth Eq (against depth k) (against depth' l)) → ∀ key,
      Coupled K depth Eq (ownSchema (against depth) key) (ownSchema (against depth') key)
  missing : ∀ {depth k l}, alike k l → Coupled K depth Eq (missingRules k) (missingRules l)

/-- A check one level deeper is coupled if the check itself is. -/
theorem nested_coupled {K : Coupling} {alike : Node → Node → Prop} {depth : Nat}
    (hK : K.Preserved alike) {k l : Node} (hkl : alike k l) {c d : Check Unit}
    (h : Coupled K depth Eq c d) : Coupled K (depth + 1) Eq (nested k c) (nested l d) := by
  intro s s' p p' hs hp hslot hdata hoff
  obtain ⟨hdeeper, hentered⟩ := hK.enter hkl hs hp
  have hon : ¬ K.off (c s.deeper (p.tell (.entered k s.trail s.deeper.depth))).2 :=
    fun hq => hoff (hK.lasting.event _ hq)
  have hcut_left (hcut : K.Cut (c s.deeper (p.tell (.entered k s.trail s.deeper.depth)))) :
      K.Cut (nested k c s p) := by
    obtain ⟨f, hf, hcut⟩ := hcut
    have hleft := hK.cut_leave hcut k
    rw [← hf] at hleft
    exact ⟨f, hf, hleft⟩
  rcases h _ _ _ _ hdeeper hentered hslot hdata hon with hcut | hjoined
  · exact Or.inl (hcut_left hcut)
  -- a run that is cut inside is cut as a whole, though both ends may be alike
  · by_cases hcut : K.Cut (c s.deeper (p.tell (.entered k s.trail s.deeper.depth)))
    · exact Or.inl (hcut_left hcut)
    · refine Or.inr ⟨hjoined.result, ?_, hjoined.slot, hjoined.still⟩
      have hleft := hK.leave hkl hjoined.states _ hcut
      have hsame := hjoined.result.eq
      unfold nested
      dsimp only
      rw [show (d { s' with depth := s'.depth + 1 } { p' with
        journal := .entered l s'.trail (s'.depth + 1) :: p'.journal }).1 = _ from hsame]
      exact hleft

/-- Checks against schemas that are alike are coupled, whatever depth remains. -/
theorem against_coupled {K : Coupling} {alike : Node → Node → Prop} {more : Nat}
    (hK : K.Inductive alike more) (depth : Nat) {k l : Node} (h : alike k l) :
    Coupled K depth Eq (against depth k) (against (more + depth) l) := by
  -- the remaining depth of the first run; that of the second stays as much larger
  induction depth generalizing k l with
  | zero => exact hK.bottom h
  | succ depth ih =>
    have hlast := against_lasts hK.lasting depth
    have hproperty : Coupled K depth Eq (property (against depth) k)
        (property (against (more + depth)) l) := by
      let P : Pairing := ⟨alike, against depth, against (more + depth), k, l⟩
      have hvisit (k l : Node) (h : alike k l) :
          Coupled K depth Eq (against depth k) (against (more + depth) l) := ih h
      have hreference := hK.reference h hvisit
      have hown := hK.own hvisit
      exact Parallel.coupled (P := P) hK.toPreserved hlast hvisit hreference hown (hK.missing h)
        (.property hK.like h)
    have hnested := nested_lasts hK.lasting (property_lasts hK.lasting hlast k) k
    rw [show more + (depth + 1) = more + depth + 1 from rfl, against, against]
    refine .read hK.toPreserved (fun _ _ => rfl) (content_coupled hK.toPreserved h)
      (fun s p v hp => ?_) ?_
    · split
      · exact (hnested s p).1 hp
      · exact hp
    · rintro v _ ⟨rfl, _⟩
      cases v.isMap with
      | true => exact nested_coupled hK.toPreserved h hproperty
      | false => exact .skip

end Check

end Conformance

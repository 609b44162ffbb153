/-
  What is left of a call that reports a value missing.

  The requirement and the default of an absent key can stand in different schemas, and these are
  gone through in turn.  So what a report leaves behind depends on what came before it.  The
  condition that carries the proof (`Explained`) says of any moment of the run that either the key
  is as it was and no schema gone through by then has offered a default for it, or one of those
  schemas has, and its default stands there.  A schema is gone through once its check is over
  without a failure; between the write and that moment there is nothing but the end of the check
  (`Concludes`).

  A call that reports a value missing has met a schema that requires it (`reported_missing`).  It
  has changed nothing exactly if no schema that it had gone through before offers a default; if one
  does, the key is reported missing and yet there (`reported_missing_yet_there`).
-/
import Conformance.Proofs.Lineage

namespace Conformance

/-! ## Keys without a value -/

/-- What there is under a key that a container does not have. -/
def Slot.isVacant : Slot → Bool
  | .free => true
  | .fromEnd none => true
  | .outOfReach _ _ => true
  | .closed _ => true
  | .unaskable _ => true
  | _ => false

theorem Slot.isAbsent_of_isVacant {σ : Slot} (h : σ.isVacant = true) : σ.isAbsent = true := by
  cases σ with
  | present x => cases h
  | held => cases h
  | _ => rfl

/-- What is looked up has not been put there by the check that looks. -/
theorem Value.slotBelow_isVacant {container : Value} {step : Step}
    (h : (container.slotBelow step).isAbsent = true) :
    (container.slotBelow step).isVacant = true := by
  unfold slotBelow at h ⊢
  split
  · next x hx =>
    rw [hx] at h
    cases x <;> cases h
  · rcases container.gap_eq step with hgap | hgap <;> rw [hgap] <;> rfl

/-- The same of a key that was handed in. -/
theorem Value.slotAt_isVacant {container key : Value}
    (h : (container.slotAt key).isAbsent = true) : (container.slotAt key).isVacant = true := by
  unfold slotAt at h ⊢
  split at h
  · split at h
    · rfl
    · exact slotBelow_isVacant h
  · split at h
    · split at h
      · next hroom => rw [if_pos hroom]; rfl
      · next hroom =>
        rw [if_neg hroom]
        exact slotBelow_isVacant h
    · split <;> rfl
    · rfl
  · split at h
    · exact slotBelow_isVacant h
    · rfl
  · rfl

namespace Check

/-! ## The account of a key -/

/-- The key is as it was, and no schema gone through has offered a default, unless for a container
    that takes none. -/
structure Untouched (σ : Slot) (interactive : Bool) (p : Progress) : Prop where
  slot : p.slot = σ
  writes : p.writes = []
  none : (∃ className, σ = .closed className) ∨
    ∀ n, .left n (.ok ()) ∈ p.journal → offered interactive n.tree = none

/-- A schema gone through has offered a default, and it has been put there; at an index from the end
    others may have gone over it since. -/
structure Supplied (σ : Slot) (interactive : Bool) (n : Node) (d : Value) (p : Progress) :
    Prop where
  left : .left n (.ok ()) ∈ p.journal
  offer : offered interactive n.tree = some d
  slot : (σ = .free ∧ p.slot = .filled d) ∨ ∃ e, σ = .fromEnd none ∧ p.slot = .fromEnd (some e)

/-- Whether the key has received anything is explained by the schemas gone through. -/
def Explained (σ : Slot) (interactive : Bool) (p : Progress) : Prop :=
  Untouched σ interactive p ∨ ∃ n d, Supplied σ interactive n d p

variable {σ : Slot} {interactive : Bool} {p q : Progress}

/-- Only the ends of checks without a failure count. -/
theorem Explained.of_events (h : Explained σ interactive p) (events : List Event)
    (hslot : q.slot = p.slot) (hwrites : q.writes = p.writes) (hj : q.journal = events ++ p.journal)
    (hevents : ∀ n, .left n (.ok ()) ∉ events) : Explained σ interactive q := by
  -- events may only add ends without a failure, and here there are none
  rcases h with hu | ⟨n, d, hs⟩
  · refine Or.inl ⟨hslot.trans hu.slot, hwrites.trans hu.writes, hu.none.imp_right ?_⟩
    intro hnone n hn
    rw [hj] at hn
    exact hnone n ((List.mem_append.mp hn).resolve_left (hevents n))
  · refine Or.inr ⟨n, d, ?_, hs.offer, by rw [hslot]; exact hs.slot⟩
    rw [hj]
    exact List.mem_append_right _ hs.left

/-- A schema that has been met requires the value, as it read then. -/
def Required (f : Failure) (p : Progress) : Prop :=
  ∃ n writes, .left n (.error f) ∈ p.journal ∧
    (n.content writes).get? "required" = some (.bool true)

/-- A check keeps the account, and where it reports the value missing, a schema requires it. -/
def Answers (σ : Slot) {α : Type} (c : Check α) : Prop :=
  ∀ s p, Explained σ s.interactive p →
    Explained σ s.interactive (c s p).2 ∧
      ((c s p).1 = .error (missingFailure s) → Required (missingFailure s) (c s p).2)

namespace Answers

variable {n : Node} {visit : Node → Check Unit}

/-- A check that succeeds and tells of no end of a check. -/
theorem of_events {c : Check Unit} (hok : ∀ s p, (c s p).1 = .ok ())
    (hc : ∀ s p, (c s p).2.slot = p.slot ∧ (c s p).2.writes = p.writes ∧
      ∃ events, (c s p).2.journal = events ++ p.journal ∧ ∀ n r, .left n r ∉ events) :
    Answers σ c := by
  intro s p hp
  obtain ⟨hslot, hwrites, events, hj, hevents⟩ := hc s p
  refine ⟨hp.of_events events hslot hwrites hj fun n => hevents n _, fun hr => ?_⟩
  rw [hok] at hr
  cases hr

theorem done : Answers σ (pure () : Check Unit) :=
  .of_events (fun _ _ => rfl) fun _ _ => ⟨rfl, rfl, [], rfl, by simp⟩

/-- One check after the other, as long as the first one succeeds. -/
theorem bind {α β : Type} {c : Check α} {f : α → Check β} (hc : Answers σ c)
    (hf : ∀ a, Answers σ (f a)) : Answers σ (c >>= f) := by
  intro s p hp
  obtain ⟨hexplained, hreport⟩ := hc s p hp
  rw [bind_run]
  rcases hr : c s p with ⟨r, q⟩
  rw [hr] at hexplained hreport
  cases r with
  | error e => exact ⟨hexplained, fun he => hreport (by cases he; rfl)⟩
  | ok a => exact hf a s q hexplained

theorem read {α β : Type} {c : Check α} {f : α → Check β} (hc : ∀ s p, ∃ a, c s p = (.ok a, p))
    (hf : ∀ a, Answers σ (f a)) : Answers σ (c >>= f) := by
  refine bind (fun s p hp => ?_) hf
  obtain ⟨a, ha⟩ := hc s p
  rw [ha]
  exact ⟨hp, fun h => by cases h⟩

theorem whenGiven {name : String} {rule : Node → Check Unit} (h : ∀ r, Answers σ (rule r)) :
    Answers σ (Check.whenGiven n name rule) := by
  refine bind (read (fun _ _ => ⟨_, rfl⟩) fun v => ?_) fun r => ?_
  · cases v with
    | none => exact fun _ _ hp => ⟨hp, fun h => by cases h⟩
    | some v => exact fun _ _ hp => ⟨hp, fun h => by cases h⟩
  -- a rule that is not given is nothing to do
  · cases r with
    | none => exact done
    | some r => exact h r

theorem idRule : Answers σ (Check.idRule n) := by
  refine whenGiven fun id => of_events (fun _ _ => rfl) fun s p => ⟨rfl, rfl, _, rfl, ?_⟩
  intro k r
  unfold Registry.news
  split
  · simp
  · split <;> simp

/-- An event that is no end of a check changes nothing. -/
theorem note {e : Event} (he : ∀ n r, e ≠ .left n r) : Answers σ (Check.note e) :=
  of_events (fun _ _ => rfl) fun _ _ =>
    ⟨rfl, rfl, [e], rfl, fun n r hm => he n r (List.mem_singleton.mp hm).symm⟩

section Visits

variable (hvisit : ∀ k, Answers σ (visit k))

include hvisit

theorem refRule : Answers σ (Check.refRule visit n) := by
  refine read (fun _ _ => ⟨_, rfl⟩) fun ref => ?_
  split
  · refine read (fun _ _ => ⟨_, rfl⟩) fun p => ?_
    split
    · exact read (fun _ _ => ⟨_, rfl⟩) fun s => note (by simp)
    · split
      · exact done
      · exact hvisit _
  · exact done

theorem visitAppended (room i : Nat) :
    Answers σ (Check.visitAppended n (fun _ k => visit k) room i) := by
  -- as many elements as there is room for, each read when it is come to
  induction room generalizing i with
  | zero => exact done
  | succ room ih =>
    refine read (fun _ _ => ⟨_, rfl⟩) fun v => ?_
    split
    · exact done
    · exact bind (hvisit _) fun _ => ih _

theorem eachElement : Answers σ (Check.eachElement n fun _ k => visit k) := by
  refine read (fun _ _ => ⟨_, rfl⟩) fun v => ?_
  have hfrom (items : List Value) : ∀ i,
      Answers σ (Check.visitFrom n (fun _ k => visit k) i items) := by
    induction items with
    | nil => exact fun i => visitAppended hvisit growthRoom i
    | cons b rest ih => exact fun i => bind (hvisit _) fun _ => ih _
  exact hfrom _ 0

theorem extendsRule : Answers σ (Check.extendsRule visit n) := by
  refine whenGiven fun r => ?_
  split
  · exact eachElement hvisit
  · exact hvisit r

end Visits

end Answers

/-! ## The end of a check -/

/-- What becomes of a key without a value under a schema that does not require one. -/
inductive Vacancy (s : Scope) (S : Value) (σ : Slot) : Prop
  | none (offer : offered s.interactive S = none) (h : missed S s σ = .passes)
  | fault {f : Fault} (h : missed S s σ = .fails (.fault f))
  | closed {className : String} (closed : ∃ className, σ = .closed className)
    (h : missed S s σ = .remarks (.notWritable s.trail className))
  | filled {d : Value} {τ : Slot} (offer : offered s.interactive S = some d)
    (slot : (σ = .free ∧ τ = .filled d) ∨ ∃ e, σ = .fromEnd none ∧ τ = .fromEnd (some e))
    (h : missed S s σ = .filled τ d)

/-- Without a requirement a vacant key is passed over, filled in, or cannot be written to. -/
theorem missed_vacant {s : Scope} {S : Value} {σ : Slot} (h : S.isRequired = false)
    (hσ : σ.isVacant = true) : Vacancy s S σ := by
  -- a key that cannot be asked about is a fault, whatever the schema offers
  by_cases hask : ∃ className, σ = .unaskable className
  · obtain ⟨className, rfl⟩ := hask
    have hrequired : S.get? "required" ≠ some (.bool true) := by simpa [Value.isRequired] using h
    cases hi : s.interactive with
    | false => exact .none (by simp [offered, hi]) (by simp [missed, hrequired, hi])
    | true => exact .fault (f := .unhashable className) (by simp [missed, hrequired, hi])
  · have hmissed := @missed_of_not_required s S h σ (by simpa using hask)
    cases ho : offered s.interactive S with
    | none =>
      rw [ho] at hmissed
      exact .none ho hmissed
    | some d =>
      rw [ho] at hmissed
      cases σ with
      | present x => cases hσ
      | held => cases hσ
      | filled x => cases hσ
      | unaskable className => exact absurd ⟨className, rfl⟩ hask
      | free => exact .filled ho (Or.inl ⟨rfl, rfl⟩) hmissed
      | outOfReach index length => exact .fault hmissed
      | closed className => exact .closed ⟨className, rfl⟩ hmissed
      | fromEnd old =>
        cases old with
        | none => exact .filled ho (Or.inr ⟨d, rfl, rfl⟩) hmissed
        | some x => cases hσ

/-- A check of the rules of a schema that is explained once its end is told. -/
def Concludes (σ : Slot) (n : Node) (c : Check Unit) : Prop :=
  ∀ s p, Explained σ s.interactive p →
    Explained σ s.interactive
        { (c s p).2 with journal := .left n (c s p).1 :: (c s p).2.journal } ∧
      ((c s p).1 = .error (missingFailure s) → Required (missingFailure s)
        { (c s p).2 with journal := .left n (c s p).1 :: (c s p).2.journal })

namespace Concludes

variable {n : Node}

theorem bind {c d : Check Unit} (hc : Answers σ c) (hd : Concludes σ n d) :
    Concludes σ n (c >>= fun _ => d) := by
  intro s p hp
  obtain ⟨hexplained, hreport⟩ := hc s p hp
  rw [bind_run]
  rcases hr : c s p with ⟨r, q⟩
  rw [hr] at hexplained hreport
  cases r with
  | ok _ => exact hd s q hexplained
  | error e =>
    refine ⟨hexplained.of_events [.left n (.error e)] rfl rfl rfl (by simp), fun he => ?_⟩
    obtain ⟨k, writes, hk, hrequired⟩ := hreport (by cases he; rfl)
    exact ⟨k, writes, List.mem_cons_of_mem _ hk, hrequired⟩

/-- The end of a check that has found nothing to do, where the schema offers no default. -/
theorem untouched (h : Untouched σ interactive p)
    (hnone : (∃ className, σ = .closed className) ∨ offered interactive n.tree = none)
    {e : List Event} (he : ∀ k, .left k (.ok ()) ∉ e) :
    Explained σ interactive { p with journal := .left n (.ok ()) :: (e ++ p.journal) } := by
  refine Or.inl ⟨h.slot, h.writes, ?_⟩
  -- a container that takes nothing settles it; otherwise neither this schema nor one before it has
  -- offered anything
  rcases h.none, hnone with ⟨hclosed | hbefore, hclosed | hthis⟩
  · exact Or.inl hclosed
  · exact Or.inl hclosed
  · exact Or.inl hclosed
  · refine Or.inr fun k hk => ?_
    rcases List.mem_cons.mp hk with hk | hk
    · cases hk
      exact hthis
    · exact hbefore k ((List.mem_append.mp hk).resolve_left (he k))

/-- A schema gone through once more, after the key has received a default. -/
theorem supplied {k : Node} {d : Value} (hs : Supplied σ interactive k d p)
    (hq : ∃ events, q.journal = events ++ p.journal)
    (hslot : q.slot = p.slot ∨ ∃ e e', p.slot = .fromEnd (some e) ∧ q.slot = .fromEnd (some e')) :
    Explained σ interactive q := by
  obtain ⟨events, hj⟩ := hq
  refine Or.inr ⟨k, d, by rw [hj]; exact List.mem_append_right _ hs.left, hs.offer, ?_⟩
  rcases hslot with hsame | ⟨e, e', he, he'⟩
  · rw [hsame]
    exact hs.slot
  -- a default in a free slot stays, and one from the end of a list may be gone over
  · rcases hs.slot with ⟨_, hfilled⟩ | ⟨_, hfree, _⟩
    · rw [hfilled] at he
      cases he
    · exact Or.inr ⟨e', hfree, he'⟩

/-- The rules for a missing value come last: what they put there is what the schema offers. -/
theorem missingRules (hσ : σ.isVacant = true) : Concludes σ n (Check.missingRules n) := by
  intro s p hp
  have hfails (f : Failure) : Explained σ s.interactive
      { p with journal := .left n (.error f) :: p.journal } :=
    hp.of_events [.left n (.error f)] rfl rfl rfl (by simp)
  rw [missingRules_run]
  by_cases hrequired : (n.content p.writes).isRequired = true
  · -- the report itself
    rw [missed_of_required hrequired]
    refine ⟨hfails _, fun _ => ⟨n, p.writes, List.mem_cons_self .., ?_⟩⟩
    simpa [Value.isRequired] using hrequired
  · have hfree : (n.content p.writes).isRequired = false := by simpa using hrequired
    rcases hp with hu | ⟨k, d, hs⟩
    · -- nothing has been written, so the schema says what it said when it was met
      have hcontent : n.content p.writes = n.tree := by rw [hu.writes, n.content_nil]
      rw [hcontent] at hfree ⊢
      rw [hu.slot]
      cases missed_vacant (s := s) hfree hσ with
      | none ho hm =>
        rw [hm]
        exact ⟨untouched hu (Or.inr ho) (e := []) (by simp), fun h => by cases h⟩
      | fault hm =>
        rw [hm]
        exact ⟨hfails _, fun h => by cases h⟩
      | closed hc hm =>
        rw [hm]
        exact ⟨untouched hu (Or.inl hc) (e := [_]) (by simp), fun h => by cases h⟩
      | filled ho hτ hm =>
        rw [hm]
        exact ⟨Or.inr ⟨n, _, List.mem_cons_self .., ho, hτ⟩, fun h => by cases h⟩
    · rcases hs.slot with ⟨_, hslot⟩ | ⟨e, _, hslot⟩
      · rw [hslot, missed_of_not_required hfree (by simp)]
        cases offered s.interactive (n.content p.writes) <;>
          exact ⟨supplied hs ⟨[_], rfl⟩ (Or.inl rfl), fun h => by cases h⟩
      · rw [hslot, missed_of_not_required hfree (by simp)]
        cases offered s.interactive (n.content p.writes) with
        | none => exact ⟨supplied hs ⟨[_], rfl⟩ (Or.inl rfl), fun h => by cases h⟩
        | some d' =>
          exact ⟨supplied hs ⟨[_, _], rfl⟩ (Or.inr ⟨e, d', hslot, rfl⟩), fun h => by cases h⟩

/-- There is no value, so the rules for a missing one are all there is. -/
theorem ownRules {visit : Node → Check Unit} (hσ : σ.isVacant = true) :
    Concludes σ n (Check.ownRules visit n) := by
  intro s p hp
  have hvalue : p.slot.value = .missing := by
    rcases hp with hu | ⟨k, d, hs⟩
    · rw [hu.slot]
      exact Slot.value_of_isAbsent (Slot.isAbsent_of_isVacant hσ)
    · rcases hs.slot with ⟨_, hslot⟩ | ⟨e, _, hslot⟩ <;> rw [hslot] <;> rfl
  have hown : Check.ownRules visit n s p = Check.missingRules n s p := by
    unfold Check.ownRules
    rw [value_bind, hvalue]
  rw [hown]
  exact missingRules hσ s p hp

theorem property {visit : Node → Check Unit} (hσ : σ.isVacant = true)
    (hvisit : ∀ k, Answers σ (visit k)) : Concludes σ n (Check.property visit n) :=
  .bind .idRule (.bind (.refRule hvisit) (.bind (.extendsRule hvisit) (.ownRules hσ)))

/-- The end of a check is told right after its rules. -/
theorem nested {c : Check Unit} (h : Concludes σ n c) : Answers σ (Check.nested n c) := by
  intro s p hp
  have hentered : Explained σ s.interactive
      { p with journal := .entered n s.trail (s.depth + 1) :: p.journal } :=
    hp.of_events [.entered n s.trail (s.depth + 1)] rfl rfl rfl (by simp)
  exact h { s with depth := s.depth + 1 } _ hentered

end Concludes

/-- Every check of a key without a value keeps the account, whatever schemas it is led to. -/
theorem against_answers {σ : Slot} (hσ : σ.isVacant = true) (depth : Nat) (n : Node) :
    Answers σ (against depth n) := by
  -- the remaining depth; the slot and the account are the same at every level
  induction depth generalizing n with
  | zero =>
    refine .read (fun _ _ => ⟨_, rfl⟩) fun v => ?_
    split
    · refine .read (fun _ _ => ⟨_, rfl⟩) fun s => ?_
      exact fun _ _ hp => ⟨hp, fun h => by cases h⟩
    · exact .done
  | succ depth ih =>
    refine .read (fun _ _ => ⟨_, rfl⟩) fun v => ?_
    split
    · exact (Concludes.property hσ ih).nested
    · exact .done

end Check

/-! ## Reports -/

namespace Validator

open Check

variable {v : Validator} {parent schema : Node} {key : Value} {handedIn : Option Node}

/-- Before anything has been gone through, a key is as it was. -/
theorem memberRun_explained (v : Validator) (schema : Node)
    (habsent : (parent.tree.slotAt key).isAbsent = true) :
    let run := v.memberRun parent key schema
    Explained (parent.tree.slotAt key) v.interactive.isTruthy run.2 ∧
      (run.1 = .error (.violation ⟨.missing, key, some []⟩) →
        Required (.violation ⟨.missing, key, some []⟩) run.2) := by
  refine against_answers (Value.slotAt_isVacant habsent) _ schema (v.memberScope parent key)
    (v.memberStart parent key) (Or.inl ⟨rfl, rfl, Or.inr fun n hn => ?_⟩)
  cases hn

/-- A key that is as it was leaves the parent as it was, with nothing on record. -/
theorem unchanged_of_untouched (habsent : (parent.tree.slotAt key).isAbsent = true)
    (h : Untouched (parent.tree.slotAt key) v.interactive.isTruthy
      (v.memberRun parent key schema).2) :
    parent.tree.settle (parent.tree.stepTo key) (v.memberRun parent key schema).2.slot =
        parent.tree ∧ recorded (v.memberRun parent key schema).2 = [] := by
  obtain ⟨ds, hmoves⟩ := v.memberRun_moves parent key schema
  -- nothing written means nothing injected, so the parent is put together as it was
  have hnone : ds = [] := by
    have hwrites := hmoves.writes
    rw [h.writes] at hwrites
    simpa [memberStart] using hwrites.symm
  have hvacant := Value.slotAt_isVacant habsent
  refine ⟨?_, by rw [recorded_of_moves hmoves, hnone]; rfl⟩
  rw [h.slot]
  cases hs : parent.tree.slotAt key with
  | present x => rw [hs] at hvacant; cases hvacant
  | filled x => rw [hs] at hvacant; cases hvacant
  | fromEnd old =>
    cases old with
    | none => rfl
    | some x => rw [hs] at hvacant; cases hvacant
  | _ => rfl

/-- A key that has received a default shows it in the record. -/
theorem recorded_of_supplied {n : Node} {d : Value}
    (h : Supplied (parent.tree.slotAt key) v.interactive.isTruthy n d
      (v.memberRun parent key schema).2) :
    recorded (v.memberRun parent key schema).2 ≠ [] ∧
      (parent.tree.slotAt key = .free → (v.memberRun parent key schema).2.slot = .filled d ∧
        recorded (v.memberRun parent key schema).2 = ["$"]) := by
  obtain ⟨ds, hmoves⟩ := v.memberRun_moves parent key schema
  have hrecorded : recorded (v.memberRun parent key schema).2 = ds.map fun d => d.trail.text :=
    recorded_of_moves hmoves
  have hreceived : (parent.tree.slotAt key).Injections ds (v.memberRun parent key schema).2.slot :=
    hmoves.slot
  rw [hrecorded]
  -- a free key is filled in once, and an element from the end is written over at least once
  rcases h.slot with ⟨hfree, hfilled⟩ | ⟨e, hend, hwritten⟩
  · rw [hfree, hfilled] at hreceived
    rcases hreceived.of_free with ⟨_, hempty⟩ | ⟨_, rfl, _⟩
    · cases hempty
    · exact ⟨by simp, fun _ => ⟨hfilled, by rw [List.map_singleton, Trail.text_nil]⟩⟩
  · refine ⟨fun hnone => ?_, fun hfree => ?_⟩
    · rw [List.map_eq_nil_iff.mp hnone, hend, hwritten] at hreceived
      cases hreceived.eq_of_nil rfl
    · rw [hend] at hfree
      cases hfree

/-- **A value reported missing.**  Whatever the schema refers to and extends: a call on an absent
    key that reports the value missing has met a schema that requires it.  It leaves the parent as
    it was, with nothing on record, exactly if no schema that it had gone through by then offers a
    default, or the parent is nothing that a default can be written into.  If one offers a default
    for a key that is free, the key is there afterwards, with that default and one path on
    record. -/
theorem reported_missing (v : Validator) (parent schema : Node) (key : Value)
    (handedIn : Option Node) (habsent : (parent.tree.slotAt key).isAbsent = true)
    (hhanded : ∀ n ∈ handedIn, n.tree = .missing) :
    let o := v.checkProperty parent key handedIn schema
    let report : Failure := .violation ⟨.missing, key, some []⟩
    let offeredBefore := ∃ n d, .left n (.ok ()) ∈ o.outcome.journal ∧
      offered v.interactive.isTruthy n.tree = some d
    o.outcome.result = .error report →
      (∃ n writes, .left n (.error report) ∈ o.outcome.journal ∧
        (n.content writes).get? "required" = some (.bool true)) ∧
      (o.parent = parent.tree ∧ o.outcome.validator.applied = v.applied ↔
        ¬ offeredBefore ∨ ∃ className, parent.tree.slotAt key = .closed className) ∧
      (parent.tree.slotAt key = .free → offeredBefore →
        ∃ n d, .left n (.ok ()) ∈ o.outcome.journal ∧
          offered v.interactive.isTruthy n.tree = some d ∧
          o.parent = parent.tree.adopt (parent.tree.stepTo key) d ∧
          o.outcome.validator.applied = v.applied ++ ["$"]) := by
  intro o report offeredBefore hreport
  obtain ⟨hresult, hjournal, hparent, happlied⟩ :=
    checkProperty_absent v schema habsent hhanded
  obtain ⟨hexplained, hrequired⟩ := memberRun_explained v schema habsent
  have hmem (e : Event) :
      e ∈ o.outcome.journal ↔ e ∈ (v.memberRun parent key schema).2.journal := by
    rw [show o.outcome.journal = _ from hjournal, List.mem_reverse]
  have hreporter := hrequired (hresult.symm.trans hreport)
  refine ⟨?_, ?_⟩
  · obtain ⟨n, writes, hleft, hget⟩ := hreporter
    exact ⟨n, writes, (hmem _).mpr hleft, hget⟩
  · rcases hexplained with hu | ⟨n, d, hs⟩
    · -- nothing has come of it
      obtain ⟨hsame, hnothing⟩ := unchanged_of_untouched habsent hu
      have hunchanged : o.parent = parent.tree ∧ o.outcome.validator.applied = v.applied :=
        ⟨hparent.trans hsame, happlied.trans (by rw [hnothing, List.append_nil])⟩
      have hbefore : ¬ offeredBefore ∨ ∃ className, parent.tree.slotAt key = .closed className := by
        refine hu.none.symm.imp_left fun hnone => ?_
        rintro ⟨n, d, hn, hd⟩
        rw [hnone n ((hmem _).mp hn)] at hd
        cases hd
      refine ⟨iff_of_true hunchanged hbefore, fun hfree hoffered => ?_⟩
      rcases hbefore with hnone | ⟨className, hclosed⟩
      · exact absurd hoffered hnone
      · rw [hfree] at hclosed
        cases hclosed
    · -- one of them has filled the key in
      obtain ⟨hsome, hfilled⟩ := recorded_of_supplied hs
      have hoffered : offeredBefore := ⟨n, d, (hmem _).mpr hs.left, hs.offer⟩
      have hopen : ¬ ∃ className, parent.tree.slotAt key = .closed className := by
        rintro ⟨className, hclosed⟩
        rcases hs.slot with ⟨hfree, _⟩ | ⟨_, hend, _⟩
        · rw [hclosed] at hfree
          cases hfree
        · rw [hclosed] at hend
          cases hend
      refine ⟨iff_of_false (fun hunchanged => hsome ?_) (not_or.mpr ⟨fun h => h hoffered, hopen⟩),
        fun hfree _ => ⟨n, d, (hmem _).mpr hs.left, hs.offer, ?_, ?_⟩⟩
      · exact List.append_right_eq_self.mp (happlied.symm.trans hunchanged.2)
      · rw [show o.parent = _ from hparent, (hfilled hfree).1]
        rfl
      · rw [show o.outcome.validator.applied = _ from happlied, (hfilled hfree).2]

/-- The base has been gone through and has filled the key in before the schema requires it. -/
theorem filled_in_before_report :
    let o := (Validator.new .default .null).checkProperty emptyInstance (.str "k") none
      (.ofSchema 0 requiresFilled)
    o.outcome.result = .error (.violation ⟨.missing, .str "k", some []⟩) ∧
      ∃ d, o.parent = .map [(.name "k", d)] ∧ o.outcome.validator.applied = ["$"] := by
  intro o
  have hreport : o.outcome.result = .error (.violation ⟨.missing, .str "k", some []⟩) := by
    decide +kernel
  obtain ⟨_, hunchanged, hfilled⟩ := reported_missing (Validator.new .default .null) emptyInstance
    (.ofSchema 0 requiresFilled) (.str "k") none rfl (by simp) hreport
  have hchanged : o.outcome.validator.applied ≠ [] := by decide +kernel
  have hoffered := not_or.mp (mt hunchanged.mpr fun h => hchanged h.2)
  obtain ⟨_, d, _, _, hparent, happlied⟩ := hfilled rfl (Classical.not_not.mp hoffered.1)
  exact ⟨hreport, d, hparent, happlied⟩

/-- So a key can be reported missing and be there afterwards: the same call again finds nothing to
    object to. -/
theorem reported_missing_yet_there :
    let v := Validator.new .default .null
    let schema := Node.ofSchema 0 requiresFilled
    let o := v.checkProperty emptyInstance (.str "k") none schema
    let again := o.outcome.validator.checkProperty ⟨emptyInstance.origin, o.parent⟩ (.str "k") none
      schema
    emptyInstance.tree.slotAt (.str "k") = .free ∧
      o.outcome.result = .error (.violation ⟨.missing, .str "k", some []⟩) ∧
      o.parent = .map [(.name "k", .int 1)] ∧ o.outcome.validator.applied = ["$"] ∧
      again.outcome.result = .ok () := by
  decide +kernel

end Validator

end Conformance

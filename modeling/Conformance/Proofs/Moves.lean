/-
  How a run moves from one state of progress to another.

  A run only ever does two things to what it has come to: it deposits a default, which the slot, the
  writes and the journal all tell of (`Deposits`), or it adds to the journal and the registry
  (`Silent`).  `Moves` are such steps one after the other, with the deposits in order, and they say
  all that later theorems need: what becomes of the slot (`Moves.slot`), of the writes and of the
  journal, and which schema offered each default (`Moves.offered`).

  Every check of a value against a schema moves in this way (`against_moves`).  The induction is on
  the derivation that the check goes the same way as itself; a rule on missing values is the only
  step that deposits anything, and there the check has been entered, at this place, before.
-/
import Conformance.Proofs.Injection
import Conformance.Proofs.Parallel

namespace Conformance

/-- The place that a trail leads to from another place. -/
def Place.along (renewals : List Place) (p : Place) : Trail → Place
  | [] => p
  | step :: rest => Place.along renewals ((p.down step).current renewals) rest

theorem Place.along_append (renewals : List Place) (p : Place) (t : Trail) (step : Step) :
    p.along renewals (t ++ [step]) = ((p.along renewals t).down step).current renewals := by
  induction t generalizing p with
  | nil => rfl
  | cons s t ih => exact ih _

/-- A deposit in the value at a place, as a write. -/
def Deposit.write (renewals : List Place) (p : Place) (d : Deposit) : Write :=
  ⟨p.along renewals d.trail, d.value⟩

/-- A schema offers a default: one that is not null, and the schema is not read-only. -/
structure Value.Offers (schema v : Value) : Prop where
  default_eq : schema.get? "default" = some v
  not_null : v ≠ .null
  writable : ((schema.get? "readonly").getD .null).isTruthy = false

/-- The deposit that an event tells of. -/
def Event.deposit? : Event → Option Deposit
  | .defaultWritten trail value => some ⟨trail, value⟩
  | _ => none

/-- The deposits that a journal tells of, in its order. -/
def Journal.deposits (j : Journal) : List Deposit := j.filterMap Event.deposit?

/-- The paths in the record are those of the deposits. -/
theorem Journal.appliedPaths_eq (j : Journal) :
    j.appliedPaths = j.deposits.map fun d => d.trail.text := by
  have hevent : appliedPath? = fun e => e.deposit?.map fun d => d.trail.text := by
    funext e
    cases e <;> rfl
  rw [Journal.appliedPaths, Journal.deposits, List.map_filterMap, hevent]

theorem Journal.deposits_append (j k : Journal) : (j ++ k).deposits = j.deposits ++ k.deposits :=
  List.filterMap_append

namespace Check

/-- What is told of an id that is registered is no deposit. -/
theorem deposits_news (r : Registry) (id : String) (n : Node) :
    Journal.deposits (r.news id n) = [] := by
  unfold Registry.news
  split
  · rfl
  · split <;> rfl

/-- What a schema offers is its default, which is there and not null, and the schema is not
    read-only. -/
theorem offers_of_offer? {schema v : Value} (h : offer? schema = some v) : schema.Offers v := by
  unfold offer? at h
  split at h
  · cases h
  · next hnull =>
    -- a schema that is read-only offers nothing
    cases hr : ((schema.get? "readonly").getD .null).isTruthy with
    | true => simp [hr] at h
    | false =>
      have hv : (schema.get? "default").getD .null = v := by simpa [hr] using h
      cases hd : schema.get? "default" with
      | none => simp [hd] at hnull
      | some w =>
        obtain rfl : w = v := by simpa [hd] using hv
        exact ⟨hd, fun hw => hnull (by simp [hd, hw]), hr⟩

/-! ## Steps and moves -/

/-- One default is deposited: into the slot, among the writes and in the journal.  A schema that the
    run has entered for this very place offers it. -/
structure Deposits (s : Scope) (p : Progress) (d : Deposit) (q : Progress) : Prop where
  interactive : s.interactive = true
  slot : p.slot.Injection d q.slot
  writes : q.writes = d.write s.renewals s.place :: p.writes
  journal : q.journal = .defaultWritten (s.trail ++ d.trail) d.value :: p.journal
  offered : ∃ n depth, .entered n (s.trail ++ d.trail) depth ∈ p.journal ∧
    (n.content p.writes).Offers d.value

/-- Nothing is deposited. -/
structure Silent (p q : Progress) : Prop where
  slot : q.slot = p.slot
  writes : q.writes = p.writes
  journal : ∃ events, q.journal = events ++ p.journal ∧ Journal.deposits events = []

/-- The run gets from one state of progress to another with these deposits, in order. -/
inductive Moves (s : Scope) (p : Progress) : List Deposit → Progress → Prop
  | start : Moves s p [] p
  | silent {q r : Progress} {ds : List Deposit} (first : Moves s p ds q) (last : Silent q r) :
    Moves s p ds r
  | deposit {q r : Progress} {ds : List Deposit} {d : Deposit} (first : Moves s p ds q)
    (last : Deposits s q d r) : Moves s p (ds ++ [d]) r

theorem Silent.refl (p : Progress) : Silent p p := ⟨rfl, rfl, [], rfl, rfl⟩

/-- Silence after silence is silence. -/
theorem Silent.trans {p q r : Progress} (h : Silent p q) (h' : Silent q r) : Silent p r := by
  obtain ⟨events, hj, hd⟩ := h.journal
  obtain ⟨events', hj', hd'⟩ := h'.journal
  refine ⟨h'.slot.trans h.slot, h'.writes.trans h.writes, events' ++ events, ?_, ?_⟩
  · rw [hj', hj, List.append_assoc]
  · rw [Journal.deposits_append, hd, hd']
    rfl

/-- Events that tell of no deposit pass in silence. -/
theorem Silent.of_events {p q : Progress} (hs : q.slot = p.slot) (hw : q.writes = p.writes)
    (events : List Event) (hj : q.journal = events ++ p.journal)
    (he : ∀ e ∈ events, e.deposit? = none) : Silent p q :=
  ⟨hs, hw, events, hj, List.filterMap_eq_nil_iff.mpr he⟩

/-- Silence makes a move without deposits. -/
theorem Moves.of_silent {s : Scope} {p q : Progress} (h : Silent p q) : Moves s p [] q :=
  .silent .start h

/-- One deposit makes a move. -/
theorem Moves.of_deposit {s : Scope} {p q : Progress} {d : Deposit} (h : Deposits s p d q) :
    Moves s p [d] q := .deposit .start h

/-- Moves after moves are moves, with the deposits in order. -/
theorem Moves.trans {s : Scope} {p q r : Progress} {ds es : List Deposit} (h : Moves s p ds q)
    (h' : Moves s q es r) : Moves s p (ds ++ es) r := by
  induction h' with
  | start => simpa only [List.append_nil] using h
  | silent _ last ih => exact .silent ih last
  -- the last deposit stays the last one
  | deposit _ last ih =>
    rw [← List.append_assoc]
    exact .deposit ih last

/-- How deep a check is nested plays no part in how it moves. -/
theorem Moves.deeper {s : Scope} {depth : Nat} {p q : Progress} {ds : List Deposit}
    (h : Moves { s with depth := depth } p ds q) : Moves s p ds q := by
  induction h with
  | start => exact .start
  | silent _ last ih => exact .silent ih last
  | deposit _ last ih =>
    exact .deposit ih ⟨last.interactive, last.slot, last.writes, last.journal, last.offered⟩

/-! ## What moves come to -/

variable {s : Scope} {p q : Progress} {ds : List Deposit}

/-- The slot receives exactly the deposits. -/
theorem Moves.slot (h : Moves s p ds q) : p.slot.Injections ds q.slot := by
  induction h with
  | start => exact .none
  | silent _ last ih => rwa [last.slot]
  | deposit _ last ih => exact .later ih last.slot

/-- The writes are extended by exactly the deposits. -/
theorem Moves.writes (h : Moves s p ds q) :
    q.writes = (ds.map (Deposit.write s.renewals s.place)).reverse ++ p.writes := by
  induction h with
  | start => rfl
  | silent _ last ih => rw [last.writes, ih]
  | deposit _ last ih =>
    rw [last.writes, ih]
    simp

/-- The journal is extended, and the new events tell of exactly the deposits. -/
theorem Moves.journal (h : Moves s p ds q) : ∃ events, q.journal = events ++ p.journal ∧
    Journal.deposits events = (ds.map fun d => ⟨s.trail ++ d.trail, d.value⟩).reverse := by
  induction h with
  | start => exact ⟨[], rfl, rfl⟩
  | silent _ last ih =>
    obtain ⟨events, hj, hd⟩ := ih
    -- the latest events come first
    obtain ⟨more, hj', hd'⟩ := last.journal
    refine ⟨more ++ events, by rw [hj', hj, List.append_assoc], ?_⟩
    rw [Journal.deposits_append, hd', hd]
    rfl
  | @deposit _ _ ds d _ last ih =>
    obtain ⟨events, hj, hd⟩ := ih
    refine ⟨.defaultWritten (s.trail ++ d.trail) d.value :: events, by rw [last.journal, hj]; rfl, ?_⟩
    simp only [List.map_append, List.map_cons, List.map_nil, List.reverse_append, List.reverse_cons,
      List.reverse_nil, List.nil_append, List.cons_append]
    rw [← hd]
    rfl

/-- What the journal tells it goes on telling. -/
theorem Moves.mem_journal (h : Moves s p ds q) {e : Event} (he : e ∈ p.journal) :
    e ∈ q.journal := by
  obtain ⟨events, hj, _⟩ := h.journal
  rw [hj]
  exact List.mem_append_right _ he

/-- Where defaults are not written, there are no deposits. -/
theorem Moves.eq_nil (h : Moves s p ds q) (hs : s.interactive = false) : ds = [] := by
  induction h with
  | start => rfl
  | silent _ _ ih => exact ih
  | deposit _ last _ => exact absurd last.interactive (by simp [hs])

/-- Each deposit was offered by a schema entered for its place, as the schema read with the deposits
    before it. -/
theorem Moves.offered (h : Moves s p ds q) {before after : List Deposit} {d : Deposit}
    (hds : ds = before ++ d :: after) :
    ∃ n depth, .entered n (s.trail ++ d.trail) depth ∈ q.journal ∧
      (n.content ((before.map (Deposit.write s.renewals s.place)).reverse ++ p.writes)).Offers
        d.value := by
  induction h generalizing after with
  | start => simp at hds
  | silent first last ih =>
    obtain ⟨n, depth, hn, ho⟩ := ih hds
    exact ⟨n, depth, (Moves.of_silent (s := s) last).mem_journal hn, ho⟩
  | @deposit _ _ es e first last ih =>
    -- the deposit in question is the latest one, or one of those before
    rcases List.eq_nil_or_concat after with rfl | ⟨rest, w, rfl⟩
    · obtain ⟨rfl, hde⟩ := List.append_inj' hds rfl
      cases hde
      obtain ⟨n, depth, hn, ho⟩ := last.offered
      rw [first.writes] at ho
      exact ⟨n, depth, (Moves.of_deposit last).mem_journal hn, ho⟩
    · have hes : es = before ++ d :: rest := by
        rw [List.concat_eq_append, ← List.cons_append, ← List.append_assoc] at hds
        exact (List.append_inj' hds rfl).1
      obtain ⟨n, depth, hn, ho⟩ := ih hes
      exact ⟨n, depth, (Moves.of_deposit last).mem_journal hn, ho⟩

/-! ## Members -/

/-- Moves on the slot of a member are moves on its container, which ends as the slot put back. -/
theorem Moves.member {step : Step} {container : Value} (h : Moves (s.child step) p ds q)
    (hp : p.slot = container.slotBelow step) :
    Slot.Below container step q.slot ∧
      Moves s { p with slot := .present container } (ds.map (Deposit.below step))
        { q with slot := .present (container.settle step q.slot) } := by
  induction h with
  | start =>
    rw [hp, Value.settle_slotBelow]
    exact ⟨.found, .start⟩
  | silent _ last ih =>
    obtain ⟨hbelow, hmoves⟩ := ih
    rw [last.slot]
    exact ⟨hbelow, .silent hmoves ⟨rfl, last.writes, last.journal⟩⟩
  | @deposit q r ds d _ last ih =>
    obtain ⟨hbelow, hmoves⟩ := ih
    obtain ⟨hbelow', hinjection⟩ := hbelow.settle last.slot
    refine ⟨hbelow', ?_⟩
    -- the place of the deposit is the same, seen from the member or from the container
    have htrail : (s.child step).trail ++ d.trail = s.trail ++ (d.below step).trail := by
      simp [Scope.child, Deposit.below]
    rw [List.map_append]
    refine .deposit hmoves ⟨last.interactive, .within hinjection, last.writes, ?_, ?_⟩
    · rw [← htrail]
      exact last.journal
    · rw [← htrail]
      exact last.offered

/-- A slot that counts as held receives nothing. -/
theorem Moves.of_held (h : Moves s p ds q) (hp : p.slot = .held) : ds = [] ∧ Silent p q := by
  induction h with
  | start => exact ⟨rfl, .refl p⟩
  | silent _ last ih => exact ⟨ih.1, ih.2.trans last⟩
  | deposit _ last ih =>
    have hinjection := last.slot
    rw [ih.2.slot, hp] at hinjection
    cases hinjection

/-! ## Checks -/

/-- A check that moves, wherever it is run. -/
def Moving {α : Type} (c : Check α) : Prop := ∀ s p, ∃ ds, Moves s p ds (c s p).2

namespace Moving

/-- A check that leaves everything as it was. -/
theorem of_still {α : Type} {c : Check α} (h : ∀ s p, (c s p).2 = p) : Moving c := by
  intro s p
  rw [h]
  exact ⟨[], .start⟩

/-- A check that adds one event to the journal, which tells of no deposit. -/
theorem note {e : Event} (he : e.deposit? = none) : Moving (Check.note e) := fun _ _ =>
  ⟨[], .of_silent (.of_events rfl rfl [e] rfl (by simp [he]))⟩

/-- Of two checks the second one moves on from where the first one has led. -/
theorem bind {α β : Type} {c : Check α} {f : α → Check β} (hc : Moving c) (hf : ∀ a, Moving (f a)) :
    Moving (c >>= f) := by
  intro s p
  obtain ⟨ds, hm⟩ := hc s p
  rw [bind_run]
  rcases hcr : c s p with ⟨r, q⟩
  rw [hcr] at hm
  cases r with
  | error e => exact ⟨ds, hm⟩
  | ok a =>
    -- what comes next is deposited next
    obtain ⟨es, hm'⟩ := hf a s q
    exact ⟨ds ++ es, hm.trans hm'⟩

/-- A check of a member moves its container. -/
theorem atChild {α : Type} {c : Check α} (h : Moving c) (step : Step) :
    Moving (Check.atChild step c) := by
  intro s p
  unfold Check.atChild
  split
  · next container hp =>
    obtain ⟨ds, hm⟩ := h (s.child step) { p with slot := container.slotBelow step }
    have hmember := (hm.member rfl).2
    rw [show { p with slot := .present container } = p by rw [← hp]] at hmember
    exact ⟨_, hmember⟩
  · -- below what is no container the slot counts as held, and receives nothing
    obtain ⟨ds, hm⟩ := h (s.child step) { p with slot := .held }
    obtain ⟨_, hsilent⟩ := hm.of_held rfl
    exact ⟨[], .of_silent ⟨rfl, hsilent.writes, hsilent.journal⟩⟩

variable {visit : Node → Check Unit}

/-- What an entry carries itself is checked, or passed over in silence. -/
theorem ownSchema (h : ∀ k, Moving (visit k)) (key : Key) : Moving (Check.ownSchema visit key) := by
  refine .bind (.of_still fun _ _ => rfl) fun s => ?_
  split
  · exact .of_still fun _ _ => rfl
  · refine .bind (.of_still fun _ _ => rfl) fun v => ?_
    split
    · dsimp only
      split
      · split
        · exact .atChild (h _) _
        · exact .note rfl
      · exact .of_still fun _ _ => rfl
    · exact .of_still fun _ _ => rfl

/-- A reference is followed, or passed over in silence. -/
theorem refRule (h : ∀ k, Moving (visit k)) (n : Node) : Moving (Check.refRule visit n) := by
  refine .bind (.of_still fun _ _ => rfl) fun v => ?_
  split
  · refine .bind (.of_still fun _ _ => rfl) fun p => ?_
    split
    · exact .bind (.of_still fun _ _ => rfl) fun s => .note rfl
    · split
      · exact .of_still fun _ _ => rfl
      · exact h _
  · exact .of_still fun _ _ => rfl

end Moving

/-- A default of a schema may be written: the schema has been entered for this place, or else it has
    none to offer. -/
def Ready (n : Node) (s : Scope) (p : Progress) : Prop :=
  (∃ depth, .entered n s.trail depth ∈ p.journal) ∨ ∀ writes, offer? (n.content writes) = none

/-- Being entered is not forgotten. -/
theorem Ready.of_moves {n : Node} {s : Scope} {p q : Progress} {ds : List Deposit}
    (h : Ready n s p) (hm : Moves s p ds q) : Ready n s q := by
  rcases h with ⟨depth, he⟩ | hnone
  · exact Or.inl ⟨depth, hm.mem_journal he⟩
  · exact Or.inr hnone

/-- Two checks that come to the same by moves, where defaults of a schema may be written. -/
def Tracked {α β : Type} (n : Node) (R : α → β → Prop) (c : Check α) (d : Check β) : Prop :=
  ∀ s p, Ready n s p →
    SameEnd R (c s p).1 (d s p).1 ∧ (d s p).2 = (c s p).2 ∧ ∃ ds, Moves s p ds (c s p).2

namespace Tracked

variable {n : Node}

/-- A check that only adds events to the journal, none of them a deposit. -/
theorem of_silent {α : Type} {c : Check α} (h : ∀ s p, Silent p (c s p).2) : Tracked n Eq c c := by
  intro s p _
  refine ⟨?_, rfl, [], .of_silent (h s p)⟩
  cases (c s p).1 with
  | ok a => exact .ok rfl
  | error f => exact .error f

/-- A check that leaves everything as it was. -/
theorem of_still {α β : Type} {R : α → β → Prop} {c : Check α} {d : Check β}
    (hr : ∀ s p, SameEnd R (c s p).1 (d s p).1) (hc : ∀ s p, (c s p).2 = p)
    (hd : ∀ s p, (d s p).2 = p) : Tracked n R c d := by
  intro s p _
  rw [hc, hd]
  exact ⟨hr s p, rfl, [], .start⟩

theorem bind {α β γ δ : Type} {R : α → β → Prop} {Q : γ → δ → Prop} {c : Check α} {d : Check β}
    {f : α → Check γ} {g : β → Check δ} (hc : Tracked n R c d)
    (hf : ∀ a b, R a b → Tracked n Q (f a) (g b)) : Tracked n Q (c >>= f) (d >>= g) := by
  intro s p hn
  -- both have come to the same progress, so they go on from there
  obtain ⟨hr, hp, ds, hm⟩ := hc s p hn
  rw [bind_run, bind_run]
  rcases hcr : c s p with ⟨r, p'⟩
  rcases hdr : d s p with ⟨r', q'⟩
  rw [hcr, hdr] at hr hp
  rw [hcr] at hm
  obtain rfl : q' = p' := hp
  cases hr with
  | error e => exact ⟨.error e, rfl, ds, hm⟩
  | @ok a b hab =>
    obtain ⟨hr', hp', es, hm'⟩ := hf a b hab s q' (hn.of_moves hm)
    exact ⟨hr', hp', ds ++ es, hm.trans hm'⟩

/-- What is caught has moved all the same. -/
theorem attempt {c d : Check Unit} (h : Tracked n Eq c d) :
    Tracked n Eq (Check.attempt c) (Check.attempt d) := by
  intro s p hn
  obtain ⟨hr, hp, ds, hm⟩ := h s p hn
  rw [attempt_progress, attempt_progress]
  exact ⟨attempt_sameEnd hr, hp, ds, hm⟩

/-- A check without a result that moves. -/
theorem of_moving {c : Check Unit} (h : Moving c) : Tracked n Eq c c := by
  exact fun s p _ => ⟨.refl _, rfl, h s p⟩

end Tracked

/-- A default is deposited where the schema at hand has been entered and offers it. -/
theorem writeDefault_moves {s : Scope} {p : Progress} {n : Node} {v : Value} {depth : Nat}
    (hs : s.interactive = true) (hn : .entered n s.trail depth ∈ p.journal)
    (ho : offer? (n.content p.writes) = some v) :
    ∃ ds, Moves s p ds (writeDefault v s p).2 := by
  have hoffered : ∃ n depth, .entered n (s.trail ++ []) depth ∈ p.journal ∧
      (n.content p.writes).Offers v :=
    ⟨n, depth, by rwa [List.append_nil], offers_of_offer? ho⟩
  have hwritten {slot : Slot} (h : p.slot.Injection ⟨[], v⟩ slot) :
      Moves s p [⟨[], v⟩] (written slot v s p).2 := by
    refine .of_deposit ⟨hs, h, rfl, ?_, hoffered⟩
    rw [List.append_nil]
    rfl
  unfold writeDefault
  -- a free slot is filled, one from the end is written over; into any other nothing is written
  split
  · next hp => exact ⟨_, hwritten (hp ▸ .fill v)⟩
  · next old hp => exact ⟨_, hwritten (hp ▸ .onTop old v)⟩
  · exact ⟨[], .start⟩
  · exact ⟨[], .of_silent (.of_events rfl rfl [_] rfl (by simp [Event.deposit?]))⟩
  all_goals exact ⟨[], .start⟩

/-- Asking for a key changes nothing. -/
theorem askKey_still (s : Scope) (p : Progress) : (askKey s p).2 = p := by
  unfold askKey
  split <;> rfl

/-- The rule on defaults makes one deposit, or none. -/
theorem defaultRule_moves {s : Scope} {p : Progress} {n : Node} (hn : Ready n s p) :
    ∃ ds, Moves s p ds (defaultRule n s p).2 := by
  unfold defaultRule
  rw [scope_bind]
  cases hs : s.interactive with
  | false => exact ⟨[], .start⟩
  | true =>
    rw [if_pos rfl]
    rcases hask : askKey s p with ⟨r, p'⟩
    obtain rfl : p' = p := by rw [← askKey_still s p, hask]
    cases r with
    | error f =>
      rw [bind_run_error hask]
      exact ⟨[], .start⟩
    | ok _ =>
      rw [bind_run_ok hask, content_bind]
      cases hv : offer? (n.content p'.writes) with
      | none => exact ⟨[], .start⟩
      | some v =>
        -- a schema that has not been entered here has nothing to offer
        rcases hn with ⟨depth, he⟩ | hnone
        · exact writeDefault_moves hs he hv
        · exact absurd hv (by simp [hnone])

theorem requiredRule_tracked (n k : Node) : Tracked n Eq (requiredRule k) (requiredRule k) := by
  refine .bind (R := Eq) (.of_silent fun s p => .refl p) ?_
  rintro v _ rfl
  split <;> exact .of_silent fun s p => .refl p

theorem defaultRule_tracked (n : Node) : Tracked n Eq (defaultRule n) (defaultRule n) :=
  fun _ _ hn => ⟨.refl _, rfl, defaultRule_moves hn⟩

/-- The rules for a missing value move. -/
theorem missingRules_tracked (n : Node) : Tracked n Eq (missingRules n) (missingRules n) :=
  .bind (requiredRule_tracked n n) fun _ _ _ => defaultRule_tracked n

/-- Checks that go the same way as themselves move, if the visits they make do. -/
theorem Parallel.tracked {visit : Node → Check Unit} {n : Node}
    (hvisit : ∀ k, Moving (visit k)) {α β : Type} {R : α → β → Prop}
    {c : Check α} {d : Check β} (h : Parallel ⟨Eq, visit, visit, n, n⟩ R c d) :
    Tracked n R c d := by
  -- by induction on the way in which the check is put together
  induction h with
  | pure hab => exact .of_still (fun _ _ => .ok hab) (fun _ _ => rfl) fun _ _ => rfl
  | bind _ _ ihc ihf => exact .bind ihc ihf
  | attempt _ ih => exact .attempt ih
  | scope => exact .of_still (fun _ _ => .ok ⟨rfl, rfl⟩) (fun _ _ => rfl) fun _ _ => rfl
  | value => exact .of_still (fun _ _ => .ok rfl) (fun _ _ => rfl) fun _ _ => rfl
  | content hkl =>
    cases hkl
    exact .of_still (fun _ _ => .ok ⟨rfl, rfl⟩) (fun _ _ => rfl) fun _ _ => rfl
  | stop f => exact .of_still (fun _ _ => .error _) (fun _ _ => rfl) fun _ _ => rfl
  | rejected trail description message =>
    exact .of_silent fun _ _ => .of_events rfl rfl [_] rfl (by simp [Event.deposit?])
  | register id hkl =>
    cases hkl
    exact .of_silent fun _ p => ⟨rfl, rfl, p.registry.news id _, rfl, deposits_news ..⟩
  | here hkl =>
    cases hkl
    exact .of_moving (hvisit _)
  | member step hkl =>
    cases hkl
    exact .of_moving (.atChild (hvisit _) step)
  | reference => exact .of_moving (.refRule hvisit n)
  | own key => exact .of_moving (.ownSchema hvisit key)
  | missing => exact missingRules_tracked n

/-- A check against a schema moves. -/
theorem against_moves (depth : Nat) (n : Node) : Moving (against depth n) := by
  induction depth generalizing n with
  | zero =>
    refine .bind (.of_still fun _ _ => rfl) fun v => ?_
    split
    · exact .bind (.of_still fun _ _ => rfl) fun s => .of_still fun _ _ => rfl
    · exact .of_still fun _ _ => rfl
  | succ depth ih =>
    refine .bind (.of_still fun _ _ => rfl) fun v => ?_
    split
    · intro s p
      -- the schema has been entered for this place, so its default may be deposited
      let p₁ : Progress := { p with journal := .entered n s.trail (s.depth + 1) :: p.journal }
      have hproperty := Parallel.tracked ih
        (Parallel.property (P := ⟨Eq, against depth, against depth, n, n⟩) .eq rfl)
      obtain ⟨_, _, ds, hm⟩ := hproperty { s with depth := s.depth + 1 } p₁
        (Or.inl ⟨_, List.mem_cons_self ..⟩)
      have hentered : Moves s p [] p₁ :=
        .of_silent (.of_events rfl rfl [_] rfl (by simp [Event.deposit?]))
      refine ⟨[] ++ ds, .silent (hentered.trans hm.deeper) ?_⟩
      exact .of_events rfl rfl [_] rfl (by simp [Event.deposit?])
    · exact .of_still fun _ _ => rfl

end Check

end Conformance

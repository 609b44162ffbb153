/-
  Checks that decide a question about a value.

  Where defaults are not written, a check leaves the data as they are, and how it ends is a verdict:
  a result says yes to the question that the check decides, a violation of the data says no, and any
  other end says nothing.  `Decides` is stated for all places and all progress without writes, so a
  check decides the conjunction of what its parts decide (`Decides.and`), in whatever order they
  stand.  A check that is attempted gives its verdict as a result (`Ends.attempt`).
-/
import Conformance.Proofs.Acceptance

namespace Conformance

namespace Check

/-- What the end of a run says about a question. -/
def Verdict (P : Prop) : Except Failure Unit → Prop
  | .ok _ => P
  | .error (.violation e) => e.errorClass = .data → ¬ P
  | .error (.fault _) => True

/-- The end of a run that answers with a result, and never with a violation of the data. -/
def Answer {α : Type} (Q : α → Prop) : Except Failure α → Prop
  | .ok a => Q a
  | .error (.violation e) => e.errorClass ≠ .data
  | .error (.fault _) => True

/-- A check of a value ends in a certain way and leaves the data as they are, where defaults are not
    written and none have been. -/
def Ends {α : Type} (v : Value) (Q : Except Failure α → Prop) (c : Check α) : Prop :=
  ∀ s p, s.interactive = false → p.writes = [] → p.slot.value = v →
    (c s p).2.slot = p.slot ∧ (c s p).2.writes = [] ∧ Q (c s p).1

/-- A check of a value decides a question. -/
def Decides (v : Value) (P : Prop) (c : Check Unit) : Prop := Ends v (Verdict P) c

variable {α β : Type} {v : Value} {P P' : Prop} {n : Node}

/-! ## Sequencing -/

/-- A check after another one: what it ends with may depend on the result of the first. -/
theorem Ends.bind {Q : Except Failure α → Prop} {Q' : Except Failure β → Prop} {c : Check α}
    {f : α → Check β} (hc : Ends v Q c) (hok : ∀ a, Q (.ok a) → Ends v Q' (f a))
    (herror : ∀ e, Q (.error e) → Q' (.error e)) : Ends v Q' (c >>= f) := by
  intro s p hs hw hv
  obtain ⟨hslot, hwrites, hq⟩ := hc s p hs hw hv
  rw [bind_run]
  -- a failure of the first check is the end, and otherwise the second one finds everything in place
  rcases hcr : c s p with ⟨r, p'⟩
  rw [hcr] at hslot hwrites hq
  cases r with
  | error e => exact ⟨hslot, hwrites, herror e hq⟩
  | ok a =>
    have hrest := hok a hq s p' hs hwrites ((congrArg Slot.value hslot).trans hv)
    exact ⟨hrest.1.trans hslot, hrest.2⟩

theorem Ends.of_still {Q : Except Failure α → Prop} {c : Check α} (hc : ∀ s p, (c s p).2 = p)
    (hq : ∀ s p, s.interactive = false → p.writes = [] → p.slot.value = v → Q (c s p).1) :
    Ends v Q c := by
  intro s p hs hw hv
  rw [hc]
  exact ⟨rfl, hw, hq s p hs hw hv⟩

theorem Ends.read {Q : Except Failure α → Prop} {c : Check β} {b : β} {f : β → Check α}
    (hc : ∀ s p, p.writes = [] → p.slot.value = v → c s p = (.ok b, p)) (h : Ends v Q (f b)) :
    Ends v Q (c >>= f) := by
  intro s p hs hw hv
  rw [bind_run_ok (hc s p hw hv)]
  exact h s p hs hw hv

/-- What a node says is what it said when it was reached. -/
theorem Ends.content {Q : Except Failure α → Prop} {f : Value → Check α}
    (h : Ends v Q (f n.tree)) : Ends v Q (Check.content n >>= f) :=
  .read (fun _ p hw _ => by rw [Check.content, hw, Node.content_nil]) h

/-- What a node says under a name is what it said when it was reached. -/
theorem Ends.field? {Q : Except Failure α → Prop} {name : String} {f : Option Value → Check α}
    (h : Ends v Q (f (n.tree.get? name))) : Ends v Q (Check.field? n name >>= f) :=
  .read (fun _ p hw _ => by rw [Check.field?, hw, Node.content_nil]) h

theorem Ends.field {Q : Except Failure α → Prop} {name : String} {f : Value → Check α}
    (h : Ends v Q (f ((n.tree.get? name).getD .null))) : Ends v Q (Check.field n name >>= f) :=
  .read (fun _ p hw _ => by rw [Check.field, hw, Node.content_nil]) h

theorem Ends.element {Q : Except Failure α → Prop} {i : Nat} {f : Node → Check α}
    (h : Ends v Q (f (n.down (.index i) (n.tree.member (.index i))))) :
    Ends v Q (Check.element n i >>= f) :=
  .read (fun _ p hw _ => by rw [Check.element, hw, Node.content_nil]; rfl) h

/-- The value is the one that the question is about. -/
theorem Ends.value {Q : Except Failure α → Prop} {f : Value → Check α} (h : Ends v Q (f v)) :
    Ends v Q (Check.value >>= f) :=
  .read (fun _ p _ hv => by rw [Check.value, hv]) h

/-- No defaults are written where the check is made. -/
theorem Ends.scope {Q : Except Failure α → Prop} {f : Scope → Check α}
    (h : ∀ s, s.interactive = false → Ends v Q (f s)) : Ends v Q (Check.scope >>= f) :=
  fun s p hs hw hv => h s hs s p hs hw hv

/-- A remark makes no difference. -/
theorem Ends.note {Q : Except Failure α → Prop} {e : Event} {c : Check α} (h : Ends v Q c) :
    Ends v Q (Check.note e >>= fun _ => c) :=
  fun s p hs hw hv => h s { p with journal := e :: p.journal } hs hw hv

/-- An answer goes before a verdict. -/
theorem Ends.decide {Q : α → Prop} {c : Check α} {f : α → Check Unit} (hc : Ends v (Answer Q) c)
    (hf : ∀ a, Q a → Decides v P (f a)) : Decides v P (c >>= f) := by
  refine .bind hc hf fun e he => ?_
  cases e with
  | violation _ => exact fun hdata => absurd hdata he
  | fault _ => trivial

/-- An answer goes before another one. -/
theorem Ends.answer {Q : α → Prop} {Q' : β → Prop} {c : Check α} {f : α → Check β}
    (hc : Ends v (Answer Q) c) (hf : ∀ a, Q a → Ends v (Answer Q') (f a)) :
    Ends v (Answer Q') (c >>= f) := by
  refine .bind hc hf fun e he => ?_
  cases e <;> exact he

theorem Ends.pure {Q : α → Prop} {a : α} (h : Q a) : Ends v (Answer Q) (Pure.pure a) :=
  .of_still (fun _ _ => rfl) fun _ _ _ _ _ => h

/-- A check that is attempted answers with its verdict. -/
theorem Ends.attempt {c : Check Unit} (h : Decides v P c) :
    Ends v (Answer fun e => e = none ↔ P) (Check.attempt c) := by
  intro s p hs hw hv
  obtain ⟨hslot, hwrites, hverdict⟩ := h s p hs hw hv
  unfold Check.attempt
  rcases hcr : c s p with ⟨r, p'⟩
  rw [hcr] at hslot hwrites hverdict
  cases r with
  | ok _ => exact ⟨hslot, hwrites, iff_of_true rfl hverdict⟩
  | error e =>
    cases e with
    | fault f => exact ⟨hslot, hwrites, trivial⟩
    | violation e =>
      dsimp only
      -- violations of the data are the answer no, others come through
      by_cases hd : e.errorClass = .data
      · rw [if_pos hd]
        exact ⟨hslot, hwrites, iff_of_false nofun (hverdict hd)⟩
      · rw [if_neg hd]
        exact ⟨hslot, hwrites, hd⟩

/-! ## Verdicts -/

/-- Questions that come to the same are decided by the same checks. -/
theorem Decides.congr {c : Check Unit} (h : P ↔ P') (hc : Decides v P c) : Decides v P' c := by
  rwa [← propext h]

/-- One check and then another decide the conjunction of their questions. -/
theorem Decides.and {c d : Check Unit} (hc : Decides v P c) (hd : P → Decides v P' d) :
    Decides v (P ∧ P') (c >>= fun _ => d) := by
  -- the first no is the end, and the second question is asked only after a yes
  refine .bind hc (fun _ hp => (hd hp).congr (and_iff_right hp).symm) fun e he => ?_
  cases e with
  | fault _ => trivial
  | violation _ => exact fun hdata hpp => he hdata hpp.1

theorem Decides.yes (h : P) : Decides v P (pure ()) :=
  .of_still (fun _ _ => rfl) fun _ _ _ _ _ => h

/-- A violation says no, unless it blames the schema or the nesting. -/
theorem Decides.violation {f : Scope → Violation} {cause : Cause} (hf : ∀ s, (f s).cause = cause)
    (h : cause.errorClass = .data → ¬ P) :
    Decides v P fun s p => (.error (.violation (f s)), p) := by
  refine .of_still (fun _ _ => rfl) fun s _ _ _ _ hdata => h ?_
  rwa [← hf s]

theorem Decides.fail {cause : Cause} (h : cause.errorClass = .data → ¬ P) :
    Decides v P (Check.fail cause) :=
  .violation (f := fun s => ⟨cause, s.key, some s.trail⟩) (fun _ => rfl) h

theorem Decides.failAt {key : Key} {cause : Cause} (h : cause.errorClass = .data → ¬ P) :
    Decides v P (Check.failAt key cause) :=
  .violation (f := fun s => ⟨cause, key.value, some (s.trail ++ [.entry key])⟩) (fun _ => rfl) h

theorem Decides.failKeyless {cause : Cause} (h : cause.errorClass = .data → ¬ P) :
    Decides v P (Check.failKeyless cause) :=
  .violation (f := fun s => ⟨cause, .null, some s.trail⟩) (fun _ => rfl) h

theorem Decides.failPlaceless {cause : Cause} (h : cause.errorClass = .data → ¬ P) :
    Decides v P (Check.failPlaceless cause) :=
  .violation (f := fun s => ⟨cause, s.key, none⟩) (fun _ => rfl) h

theorem Decides.fault (f : Fault) : Decides v P (stop (.fault f)) :=
  .of_still (fun _ _ => rfl) fun _ _ _ _ _ => trivial

/-- A test that fails the check where it holds. -/
theorem Decides.unless {b : Bool} {c : Check Unit} (hc : b = true → Decides v False c) :
    Decides v (b = false) (if b = true then c else pure ()) := by
  cases b with
  | true => exact (hc rfl).congr (by simp)
  | false => exact .yes rfl

theorem Decides.note (e : Event) (h : P) : Decides v P (Check.note e) :=
  fun _ _ _ hw _ => ⟨rfl, hw, h⟩

/-! ## Members and lists -/

/-- What a check of a member decides, it decides from the container too. -/
theorem Decides.atChild {step : Step} {c : Check Unit} (h : Decides (v.member step) P c) :
    Decides v P (Check.atChild step c) := by
  intro s p hs hw hv
  unfold Check.atChild
  split
  · next container hp =>
    rw [hp] at hv
    obtain rfl : container = v := hv
    obtain ⟨hslot, hwrites, hverdict⟩ :=
      h (s.child step) { p with slot := container.slotBelow step } hs hw (Value.slotBelow_value ..)
    refine ⟨?_, hwrites, hverdict⟩
    show Slot.present (container.settle step _) = p.slot
    -- what was found is put back, since the check has left it
    rw [hslot, Value.settle_slotBelow, hp]
  · next hp =>
    have hmissing : v = .missing := by
      rw [← hv]
      cases hslot : p.slot with
      | present container => exact absurd hslot (hp container)
      | _ => rfl
    obtain ⟨_, hwrites, hverdict⟩ :=
      h (s.child step) { p with slot := .held } hs hw (by rw [hmissing]; rfl)
    exact ⟨rfl, hwrites, hverdict⟩

/-- A check of each of several things decides a question about all of them. -/
theorem Decides.each {γ : Type} {Q : γ → Prop} {c : γ → Check Unit} {xs : List γ}
    (h : ∀ x ∈ xs, Decides v (Q x) (c x)) : Decides v (∀ x ∈ xs, Q x) (Check.each c xs) := by
  induction xs with
  | nil => exact .yes (by simp)
  | cons x xs ih =>
    have hrest := ih fun y hy => h y (List.mem_cons_of_mem _ hy)
    exact ((h x (List.mem_cons_self ..)).and fun _ => hrest).congr (by simp)

/-- A check of each element of a schema that is a list decides a question about all of them. -/
theorem Decides.eachElement {Q : Nat → Value → Prop} {c : Nat → Node → Check Unit}
    (h : ∀ i x, n.tree.listItems[i]? = some x → Decides v (Q i x) (c i (n.down (.index i) x))) :
    Decides v (∀ i x, n.tree.listItems[i]? = some x → Q i x) (Check.eachElement n c) := by
  -- after the last element nothing has been appended, so the rest of the walk is over at once
  have hfrom (xs done : List Value) (hl : n.tree.listItems = done ++ xs) :
      Decides v (∀ i x, xs[i]? = some x → Q (done.length + i) x)
        (Check.visitFrom n c done.length xs) := by
    induction xs generalizing done with
    | nil =>
      unfold Check.visitFrom
      rw [show growthRoom = 0xffffffff + 1 from rfl, Check.visitAppended]
      refine .content ?_
      rw [hl, List.append_nil, List.getElem?_eq_none (Nat.le_refl _)]
      exact Decides.yes (by simp)
    | cons x xs ih =>
      have hx : Decides v (Q done.length x) (c done.length (n.down (.index done.length) x)) :=
        h _ x (by simp [hl])
      have hrest := ih (done ++ [x]) (by simp [hl])
      rw [List.length_append, List.length_singleton] at hrest
      refine (hx.and fun _ => hrest).congr ⟨fun hall i y hy => ?_, fun hall => ⟨hall 0 x rfl, ?_⟩⟩
      · cases i with
        | zero =>
          cases hy
          exact hall.1
        | succ i =>
          have hy' := hall.2 i y hy
          rwa [show done.length + 1 + i = done.length + (i + 1) from by omega] at hy'
      · intro i y hy
        have hy' := hall (i + 1) y hy
        rwa [show done.length + (i + 1) = done.length + 1 + i from by omega] at hy'
  have hall := hfrom n.tree.listItems [] rfl
  simp only [List.length_nil, Nat.zero_add] at hall
  exact .content hall

/-! ## Rules -/

/-- A check of a rule decides a question about the rule, if it is given. -/
theorem Decides.whenGiven {Q : Value → Prop} {name : String} {rule : Node → Check Unit}
    (h : ∀ r, n.tree.rule? name = some r → Decides v (Q r) (rule (n.down (.name name) r))) :
    Decides v (∀ r, n.tree.rule? name = some r → Q r) (Check.whenGiven n name rule) := by
  unfold Check.whenGiven Check.given?
  rw [bind_assoc]
  refine .field? ?_
  cases hr : n.tree.get? name with
  | none => exact Decides.yes (by simp [Value.rule?, hr])
  | some r =>
    dsimp only
    -- a rule that does not count as given asks nothing
    cases hg : r.isGiven with
    | false => exact Decides.yes (by simp [Value.rule?, hr, hg])
    | true =>
      have hrule : n.tree.rule? name = some r := by simp [Value.rule?, hr, hg]
      rw [hrule] at h ⊢
      exact (h r rfl).congr (by simp)

/-- A rule that says null asks nothing. -/
theorem Decides.unlessNull {w : Value} {rule : Value → Check Unit} {Q : Prop} (h0 : w = .null → Q)
    (h : w ≠ .null → Decides v Q (rule w)) : Decides v Q (Check.unlessNull w rule) := by
  cases w with
  | null => exact .yes (h0 rfl)
  | _ => exact h (by simp)

/-- A check of a bound decides a question about the bound, if there is one. -/
theorem Decides.withBound {Q : Number → Prop} {name : String} {rule : Number → Value → Check Unit}
    (h : ∀ b w, Decides v (Q b) (rule b w)) :
    Decides v (∀ b, n.tree.bound? name = some b → Q b) (Check.withBound n name rule) := by
  refine .field (Decides.unlessNull ?_ fun hnull => ?_)
  · intro hnull b hb
    cases hw : n.tree.get? name with
    | none => simp [Value.bound?, hw] at hb
    | some w =>
      obtain rfl : w = .null := by simpa [hw] using hnull
      simp [Value.bound?, hw, Value.number?] at hb
  · cases hw : n.tree.get? name with
    | none => exact absurd (by simp [hw]) hnull
    | some w =>
      simp only [Option.getD_some]
      -- what is no number is a defect of the schema, which says nothing
      cases hb : w.number? with
      | none => exact .fail nofun
      | some b => exact (h b w).congr (by simp [Value.bound?, hw, hb])

end Check

end Conformance

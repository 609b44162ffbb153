/-
  Checks that accept a slot and leave it as it is.

  A check accepts a slot as it is if it does so wherever it is made (`AcceptsAsIs`).  Rules that
  only read the value accept it again if they have accepted it once (`ReadsOnly`): what they say
  depends on the value and the schema only, not on the place, the registry or the depth.  Type
  expressions without inline schemas look at the class of a value only, so they also accept what has
  grown out of it (`typeRule_acceptsAsIs`, `disallowRule_acceptsAsIs`).

  All schemas here are parts of schema documents, which never change.
-/
import Conformance.Proofs.Parallel
import Conformance.Proofs.Runs

namespace Conformance

namespace Check

/-- A check leaves a slot as another one, where defaults are written. -/
def AcceptsAs (c : Check Unit) (σ τ : Slot) : Prop :=
  ∃ s p q, s.interactive = true ∧ p.slot = σ ∧ c s p = (.ok (), q) ∧ q.slot = τ

/-- A check accepts a slot and leaves it as it is, wherever it is made where defaults are written.
    -/
def AcceptsAsIs (c : Check Unit) (σ : Slot) : Prop :=
  ∀ s p, s.interactive = true → p.slot = σ → ∃ q, c s p = (.ok (), q) ∧ q.slot = σ

/-- A check that leaves the slot alone, and accepts a slot everywhere if it does so anywhere. -/
def ReadsOnly (c : Check Unit) : Prop :=
  ∀ s p, (c s p).2.slot = p.slot ∧
    ((c s p).1 = .ok () → ∀ s' p', p'.slot = p.slot → (c s' p').1 = .ok ())

/-! ## Putting checks together -/

namespace AcceptsAsIs

variable {σ : Slot} {c d : Check Unit}

theorem pure (σ : Slot) : AcceptsAsIs (Pure.pure ()) σ := fun _ p _ hp => ⟨p, rfl, hp⟩

/-- A slot that both of two checks accept as it is, is accepted by one after the other. -/
theorem bind (hc : AcceptsAsIs c σ) (hd : AcceptsAsIs d σ) : AcceptsAsIs (c >>= fun _ => d) σ := by
  intro s p hs hp
  obtain ⟨q, hq, hslot⟩ := hc s p hs hp
  rw [bind_run_ok hq]
  exact hd s q hs hslot

theorem read {α : Type} {r : Check α} {a : α} {f : α → Check Unit}
    (hr : ∀ s p, p.slot = σ → r s p = (.ok a, p)) (h : AcceptsAsIs (f a) σ) :
    AcceptsAsIs (r >>= f) σ := by
  -- a reading changes neither the slot nor anything else
  intro s p hs hp
  rw [bind_run_ok (hr s p hp)]
  exact h s p hs hp

/-- The value is read off the slot itself. -/
theorem value {f : Value → Check Unit} (h : AcceptsAsIs (f σ.value) σ) :
    AcceptsAsIs (Check.value >>= f) σ :=
  .read (fun _ p hp => by rw [Check.value, hp]) h

/-- A schema in a document says what it says. -/
theorem content {n : Node} (hn : n.InSchema) {f : Value → Check Unit}
    (h : AcceptsAsIs (f n.tree) σ) :
    AcceptsAsIs (Check.content n >>= f) σ :=
  .read (fun _ p _ => by rw [Check.content, hn.content]) h

theorem each {α : Type} {f : α → Check Unit} {xs : List α} (h : ∀ x ∈ xs, AcceptsAsIs (f x) σ) :
    AcceptsAsIs (Check.each f xs) σ := by
  induction xs with
  | nil => exact .pure σ
  | cons x xs ih =>
    exact .bind (h x (List.mem_cons_self ..)) (ih fun y hy => h y (List.mem_cons_of_mem _ hy))

/-- A container is accepted as it is if what is found in it is. -/
theorem atChild {container : Value} {step : Step} (h : AcceptsAsIs c (container.slotBelow step)) :
    AcceptsAsIs (Check.atChild step c) (.present container) := by
  intro s p hs hp
  obtain ⟨q, hq, hslot⟩ := h (s.child step) { p with slot := container.slotBelow step } hs rfl
  refine ⟨{ q with slot := .present container }, ?_, rfl⟩
  -- what has been found is put back where it was taken from
  unfold Check.atChild
  rw [hp]
  dsimp only
  rw [hq, hslot, Value.settle_slotBelow]

/-- Beginning and ending a check is told in the journal only. -/
theorem nested (n : Node) (h : AcceptsAsIs c σ) : AcceptsAsIs (Check.nested n c) σ := by
  intro s p hs hp
  obtain ⟨q, hq, hslot⟩ := h { s with depth := s.depth + 1 }
    { p with journal := .entered n s.trail (s.depth + 1) :: p.journal } hs hp
  exact ⟨{ q with journal := .left n (.ok ()) :: q.journal }, nested_run_ok hq, hslot⟩

end AcceptsAsIs

/-- Where a check that only reads has accepted a slot, it accepts that slot as it is everywhere. -/
theorem ReadsOnly.acceptsAsIs {c : Check Unit} (h : ReadsOnly c) {s : Scope} {p q : Progress}
    (hok : c s p = (.ok (), q)) : q.slot = p.slot ∧ AcceptsAsIs c p.slot := by
  obtain ⟨hslot, hagain⟩ := h s p
  rw [hok] at hslot hagain
  refine ⟨hslot, fun s' p' _ hp' => ⟨(c s' p').2, Prod.ext (hagain rfl s' p' hp') rfl, ?_⟩⟩
  rw [(h s' p').1, hp']

namespace ReadsOnly

theorem pure : ReadsOnly (Pure.pure ()) := fun _ _ => ⟨rfl, fun _ _ _ _ => rfl⟩

/-- A check that never accepts anything. -/
theorem of_error {c : Check Unit} (h : ∀ s p, ∃ f, c s p = (.error f, p)) : ReadsOnly c := by
  intro s p
  obtain ⟨f, hf⟩ := h s p
  rw [hf]
  exact ⟨rfl, nofun⟩

/-- An objection accepts nothing. -/
theorem fail (cause : Cause) : ReadsOnly (Check.fail cause) := .of_error fun _ _ => ⟨_, rfl⟩

theorem failAt (key : Key) (cause : Cause) : ReadsOnly (Check.failAt key cause) :=
  .of_error fun _ _ => ⟨_, rfl⟩

theorem stop (f : Failure) : ReadsOnly (Check.stop f) := .of_error fun _ _ => ⟨f, rfl⟩

/-- Of two checks the second one is made on the slot that the first one has left alone. -/
theorem bind {c d : Check Unit} (hc : ReadsOnly c) (hd : ReadsOnly d) :
    ReadsOnly (c >>= fun _ => d) := by
  intro s p
  obtain ⟨hslot, hagain⟩ := hc s p
  rw [bind_run]
  rcases hcr : c s p with ⟨r, q⟩
  rw [hcr] at hslot hagain
  cases r with
  | error f => exact ⟨hslot, nofun⟩
  | ok _ =>
    obtain ⟨hslot', hagain'⟩ := hd s q
    -- elsewhere the first check passes again, and the second one meets the same slot
    refine ⟨hslot'.trans hslot, fun hok s' p' hp' => ?_⟩
    have hfirst := hagain rfl s' p' hp'
    rw [bind_run_ok (Prod.ext hfirst rfl)]
    exact hagain' hok s' _ (((hc s' p').1.trans hp').trans hslot.symm)

/-- What is read off the slot is the same wherever the slot is. -/
theorem value {f : Value → Check Unit} (h : ∀ v, ReadsOnly (f v)) :
    ReadsOnly (Check.value >>= f) := by
  intro s p
  obtain ⟨hslot, hagain⟩ := h p.slot.value s p
  refine ⟨hslot, fun hok s' p' hp' => ?_⟩
  rw [value_bind, hp']
  exact hagain hok s' p' hp'

theorem ite {b : Prop} [Decidable b] {c d : Check Unit} (hc : ReadsOnly c) (hd : ReadsOnly d) :
    ReadsOnly (if b then c else d) := by
  split
  · exact hc
  · exact hd

theorem unlessNull {v : Value} {rule : Value → Check Unit} (h : ∀ w, ReadsOnly (rule w)) :
    ReadsOnly (Check.unlessNull v rule) := by
  cases v with
  | null => exact .pure
  | _ => exact h _

variable {n : Node} (hn : n.InSchema)

include hn

/-- What a schema in a document says is the same everywhere. -/
theorem content {f : Value → Check Unit} (h : ReadsOnly (f n.tree)) :
    ReadsOnly (Check.content n >>= f) := by
  intro s p
  have hcontent (s : Scope) (p : Progress) : (Check.content n >>= f) s p = f n.tree s p := by
    rw [content_bind, hn.content]
  rw [hcontent]
  refine ⟨(h s p).1, fun hok s' p' hp' => ?_⟩
  rw [hcontent]
  exact (h s p).2 hok s' p' hp'

theorem field? {name : String} {f : Option Value → Check Unit} (h : ∀ v, ReadsOnly (f v)) :
    ReadsOnly (Check.field? n name >>= f) :=
  .content hn (f := fun v => f (v.get? name)) (h _)

theorem field {name : String} {f : Value → Check Unit} (h : ∀ v, ReadsOnly (f v)) :
    ReadsOnly (Check.field n name >>= f) :=
  .content hn (f := fun v => f ((v.get? name).getD .null)) (h _)

/-- A bound is a number or the check fails. -/
theorem withBound {name : String} {rule : Number → Value → Check Unit}
    (h : ∀ bound v, ReadsOnly (rule bound v)) : ReadsOnly (Check.withBound n name rule) := by
  refine .field hn fun v => .unlessNull fun w => ?_
  cases w.number? with
  | some bound => exact h bound w
  | none => exact .fail _

end ReadsOnly

/-! ## Rules on single values -/

section Rules

variable {n : Node} (hn : n.InSchema)

include hn

/-- Counting elements only reads. -/
theorem itemCounts_readsOnly : ReadsOnly (itemCounts n) := by
  refine .bind ?_ ?_
  · exact .withBound hn fun _ _ => .value fun _ => .ite (.fail _) .pure
  · exact .withBound hn fun _ _ => .value fun _ => .ite (.fail _) .pure

/-- So does looking for a pattern, whatever comes of it. -/
theorem patternRule_readsOnly (text : String) : ReadsOnly (patternRule n text) := by
  refine .field hn fun v => .unlessNull fun w => ?_
  cases w with
  | str source =>
    dsimp only
    cases Pattern.read source with
    | ok compiled =>
      dsimp only
      cases compiled.search text with
      | something => exact .pure
      | nothing => exact .fail _
      | reversedGroup => exact .stop _
    | error flaw =>
      cases flaw with
      | defect d => exact .fail _
      | _ => exact .stop _
  | _ => exact .fail _

/-- The rules on texts only read. -/
theorem textRules_readsOnly (text : String) : ReadsOnly (textRules n text) := by
  refine .bind (patternRule_readsOnly hn text) (.bind ?_ ?_)
  · exact .withBound hn fun _ _ => .ite (.fail _) .pure
  · exact .withBound hn fun _ _ => .ite (.fail _) .pure

/-- Comparing with a bound only reads, be it exclusive or not. -/
theorem boundRule_readsOnly {name : String} {test : Bool → Bool} {cause : Cause} :
    ReadsOnly (boundAllowed n name >>= fun allowed =>
      if test allowed then fail cause else pure ()) := by
  unfold boundAllowed
  rw [bind_assoc]
  refine .field? hn fun v => ?_
  cases v <;> exact .ite (.fail _) .pure

theorem decimalRule_readsOnly (x : Number) : ReadsOnly (decimalRule n x) := by
  refine .field hn fun limit => ?_
  -- a limit that is no number, or a value without digits, is passed over
  cases limit.number? with
  | none => exact .pure
  | some bound =>
    cases x.shownDecimals with
    | none => exact .pure
    | some shown => exact .ite (.fail _) .pure

/-- The rules on numbers only read. -/
theorem numberRules_readsOnly (x : Number) : ReadsOnly (numberRules n x) := by
  refine .bind (.withBound hn fun _ _ => ?_) (.bind (.withBound hn fun _ _ => ?_) ?_)
  · exact boundRule_readsOnly hn
  · exact boundRule_readsOnly hn
  · exact decimalRule_readsOnly hn x

/-- Whatever the class of the value is, its own rules only read. -/
theorem scalarRules_readsOnly (v : Value) : ReadsOnly (scalarRules n v) := by
  unfold scalarRules
  cases v with
  | str text => exact textRules_readsOnly hn text
  | int i => exact numberRules_readsOnly hn _
  | float x => exact numberRules_readsOnly hn _
  | _ => exact .pure

/-- Comparing with options only reads. -/
theorem enumRule_readsOnly : ReadsOnly (enumRule n) := by
  refine .field? hn fun v => ?_
  cases v with
  | none => exact .pure
  | some v =>
    refine .ite ?_ .pure
    cases options? v with
    | none => exact .stop _
    | some options => exact .value fun _ => .ite .pure (.fail _)

theorem labelRule_readsOnly (label : String) : ReadsOnly (labelRule n label) := by
  refine .field hn fun v => .unlessNull fun w => ?_
  cases w with
  | str _ => exact .pure
  | _ => exact .value fun _ => .fail _

/-- The last rules of a schema only read. -/
theorem closingRules_readsOnly : ReadsOnly (closingRules n) :=
  .bind (enumRule_readsOnly hn) (.bind (labelRule_readsOnly hn _) (labelRule_readsOnly hn _))

end Rules

/-! ## Type expressions without inline schemas -/

end Check

mutual

/-- Whether a type expression has no schema among its alternatives. -/
def Value.inlineFree : Value → Bool
  | .map _ => false
  | .list items => inlineFreeItems items
  | _ => true

/-- Whether none of several type expressions has one. -/
def inlineFreeItems : List Value → Bool
  | [] => true
  | v :: rest => v.inlineFree && inlineFreeItems rest

end

namespace TypeTest

mutual

/-- Whether a test is for classes only. -/
def plain : TypeTest → Bool
  | .schema _ => false
  | .anyOf ts => plainItems ts
  | _ => true

/-- Whether several tests are for classes only. -/
def plainItems : List TypeTest → Bool
  | [] => true
  | t :: rest => t.plain && plainItems rest

end

mutual

/-- Whether a test for classes only accepts a value. -/
def accepts (v : Value) : TypeTest → Bool
  | .anything => true
  | .classes members => v.isInstance members
  | .schema _ => false
  | .anyOf ts => acceptsAny v ts

/-- Whether one of several such tests accepts a value. -/
def acceptsAny (v : Value) : List TypeTest → Bool
  | [] => false
  | t :: rest => t.accepts v || acceptsAny v rest

end

mutual

/-- Nothing but the class of a value matters. -/
theorem accepts_congr {v w : Value} (h : v.class? = w.class?) :
    ∀ t : TypeTest, t.accepts v = t.accepts w
  | .anything => rfl
  | .classes members => by simp only [accepts, Value.isInstance, h]
  | .schema _ => rfl
  | .anyOf ts => by simp only [accepts, acceptsAny_congr h ts]

/-- So it is for the alternatives of a test. -/
theorem acceptsAny_congr {v w : Value} (h : v.class? = w.class?) :
    ∀ ts : List TypeTest, acceptsAny v ts = acceptsAny w ts
  | [] => rfl
  | t :: rest => by simp only [acceptsAny, accepts_congr h t, acceptsAny_congr h rest]

end

/-- A name is resolved to a test for classes. -/
theorem plain_ofText {name : String} {t : TypeTest} (h : ofText name = .ok t) : t.plain = true := by
  -- a name stands for classes or for anything
  have htest {t : TypeTest} (h : ofName? name = some t) : t.plain = true := by
    unfold ofName? at h
    repeat' split at h
    all_goals cases h
    all_goals rfl
  unfold ofText at h
  split at h
  · next ht =>
    cases h
    exact htest ht
  · cases h

mutual

/-- An expression without inline schemas is resolved to tests for classes. -/
theorem plain_ofValue : ∀ {v : Value} {origin : Place} {t : TypeTest}, v.inlineFree = true →
    ofValue origin v = .ok t → t.plain = true
  | .null, _, _, _, h => by cases h; rfl
  | .bool false, _, _, _, h => by cases h; rfl
  | .bool true, _, _, _, h => plain_ofText (by rwa [ofValue] at h)
  | .map _, _, _, hfree, _ => by cases hfree
  | .cls _, _, _, _, h => by cases h; rfl
  | .list items, origin, t, hfree, h => by
    unfold ofValue at h
    -- the list is resolved if all its elements are
    cases hi : ofItems origin 0 items with
    | error name =>
      rw [hi] at h
      cases h
    | ok ts =>
      rw [hi] at h
      cases h
      exact plainItems_ofItems hfree hi
  | .missing, _, _, _, h => plain_ofText (by rwa [ofValue] at h)
  | .int _, _, _, _, h => plain_ofText (by rwa [ofValue] at h)
  | .float _, _, _, _, h => plain_ofText (by rwa [ofValue] at h)
  | .str _, _, _, _, h => plain_ofText (by rwa [ofValue] at h)
  | .tuple _, _, _, _, h => plain_ofText (by rwa [ofValue] at h)

/-- The alternatives of a list without inline schemas are tests for classes, each of them. -/
theorem plainItems_ofItems : ∀ {items : List Value} {origin : Place} {i : Nat} {ts : List TypeTest},
    inlineFreeItems items = true → ofItems origin i items = .ok ts → plainItems ts = true
  | [], _, _, _, _, h => by cases h; rfl
  | v :: rest, origin, i, ts, hfree, h => by
    rw [inlineFreeItems, Bool.and_eq_true] at hfree
    unfold ofItems at h
    cases hv : ofValue (origin.down (.index i)) v with
    | error name =>
      rw [hv] at h
      cases h
    | ok t =>
      cases hrest : ofItems origin (i + 1) rest with
      | error name =>
        rw [hv, hrest] at h
        cases h
      | ok us =>
        rw [hv, hrest] at h
        cases h
        rw [plainItems, plain_ofValue hfree.1 hv, plainItems_ofItems hfree.2 hrest]
        rfl

end

end TypeTest

namespace Check

/-- The end of a check that leaves the slot alone and says whether it accepts the value: if it does
    not, that is a violation of the data. -/
structure SaysWhether (accepted : Bool) (σ : Slot) (x : Except Failure Unit × Progress) : Prop where
  slot : x.2.slot = σ
  yes : accepted = true → x.1 = .ok ()
  no : accepted = false → ∃ e, x.1 = .error (.violation e) ∧ e.errorClass = .data

variable {visit : Node → Check Unit}

/-- A value of the wrong type is a violation of the data. -/
theorem mismatch_saysWhether (expr : Node) (s : Scope) (p : Progress) :
    SaysWhether false p.slot (mismatch expr s p) := by
  refine ⟨rfl, nofun, fun _ => ⟨_, rfl, rfl⟩⟩

/-- An attempt of a check that says whether it accepts has an answer, and the answer is that. -/
theorem attempt_of_saysWhether {accepted : Bool} {c : Check Unit} {s : Scope}
    {p : Progress} {σ : Slot}
    (h : SaysWhether accepted σ (c s p)) :
    (attempt c s p).2.slot = σ ∧ ∃ e : Option Violation, (attempt c s p).1 = .ok e ∧
      e.isNone = accepted := by
  obtain ⟨hslot, hyes, hno⟩ := h
  rw [attempt_progress]
  refine ⟨hslot, ?_⟩
  unfold attempt
  rcases hc : c s p with ⟨r, q⟩
  rw [hc] at hyes hno
  -- a check that accepts is answered by nothing, one that rejects by its violation
  cases accepted with
  | true =>
    obtain rfl : r = .ok () := hyes rfl
    exact ⟨none, rfl, rfl⟩
  | false =>
    obtain ⟨e, he, hdata⟩ := hno rfl
    obtain rfl : r = .error (.violation e) := he
    refine ⟨some e, ?_, rfl⟩
    dsimp only
    rw [if_pos hdata]

mutual

/-- A test for classes says whether it accepts the value. -/
theorem resolvedType_saysWhether : ∀ (t : TypeTest) (expr : Node) (s : Scope) (p : Progress),
    t.plain = true → SaysWhether (t.accepts p.slot.value) p.slot (resolvedType visit t expr s p)
  | .anything, _, _, _, _ => ⟨rfl, fun _ => rfl, nofun⟩
  | .classes members, expr, s, p, _ => by
    unfold resolvedType
    rw [value_bind, TypeTest.accepts]
    cases p.slot.value.isInstance members with
    | true => exact ⟨rfl, fun _ => rfl, nofun⟩
    | false => exact mismatch_saysWhether expr s p
  | .schema _, _, _, _, hplain => by cases hplain
  | .anyOf ts, expr, s, p, hplain => by
    obtain ⟨q, hq, hslot⟩ := anyAlternative_saysWhether ts expr 0 s p hplain
    unfold resolvedType
    rw [bind_run_ok hq, TypeTest.accepts]
    cases TypeTest.acceptsAny p.slot.value ts with
    | true => exact ⟨hslot, fun _ => rfl, nofun⟩
    | false =>
      -- the alternatives have left the slot alone, so the mismatch is about the same value
      rw [← hslot]
      exact mismatch_saysWhether expr s q

/-- Alternatives that are tests for classes are tried in order, and whether one accepts is the
    answer. -/
theorem anyAlternative_saysWhether : ∀ (ts : List TypeTest) (expr : Node) (i : Nat) (s : Scope)
    (p : Progress), TypeTest.plainItems ts = true → ∃ q,
      anyAlternative visit ts expr i s p = (.ok (TypeTest.acceptsAny p.slot.value ts), q) ∧
        q.slot = p.slot
  | [], _, _, _, p, _ => ⟨p, rfl, rfl⟩
  | t :: rest, expr, i, s, p, hplain => by
    -- the first alternative is attempted; if it rejects, that is told and the others follow
    rw [TypeTest.plainItems, Bool.and_eq_true] at hplain
    let alternative := expr.down (.index i)
      (((expr.content p.writes).child? (.index i)).getD .missing)
    obtain ⟨hslot, e, he, haccepts⟩ :=
      attempt_of_saysWhether (resolvedType_saysWhether t alternative s p hplain.1)
    have helement : element expr i s p = (.ok alternative, p) := rfl
    have hfirst : attempt (resolvedType visit t alternative) s p =
        (.ok e, (attempt (resolvedType visit t alternative) s p).2) := Prod.ext he rfl
    generalize (attempt (resolvedType visit t alternative) s p).2 = q at hslot hfirst
    unfold anyAlternative
    rw [bind_run_ok helement, bind_run_ok hfirst, TypeTest.acceptsAny, ← haccepts]
    cases e with
    | none => exact ⟨q, rfl, hslot⟩
    | some e =>
      let rejected : Event := .alternativeRejected s.trail
        (alternative.content q.writes).typeText e.message
      obtain ⟨r, hr, hrslot⟩ :=
        anyAlternative_saysWhether rest expr (i + 1) s { q with journal := rejected :: q.journal }
          hplain.2
      refine ⟨r, ?_, hrslot.trans hslot⟩
      rw [show p.slot = q.slot from hslot.symm]
      exact hr

end

/-! ## The rules on types -/

section Expressions

variable {expr n : Node} {σ : Slot} {s : Scope} {p q : Progress} {visit' : Node → Check Unit}

/-- An expression that can be resolved, and has no inline schemas, says whether it accepts the
    value. -/
theorem typeRule_saysWhether (hn : expr.InSchema) {t : TypeTest}
    (ht : TypeTest.ofValue expr.origin expr.tree = .ok t) (hplain : t.plain = true)
    (s : Scope) (p : Progress) :
    SaysWhether (t.accepts p.slot.value) p.slot (typeRule visit expr s p) := by
  unfold typeRule
  rw [content_bind, hn.content, ht]
  exact resolvedType_saysWhether t expr s p hplain

/-- An expression that cannot be resolved ends every run. -/
theorem typeRule_unresolved (hn : expr.InSchema) {name : String}
    (ht : TypeTest.ofValue expr.origin expr.tree = .error name) (s : Scope) (p : Progress) :
    typeRule visit expr s p = failPlaceless (.unsupportedType name) s p := by
  unfold typeRule
  rw [content_bind, hn.content, ht]

/-- A type that has been accepted is accepted wherever the class is the same. -/
theorem typeRule_acceptsAsIs (hn : expr.InSchema) (hfree : expr.tree.inlineFree = true)
    (h : typeRule visit expr s p = (.ok (), q)) (hclass : σ.value.class? = p.slot.value.class?) :
    q.slot = p.slot ∧ AcceptsAsIs (typeRule visit' expr) σ := by
  cases ht : TypeTest.ofValue expr.origin expr.tree with
  | error name =>
    rw [typeRule_unresolved hn ht] at h
    cases h
  | ok t =>
    have hplain := TypeTest.plain_ofValue hfree ht
    have hanswer : SaysWhether _ _ (typeRule visit expr s p) := typeRule_saysWhether hn ht hplain s p
    rw [h] at hanswer
    -- it has been accepted, so the test says yes
    have haccepts : t.accepts p.slot.value = true := by
      cases hno : t.accepts p.slot.value with
      | true => rfl
      | false =>
        obtain ⟨e, he, _⟩ := hanswer.no hno
        cases he
    refine ⟨hanswer.slot, fun s' p' _ hp' => ?_⟩
    have hagain : SaysWhether _ _ (typeRule visit' expr s' p') :=
      typeRule_saysWhether hn ht hplain s' p'
    rw [hp'] at hagain
    rw [TypeTest.accepts_congr hclass.symm] at haccepts
    exact ⟨_, Prod.ext (hagain.yes haccepts) rfl, hagain.slot⟩

/-- A rule that is not given accepts anything. -/
theorem AcceptsAsIs.whenGiven (hn : n.InSchema) {name : String} {rule : Node → Check Unit}
    (h : ∀ r, n.tree.rule? name = some r → AcceptsAsIs (rule (n.down (.name name) r)) σ) :
    AcceptsAsIs (Check.whenGiven n name rule) σ := by
  intro s p hs hp
  rw [whenGiven_run hn]
  cases hr : n.tree.rule? name with
  | none => exact ⟨p, rfl, hp⟩
  | some r => exact h r hr s p hs hp

/-- The rule `type` accepts again wherever the class is the same. -/
theorem givenType_acceptsAsIs (hn : n.InSchema)
    (hfree : ∀ r, n.tree.rule? "type" = some r → r.inlineFree = true)
    (h : Check.whenGiven n "type" (typeRule visit) s p = (.ok (), q))
    (hclass : σ.value.class? = p.slot.value.class?) :
    q.slot = p.slot ∧ AcceptsAsIs (Check.whenGiven n "type" (typeRule visit')) σ := by
  rw [whenGiven_run hn] at h
  cases hr : n.tree.rule? "type" with
  | none =>
    rw [hr] at h
    cases h
    -- a type that is not given is not given elsewhere
    refine ⟨rfl, .whenGiven hn fun r hr' => ?_⟩
    rw [hr] at hr'
    cases hr'
  | some r =>
    rw [hr] at h
    have hin : (n.down (.name "type") r).InSchema := hn
    obtain ⟨hslot, haccepts⟩ := typeRule_acceptsAsIs hin (hfree r hr) h hclass
    refine ⟨hslot, .whenGiven hn fun r' hr' => ?_⟩
    obtain rfl : r = r' := by simpa [hr] using hr'
    exact haccepts

/-- What has not been disallowed is not wherever the class is the same. -/
theorem disallowRule_acceptsAsIs (hn : n.InSchema)
    (hfree : ∀ r, n.tree.rule? "disallow" = some r → r.inlineFree = true)
    (h : disallowRule visit n s p = (.ok (), q)) (hclass : σ.value.class? = p.slot.value.class?) :
    q.slot = p.slot ∧ AcceptsAsIs (disallowRule visit' n) σ := by
  unfold disallowRule at h ⊢
  rw [whenGiven_run hn] at h
  cases hr : n.tree.rule? "disallow" with
  | none =>
    rw [hr] at h
    cases h
    refine ⟨rfl, .whenGiven hn fun r hr' => ?_⟩
    rw [hr] at hr'
    cases hr'
  | some r =>
    rw [hr] at h
    dsimp only at h
    have hin : (n.down (.name "disallow") r).InSchema := hn
    cases ht : TypeTest.ofValue (n.down (.name "disallow") r).origin r with
    | error name =>
      -- an unknown name is an error of the schema, which no rule gives up
      simp only [bind_run, attempt, typeRule_unresolved hin ht] at h
      cases h
    | ok t =>
      -- it was rejected once, so it is rejected wherever the class is the same
      have hplain := TypeTest.plain_ofValue (hfree r hr) ht
      obtain ⟨hslot, e, he, haccepts⟩ :=
        attempt_of_saysWhether (typeRule_saysWhether hin ht hplain s p)
      rw [bind_run_ok (Prod.ext he rfl)] at h
      cases e with
      | none => cases h
      | some e =>
        obtain rfl := congrArg Prod.snd h
        refine ⟨hslot, .whenGiven hn fun r' hr' s' p' _ hp' => ?_⟩
        obtain rfl : r = r' := by simpa [hr] using hr'
        obtain ⟨hslot', e', he', haccepts'⟩ :=
          attempt_of_saysWhether (typeRule_saysWhether hin ht hplain s' p')
        rw [hp', TypeTest.accepts_congr hclass, ← haccepts] at haccepts'
        rw [bind_run_ok (Prod.ext he' rfl)]
        cases e' with
        | none => cases haccepts'
        | some _ => exact ⟨_, rfl, hslot'.trans hp'⟩

end Expressions

end Check

end Conformance

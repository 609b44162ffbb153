/-
  The descent of nested checks.

  A schema without references leads a check only to schemas inside it.  Every rule hands parts of
  the schema on, be it for the value at hand (a base, an inline type, what is disallowed) or for a
  member of it (items, properties, the policy on additional members).  So each check against a
  schema is nested in one against a schema around it, and checks are nested no deeper than mappings
  are in the schema: how deep the data is, and how much of it is written on the way, is no matter
  (`validate_descends`).  The one other way to a schema is a schema that an entry of the data
  carries; it is open only where defaults are not written, and there the data does not change.

  1. **What is told** — the journal tells when the check against a schema begins and when it ends,
     so the schemas whose checks are under way can be read off it (`Journal.opened`).  It `Descends`
     if every check that begins is against a mapping inside the innermost of these.

  2. **Rules** — a check is `Inward` for a schema if, begun while this schema is the innermost one
     (`InsideRules`), it leaves as many checks under way as it found, lets the journal descend, and
     does not fail for want of depth.  There is one lemma for each rule.

  3. **Depth** — a mapping inside another one is nested less deep, so the depth that remains never
     runs out (`against_staysInside`, by induction on it).
-/
import Conformance.Proofs.Invariants.Basic
import Conformance.Proofs.Limit
import Conformance.Proofs.Subschemas

namespace Conformance

/-! ## Schemas inside a schema -/

namespace Node

/-- A node is inside another one: it is a part of that one, or of a node inside it. -/
inductive Encloses (n : Node) : Node → Prop
  | part (step : Step) {x : Value} (h : x ∈ n.tree.parts) : Encloses n (n.down step x)
  | deeper {k : Node} (inside : Encloses n k) (step : Step) {x : Value} (h : x ∈ k.tree.parts) :
    Encloses n (k.down step x)

/-- What the rules of a schema hand on: a node inside it, or one that says nothing. -/
structure Covers (n k : Node) : Prop where
  inSchema : k.InSchema
  inside : n.Encloses k ∨ k.tree = .null ∨ k.tree = .missing

variable {n k : Node}

/-- What holds of all mappings of a node holds of those inside it. -/
theorem Encloses.everyMapping {q : List (Key × Value) → Bool} (h : n.Encloses k)
    (hn : n.tree.everyMapping q = true) : k.tree.everyMapping q = true := by
  induction h with
  | part step h => exact Value.everyMapping_part hn h
  | deeper _ step h ih => exact Value.everyMapping_part ih h

/-- Inside something inside a node is inside that node. -/
theorem Encloses.trans {l : Node} (h : n.Encloses k) (h' : k.Encloses l) : n.Encloses l := by
  induction h' with
  | part step h' => exact h.deeper step h'
  | deeper _ step h' ih => exact ih.deeper step h'

/-- What is inside a node stands further down. -/
theorem Encloses.length_lt (h : n.Encloses k) :
    n.origin.trail.length < k.origin.trail.length := by
  induction h with
  | part step _ => simp [down, Place.down]
  | deeper _ step _ ih =>
    simp only [down, Place.down, List.length_append, List.length_singleton]
    omega

/-- Inside a mapping, mappings are nested less deep. -/
theorem Encloses.nesting_lt (h : n.Encloses k) (hn : n.tree.isMap = true) :
    k.tree.nesting < n.tree.nesting := by
  induction h with
  | part step h =>
    cases htree : n.tree with
    | map es =>
      rw [htree] at h
      -- the outer mapping counts, and its values are nested one less deep
      exact Nat.lt_succ_of_le (Value.nesting_le_of_mem_entries h)
    | _ =>
      rw [htree] at hn
      cases hn
  | deeper _ step h ih => exact Nat.lt_of_le_of_lt (Value.nesting_le_of_mem_parts h) ih

/-- A part of a schema is covered by it. -/
theorem covers_part (hn : n.InSchema) (step : Step) {x : Value} (hx : x ∈ n.tree.parts) :
    n.Covers (n.down step x) :=
  ⟨hn, Or.inl (.part step hx)⟩

/-- What a covered node is made of is covered too. -/
theorem Covers.part (h : n.Covers k) (step : Step) {x : Value} (hx : x ∈ k.tree.parts) :
    n.Covers (k.down step x) := by
  refine ⟨h.inSchema, ?_⟩
  rcases h.inside with hinside | hblank | hblank
  · exact Or.inl (hinside.deeper step hx)
  · rw [hblank] at hx
    cases hx
  · rw [hblank] at hx
    cases hx

/-- A node that says nothing is covered by every schema. -/
theorem covers_blank (hk : k.InSchema) (step : Step) {x : Value} (hx : x = .null ∨ x = .missing) :
    n.Covers (k.down step x) :=
  ⟨hk, Or.inr hx⟩

/-- A member of a covered node is one of its parts, or there is none and it says nothing. -/
theorem Covers.member (h : n.Covers k) (step : Step) :
    n.Covers (k.down step (k.tree.member step)) := by
  rcases k.tree.member_mem_parts step with hpart | hnone
  · exact h.part step hpart
  · exact covers_blank h.inSchema step (Or.inr hnone)

/-- The same covered node, seen twice. -/
def CoversSame (n k l : Node) : Prop := l = k ∧ n.Covers k

/-- Being covered survives a step down, so covered nodes may stand for themselves. -/
theorem likeness_coversSame (n : Node) : Check.Likeness n.CoversSame where
  tree_eq := by
    rintro k _ ⟨rfl, _⟩
    rfl
  part := by
    rintro k _ ⟨rfl, hk⟩ step x hx
    exact ⟨rfl, hk.part step hx⟩
  blank := by
    rintro k _ ⟨rfl, hk⟩ step x hx
    exact ⟨rfl, covers_blank hk.inSchema step hx⟩

end Node

/-! ## Checks under way -/

/-- The schemas whose checks are under way after an event, the innermost first. -/
def Event.opens (stack : List Node) : Event → List Node
  | .entered n _ _ => n :: stack
  | .left _ _ => stack.tail
  | _ => stack

/-- The schemas whose checks are under way where a journal ends, the innermost first. -/
def Journal.opened (j : Journal) : List Node := j.foldl Event.opens []

/-- Every check that a journal tells of is against a mapping, and against one inside the innermost
    schema whose check is under way by then. -/
def Journal.Descends (j : Journal) : Prop :=
  ∀ (before after : Journal) n trail depth, j = before ++ .entered n trail depth :: after →
    n.tree.isMap = true ∧ ∀ outer ∈ before.opened.head?, outer.Encloses n

namespace Journal

/-- The last event of a journal changes the checks under way as it does by itself. -/
theorem opened_concat (j : Journal) (e : Event) :
    opened (j ++ [e]) = e.opens (opened j) := by
  rw [opened, List.foldl_append]
  rfl

/-- Only beginnings and ends of checks change which are under way. -/
theorem opens_of_frames {e : Event} (h : e.frames = false) (stack : List Node) :
    e.opens stack = stack := by
  cases e <;> first | rfl | cases h

/-- Where nothing is told, no check has begun outside. -/
theorem descends_nil : Descends [] := by
  intro before after n trail depth h
  simp at h

/-- One more event keeps a journal descending, if it is no beginning or one inside the innermost
    schema. -/
theorem Descends.concat {j : Journal} (h : j.Descends) {e : Event}
    (he : ∀ n trail depth, e = .entered n trail depth →
      n.tree.isMap = true ∧ ∀ outer ∈ j.opened.head?, outer.Encloses n) :
    Descends (j ++ [e]) := by
  intro before after n trail depth heq
  -- the check in question is the event added, or it stands in the journal before
  rcases List.eq_nil_or_concat after with rfl | ⟨after, last, rfl⟩
  · obtain ⟨rfl, hlast⟩ := List.append_inj' heq rfl
    exact he n trail depth (List.singleton_inj.mp hlast)
  · rw [List.concat_eq_append, ← List.cons_append, ← List.append_assoc] at heq
    obtain ⟨hinit, _⟩ := List.append_inj' heq rfl
    exact h before after n trail depth hinit

/-- Events that are neither the beginning nor the end of a check leave the checks under way. -/
theorem opened_and_descends_append (j : Journal) {events : List Event}
    (h : ∀ e ∈ events, e.frames = false) :
    opened (j ++ events) = j.opened ∧ (j.Descends → Descends (j ++ events)) := by
  -- by induction on the events, with the journal before them left open
  induction events generalizing j with
  | nil =>
    rw [List.append_nil]
    exact ⟨rfl, id⟩
  | cons e rest ih =>
    have hframes := h e (List.mem_cons_self ..)
    obtain ⟨hopened, hdescends⟩ := ih (j ++ [e]) fun e' he' => h e' (List.mem_cons_of_mem _ he')
    rw [List.append_assoc, List.singleton_append] at hopened hdescends
    refine ⟨hopened.trans ?_, fun hj => hdescends (hj.concat ?_)⟩
    · rw [opened_concat, opens_of_frames hframes]
    · rintro n trail depth rfl
      cases hframes

end Journal

namespace Check

/-! ## Keeping within a schema -/

/-- Where defaults are written, or no entry of the value at hand has a schema to be enforced. -/
def NothingCarried (s : Scope) (p : Progress) : Prop :=
  s.interactive = true ∨ p.slot.value.plain = true

/-- Where the rules of a schema stand: its check is the innermost one under way, and no schema is
    carried by the data. -/
structure InsideRules (n : Node) (s : Scope) (p : Progress) : Prop where
  nothing_carried : NothingCarried s p
  innermost : (Journal.opened p.journal.reverse).head? = some n

/-- What comes of a check that keeps within a schema. -/
structure StaysInside {α : Type} (s : Scope) (p : Progress) (x : Except Failure α × Progress) :
    Prop where
  slot : s.interactive = false → x.2.slot = p.slot
  opened : Journal.opened x.2.journal.reverse = Journal.opened p.journal.reverse
  descends : Journal.Descends p.journal.reverse → Journal.Descends x.2.journal.reverse
  fails : ∀ f, x.1 = .error f → ¬ f.OfDepth

/-- A check by the rules of a schema that keeps within it. -/
def Inward (n : Node) {α : Type} (c : Check α) : Prop :=
  ∀ s p, InsideRules n s p → StaysInside s p (c s p)

/-- Visits by the rules of a schema that keep within it. -/
def InwardVisits (n : Node) (visit : Node → Check Unit) : Prop :=
  ∀ k, n.Covers k → Inward n (visit k)

section Inside

variable {n : Node} {s : Scope} {p q : Progress}

/-- Where defaults are not written slots stay, so no schema comes to be carried. -/
theorem NothingCarried.of_slot (h : NothingCarried s p)
    (hslot : s.interactive = false → q.slot = p.slot) :
    NothingCarried s q := by
  rcases h with hswitch | hplain
  · exact Or.inl hswitch
  · cases hi : s.interactive with
    | true => exact Or.inl hi
    | false =>
      right
      rwa [hslot hi]

/-- A member of a value without schemas has none either. -/
theorem NothingCarried.child (h : NothingCarried s p) {c : Value} (hc : p.slot = .present c)
    (step : Step) :
    NothingCarried (s.child step) (p.at (c.slotBelow step)) := by
  rcases h with hswitch | hplain
  · exact Or.inl hswitch
  · right
    rw [hc] at hplain
    show (c.slotBelow step).value.plain = true
    rw [Value.slotBelow_value]
    rcases c.member_mem_parts step with hpart | hnone
    · have hevery := Value.innerMappings_part hplain hpart
      simp only [Value.everyMapping, Bool.and_eq_true] at hevery
      exact hevery.2
    · rw [hnone]
      rfl

/-- After a check that keeps within a schema, its rules stand where they stood. -/
theorem StaysInside.insideRules {α : Type} {x : Except Failure α × Progress} (h : StaysInside s p x)
    (hp : InsideRules n s p) : InsideRules n s x.2 := by
  refine ⟨hp.nothing_carried.of_slot h.slot, ?_⟩
  rw [h.opened]
  exact hp.innermost

theorem StaysInside.refl {α : Type} {r : Except Failure α} (h : ∀ f, r = .error f → ¬ f.OfDepth) :
    StaysInside s p (r, p) :=
  ⟨fun _ => rfl, rfl, id, h⟩

theorem StaysInside.ok {α : Type} (a : α) : StaysInside s p (.ok a, p) := .refl nofun

/-- An objection other than to the depth. -/
theorem not_ofDepth {cause : Cause} (h : cause.kind ≠ .recursionLimit) (key : Value)
    (trail : Option Trail) : ¬ (Failure.violation ⟨cause, key, trail⟩).OfDepth := by
  rintro ⟨_, ⟨⟩, hclass⟩
  apply h
  cases cause <;> first | rfl | cases hclass

/-- Faults are not for want of depth. -/
theorem fault_not_ofDepth (f : Fault) : ¬ (Failure.fault f).OfDepth := by
  rintro ⟨_, ⟨⟩, _⟩

/-- Events that frame no check, and a slot that changes only where defaults are written. -/
theorem StaysInside.of_events {s : Scope} {p : Progress} {x : Except Failure Unit × Progress}
    (events : List Event) (hslot : s.interactive = false → x.2.slot = p.slot)
    (hj : x.2.journal = events ++ p.journal) (hevents : ∀ e ∈ events, e.frames = false)
    (hok : ∀ f, x.1 = .error f → ¬ f.OfDepth) : StaysInside s p x := by
  have happend := Journal.opened_and_descends_append p.journal.reverse (fun e he =>
    hevents e (List.mem_reverse.mp he))
  rw [← List.reverse_append, ← hj] at happend
  exact ⟨hslot, happend.1, happend.2, hok⟩

end Inside

namespace Inward

variable {n : Node} {α β : Type}

/-! ## Putting checks together -/

theorem pure (a : α) : Inward n (Pure.pure a) := fun _ _ _ => .ok a

/-- What keeps within a schema does so one after the other, because the rules still stand there. -/
theorem bind {c : Check α} {f : α → Check β} (hc : Inward n c) (hf : ∀ a, Inward n (f a)) :
    Inward n (c >>= f) := by
  intro s p hp
  have hfirst := hc s p hp
  rw [bind_run]
  rcases hcr : c s p with ⟨r, q⟩
  rw [hcr] at hfirst
  cases r with
  -- a failure ends the sequence where its first check has ended
  | error e => exact ⟨hfirst.slot, hfirst.opened, hfirst.descends, by simpa using hfirst.fails⟩
  | ok a =>
    have hsecond := hf a s q (hfirst.insideRules hp)
    refine ⟨fun hi => (hsecond.slot hi).trans (hfirst.slot hi),
      hsecond.opened.trans hfirst.opened, fun hj => hsecond.descends (hfirst.descends hj),
      hsecond.fails⟩

theorem whenTrue {b : Bool} {c : Check Unit} (h : Inward n c) :
    Inward n (if b = true then c else Pure.pure ()) := by
  cases b
  · exact .pure ()
  · exact h

/-- An objection other than to the depth ends the check where it is. -/
theorem objects {c : Check α} {cause : Cause} (h : cause.kind ≠ .recursionLimit)
    (hc : ∀ s p, ∃ key trail, c s p = (.error (.violation ⟨cause, key, trail⟩), p)) :
    Inward n c := by
  intro s p _
  obtain ⟨key, trail, hrun⟩ := hc s p
  rw [hrun]
  refine .refl ?_
  rintro _ ⟨⟩
  exact not_ofDepth h key trail

/-- A fault ends the check where it is. -/
theorem faults (f : Fault) : Inward n (stop (.fault f) : Check α) := by
  intro s p _
  refine .refl ?_
  rintro _ ⟨⟩
  exact fault_not_ofDepth f

theorem fail {cause : Cause} (h : cause.kind ≠ .recursionLimit) :
    Inward n (Check.fail cause : Check α) :=
  .objects h fun _ _ => ⟨_, _, rfl⟩

theorem failAt {key : Key} {cause : Cause} (h : cause.kind ≠ .recursionLimit) :
    Inward n (Check.failAt key cause : Check α) :=
  .objects h fun _ _ => ⟨_, _, rfl⟩

theorem failKeyless {cause : Cause} (h : cause.kind ≠ .recursionLimit) :
    Inward n (Check.failKeyless cause : Check α) :=
  .objects h fun _ _ => ⟨_, _, rfl⟩

/-- Checks that only look keep within a schema. -/
theorem of_judges {c : Check α} (h : Judges n c) : Inward n c := by
  intro s p _
  have hjudgement := h s p
  generalize c s p = x at hjudgement ⊢
  cases hjudgement with
  | passes a => exact .ok a
  | objects hcause =>
    refine .refl ?_
    rintro _ ⟨⟩
    exact not_ofDepth hcause.2 _ _
  | faults _ =>
    refine .refl ?_
    rintro _ ⟨⟩
    exact fault_not_ofDepth _

theorem value : Inward n Check.value := fun _ _ _ => .ok _

theorem scope : Inward n Check.scope := fun _ _ _ => .ok _

/-- A schema says what it said when it was reached. -/
theorem content {k : Node} (hk : k.InSchema) {f : Value → Check β} (h : Inward n (f k.tree)) :
    Inward n (Check.content k >>= f) := by
  intro s p hp
  rw [content_bind, hk.content]
  exact h s p hp

/-- A remark frames no check. -/
theorem note {e : Event} (h : e.frames = false) : Inward n (Check.note e) := by
  intro s p _
  refine .of_events [e] (fun _ => rfl) rfl ?_ nofun
  simpa using h

theorem each {c : α → Check Unit} (h : ∀ a, Inward n (c a)) (xs : List α) :
    Inward n (Check.each c xs) := by
  induction xs with
  | nil => exact .pure ()
  | cons x rest ih => exact .bind (h x) fun _ => ih

/-- An attempt catches errors of the data, and lets the others through. -/
theorem attempt {c : Check Unit} (h : Inward n c) : Inward n (Check.attempt c) := by
  intro s p hp
  obtain ⟨hslot, hopened, hdescends, hfails⟩ := h s p hp
  -- what is caught has moved on as far as the check itself
  rw [← attempt_progress] at hslot hopened hdescends
  exact ⟨hslot, hopened, hdescends, fun f hf => hfails f (attempt_error hf)⟩

variable {visit : Node → Check Unit} (hvisit : InwardVisits n visit)

include hvisit

theorem member {k : Node} (hk : n.Covers k) (step : Step) :
    Inward n (Check.atChild step (visit k)) := by
  intro s p hp
  unfold Check.atChild
  cases hslot : p.slot with
  | present c =>
    have hbelow := hvisit k hk (s.child step) (p.at (c.slotBelow step))
      ⟨hp.nothing_carried.child hslot step, hp.innermost⟩
    refine ⟨fun hi => ?_, hbelow.opened, hbelow.descends, hbelow.fails⟩
    -- where slots stay, the member is put back as it was taken out
    have hsettled := congrArg (fun σ => Slot.present (c.settle step σ)) (hbelow.slot hi)
    exact hsettled.trans ((congrArg Slot.present (c.settle_slotBelow step)).trans hslot.symm)
  | _ =>
    have hbelow := hvisit k hk (s.child step) (p.at .held) ⟨Or.inr rfl, hp.innermost⟩
    exact ⟨fun _ => hslot.symm, hbelow.opened, hbelow.descends, hbelow.fails⟩

/-! ## Reading the schema -/

omit hvisit

/-- A rule that is given is a part of the schema. -/
theorem whenGiven (hn : n.InSchema) (name : String) {rule : Node → Check Unit}
    (h : ∀ r, n.Covers r → Inward n (rule r)) : Inward n (Check.whenGiven n name rule) := by
  intro s p hp
  rw [whenGiven_run hn]
  cases hr : n.tree.rule? name with
  | none => exact .ok ()
  | some r => exact h _ (Node.covers_part hn _ (Value.mem_parts_of_rule? hr)) s p hp

/-- An element of a covered list is covered. -/
theorem element {k : Node} (hk : n.Covers k) (i : Nat) {f : Node → Check β}
    (h : ∀ m, n.Covers m → Inward n (f m)) : Inward n (Check.element k i >>= f) := by
  rw [Parallel.element_eq, bind_assoc]
  refine .content hk.inSchema ?_
  rw [pure_bind]
  exact h _ (hk.member (.index i))

/-- The policy on additional properties is covered, or it is objected to. -/
theorem additionalPolicy (hn : n.InSchema) {f : Node → Check β}
    (h : ∀ policy, n.Covers policy → Inward n (f policy)) :
    Inward n (Check.additionalPolicy n >>= f) := by
  unfold Check.additionalPolicy
  rw [Parallel.field?_eq, bind_assoc, bind_assoc]
  refine .content hn ?_
  rw [pure_bind]
  cases hr : n.tree.get? "additionalProperties" with
  | none =>
    dsimp only
    rw [pure_bind]
    exact h _ (Node.covers_blank hn _ (Or.inl rfl))
  | some policy =>
    have hcovers := h _ (Node.covers_part hn (.name "additionalProperties")
      (Value.mem_parts_of_get? hr))
    cases policy with
    | bool b => exact hcovers
    | map es => exact hcovers
    | _ => exact .objects (by simp [Cause.kind]) fun _ _ => ⟨_, _, rfl⟩

/-! ## Types -/

/-- That the value is of the wrong type is an objection like others. -/
theorem mismatch {k : Node} (hk : k.InSchema) : Inward n (Check.mismatch k) :=
  .bind .value fun _ => .content hk (.fail (by simp [Cause.kind]))

mutual

/-- A value against a test whose inline schemas are covered. -/
theorem resolvedType (hvisit : InwardVisits n visit) {t u : TypeTest} :
    Parallel.LikeTest n.CoversSame t u → ∀ {expr : Node}, n.Covers expr →
      Inward n (Check.resolvedType visit t expr)
  | .anything, _, _ => .pure ()
  | .classes members, expr, hexpr => by
    refine .bind .value fun v => ?_
    cases v.isInstance members
    · exact .mismatch hexpr.inSchema
    · exact .pure ()
  | .schema ⟨_, hk⟩, _, _ => hvisit _ hk
  | .anyOf ht, expr, hexpr => by
    refine .bind (anyAlternative hvisit ht hexpr 0) fun b => ?_
    cases b
    · exact .mismatch hexpr.inSchema
    · exact .pure ()

/-- So is a list of alternatives, tried one after the other. -/
theorem anyAlternative (hvisit : InwardVisits n visit) {ts us : List TypeTest} :
    Parallel.LikeTests n.CoversSame ts us → ∀ {expr : Node}, n.Covers expr →
      ∀ i : Nat, Inward n (Check.anyAlternative visit ts expr i)
  | .nil, _, _, _ => .pure false
  | .cons ht hts, expr, hexpr, i => by
    refine .element hexpr i fun alternative halternative => ?_
    refine .bind (.attempt (resolvedType hvisit ht halternative)) fun rejected => ?_
    cases rejected with
    | none => exact .pure true
    | some v =>
      refine .bind .scope fun s => .content halternative.inSchema ?_
      exact .bind (.note rfl) fun _ => anyAlternative hvisit hts hexpr (i + 1)

end

include hvisit

/-- The inline schemas of a type expression are parts of it. -/
theorem typeRule {expr : Node} (hexpr : n.Covers expr) :
    Inward n (Check.typeRule visit expr) := by
  refine .content hexpr.inSchema ?_
  have hsame : n.CoversSame ⟨expr.origin, expr.tree⟩ ⟨expr.origin, expr.tree⟩ := ⟨rfl, hexpr⟩
  have htest := Parallel.likeTest_ofValue (P := ⟨n.CoversSame, visit, visit, n, n⟩)
    n.likeness_coversSame expr.tree hsame
  generalize TypeTest.ofValue expr.origin expr.tree = t at htest ⊢
  -- the test is like itself, so the derivation is about one test
  generalize hu : t = u at htest
  cases htest with
  | ok ht => exact .resolvedType hvisit ht hexpr
  | error name => exact .objects (by simp [Cause.kind]) fun _ _ => ⟨_, _, rfl⟩

variable (hn : n.InSchema)

/-! ## Arrays -/

omit hvisit in
/-- Every element of a covered list is covered. -/
theorem eachElement {k : Node} (hk : n.Covers k) {c : Nat → Node → Check Unit}
    (hc : ∀ i m, n.Covers m → Inward n (c i m)) : Inward n (Check.eachElement k c) := by
  have hpart {x : Value} (hx : x ∈ k.tree.listItems) (step : Step) : n.Covers (k.down step x) := by
    refine hk.part step ?_
    cases htree : k.tree <;> rw [htree] at hx <;> first | exact hx | cases hx
  have happended (room i : Nat) : Inward n (Check.visitAppended k c room i) := by
    induction room generalizing i with
    | zero => exact .pure ()
    | succ room ih =>
      refine .content hk.inSchema ?_
      cases hx : k.tree.listItems[i]? with
      | none => exact .pure ()
      | some x => exact .bind (hc i _ (hpart (List.mem_of_getElem? hx) _)) fun _ => ih (i + 1)
  have hfrom (xs : List Value) (i : Nat) (hxs : ∀ x ∈ xs, x ∈ k.tree.listItems) :
      Inward n (Check.visitFrom k c i xs) := by
    induction xs generalizing i with
    | nil => exact happended _ i
    | cons x rest ih =>
      refine .bind (hc i _ (hpart (hxs x (List.mem_cons_self ..)) _)) fun _ => ih (i + 1) ?_
      exact fun y hy => hxs y (List.mem_cons_of_mem _ hy)
  exact .content hk.inSchema (hfrom _ 0 fun _ hx => hx)

omit hvisit in
theorem length : Inward n Check.length := .bind .value fun _ => .pure _

/-- One schema for every element. -/
theorem everyElement {k : Node} (hk : n.Covers k) : Inward n (Check.everyElement visit k) :=
  .bind .length fun _ => .each (fun i => .member hvisit hk (.index i)) _

include hn

/-- Schemas for the elements by position, and the policy on the others. -/
theorem positionalItems {r : Node} (hr : n.Covers r) :
    Inward n (Check.positionalItems visit n r) := by
  refine .bind (.eachElement hr fun i m hm => .member hvisit hm (.index i)) fun _ => ?_
  refine .content hn (.whenTrue (.additionalPolicy hn fun policy hpolicy => ?_))
  cases forbids policy.tree with
  | true =>
    refine .content hr.inSchema (.bind .length fun count => ?_)
    split
    · exact .fail (by simp [Cause.kind])
    · exact .pure ()
  | false =>
    cases allows policy.tree with
    | true => exact .pure ()
    | false => exact .everyElement hvisit hpolicy

/-- Whatever the rule `items` says, its schemas are parts of the schema. -/
theorem items : Inward n (Check.items visit n) := by
  refine .bind (.whenGiven hn "items" fun r hr => ?_) fun _ => .of_judges (.itemCounts n)
  split
  · exact .positionalItems hvisit hn hr
  · exact .everyElement hvisit hr

/-! ## Objects -/

omit hn hvisit in
/-- A mapping that has changed is a fault, and no want of depth. -/
theorem stillOfSize {k : Node} (hk : k.InSchema) (size : Nat) :
    Inward n (Check.stillOfSize k size) := by
  refine .content hk ?_
  split
  · exact .faults _
  · exact .pure ()

omit hn in
/-- Definitions of properties are parts of the mapping that declares them. -/
theorem declaredProperties {k : Node} (hk : n.Covers k) (size : Nat) (es : List (Key × Value))
    (hes : ∀ e ∈ es, e.2 ∈ k.tree.parts) :
    Inward n (Check.declaredProperties visit k size es) := by
  induction es with
  | nil => exact .pure ()
  | cons e rest ih =>
    obtain ⟨key, definition⟩ := e
    have hdefinition := hk.part (.entry key) (hes (key, definition) (List.mem_cons_self ..))
    refine .bind (.whenTrue (.member hvisit hdefinition (.entry key))) fun _ => ?_
    refine .bind (.stillOfSize hk.inSchema size) fun _ => ih ?_
    exact fun e he => hes e (List.mem_cons_of_mem _ he)

omit hn hvisit in
/-- A requirement that is not met is objected to at its entry. -/
theorem requirementRule (key : Key) (declared : Option Value) :
    Inward n (Check.requirementRule key declared) := by
  unfold Check.requirementRule
  split
  · exact .pure ()
  · exact .bind .value fun _ => .whenTrue (.failAt (by simp [Cause.kind]))
  · exact .failAt (by simp [Cause.kind])

omit hn hvisit in
/-- An entry carries a schema to be enforced only where defaults are written, and there it is passed
    over. -/
theorem ownSchema (key : Key) : Inward n (Check.ownSchema visit key) := by
  intro s p hp
  unfold Check.ownSchema
  rw [scope_bind]
  rcases hp.nothing_carried with hswitch | hplain
  · rw [if_pos hswitch]
    exact .ok ()
  · split
    · exact .ok ()
    · rw [value_bind]
      cases he : Value.entryAt? key p.slot.value.entries with
      | none => exact .ok ()
      | some w =>
        cases w with
        | map es =>
          -- an entry that carries a schema would stand below the top of a plain value
          have hpart : Value.map es ∈ p.slot.value.parts := by
            cases hv : p.slot.value <;> rw [hv] at he <;>
              first | exact Value.mem_of_entryAt? he | cases he
          have hevery := Value.innerMappings_part hplain hpart
          simp only [Value.everyMapping, Value.atTop, Bool.and_eq_true, Bool.not_eq_true'] at hevery
          dsimp only
          rw [hevery.1]
          exact .ok ()
        | _ => exact .ok ()

omit hn in
/-- An entry hands on the policy, if it hands on anything. -/
theorem entry {k policy : Node} (hk : k.InSchema) (hpolicy : n.Covers policy) (key : Key) :
    Inward n (Check.entry visit k policy key) := by
  have hpolicyRule : Inward n (Check.policyRule visit k policy key) :=
    .content hk (.whenTrue (.member hvisit hpolicy (.entry key)))
  refine .content hk (.bind (.whenTrue (.failAt (by simp [Cause.kind]))) fun _ => ?_)
  refine .bind (.requirementRule key _) fun _ => ?_
  exact .bind hpolicyRule fun _ => .ownSchema key

omit hn in
/-- Declared properties first, then the entries. -/
theorem object {k policy : Node} (hk : n.Covers k) (hpolicy : n.Covers policy) :
    Inward n (Check.object visit k policy) := by
  refine .content hk.inSchema ?_
  cases htree : k.tree with
  | map es =>
    have hdefinitions : ∀ e ∈ es, e.2 ∈ k.tree.parts := by
      intro e he
      rw [htree]
      exact List.mem_map_of_mem he
    have hobject : Inward n Check.objectOnly :=
      .bind .value fun _ => .whenTrue (.failKeyless (by simp [Cause.kind]))
    refine .bind hobject fun _ => ?_
    refine .bind (.declaredProperties hvisit hk _ es hdefinitions) fun _ => ?_
    refine .bind .value fun v => ?_
    exact .each (fun key => .entry hvisit hk.inSchema hpolicy key) v.keys
  | _ => exact .failKeyless (by simp [Cause.kind])

omit hn in
/-- Additional entries are checked against the policy, which is covered. -/
theorem additionalOnly {policy : Node} (hpolicy : n.Covers policy) :
    Inward n (Check.additionalOnly visit policy) := by
  refine .bind .value fun _ => ?_
  split
  · exact .pure ()
  · refine .bind .scope fun s => .each (fun key => ?_) _
    unfold additionalEntry
    split
    · exact .failAt (by simp [Cause.kind])
    · exact .member hvisit hpolicy (.entry key)

/-! ## One value, one schema -/

omit hvisit in
/-- Ids are no matter to the journal's framing. -/
theorem idRule : Inward n (Check.idRule n) := by
  refine .whenGiven hn "id" fun r _ s p _ => ?_
  exact .of_events _ (fun _ => rfl) rfl (news_frames p.registry r.tree.text n) nofun

/-- Bases are parts of the schema, alone or in a list. -/
theorem extendsRule : Inward n (Check.extendsRule visit n) := by
  refine .whenGiven hn "extends" fun r hr => ?_
  split
  · exact .eachElement hr fun _ base hbase => hvisit base hbase
  · exact hvisit r hr

omit hvisit hn in
/-- A default is written only where defaults are. -/
theorem missingRules : Inward n (Check.missingRules n) := by
  intro s p _
  rw [missingRules_run]
  cases hm : missed (n.content p.writes) s p.slot with
  | fails f =>
    refine .refl ?_
    rintro _ ⟨⟩
    -- what a missing value fails with is that it is missing, or a fault
    unfold missed at hm
    split at hm
    · cases hm
      exact not_ofDepth (by simp [Cause.kind]) _ _
    · split at hm
      · cases hm
      · split at hm <;> cases hm <;> exact fault_not_ofDepth _
  | passes => exact .ok ()
  | remarks e =>
    refine .of_events [e] (fun _ => rfl) rfl ?_ fun f hf => by cases hf
    simpa using frames_of_missed hm
  | filled σ v =>
    refine .of_events [.defaultWritten s.trail v] (fun hi => ?_) rfl (by simp [Event.frames])
      fun f hf => by cases hf
    unfold missed at hm
    rw [hi] at hm
    split at hm <;> cases hm

/-- Members are checked against schemas that the rules on arrays and objects hand on. -/
theorem memberRules (v : Value) : Inward n (Check.memberRules visit n v) := by
  unfold Check.memberRules
  split
  · exact .items hvisit hn
  · intro s p hp
    rw [bind_run_ok (given?_run hn "properties" s p)]
    cases hr : n.tree.rule? "properties" with
    | some r =>
      have hcovers := Node.covers_part hn (.name "properties") (Value.mem_parts_of_rule? hr)
      exact Inward.additionalPolicy hn (fun policy hpolicy => .object hvisit hcovers hpolicy) s p hp
    | none =>
      refine Inward.content hn (.whenTrue ?_) s p hp
      exact .additionalPolicy hn fun policy hpolicy => .additionalOnly hvisit hpolicy

/-- Types, what is disallowed, members: each rule keeps within the schema. -/
theorem presentRules (v : Value) : Inward n (Check.presentRules visit n v) := by
  have hdisallow : Inward n (Check.disallowRule visit n) := by
    refine .whenGiven hn "disallow" fun r hr => ?_
    refine .bind (.attempt (.typeRule hvisit hr)) fun rejected => ?_
    cases rejected with
    | none => exact .fail (by simp [Cause.kind])
    | some _ => exact .pure ()
  refine .bind (.whenGiven hn "type" fun r hr => .typeRule hvisit hr) fun _ => ?_
  refine .bind hdisallow fun _ => ?_
  split
  · exact .pure ()
  · refine .bind (.memberRules hvisit hn _) fun _ => ?_
    refine .bind (.of_judges (.scalarRules n _)) fun _ => ?_
    exact .of_judges (.closingRules n)

/-- All rules of a schema without references keep within it. -/
theorem property (href : n.tree.refFree = true) : Inward n (Check.property visit n) := by
  have hreference : Inward n (Check.refRule visit n) := by
    intro s p _
    rw [refRule_eq hn href]
    exact .ok ()
  refine .bind (.idRule hn) fun _ => ?_
  refine .bind hreference fun _ => ?_
  refine .bind (.extendsRule hvisit hn) fun _ => ?_
  refine .bind .value fun v => ?_
  split
  · exact .missingRules
  · exact .presentRules hvisit hn _

end Inward

/-! ## Depth -/

/-- A check against a mapping inside the innermost schema begins and ends. -/
theorem nested_staysInside {n : Node} {c : Check Unit} {s : Scope} {p : Progress}
    (hn : n.tree.isMap = true)
    (houter : ∀ outer ∈ (Journal.opened p.journal.reverse).head?, outer.Encloses n)
    (hp : NothingCarried s p) (hc : Inward n c) : StaysInside s p (nested n c s p) := by
  let q : Progress := p.tell (.entered n s.trail s.deeper.depth)
  have hbegun : Journal.opened q.journal.reverse = n :: Journal.opened p.journal.reverse := by
    show Journal.opened (List.reverse (_ :: p.journal)) = _
    rw [List.reverse_cons, Journal.opened_concat]
    rfl
  have hdescends (h : Journal.Descends p.journal.reverse) :
      Journal.Descends q.journal.reverse := by
    show Journal.Descends (List.reverse (_ :: p.journal))
    rw [List.reverse_cons]
    refine h.concat ?_
    rintro _ _ _ ⟨⟩
    exact ⟨hn, houter⟩
  have hinner := hc s.deeper q ⟨hp, by rw [hbegun, List.head?_cons]⟩
  -- the end of the check takes it off the stack again
  have hend (r : Except Failure Unit) :
      Journal.opened ((c s.deeper q).2.tell (.left n r)).journal.reverse =
        Journal.opened p.journal.reverse := by
    rw [Progress.tell, List.reverse_cons, Journal.opened_concat, hinner.opened, hbegun]
    rfl
  refine ⟨hinner.slot, hend _, fun h => ?_, hinner.fails⟩
  show Journal.Descends ((c s.deeper q).2.tell (.left n _)).journal.reverse
  rw [Progress.tell, List.reverse_cons]
  exact (hinner.descends (hdescends h)).concat nofun

/-- A check against a schema without references, inside the innermost one, keeps within it wherever
    the depth that remains is that of its mappings. -/
theorem against_staysInside (depth : Nat) {k : Node} (hk : k.InSchema)
    (href : k.tree.refFree = true)
    (hdepth : k.tree.nesting ≤ depth) {s : Scope} {p : Progress} (hp : NothingCarried s p)
    (houter : k.tree.isMap = true →
      ∀ outer ∈ (Journal.opened p.journal.reverse).head?, outer.Encloses k) :
    StaysInside s p (against depth k s p) := by
  induction depth generalizing k s p with
  | zero =>
    cases hm : k.tree.isMap with
    -- a mapping is nested at least one deep, so depth is left for it
    | true => exact absurd (Value.nesting_pos_of_map hm) (by omega)
    | false =>
      rw [against_of_not_map (by rwa [hk.content])]
      exact .ok ()
  | succ depth ih =>
    cases hm : k.tree.isMap with
    | false =>
      rw [against_of_not_map (by rwa [hk.content])]
      exact .ok ()
    | true =>
      rw [against_succ_of_map (by rwa [hk.content])]
      refine nested_staysInside hm (houter hm) hp (.property (fun m hm' s q hq => ?_) hk href)
      -- what the rules hand on is nested less deep, or it says nothing
      rcases hm'.inside with hinside | hblank | hblank
      · refine ih hm'.inSchema (hinside.everyMapping href) ?_ hq.nothing_carried
          fun _ outer houter => ?_
        · have := hinside.nesting_lt hm
          omega
        · rw [hq.innermost] at houter
          cases houter
          exact hinside
      · rw [against_of_not_map (by rw [hm'.inSchema.content, hblank]; rfl)]
        exact .ok ()
      · rw [against_of_not_map (by rw [hm'.inSchema.content, hblank]; rfl)]
        exact .ok ()

end Check

namespace Validator

open Check

/-- **Depth runs out for the schema, never for the data.**  Take a schema without references whose
    mappings are nested no deeper than the settings allow, and any instance, however deep; let
    defaults be written, or let no mapping below the top of the instance carry a schema to be
    enforced.  Then no call ends for want of depth, whatever the validator has met before.  Every
    check against a schema that it makes is against a mapping, and this mapping is strictly inside
    the schema whose check it is nested in. -/
theorem validate_descends (v : Validator) {inst schema : Node} (hgiven : schema.tree.isGiven = true)
    (hschema : schema.InSchema) (href : schema.tree.refFree = true)
    (hdepth : schema.tree.nesting ≤ v.settings.maxDepth)
    (hown : v.interactive.isTruthy = true ∨ inst.tree.plain = true) :
    let o := v.validate inst schema
    (∀ f, o.result = .error f → ¬ f.OfDepth) ∧
      ∀ (before after : Journal) n trail depth,
        o.journal = before ++ .entered n trail depth :: after →
          n.tree.isMap = true ∧ ∀ outer ∈ before.opened.head?, outer.Encloses n := by
  intro o
  have hroot : v.rootCheck inst schema = v.visit schema := if_pos hgiven
  have hcarried : NothingCarried (v.rootScope inst) (v.start inst) := by
    rcases hown with hswitch | hplain
    · exact Or.inl hswitch
    · right
      show (Slot.ofValue inst.tree).value.plain = true
      rwa [Slot.value_ofValue]
  have hinside : StaysInside (v.rootScope inst) (v.start inst)
      (v.rootCheck inst schema (v.rootScope inst) (v.start inst)) := by
    rw [hroot]
    exact against_staysInside _ hschema href hdepth hcarried fun _ _ houter => by cases houter
  exact ⟨hinside.fails, hinside.descends Journal.descends_nil⟩

/-- A list of lists of something, as a base. -/
def listsOfLists : Value :=
  .map [(.name "extends", .map [(.name "items", .map [(.name "items", .map [])])])]

/-- Lists nested deeper than the mappings of that schema. -/
def deepLists : Node := ⟨⟨.instance 0, []⟩, .list [.list [.list [.list [.list [.list []]]]]]⟩

/-- Four levels of nesting are enough for a schema of four levels, whatever the data. -/
theorem four_levels_suffice_for_deep_lists :
    (Node.ofSchema 0 listsOfLists).tree.nesting = 4 ∧
      ∀ f, ((Validator.new ⟨true, 4, by decide, by decide⟩ .null).validate deepLists
        (.ofSchema 0 listsOfLists)).result = .error f → ¬ f.OfDepth := by
  have hnesting : (Node.ofSchema 0 listsOfLists).tree.nesting = 4 := by decide +kernel
  have hschema : (Node.ofSchema 0 listsOfLists).InSchema := ⟨0, rfl⟩
  have hdescends := (Validator.new ⟨true, 4, by decide, by decide⟩ .null).validate_descends
    (show (Node.ofSchema 0 listsOfLists).tree.isGiven = true from rfl) hschema
    (by decide +kernel) (Nat.le_of_eq hnesting)
    (show _ ∨ deepLists.tree.plain = true from Or.inl rfl)
  exact ⟨hnesting, hdescends.1⟩

end Validator

end Conformance

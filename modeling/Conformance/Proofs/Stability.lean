/-
  Validating what has been filled in.

  Take a schema in which no node refers to another one by name, extends one, has inline schemas
  among its types or lists its items by position, and in which every node accepts its own default
  (`Node.Stable`, for all nodes in the schema).  An instance that has been accepted, and filled in
  on the way, is then accepted again by a fresh validator, which finds nothing more to fill in
  (`validate_stable`).

  The induction is on how deep the mappings of a schema are nested (`against_leavesAccepted`).  A
  member that has been checked is accepted by the hypothesis for its schema.  A member that has been
  filled in has not been checked at all; but the default has been accepted when it was checked by
  itself, and the rules on values that are there, which the first run would have gone through, leave
  it as it is.

  The rules of one node run in a fixed order: types come first, when members may still be missing,
  and bounds, enumerations and requirements last.  The early ones only look at the class of a
  value, which does not change (`class?_of_keptIn`), and the late ones have seen the value as it is
  now.
-/
import Conformance.Proofs.Extends
import Conformance.Proofs.Repeat
import Conformance.Proofs.Subschemas
import Conformance.Proofs.Visits

namespace Conformance

/-! ## Stable nodes -/

namespace Node

variable {n k : Node}

/-- A node accepts a value and injects nothing. -/
def AcceptsAsIs (settings : Settings) (n : Node) (v : Value) : Prop :=
  let o := (Validator.new settings (.bool true)).validate ⟨⟨.instance 0, []⟩, v⟩ n
  o.result = .ok () ∧ o.validator.applied = []

/-- A node without references, bases, inline schemas among types and items by position, which
    accepts its own default. -/
structure Stable (settings : Settings) (n : Node) : Prop where
  no_reference : ∀ t, n.tree.get? "$ref" ≠ some (.str t)
  no_bases : n.tree.rule? "extends" = none
  plain_type : ∀ t, n.tree.rule? "type" = some t → t.inlineFree = true
  plain_disallow : ∀ t, n.tree.rule? "disallow" = some t → t.inlineFree = true
  no_positions : ∀ items, n.tree.rule? "items" ≠ some (.list items)
  default_accepted : ∀ d, n.tree.get? "default" = some d → d ≠ .null → n.AcceptsAsIs settings d

/-! ## Telling stable schemas -/

instance (settings : Settings) (n : Node) (v : Value) : Decidable (n.AcceptsAsIs settings v) :=
  inferInstanceAs (Decidable (_ ∧ _))

/-- Whether a node is stable. -/
def isStable (settings : Settings) (n : Node) : Bool :=
  (match n.tree.get? "$ref" with
    | some (.str _) => false
    | _ => true) &&
  (n.tree.rule? "extends").isNone &&
  (n.tree.rule? "type").all Value.inlineFree &&
  (n.tree.rule? "disallow").all Value.inlineFree &&
  (match n.tree.rule? "items" with
    | some (.list _) => false
    | _ => true) &&
  (n.tree.get? "default").all fun d => d = .null || n.AcceptsAsIs settings d

/-- What the test finds is what a stable node asks for. -/
theorem stable_of_isStable {settings : Settings} (h : n.isStable settings = true) :
    n.Stable settings := by
  simp only [isStable, Bool.and_eq_true, Option.all_eq_true, Option.isNone_iff_eq_none] at h
  obtain ⟨⟨⟨⟨⟨href, hextends⟩, htype⟩, hdisallow⟩, hitems⟩, hdefault⟩ := h
  refine ⟨fun t ht => ?_, hextends, htype, hdisallow, fun items hr => ?_, fun d hd hnull => ?_⟩
  · rw [ht] at href
    cases href
  · rw [hr] at hitems
    cases hitems
  · have hd' := hdefault d hd
    simpa [hnull] using hd'

/-- All nodes of a schema are stable if those are that are found in it. -/
theorem stable_of_reached {settings : Settings}
    (h : (n.reached n.tree.nesting).all (isStable settings) = true) (hk : n.Reaches k) :
    k.Stable settings :=
  stable_of_isStable (List.all_eq_true.mp h k hk.mem_reached)

end Node

/-! ## Whole calls -/

namespace Validator

open Check

variable {v : Validator} {inst schema : Node}

/-- What a call that succeeds does to the instance. -/
theorem settles_of_validate (hs : v.interactive.isTruthy = true)
    (hgiven : schema.tree.isGiven = true) (hok : (v.validate inst schema).result = .ok ()) :
    AcceptsAs (against v.settings.maxDepth schema) (.ofValue inst.tree)
      (.ofValue (v.validate inst schema).slot.value) := by
  obtain ⟨hresult, hslot⟩ := v.validate_of_given inst schema hgiven
  obtain ⟨ds, hm⟩ := against_moves v.settings.maxDepth schema (v.rootScope inst) (v.start inst)
  -- the root cannot be filled in: what the run leaves is read back as the value it is
  have hvalue : (v.visit schema (v.rootScope inst) (v.start inst)).2.slot = .ofValue _ :=
    ofValue_of_injections hm.slot
  rw [hslot, ← hvalue]
  exact ⟨v.rootScope inst, v.start inst, _, hs, rfl, Prod.ext (hresult.symm.trans hok) rfl, rfl⟩

/-- A call on an instance that is accepted as it is succeeds and injects nothing. -/
theorem validate_of_acceptsAsIs (hs : v.interactive.isTruthy = true)
    (hgiven : schema.tree.isGiven = true)
    (h : AcceptsAsIs (against v.settings.maxDepth schema) (.ofValue inst.tree)) :
    (v.validate inst schema).result = .ok () ∧ (v.validate inst schema).slot.value = inst.tree ∧
      (v.validate inst schema).validator.applied = [] := by
  obtain ⟨hresult, hslot⟩ := v.validate_of_given inst schema hgiven
  obtain ⟨q, hq, hrest⟩ := h (v.rootScope inst) (v.start inst) hs rfl
  have hsame : (v.validate inst schema).slot.value = inst.tree := by
    rw [hslot, show v.visit schema (v.rootScope inst) (v.start inst) = _ from hq, hrest,
      Slot.value_ofValue]
  -- nothing is applied exactly where the instance is unchanged
  refine ⟨hresult.trans ?_, hsame, (applied_eq_nil_iff v inst schema).mpr hsame⟩
  exact congrArg Prod.fst hq

end Validator

namespace Check

variable {visit visit' : Node → Check Unit} {n : Node} {a b : Value} {s : Scope} {p q : Progress}

/-! ## The rules on members -/

/-- What the rules on members come to for a value that is no array. -/
theorem memberRules_run (hn : n.InSchema) (ha : a.elements? = none) (s : Scope) (p : Progress) :
    memberRules visit n a s p = match n.tree.rule? "properties" with
      | some r => (additionalPolicy n >>= object visit (n.down (.name "properties") r)) s p
      | none =>
        if n.tree.hasKey (.name "additionalProperties") then
          (additionalPolicy n >>= additionalOnly visit) s p
        else (.ok (), p) := by
  unfold memberRules
  rw [ha]
  dsimp only
  rw [bind_run_ok (given?_run hn "properties" s p)]
  cases n.tree.rule? "properties" with
  | some r => rfl
  | none =>
    show (content n >>= _) s p = _
    rw [content_bind, hn.content]
    cases n.tree.hasKey (.name "additionalProperties") <;> rfl

/-- The rules on members only ever fill members in. -/
theorem memberRules_moving (hmoves : ∀ k, Moving (visit k)) (n : Node) (v : Value) :
    Moving (memberRules visit n v) := by
  intro s p
  let blank : Node := .ofSchema 0 .null
  let P : Pairing := ⟨Eq, visit, visit, blank, blank⟩
  exact ((Parallel.memberRules (P := P) .eq rfl v).tracked hmoves s p (Or.inr fun _ => rfl)).2.2

/-- Visits under which members come to rest, if they are checked against a subschema or the policy
    on additional ones. -/
structure Settling (visit visit' : Node → Check Unit) (n : Node) : Prop where
  moving : ∀ k, Moving (visit k)
  subschema : ∀ k ∈ n.subschemas, LeavesAccepted (visit k) (visit' k)
  policy : LeavesAccepted (visit (policyNode n)) (visit' (policyNode n))

/-- An array that has been checked is accepted as it is. -/
theorem items_acceptsAsIs (hn : n.InSchema) (hsettling : Settling visit visit' n)
    (hpositions : ∀ items, n.tree.rule? "items" ≠ some (.list items)) (hkeyed : a.wellKeyed = true)
    (harray : a.elements?.isSome = true) (hs : s.interactive = true) (hp : p.slot = .present a)
    (h : items visit n s p = (.ok (), q)) :
    ∃ b, q.slot = .present b ∧ b.class? = a.class? ∧ AcceptsAsIs (items visit' n) (.present b) := by
  obtain ⟨_, q', hfirst, hcounts⟩ := bind_ok h
  obtain ⟨hslot, haccepts⟩ := (itemCounts_readsOnly hn).acceptsAsIs hcounts
  have hmembers : ∃ b, q'.slot = .present b ∧ b.class? = a.class? ∧
      ∀ r, n.tree.rule? "items" = some r →
        AcceptsAsIs (everyElement visit' (n.down (.name "items") r)) (.present b) := by
    rw [whenGiven_run hn] at hfirst
    cases hr : n.tree.rule? "items" with
    | none =>
      rw [hr] at hfirst
      cases hfirst
      exact ⟨a, hp, rfl, nofun⟩
    | some r =>
      have hin : n.down (.name "items") r ∈ n.subschemas :=
        Node.mem_subschemas.mpr (Or.inl ⟨r, hr, rfl⟩)
      have hrun : everyElement visit (n.down (.name "items") r) s p = (.ok (), q') := by
        rw [hr] at hfirst
        -- items by position are excluded, so one schema is for all elements
        cases r with
        | list items => exact absurd hr (hpositions items)
        | _ => exact hfirst
      obtain ⟨b, hb, hclass, hall⟩ :=
        everyElement_acceptsAsIs (hsettling.moving _) (hsettling.subschema _ hin) hkeyed harray hs hp
          hrun
      refine ⟨b, hb, hclass, ?_⟩
      rintro _ ⟨⟩
      exact hall
  -- the counts look at the array once the elements are as they will be
  obtain ⟨b, hb, hclass, hall⟩ := hmembers
  refine ⟨b, hslot.trans hb, hclass, .bind (.whenGiven hn fun r hr => ?_) (by rwa [hb] at haccepts)⟩
  have hrule := hall r hr
  cases r with
  | list items => exact absurd hr (hpositions items)
  | _ => exact hrule

/-- A value that is no array and whose members have been checked is accepted as it is. -/
theorem entries_acceptsAsIs (hn : n.InSchema) (hnode : n.tree.wellKeyed = true)
    (hsettling : Settling visit visit' n) (hkeyed : a.wellKeyed = true) (ha : a.elements? = none)
    (hs : s.interactive = true) (hp : p.slot = .present a)
    (h : memberRules visit n a s p = (.ok (), q)) :
    ∃ b, q.slot = .present b ∧ b.class? = a.class? ∧
      AcceptsAsIs (memberRules visit' n a) (.present b) := by
  rw [memberRules_run hn ha] at h
  have hagain {σ : Slot} {rest : Check Unit} (haccepts : AcceptsAsIs rest σ)
      (hrest : ∀ s p, memberRules visit' n a s p = rest s p) :
      AcceptsAsIs (memberRules visit' n a) σ :=
    fun s p hs hp => by rw [hrest]; exact haccepts s p hs hp
  -- declared properties, a policy alone, or neither: the rules take one of three ways
  cases hr : n.tree.rule? "properties" with
  | some r =>
    rw [hr] at h
    obtain ⟨k, q', hread, hobject⟩ := bind_ok h
    obtain ⟨rfl, rfl, hpolicy⟩ := additionalPolicy_ok hn hread
    have hin : (n.down (.name "properties") r).InSchema := hn
    have hproperty : ∀ e ∈ r.entries, isReserved e.1 = false →
        LeavesAccepted (visit ((n.down (.name "properties") r).down (.entry e.1) e.2))
          (visit' ((n.down (.name "properties") r).down (.entry e.1) e.2)) := fun e he _ =>
      hsettling.subschema _ (Node.mem_subschemas.mpr (Or.inr (Or.inr ⟨r, hr, e, he, rfl⟩)))
    have hkeys : r.wellKeyed = true := Value.everyMapping_part hnode (Value.mem_parts_of_rule? hr)
    obtain ⟨b, hb, hclass, haccepts⟩ :=
      object_acceptsAsIs hin hkeys hsettling.moving hproperty hsettling.policy hkeyed hs hp hobject
    refine ⟨b, hb, hclass, hagain (.read (fun s p _ => hpolicy s p) haccepts) fun s p => ?_⟩
    rw [memberRules_run hn ha, hr]
  | none =>
    rw [hr] at h
    dsimp only at h
    split at h
    · next hhas =>
      obtain ⟨k, q', hread, hentries⟩ := bind_ok h
      obtain ⟨rfl, rfl, hpolicy⟩ := additionalPolicy_ok hn hread
      obtain ⟨b, hb, hclass, haccepts⟩ :=
        additionalOnly_acceptsAsIs hsettling.moving hsettling.policy hkeyed hs hp hentries
      refine ⟨b, hb, hclass, hagain (.read (fun s p _ => hpolicy s p) haccepts) fun s p => ?_⟩
      rw [memberRules_run hn ha, hr]
      exact if_pos hhas
    · next hhas =>
      cases h
      refine ⟨a, hp, rfl, hagain (.pure _) fun s p => ?_⟩
      rw [memberRules_run hn ha, hr]
      exact if_neg hhas

/-- Whether a value is an array or not is all that the rules on members look at in it. -/
theorem memberRules_of_class? (h : b.class? = a.class?) :
    memberRules visit n b = memberRules visit n a := by
  unfold memberRules
  cases a <;> cases b <;> first | rfl | cases h

/-- A value whose members have been checked is accepted as it is. -/
theorem memberRules_acceptsAsIs (hn : n.InSchema) (hnode : n.tree.wellKeyed = true)
    (hsettling : Settling visit visit' n)
    (hpositions : ∀ items, n.tree.rule? "items" ≠ some (.list items)) (hkeyed : a.wellKeyed = true)
    (hs : s.interactive = true) (hp : p.slot = .present a)
    (h : memberRules visit n a s p = (.ok (), q)) :
    ∃ b, q.slot = .present b ∧ AcceptsAsIs (memberRules visit' n b) (.present b) := by
  have haccepts : ∃ b, q.slot = .present b ∧ b.class? = a.class? ∧
      AcceptsAsIs (memberRules visit' n a) (.present b) := by
    cases ha : a.elements? with
    | none => exact entries_acceptsAsIs hn hnode hsettling hkeyed ha hs hp h
    | some xs =>
      have hitems (visit : Node → Check Unit) : memberRules visit n a = items visit n := by
        unfold memberRules
        rw [ha]
      rw [hitems] at h ⊢
      exact items_acceptsAsIs hn hsettling hpositions hkeyed (by rw [ha]; rfl) hs hp h
  obtain ⟨b, hb, hclass, haccepts⟩ := haccepts
  exact ⟨b, hb, by rwa [memberRules_of_class? hclass]⟩

/-! ## The rules on values that are there -/

/-- The rules on texts and numbers are for values that do not grow. -/
theorem scalarRules_of_keptIn (h : a.keptIn b) (n : Node) : scalarRules n b = scalarRules n a := by
  cases a <;> cases b <;> first | rfl | (cases h; rfl) | cases h

variable {settings : Settings} (hn : n.InSchema) (hnode : n.tree.wellKeyed = true)
  (hstable : n.Stable settings) (hsettling : Settling visit visit' n)

include hn hnode hstable hsettling

/-- The rules on what a value is made of, once they are kept, are kept by what has become of it. -/
theorem contentRules_acceptsAsIs (hkeyed : a.wellKeyed = true) (hs : s.interactive = true)
    (hp : p.slot = .present a) (h : contentRules visit n a s p = (.ok (), q)) :
    ∃ b, q.slot = .present b ∧ a.keptIn b ∧ AcceptsAsIs (contentRules visit' n b) (.present b) := by
  obtain ⟨_, p₁, hmembers, h⟩ := bind_ok h
  obtain ⟨_, p₂, hscalar, hclosing⟩ := bind_ok h
  obtain ⟨b, hb, hmembersRest⟩ := memberRules_acceptsAsIs hn hnode hsettling hstable.no_positions
    hkeyed hs hp hmembers
  -- members may have been filled in, but the value is what it was otherwise
  have hkept : a.keptIn b := by
    obtain ⟨ds, hm⟩ := memberRules_moving hsettling.moving n a s p
    rw [hmembers] at hm
    have hslot := hm.slot
    rw [hp, hb] at hslot
    obtain ⟨_, ⟨⟩, hinjections⟩ := hslot.of_present
    exact hinjections.keptIn
  -- the rules after the members only read, and have seen the value as it is now
  obtain ⟨hslot, hscalarRest⟩ := (scalarRules_readsOnly hn a).acceptsAsIs hscalar
  obtain ⟨hslot', hclosingRest⟩ := (closingRules_readsOnly hn).acceptsAsIs hclosing
  rw [hb] at hslot hscalarRest
  rw [hslot] at hslot' hclosingRest
  refine ⟨b, hslot', hkept, .bind hmembersRest (.bind ?_ hclosingRest)⟩
  rwa [scalarRules_of_keptIn hkept]

/-- A value that is there and has been checked is accepted as it is. -/
theorem presentRules_acceptsAsIs (hkeyed : a.wellKeyed = true) (hs : s.interactive = true)
    (hp : p.slot = .present a) (h : presentRules visit n a s p = (.ok (), q)) :
    ∃ b, q.slot = .present b ∧ a.keptIn b ∧ AcceptsAsIs (presentRules visit' n b) (.present b) := by
  obtain ⟨_, p₁, htype, h⟩ := bind_ok h
  obtain ⟨_, p₂, hdisallow, h⟩ := bind_ok h
  -- type and disallowed type look at the class only, which remains the same
  have hearly {b : Value} (hkept : a.keptIn b) : p₂.slot = .present a ∧
      AcceptsAsIs (whenGiven n "type" (typeRule visit')) (.present b) ∧
      AcceptsAsIs (disallowRule visit' n) (.present b) := by
    have hclass : (Slot.present b).value.class? = (Slot.present a).value.class? :=
      Value.class?_of_keptIn hkept
    have hfirst : p₁.slot = p.slot ∧ AcceptsAsIs (whenGiven n "type" (typeRule visit'))
        (.present b) :=
      givenType_acceptsAsIs hn hstable.plain_type htype (by rwa [hp])
    have hp₁ : p₁.slot = .present a := hfirst.1.trans hp
    have hsecond : p₂.slot = p₁.slot ∧ AcceptsAsIs (disallowRule visit' n) (.present b) :=
      disallowRule_acceptsAsIs hn hstable.plain_disallow hdisallow (by rwa [hp₁])
    exact ⟨hsecond.1.trans hp₁, hfirst.2, hsecond.2⟩
  obtain ⟨hp₂, htypeRest, hdisallowRest⟩ := hearly (Value.keptIn_refl a)
  -- null is past its check here, any other value goes on to what it is made of
  cases a with
  | null =>
    cases h
    exact ⟨.null, hp₂, Value.keptIn_refl _, .bind htypeRest (.bind hdisallowRest (.pure _))⟩
  | _ =>
    obtain ⟨b, hb, hkept, hcontent⟩ :=
      contentRules_acceptsAsIs hn hnode hstable hsettling hkeyed hs hp₂ h
    obtain ⟨_, htypeRest, hdisallowRest⟩ := hearly hkept
    refine ⟨b, hb, hkept, .bind htypeRest (.bind hdisallowRest ?_)⟩
    cases b with
    | null => cases hkept
    | _ => exact hcontent

/-! ## Missing values -/

omit hn hnode hstable hsettling

/-- Whether a missing value is left missing. -/
def Missed.leaves : Missed → Bool
  | .passes => true
  | .remarks _ => true
  | _ => false

/-- To leave a value missing is to succeed and touch nothing but the journal. -/
theorem Missed.check_of_leaves {m : Missed} (h : m.leaves = true) (s : Scope) (p : Progress) :
    ∃ q, m.check s p = (.ok (), q) ∧ q.slot = p.slot := by
  cases m with
  | passes => exact ⟨p, rfl, rfl⟩
  | remarks e => exact ⟨{ p with journal := e :: p.journal }, rfl, rfl⟩
  | _ => cases h

/-- Whether a missing value is left missing does not depend on where it is. -/
theorem missed_leaves {s s' : Scope} (h : s.interactive = s'.interactive) (schema : Value)
    (σ : Slot) : (missed schema s σ).leaves = (missed schema s' σ).leaves := by
  -- keys and places only occur in the errors and the events
  unfold missed
  rw [h]
  repeat' split
  all_goals rfl

/-- A missing value that is left missing is accepted as it is. -/
theorem missingRules_acceptsAsIs (hn : n.InSchema) {σ : Slot} {s : Scope}
    (hs : s.interactive = true)
    (h : (missed n.tree s σ).leaves = true) : AcceptsAsIs (missingRules n) σ := by
  intro s' p hs' hp
  rw [missed_leaves (hs.trans hs'.symm)] at h
  obtain ⟨q, hq, hslot⟩ := Missed.check_of_leaves h s' p
  refine ⟨q, ?_, hslot.trans hp⟩
  rw [missingRules_run, hn.content, hp]
  exact hq

/-- A missing value is left missing and accepted so, or it is filled in with the default; were the
    default itself missing, that would be accepted too. -/
theorem missingRules_settles (hn : n.InSchema) {σ τ : Slot} (hfound : σ.Found)
    (hmissing : σ.value = .missing) (h : AcceptsAs (missingRules n) σ τ) :
    τ = σ ∧ AcceptsAsIs (missingRules n) σ ∨
      ∃ d, offer? n.tree = some d ∧ τ = .filled d ∧ AcceptsAsIs (missingRules n) .held := by
  obtain ⟨s, p, q, hs, rfl, hrun, rfl⟩ := h
  rw [missingRules_run, hn.content] at hrun
  cases hm : missed n.tree s p.slot with
  | fails f =>
    rw [hm] at hrun
    cases hrun
  | passes =>
    rw [hm] at hrun
    cases hrun
    exact Or.inl ⟨rfl, missingRules_acceptsAsIs hn hs (by rw [hm]; rfl)⟩
  | remarks e =>
    rw [hm] at hrun
    cases hrun
    exact Or.inl ⟨rfl, missingRules_acceptsAsIs hn hs (by rw [hm]; rfl)⟩
  -- a default is filled in where the value is not required and defaults are written
  | filled slot d =>
    obtain ⟨_, hoffer, hinjection⟩ := of_missed_filled hm
    have hrequired : n.tree.get? "required" ≠ some (.bool true) := by
      intro hr
      unfold missed at hm
      rw [if_pos hr] at hm
      cases hm
    have hheld : (missed n.tree s .held).leaves = true := by
      unfold missed
      rw [if_neg hrequired, if_neg (by simp [hs]), hoffer]
      rfl
    rw [hm] at hrun
    cases hrun
    refine Or.inr ⟨d, hoffer, ?_, missingRules_acceptsAsIs hn hs hheld⟩
    show slot = .filled d
    -- in a slot that was found, a missing value can be filled in one way only
    generalize p.slot = σ at hfound hmissing hinjection
    cases hinjection with
    | fill => rfl
    | onTop => cases hfound
    | within _ => exact absurd hmissing hfound

/-! ## One value, one schema -/

section Property

variable (hn : n.InSchema) (hstable : n.Stable settings)

include hn hstable

/-- Of a node that refers to nothing and extends nothing, only the rules of its own matter. -/
theorem property_acceptsAsIs {σ : Slot} (h : AcceptsAsIs (ownRules visit' n) σ) :
    AcceptsAsIs (property visit' n) σ := by
  refine .bind (.whenGiven hn fun id _ s p _ hp => ⟨_, rfl, hp⟩) (.bind ?_ (.bind ?_ h))
  · intro s p _ hp
    refine ⟨p, refRule_run fun t => ?_, hp⟩
    rw [hn.content]
    exact hstable.no_reference t
  · refine .whenGiven hn fun r hr => ?_
    rw [hstable.no_bases] at hr
    cases hr

/-- The id, the reference and the bases of a stable node leave the slot to its own rules. -/
theorem ownRules_of_property {σ τ : Slot} (h : AcceptsAs (property visit n) σ τ) :
    AcceptsAs (ownRules visit n) σ τ := by
  obtain ⟨s, p, q, hs, rfl, hrun, rfl⟩ := h
  obtain ⟨_, p₁, hid, hrun⟩ := bind_ok hrun
  obtain ⟨_, p₂, href, hrun⟩ := bind_ok hrun
  obtain ⟨_, p₃, hextends, hrun⟩ := bind_ok hrun
  -- the id, the reference and the bases leave the slot alone
  have hp₁ : p₁.slot = p.slot := by
    have hslot := idRule_slot (s := s) (p := p) hn
    rwa [hid] at hslot
  have hp₂ : p₂ = p₁ := by
    rw [refRule_run fun t => by rw [hn.content]; exact hstable.no_reference t] at href
    cases href
    rfl
  have hp₃ : p₃ = p₂ := by
    unfold extendsRule at hextends
    rw [whenGiven_run hn, hstable.no_bases] at hextends
    cases hextends
    rfl
  exact ⟨s, p₃, q, hs, by rw [hp₃, hp₂, hp₁], hrun, rfl⟩

/-- A value that is there, and has been checked against a node, is accepted as it is. -/
theorem property_present_acceptsAsIs (hnode : n.tree.wellKeyed = true)
    (hsettling : Settling visit visit' n) (ha : a ≠ .missing) (hkeyed : a.wellKeyed = true)
    {τ : Slot} (h : AcceptsAs (property visit n) (.present a) τ) :
    AcceptsAsIs (property visit' n) τ.again := by
  obtain ⟨s, p, q, hs, hp, hrun, rfl⟩ := ownRules_of_property hn hstable h
  have hown {visit : Node → Check Unit} {b : Value} (hb : b ≠ .missing) (s : Scope) (p : Progress)
      (hp : p.slot = .present b) : ownRules visit n s p = presentRules visit n b s p := by
    unfold ownRules
    rw [value_bind, hp]
    cases b with
    | missing => exact absurd rfl hb
    | _ => rfl
  rw [hown ha s p hp] at hrun
  obtain ⟨b, hb, hkept, haccepts⟩ :=
    presentRules_acceptsAsIs hn hnode hstable hsettling hkeyed hs hp hrun
  -- a value that is there does not become a missing one
  have hbmissing := Value.ne_missing_of_keptIn hkept ha
  rw [hb, Slot.again, Slot.ofValue_of_ne hbmissing]
  refine property_acceptsAsIs hn hstable fun s p hs hp => ?_
  rw [hown hbmissing s p hp]
  exact haccepts s p hs hp

omit hstable in
/-- A check against a node is one of its rules, with less depth to go. -/
theorem property_of_against (hmap : n.tree.isMap = true) {depth : Nat} {σ τ : Slot}
    (h : AcceptsAs (against depth n) σ τ) :
    ∃ m, depth = m + 1 ∧ AcceptsAs (property (against m) n) σ τ := by
  obtain ⟨s, p, q, hs, rfl, hrun, rfl⟩ := h
  have hcontent : (n.content p.writes).isMap = true := by rwa [hn.content]
  -- with no depth left a mapping is not checked at all, so the run would have failed
  cases depth with
  | zero =>
    rw [against_zero_of_map hcontent] at hrun
    cases hrun
  | succ m =>
    rw [against_succ_of_map hcontent] at hrun
    obtain ⟨q', hinner, rfl⟩ := nested_ok hrun
    let s' : Scope := { s with depth := s.depth + 1 }
    let p' : Progress := { p with journal := .entered n s.trail (s.depth + 1) :: p.journal }
    exact ⟨m, rfl, s', p', q', hs, rfl, hinner, rfl⟩

omit hstable in
/-- A check against a node accepts what its rules accept. -/
theorem against_acceptsAsIs (hmap : n.tree.isMap = true) {depth : Nat} {σ : Slot}
    (h : AcceptsAsIs (property (against depth) n) σ) : AcceptsAsIs (against (depth + 1) n) σ := by
  intro s p hs hp
  rw [against_succ_of_map (by rwa [hn.content])]
  exact AcceptsAsIs.nested n h s p hs hp

/-- A node that accepts its default by itself accepts it as it is where it has been filled in. -/
theorem property_filled_acceptsAsIs (hnode : n.tree.wellKeyed = true) {d : Value}
    (hd : d ≠ .missing)
    (hoffer : offer? n.tree = some d)
    (hsettling : ∀ depth, Settling (against depth) visit' n) :
    AcceptsAsIs (property visit' n) (.present d) := by
  obtain ⟨hdefault, hnull, _⟩ := offers_of_offer? hoffer
  obtain ⟨hok, hnone⟩ := hstable.default_accepted d hdefault hnull
  have hmap : n.tree.isMap = true := by
    cases htree : n.tree with
    | map es => rfl
    | _ =>
      rw [htree] at hdefault
      cases hdefault
  have hgiven : n.tree.isGiven = true := Value.isGiven_of_isMap hmap
  -- the check of the default by itself is a first run, and what it leaves is the default
  have hsettles := Validator.settles_of_validate rfl hgiven hok
  rw [(Validator.applied_eq_nil_iff _ _ _).mp hnone, Slot.ofValue_of_ne hd] at hsettles
  obtain ⟨m, _, hproperty⟩ := property_of_against hn hmap hsettles
  have hkeyed : d.wellKeyed = true :=
    Value.everyMapping_part hnode (Value.mem_parts_of_get? hdefault)
  have haccepts := property_present_acceptsAsIs hn hstable hnode (hsettling m) hd hkeyed hproperty
  rwa [Slot.again, Slot.ofValue_of_ne hd] at haccepts

/-- What is left of a missing value is accepted: it is missing again, or there is the default. -/
theorem property_missing_acceptsAsIs {σ τ : Slot} (hfound : σ.Found) (hmissing : σ.value = .missing)
    (hdefault : ∀ d, d ≠ .missing → offer? n.tree = some d →
      AcceptsAsIs (property visit' n) (.present d))
    (h : AcceptsAs (property visit n) σ τ) : AcceptsAsIs (property visit' n) τ.again := by
  have hown {visit : Node → Check Unit} {σ : Slot} {s : Scope} {p : Progress}
      (hσ : σ.value = .missing) (hp : p.slot = σ) : ownRules visit n s p = missingRules n s p := by
    unfold ownRules
    rw [value_bind, hp, hσ]
  have hrest {σ : Slot} (hσ : σ.value = .missing) (h : AcceptsAsIs (missingRules n) σ) :
      AcceptsAsIs (property visit' n) σ :=
    property_acceptsAsIs hn hstable fun s p hs hp => by
      rw [hown hσ hp]
      exact h s p hs hp
  obtain ⟨s, p, q, hs, hp, hrun, hq⟩ := ownRules_of_property hn hstable h
  rw [hown hmissing hp] at hrun
  rcases missingRules_settles hn hfound hmissing ⟨s, p, q, hs, hp, hrun, hq⟩ with
    ⟨rfl, haccepts⟩ | ⟨d, hoffer, rfl, haccepts⟩
  · rw [Slot.again_of_found hfound]
    exact hrest hmissing haccepts
  -- a default that is the mark itself leaves the value missing
  · by_cases hd : d = .missing
    · rw [hd]
      exact hrest rfl haccepts
    · rw [Slot.again, Slot.ofValue_of_ne hd]
      exact hdefault d hd hoffer

end Property

/-! ## Schemas -/

/-- What is no mapping asks for nothing. -/
theorem stays_of_not_map (hn : n.InSchema) (hmap : n.tree.isMap = false) (depth depth' : Nat) :
    LeavesAccepted (against depth n) (against depth' n) := by
  have hcontent (p : Progress) : (n.content p.writes).isMap = false := by rwa [hn.content]
  rintro σ τ hfound _ ⟨s, p, q, hs, rfl, hrun, rfl⟩
  rw [against_of_not_map (hcontent p)] at hrun
  cases hrun
  rw [Slot.again_of_found hfound]
  exact fun s' p' _ hp' => ⟨p', against_of_not_map (hcontent p') depth', hp'⟩

/-- If members come to rest, then so does a value that is checked against a node, be it there or
    not. -/
theorem against_leavesAccepted_of_settling (hn : n.InSchema) (hnode : n.tree.wellKeyed = true)
    (hstable : n.Stable settings) (hmap : n.tree.isMap = true) {depth' : Nat}
    (hsettling : ∀ depth, Settling (against depth) (against depth') n) (depth : Nat) :
    LeavesAccepted (against depth n) (against (depth' + 1) n) := by
  intro σ τ hfound hkeyed h
  obtain ⟨m, rfl, hproperty⟩ := property_of_against hn hmap h
  refine against_acceptsAsIs hn hmap ?_
  -- a value that is there has been checked, one that is not may have been filled in
  cases σ with
  | present a =>
    exact property_present_acceptsAsIs hn hstable hnode (hsettling m) hfound hkeyed hproperty
  | _ =>
    exact property_missing_acceptsAsIs hn hstable hfound rfl
      (fun d hd hoffer =>
        property_filled_acceptsAsIs hn hstable hnode hd hoffer hsettling) hproperty

/-- A value that has been checked against a node of a stable schema is accepted: the induction is on
    how deep the node is nested, which bounds the depth that the second check needs. -/
theorem against_leavesAccepted (hn : n.InSchema) (hnode : n.tree.wellKeyed = true)
    (hstable : ∀ k, n.Reaches k → k.Stable settings) (depth' : Nat) :
    ∀ k, n.Reaches k → k.tree.nesting ≤ depth' →
      ∀ depth, LeavesAccepted (against depth k) (against depth' k) := by
  induction depth' with
  -- mappings are nested at least once, so at depth zero there is none
  | zero =>
    intro k hk hnesting depth
    cases hmap : k.tree.isMap with
    | false => exact stays_of_not_map (hk.inSchema hn) hmap depth 0
    | true => exact absurd hnesting (Nat.not_le.mpr (Value.nesting_pos_of_map hmap))
  | succ depth' ih =>
    intro k hk hnesting depth
    cases hmap : k.tree.isMap with
    | false => exact stays_of_not_map (hk.inSchema hn) hmap depth (depth' + 1)
    | true =>
      have hsubschema (depth : Nat) :
          ∀ l ∈ k.subschemas, LeavesAccepted (against depth l) (against depth' l) := fun l hl =>
        ih l (hk.step hl)
          (Nat.le_of_lt_succ (Nat.lt_of_lt_of_le (Node.nesting_subschema hl) hnesting)) depth
      refine against_leavesAccepted_of_settling (hk.inSchema hn) (hk.everyMapping hnode)
        (hstable k hk) hmap
        (fun depth => ⟨against_moves depth, hsubschema depth, ?_⟩) depth
      -- the policy is a subschema, or there is none
      cases hp : k.tree.get? "additionalProperties" with
      | none =>
        have hin : (policyNode k).InSchema := hk.inSchema hn
        exact stays_of_not_map hin (by unfold policyNode; rw [hp]; rfl) depth depth'
      | some r =>
        refine hsubschema depth _ (Node.mem_subschemas.mpr (Or.inr (Or.inl ⟨r, hp, ?_⟩)))
        unfold policyNode
        rw [hp]
        rfl

end Check

namespace Validator

open Check

/-- **Stability.**  Take a schema in which no node has a reference, a base, an inline schema among
    its types or items by position, in which every node accepts its own default as it is, and in
    which mappings hold each key once and are nested no deeper than checks may be.  If a validator
    that writes defaults accepts an instance against it, then a fresh one with the same settings
    accepts what has become of the instance, leaves it exactly as it is, and applies no default. -/
theorem validate_stable {v : Validator} {inst schema : Node} (hs : v.interactive.isTruthy = true)
    (hn : schema.InSchema) (hgiven : schema.tree.isGiven = true)
    (hschema : schema.tree.wellKeyed = true) (hinst : inst.tree.wellKeyed = true)
    (hdepth : schema.tree.nesting ≤ v.settings.maxDepth)
    (hstable : ∀ k, schema.Reaches k → k.Stable v.settings)
    (hok : (v.validate inst schema).result = .ok ()) :
    let o := v.validate inst schema
    let again := (Validator.new v.settings (.bool true)).validate ⟨inst.origin, o.slot.value⟩ schema
    again.result = .ok () ∧ again.slot.value = o.slot.value ∧ again.validator.applied = [] := by
  intro o again
  have hsettles := settles_of_validate hs hgiven hok
  -- a found value is met again as it was left
  have haccepts := against_leavesAccepted hn hschema hstable v.settings.maxDepth schema .self hdepth
    v.settings.maxDepth _ _ (Slot.found_ofValue _) (by rwa [Slot.value_ofValue]) hsettles
  rw [Slot.again_of_found (Slot.found_ofValue _)] at haccepts
  exact validate_of_acceptsAsIs rfl hgiven haccepts

/-- A schema with defaults at several depths, in a list among others, and a policy on further
    entries. -/
def fillsMembers : Value :=
  .map [(.name "properties", .map
      [(.name "size", .map [(.name "type", .str "integer"), (.name "default", .int 1)]),
        (.name "parts", .map
          [(.name "type", .str "array"),
            (.name "items", .map [(.name "properties", .map [(.name "unit", .map
              [(.name "type", .str "string"), (.name "default", .str "mm")])])]),
            (.name "default", .list [.map [(.name "unit", .str "m")]])])]),
    (.name "additionalProperties", .map [(.name "type", .list [.str "string", .str "null"])])]

/-- An object with two parts, which lack their units, and a further entry. -/
def partsInstance : Node :=
  ⟨⟨.instance 0, []⟩, .map [(.name "parts", .list [.map [], .map []]), (.name "note", .str "text")]⟩

/-- Three defaults are filled in, and the result is accepted as it is. -/
theorem filled_members_stay :
    let v := Validator.new .default .null
    let o := v.validate partsInstance (.ofSchema 0 fillsMembers)
    o.validator.applied = ["$.size", "$.parts[0].unit", "$.parts[1].unit"] ∧
      ((Validator.new v.settings (.bool true)).validate ⟨partsInstance.origin, o.slot.value⟩
        (.ofSchema 0 fillsMembers)).validator.applied = [] := by
  have hswitch : (Validator.new .default .null).interactive.isTruthy = true := rfl
  have hin : (Node.ofSchema 0 fillsMembers).InSchema := ⟨0, rfl⟩
  have hgiven : (Node.ofSchema 0 fillsMembers).tree.isGiven = true := rfl
  have hdepth : (Node.ofSchema 0 fillsMembers).tree.nesting ≤
      (Validator.new .default .null).settings.maxDepth := by decide +kernel
  have hreached : ((Node.ofSchema 0 fillsMembers).reached
      (Node.ofSchema 0 fillsMembers).tree.nesting).all (Node.isStable .default) = true := by
    decide +kernel
  have hok : ((Validator.new .default .null).validate partsInstance
      (.ofSchema 0 fillsMembers)).result = .ok () := by decide +kernel
  have hkeys : (Node.ofSchema 0 fillsMembers).tree.wellKeyed = true := by decide +kernel
  have hkeys' : partsInstance.tree.wellKeyed = true := by decide +kernel
  have hleaves := validate_stable hswitch hin hgiven hkeys hkeys' hdepth
    (fun _ hk => Node.stable_of_reached hreached hk) hok
  exact ⟨by decide +kernel, hleaves.2.2⟩

end Validator

end Conformance

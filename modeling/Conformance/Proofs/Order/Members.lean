/-
  Members, visited with the keys in another order.

  Elements are visited by position, so their visits mirror each other one by one.  Entries are
  visited in the order of the keys of the schema or of the object, and the two sides may differ in
  it.  But no entry is visited twice, so each visit finds what the container held at first: what the
  visits leave can be mirrored before anything is put back (`InTurn.mirrored`), and it can be put
  back in any order (`Value.settleAll_perm`).

  A check of an object visits the declared properties first and then the entries that are there by
  then; each round is mirrored by itself (`object_matches`).
-/
import Conformance.Proofs.Order.Rules

namespace Conformance

/-! ## Schemas inside a schema -/

namespace Value

/-- A schema is found in another one: it is that one, or a base, a schema of items, of a declared
    property or of additional members of one that is found there. -/
inductive Embeds (S : Value) : Value → Prop
  | self : Embeds S S
  | base {T b : Value} (h : Embeds S T) (hb : b ∈ T.bases) : Embeds S b
  | item {T r b : Value} (h : Embeds S T) (hr : T.rule? "items" = some r) (hb : b ∈ r.listed) :
    Embeds S b
  | property {T r : Value} {e : Key × Value} (h : Embeds S T) (hr : T.rule? "properties" = some r)
    (he : e ∈ r.entries) : Embeds S e.2
  | additional {T r : Value} (h : Embeds S T) (hr : T.get? "additionalProperties" = some r) :
    Embeds S r

end Value

namespace Check

/-- Visits that mirror each other for the schemas that are found in one, and for what is no schema
    at all. -/
structure Matching (S : Value) (visit visit' : Node → Check Unit) : Prop where
  moving : ∀ k, Moving (visit k)
  schemas : ∀ k k', k.Alike k' → S.Embeds k.tree → Matches (visit k) (visit' k')
  others : ∀ k k', k.Alike k' → k.tree.isMap = false → Matches (visit k) (visit' k')

variable {S : Value} {visit visit' : Node → Check Unit} {n n' : Node}

/-! ## Policies -/

/-- Whether a policy forbids members is no matter of order. -/
theorem forbids_of_reordered {v w : Value} (h : v.reordered w) : forbids w = forbids v := by
  cases Value.reorder_of_reordered h <;> rfl

/-- Nor is whether it allows them. -/
theorem allows_of_reordered {v w : Value} (h : v.reordered w) : allows w = allows v := by
  cases Value.reorder_of_reordered h <;> rfl

/-- The policies of schemas that are alike are alike. -/
theorem policyNode_alike (hn : n.Alike n') : (policyNode n).Alike (policyNode n') :=
  hn.down _ (Value.getD_of_reordered hn.tree _)

/-- A policy is read on both sides, or it is an error of the schema. -/
theorem Mirrors.policy (hn : n.Alike n') {f f' : Node → Check Unit} {σ σ' : Slot}
    (h : Mirrors (f (policyNode n)) (f' (policyNode n')) σ σ') :
    Mirrors (additionalPolicy n >>= f) (additionalPolicy n' >>= f') σ σ' := by
  intro τ hτ
  have ⟨s, p, _, _, _, hrun, _⟩ := hτ
  obtain ⟨k, q, hread, _⟩ := bind_ok hrun
  obtain ⟨_, _, hleft⟩ := additionalPolicy_ok hn.left hread
  have hright : ∀ s p, additionalPolicy n' s p = (.ok (policyNode n'), p) := by
    have hrel := Value.get?_of_reordered hn.tree "additionalProperties"
    unfold additionalPolicy policyNode at *
    simp only [field?_bind, hn.left.content, hn.right.content] at hread ⊢
    generalize n.tree.get? "additionalProperties" = x at hrel hread
    generalize n'.tree.get? "additionalProperties" = y at hrel
    -- a policy that is read is a boolean or a schema, and the other side has the same
    cases hrel with
    | none => exact fun _ _ => rfl
    | @some v w hv =>
      cases Value.reorder_of_reordered hv with
      | map => exact fun _ _ => rfl
      | same =>
        cases v with
        | bool b => exact fun _ _ => rfl
        | map es => exact fun _ _ => rfl
        | _ => cases hread
      | _ => cases hread
  exact Mirrors.read (fun s p _ => hleft s p) (fun s p _ => hright s p) h τ hτ

/-- Visits against the policy mirror each other, be it a schema or none. -/
theorem Matching.policy (h : Matching S visit visit') (hn : n.Alike n') (hS : S.Embeds n.tree) :
    Matches (visit (policyNode n)) (visit' (policyNode n')) := by
  cases hp : n.tree.get? "additionalProperties" with
  | none => exact h.others _ _ (policyNode_alike hn) (by unfold policyNode; rw [hp]; rfl)
  | some r =>
    refine h.schemas _ _ (policyNode_alike hn) ?_
    have htree : (policyNode n).tree = r := by
      unfold policyNode
      rw [hp]
      rfl
    rw [htree]
    exact hS.additional hp

/-! ## Arrays -/

/-- Elements are visited by index, which is the same order on both sides. -/
theorem everyElement_matches {k k' : Node} (hmoves : Moving (visit k))
    (h : Matches (visit k) (visit' k')) :
    Matches (everyElement visit k) (everyElement visit' k') := by
  refine fun σ σ' hσ => .length hσ fun length => ?_
  refine Matches.each (List.forall₂_same.mpr fun i _ => ?_) hσ
  exact .atChild hmoves nofun h

/-- Items by position, and the policy on additional ones. -/
theorem positionalItems_matches (h : Matching S visit visit') (hn : n.Alike n')
    (hS : S.Embeds n.tree) {r r' : Value} (hr : n.tree.rule? "items" = some r)
    (hrr : r.reordered r') :
    Matches (positionalItems visit n (n.down (.name "items") r))
      (positionalItems visit' n' (n'.down (.name "items") r')) := by
  have hitems : (n.down (.name "items") r).Alike (n'.down (.name "items") r') := hn.down _ hrr
  refine .bind (.eachElement hitems fun i v hv v' hvv =>
    .atChild (h.moving _) nofun (h.schemas _ _ (hitems.down _ hvv) ?_)) fun σ σ' hσ => .content hn ?_
  · refine hS.item hr ?_
    cases r with
    | list vs => exact hv
    | _ => cases hv
  · rw [Value.hasKey_of_reordered hn.tree]
    cases n.tree.hasKey (.name "additionalProperties") with
    | false => exact .pure hσ
    | true =>
      refine .policy hn ?_
      rw [forbids_of_reordered (policyNode_alike hn).tree,
        allows_of_reordered (policyNode_alike hn).tree]
      cases forbids (policyNode n).tree with
      | true =>
        refine .content hitems (.length hσ fun length => ?_)
        refine .brokenIf ?_ (fail_fails _) hσ
        rw [(Value.listItems_of_reordered hitems.tree).length_eq]
      | false =>
        cases allows (policyNode n).tree with
        | true => exact .pure hσ
        | false => exact everyElement_matches (h.moving _) (h.policy hn hS) hσ

/-- Items by one schema or by position, and then their counts. -/
theorem items_matches (h : Matching S visit visit') (hn : n.Alike n') (hS : S.Embeds n.tree) :
    Matches (items visit n) (items visit' n') := by
  refine .bind (.whenGiven hn fun r r' hr hrr => ?_) (itemCounts_matches hn)
  cases Value.reorder_of_reordered hrr with
  | list => exact positionalItems_matches h hn hS hr hrr
  | same _ harray =>
    have hone : S.Embeds r := by
      refine hS.item hr ?_
      cases r <;> first | exact List.mem_singleton_self _ | cases harray
    have hmatches :=
      everyElement_matches (h.moving _) (h.schemas _ _ (hn.down (.name "items") hrr) hone)
    cases r <;> first | exact hmatches | cases harray
  | _ =>
    exact everyElement_matches (h.moving _)
      (h.schemas _ _ (hn.down (.name "items") hrr) (hS.item hr (List.mem_singleton_self _)))

/-! ## Visits in another order -/

/-- Visits of the same member, the second of which mirrors the first. -/
structure SameVisit (visit visit' : Node → Check Unit) (x y : Step × Node) : Prop where
  step : x.1 = y.1
  mirrored : Matches (visit x.2) (visit' y.2)

/-- What is put back at the member of a visit is what the visit leaves of what is found there. -/
structure Leaves (visit : Node → Check Unit) (a : Value) (x : Step × Node) (d : Step × Slot) :
    Prop where
  step : d.1 = x.1
  settles : AcceptsAs (visit x.2) (a.slotBelow x.1) d.2
  below : Slot.Below a x.1 d.2

/-- What is put back at the member of a visit is what the visit leaves, wherever it is made. -/
structure LeavesAnywhere (visit : Node → Check Unit) (a : Value) (x : Step × Node)
    (d : Step × Slot) : Prop where
  step : d.1 = x.1
  anywhere : AcceptsAnywhere (visit x.2) (a.slotBelow x.1) d.2

variable {todo todo' mid : List (Step × Node)} {updates updates' : List (Step × Slot)}
  {a a' b b' : Value}

/-- Visits that put back their slots one after another find what the container has held at first. -/
theorem InTurn.leaves (h : InTurn visit todo a b) (hw : Visitable todo a) :
    ∃ updates, List.Forall₂ (Leaves visit a) todo updates ∧ b = a.settleAll updates := by
  -- later visits find the container changed, but not at their own members
  induction h with
  | done => exact ⟨[], .nil, rfl⟩
  | @next step k rest a b τ here below _ ih =>
    obtain ⟨updates, hupdates, rfl⟩ := ih (hw.next below)
    refine ⟨(step, τ) :: updates, .cons ⟨rfl, here, below⟩ ?_, rfl⟩
    refine Value.forall₂_of_mem hupdates fun x hx d hd => ?_
    have hsame : (a.settle step τ).slotBelow x.1 = a.slotBelow x.1 :=
      Value.slotBelow_settle_of_separate below (hw.findable _ (List.mem_cons_self ..))
        (List.rel_of_pairwise_cons hw.apart hx)
    have hbelow := Slot.below_iff.mp hd.below
    have hsettles := hd.settles
    rw [hsame] at hbelow hsettles
    exact ⟨hd.step, hsettles, Slot.below_iff.mpr hbelow⟩

/-- What visits to different members leave can be put back in any order. -/
theorem independent_of_leaves (h : List.Forall₂ (Leaves visit a) todo updates)
    (hw : Visitable todo a) : Value.IndependentUpdates updates a := by
  refine ⟨fun d hd => ?_, fun d hd => ?_, ?_⟩
  · obtain ⟨x, _, hxd⟩ := Value.exists_of_mem_right h hd
    rw [hxd.step]
    exact Slot.below_iff.mp hxd.below
  · obtain ⟨x, hx, hxd⟩ := Value.exists_of_mem_right h hd
    rw [hxd.step]
    exact hw.findable x hx
  · have hsteps : updates.map (·.1) = todo.map (·.1) :=
      Value.map_eq_of_forall₂ h fun _ _ hxd => hxd.step.symm
    have hapart := List.pairwise_map.mpr hw.apart
    rw [← hsteps] at hapart
    exact List.pairwise_map.mp hapart

/-- Visits that mirror each other leave the same up to the order of keys. -/
theorem mirrored_updates (ha : a.reordered a') (h : List.Forall₂ (Leaves visit a) todo updates)
    (hsame : List.Forall₂ (SameVisit visit visit') todo mid) :
    ∃ updates', List.Forall₂ Value.SameUpdate updates updates' ∧
      List.Forall₂ (LeavesAnywhere visit' a') mid updates' := by
  -- visit by visit, each from what the container has held at first
  induction h generalizing mid with
  | nil =>
    cases hsame
    exact ⟨[], .nil, .nil⟩
  | @cons x d todo updates hxd _ ih =>
    cases hsame with
    | @cons _ y _ mid hxy hrest =>
      obtain ⟨updates', hupdates, hleaves'⟩ := ih hrest
      obtain ⟨τ, hτ, hanywhere⟩ :=
        hxy.mirrored (Value.slotBelow_of_reordered ha x.1) _ hxd.settles
      have hanywhere' : AcceptsAnywhere (visit' y.2) (a'.slotBelow y.1) τ := by
        rwa [← hxy.step]
      have hstep : x.1 = y.1 := hxy.step
      exact ⟨(y.1, τ) :: updates', .cons ⟨hxd.step.trans hstep, hτ⟩ hupdates,
        .cons ⟨rfl, hanywhere'⟩ hleaves'⟩

/-- Members visited in turn, each visit succeeding wherever it is made. -/
inductive InTurnAnywhere (visit : Node → Check Unit) : List (Step × Node) → Value → Value → Prop
  | done (a : Value) : InTurnAnywhere visit [] a a
  | next {step : Step} {k : Node} {rest : List (Step × Node)} {a b : Value} {τ : Slot}
    (here : AcceptsAnywhere (visit k) (a.slotBelow step) τ)
    (after : InTurnAnywhere visit rest (a.settle step τ) b) :
    InTurnAnywhere visit ((step, k) :: rest) a b

/-- Visits that leave these slots wherever they are made leave them in turn. -/
theorem inTurnAnywhere_of_leaves (h : List.Forall₂ (LeavesAnywhere visit a) todo updates)
    (hind : Value.IndependentUpdates updates a) :
    InTurnAnywhere visit todo a (a.settleAll updates) := by
  induction todo generalizing a updates with
  | nil =>
    cases h
    exact .done a
  | cons x todo ih =>
    cases h with
    | @cons _ d _ updates hxd hrest =>
      have hfirst : d ∈ d :: updates := List.mem_cons_self ..
      have hbelow : Slot.Below a d.1 d.2 := Slot.below_iff.mpr (hind.becomes d hfirst)
      -- what has been put back stands elsewhere, so later visits find what they did
      have hlater : List.Forall₂ (LeavesAnywhere visit (a.settle d.1 d.2)) todo updates := by
        refine .flip (Value.forall₂_of_mem hrest.flip fun e he y hye => ⟨hye.step, ?_⟩)
        have hsame : (a.settle d.1 d.2).slotBelow e.1 = a.slotBelow e.1 :=
          Value.slotBelow_settle_of_separate hbelow (hind.findable d hfirst)
            (List.rel_of_pairwise_cons hind.apart he)
        have hanywhere := hye.anywhere
        rwa [← hye.step, ← hsame, hye.step] at hanywhere
      refine .next hxd.anywhere ?_
      rw [← hxd.step]
      exact ih hlater hind.next

/-- **Members can be visited in any order.**  Where visits in turn lead somewhere, visits that
    mirror them lead to the same up to the order of keys, in whatever order they are made. -/
theorem InTurn.mirrored (h : InTurn visit todo a b) (hw : Visitable todo a) (ha : a.reordered a')
    (hsame : List.Forall₂ (SameVisit visit visit') todo mid) (hperm : mid.Perm todo') :
    ∃ b', b.reordered b' ∧ InTurnAnywhere visit' todo' a' b' := by
  obtain ⟨updates, hleaves, rfl⟩ := h.leaves hw
  -- the visits are mirrored where they stand, and only then the order is changed
  have hind := independent_of_leaves hleaves hw
  obtain ⟨updates', hupdates, hleaves'⟩ := mirrored_updates ha hleaves hsame
  have hind' := hind.of_reordered ha hupdates
  obtain ⟨updates'', hleaves'', hperm'⟩ := List.perm_comp_forall₂ hperm.symm hleaves'
  refine ⟨a'.settleAll updates'', ?_, inTurnAnywhere_of_leaves hleaves'' (hind'.perm hperm'.symm)⟩
  refine Value.reordered_trans (Value.settleAll_of_reordered ha hind hupdates)
    (Value.settleAll_perm hperm'.symm (Value.reordered_self (Value.reordered_symm ha)) hind' ?_)
  intro e he
  obtain ⟨d, _, hde⟩ := Value.exists_of_mem_right hupdates he
  exact hde.2.self

/-! ## Objects -/

/-- Declared properties are visited in turn by the rule for all of them. -/
theorem InTurnAnywhere.declaredProperties (hn : n.InSchema) {es : List (Key × Value)}
    (h : InTurnAnywhere visit (es.filterMap (declaredVisit n)) a b) :
    AcceptsAnywhere (Check.declaredProperties visit n n.tree.entries.length es) (.present a)
      (.present b) := by
  induction es generalizing a with
  | nil =>
    cases h
    exact .pure _
  | cons e rest ih =>
    obtain ⟨key, definition⟩ := e
    have hrest {a : Value} (h : InTurnAnywhere visit (rest.filterMap (declaredVisit n)) a b) :=
      AcceptsAnywhere.bind (stillOfSize_acceptsAsIs hn (.present a)) (ih h)
    unfold Check.declaredProperties declaredProperty
    rw [List.filterMap_cons] at h
    unfold declaredVisit at h
    cases hr : isReserved key with
    | true =>
      rw [hr] at h
      exact .bind (.pure _) (hrest h)
    | false =>
      rw [hr] at h
      cases h with
      | next here after => exact .bind here.atChild (hrest after)

/-- An entry may be there, and what its declaration requires is. -/
structure Admits (declarations policy : Value) (key : Key) (object : Value) : Prop where
  declared : (!isReserved key && isUndeclared (Value.entryAt? key declarations.entries) &&
    forbids policy) = false
  required : requirement (Value.entryAt? key declarations.entries) = .null ∨
    ∃ other, requirement (Value.entryAt? key declarations.entries) = .str other ∧
      object.hasKey (.name other) = true

namespace Admits

variable {D P D' P' : Value} {key : Key}

/-- More keys do no harm. -/
theorem mono (h : Admits D P key a) (hkeys : ∀ k, a.hasKey k = true → b.hasKey k = true) :
    Admits D P key b := by
  refine ⟨h.declared, ?_⟩
  rcases h.required with hnull | ⟨other, hother, hhas⟩
  · exact Or.inl hnull
  · exact Or.inr ⟨other, hother, hkeys _ hhas⟩

/-- Declarations say the same up to the order of keys. -/
theorem of_reordered (h : Admits D P key a) (hD : D.reordered D') (hP : P.reordered P')
    (ha : a.reordered a') : Admits D' P' key a' := by
  have hrel : Option.Rel Value.reordered (Value.entryAt? key D.entries)
      (Value.entryAt? key D'.entries) := Value.entryAt?_of_reordered hD key
  obtain ⟨hdeclared, hrequired⟩ := h
  generalize hd : Value.entryAt? key D.entries = d at hrel hdeclared hrequired
  generalize hd' : Value.entryAt? key D'.entries = d' at hrel
  have hundeclared : isUndeclared d' = isUndeclared d := by
    cases hrel with
    | none => rfl
    | some hv => exact congrArg (! ·) (Value.isGiven_of_reordered hv)
  have hrequirement : (requirement d).reordered (requirement d') := by
    cases hrel with
    | none => rfl
    | some hv => exact Value.getD_of_reordered hv "requires"
  refine ⟨by rwa [hd', hundeclared, forbids_of_reordered hP], ?_⟩
  rw [hd']
  rcases hrequired with hnull | ⟨other, hother, hhas⟩
  · rw [hnull] at hrequirement
    exact Or.inl hrequirement
  · rw [hother] at hrequirement
    exact Or.inr ⟨other, hrequirement, by rwa [Value.hasKey_of_reordered ha]⟩

/-- Such an entry is admitted as it is. -/
theorem acceptsAsIs {policy : Node} {σ : Slot} (h : Admits D policy.tree key σ.value) :
    AcceptsAsIs (admission policy key (Value.entryAt? key D.entries)) σ ∧
      AcceptsAsIs (requirementRule key (Value.entryAt? key D.entries)) σ := by
  constructor
  · unfold admission
    rw [h.declared]
    exact .pure σ
  · unfold requirementRule
    rcases h.required with hnull | ⟨other, hother, hhas⟩
    · rw [hnull]
      exact .pure σ
    · rw [hother]
      refine .value ?_
      rw [hhas]
      exact .pure σ

end Admits

/-- An entry that is accepted is admitted. -/
theorem admits_of_entry {declarations policy : Node} (hn : declarations.InSchema) {key : Key}
    {s : Scope} {p q : Progress} (h : entry visit declarations policy key s p = (.ok (), q)) :
    Admits declarations.tree policy.tree key p.slot.value := by
  unfold entry at h
  rw [content_bind, hn.content] at h
  obtain ⟨_, q₁, hadmission, h⟩ := bind_ok h
  obtain ⟨_, q₂, hrequirement, _⟩ := bind_ok h
  -- admission only reads, so the requirement is decided on the same object
  have hslot : q₁.slot = p.slot := ((admission_readsOnly _ _ _).acceptsAsIs hadmission).1
  constructor
  · unfold admission at hadmission
    split at hadmission
    · cases hadmission
    · next hno => exact Bool.eq_false_iff.mpr hno
  · unfold requirementRule at hrequirement
    cases hr : requirement (Value.entryAt? key declarations.tree.entries) with
    | null => exact Or.inl rfl
    | str other =>
      rw [hr] at hrequirement
      dsimp only at hrequirement
      rw [value_bind, hslot] at hrequirement
      refine Or.inr ⟨other, rfl, ?_⟩
      cases hhas : p.slot.value.hasKey (.name other) with
      | true => rfl
      | false =>
        rw [hhas] at hrequirement
        cases hrequirement
    | _ =>
      rw [hr] at hrequirement
      cases hrequirement

/-- Slots that are put back take no key away. -/
theorem hasKey_settle (a : Value) (step : Step) (τ : Slot) (key : Key) (h : a.hasKey key = true) :
    (a.settle step τ).hasKey key = true := by
  rw [Value.hasKey_eq] at h ⊢
  have hreplace (v : Value) : ((a.replace step v).keys.any fun k => k.same key) = true := by
    rwa [(Value.sameShape_replace a step v).keys]
  -- exchanging keeps keys, taking in adds one
  cases τ with
  | present v => exact hreplace v
  | filled v =>
    show ((a.adopt step v).keys.any fun k => k.same key) = true
    unfold Value.adopt
    split
    · rw [Value.keys_map, List.map_append, List.any_append, ← Value.keys_map, h]
      rfl
    · exact h
    · exact h
  | fromEnd old =>
    cases old with
    | none => exact h
    | some v => exact hreplace v
  | _ => exact h

/-- Entries without a declaration are visited in turn by the rule for all entries, if all of them are
    admitted. -/
theorem InTurnAnywhere.entries {declarations policy : Node} (hn : declarations.InSchema)
    {keys : List Key} (hadmits : ∀ key ∈ keys, Admits declarations.tree policy.tree key a)
    (h : InTurnAnywhere visit (keys.filterMap (undeclaredVisit declarations policy)) a b) :
    AcceptsAnywhere (Check.each (entry visit declarations policy) keys) (.present a)
      (.present b) := by
  induction keys generalizing a with
  | nil =>
    cases h
    exact .pure _
  | cons key keys ih =>
    obtain ⟨hadmission, hrequirement⟩ :=
      (hadmits key (List.mem_cons_self ..)).acceptsAsIs (σ := .present a)
    have hown (c : Value) : AcceptsAsIs (ownSchema visit key) (.present c) :=
      fun s p hs hp => ⟨p, ownSchema_eq hs p, hp⟩
    -- the entry is admitted, and then it is visited if it has no declaration
    have hentry {c : Value}
        (hpolicy : AcceptsAnywhere (policyRule visit declarations policy key) (.present a)
          (.present c)) :
        AcceptsAnywhere (entry visit declarations policy key) (.present a) (.present c) :=
      .content hn (.bind hadmission (.bind hrequirement (.bind hpolicy (hown c))))
    rw [List.filterMap_cons] at h
    unfold undeclaredVisit at h
    -- an entry with a declaration is not left to the policy
    cases hhas : declarations.tree.hasKey key with
    | true =>
      rw [hhas] at h
      refine .bind (hentry (.content hn ?_))
        (ih (fun k hk => hadmits k (List.mem_cons_of_mem _ hk)) h)
      rw [hhas]
      exact .pure _
    | false =>
      rw [hhas] at h
      cases h with
      | @next _ _ _ _ _ τ here after =>
        refine .bind (hentry (.content hn ?_)) (ih (fun k hk => ?_) after)
        · rw [hhas]
          exact here.atChild
        · exact (hadmits k (List.mem_cons_of_mem _ hk)).mono (hasKey_settle a _ τ)

/-- Entries may be visited against the policy in any order. -/
theorem InTurnAnywhere.additionalEntries {policy : Node} (hallowed : forbids policy.tree = false)
    {owner : Value} {keys : List Key}
    (h : InTurnAnywhere visit (keys.map fun key => (.entry key, policy)) a b) :
    AcceptsAnywhere (Check.each (additionalEntry visit policy owner) keys) (.present a)
      (.present b) := by
  induction keys generalizing a with
  | nil =>
    cases h
    exact .pure _
  | cons key keys ih =>
    cases h with
    | next here after =>
      refine .bind ?_ (ih after)
      unfold additionalEntry
      rw [hallowed]
      exact here.atChild

/-- The declared properties are the same members on both sides. -/
theorem declared_sameVisit (hn : n.Alike n')
    (h : ∀ e ∈ n.tree.entries, ∀ e', Value.SameEntry e e' →
      Matches (visit (n.down (.entry e.1) e.2)) (visit' (n'.down (.entry e'.1) e'.2))) :
    ∃ mid, List.Forall₂ (SameVisit visit visit') (n.tree.entries.filterMap (declaredVisit n)) mid ∧
      mid.Perm (n'.tree.entries.filterMap (declaredVisit n')) := by
  -- the declarations in the order of the first side, so that visits correspond one by one
  obtain ⟨es, hperm, hentries⟩ := Value.entries_of_reordered hn.tree
  refine ⟨es.filterMap (declaredVisit n'), ?_, hperm.filterMap _⟩
  have hmem : List.Forall₂ (fun e e' => e ∈ n.tree.entries ∧ Value.SameEntry e e')
      n.tree.entries es := Value.forall₂_of_mem hentries fun e he e' hee => ⟨he, hee⟩
  refine List.rel_filterMap (fun e e' hee => ?_) hmem
  unfold declaredVisit
  rw [← hee.2.1]
  cases isReserved e.1 with
  | true => exact .none
  | false =>
    refine .some ⟨rfl, ?_⟩
    have hmatches := h e hee.1 e' hee.2
    rwa [← hee.2.1] at hmatches

/-- So are the entries without a declaration, if the keys are the same. -/
theorem undeclared_sameVisit (hn : n.Alike n') {policy policy' : Node}
    (h : Matches (visit policy) (visit' policy')) {keys keys' : List Key} (hkeys : keys.Perm keys') :
    ∃ mid, List.Forall₂ (SameVisit visit visit') (keys.filterMap (undeclaredVisit n policy)) mid ∧
      mid.Perm (keys'.filterMap (undeclaredVisit n' policy')) := by
  refine ⟨keys.filterMap (undeclaredVisit n' policy'), ?_, hkeys.filterMap _⟩
  refine List.rel_filterMap (R := Eq) (fun key _ hkey => ?_) (List.forall₂_refl keys)
  subst hkey
  unfold undeclaredVisit
  rw [Value.hasKey_of_reordered hn.tree]
  cases n.tree.hasKey key with
  | true => exact .none
  | false => exact .some ⟨rfl, h⟩

/-- Objects against declarations with the keys in another order. -/
theorem object_matches (h : Matching S visit visit') {policy policy' : Node} (hn : n.Alike n')
    (hentries : ∀ e ∈ n.tree.entries, S.Embeds e.2) (hpolicy : policy.Alike policy')
    (hvisit : Matches (visit policy) (visit' policy')) (ha : a.reordered a') :
    Mirrors (object visit n policy) (object visit' n' policy') (.present a) (.present a') := by
  rintro τ ⟨s, p, q, hs, hp, hrun, rfl⟩
  have hdeclared : Value.distinctKeys n.tree.entries = true :=
    Value.distinctKeys_entries (Value.atTop_of_reordered hn.tree)
  obtain ⟨m, b, hb, hrounds⟩ :=
    object_rounds hn.left hdeclared h.moving (Value.atTop_of_reordered ha) hs hp hrun
  -- the declared properties
  have hproperty : ∀ e ∈ n.tree.entries, ∀ e', Value.SameEntry e e' →
      Matches (visit (n.down (.entry e.1) e.2)) (visit' (n'.down (.entry e'.1) e'.2)) :=
    fun e he e' hee => h.schemas _ _ (hee.1 ▸ hn.down _ hee.2) (hentries e he)
  obtain ⟨mid, hsame, hperm⟩ := declared_sameVisit hn hproperty
  obtain ⟨m', hm, hfirst⟩ :=
    hrounds.declared.mirrored (visitable_declared hdeclared a) ha hsame hperm
  -- the entries that are there by then
  obtain ⟨mid', hsame', hperm'⟩ := undeclared_sameVisit hn hvisit (Value.keys_of_reordered hm)
  obtain ⟨b', hb', hsecond⟩ :=
    hrounds.undeclared.mirrored (visitable_undeclared hrounds.keys m) hm hsame' hperm'
  -- entries were admitted in the course of the first run, and the second has the same keys by then
  have hadmits : ∀ key ∈ m'.keys, Admits n'.tree policy'.tree key m' := by
    intro key hkey
    obtain ⟨p', q', hkeys, haccept⟩ :=
      hrounds.accepted key ((Value.keys_of_reordered hm).mem_iff.mpr hkey)
    have hadmitted : Admits n.tree policy.tree key m := by
      refine (admits_of_entry hn.left haccept).mono fun k hk => ?_
      rwa [Value.hasKey_eq, ← hkeys, ← Value.hasKey_eq]
    exact hadmitted.of_reordered hn.tree hpolicy.tree hm
  refine ⟨.present b', hb ▸ .present hb', .content hn.right ?_⟩
  have hmap : n'.tree.isMap = true := by rw [Value.isMap_of_reordered hn.tree, hrounds.listed]
  have hproperties := hfirst.declaredProperties hn.right
  cases htree : n'.tree with
  | map entries =>
    rw [htree] at hproperties
    have hobject : a'.isMap = true := by rw [Value.isMap_of_reordered ha, hrounds.object]
    exact .bind (objectOnly_acceptsAsIs hobject)
      (.bind hproperties (.value (hsecond.entries hn.right hadmits)))
  | _ =>
    rw [htree] at hmap
    cases hmap

/-- Objects without declarations. -/
theorem additionalOnly_matches (h : Matching S visit visit') {policy policy' : Node}
    (hpolicy : policy.Alike policy') (hvisit : Matches (visit policy) (visit' policy'))
    (ha : a.reordered a') :
    Mirrors (additionalOnly visit policy) (additionalOnly visit' policy') (.present a)
      (.present a') := by
  refine .value ?_
  rw [show (Slot.present a).value = a from rfl, show (Slot.present a').value = a' from rfl,
    allows_of_reordered hpolicy.tree, Value.isMap_of_reordered ha]
  cases hskip : allows policy.tree || !a.isMap with
  | true => exact .pure (.present ha)
  | false =>
    obtain ⟨hself, hapart⟩ := Value.distinctKeys_iff.mp
      (Value.distinctKeys_entries (Value.atTop_of_reordered ha))
    have hkeys := Value.keys_of_reordered ha
    rintro τ ⟨s, p, q, hs, hp, hrun, rfl⟩
    rw [if_neg (by simp), scope_bind] at hrun
    have hread {τ : Slot} (hanywhere : ∀ owner,
        AcceptsAnywhere (Check.each (additionalEntry visit' policy' owner) a'.keys) (.present a')
          τ) :
        AcceptsAnywhere
          (Check.scope >>= fun s => Check.each (additionalEntry visit' policy' s.key) a'.keys)
          (.present a') τ := fun s p hs hp => hanywhere s.key s p hs hp
    cases hforbids : forbids policy.tree with
    | true =>
      -- a policy that forbids entries has met none
      have hnone : a.keys = [] := by
        refine List.eq_nil_iff_forall_not_mem.mpr fun key hkey => ?_
        obtain ⟨_, _, _, hentry⟩ :=
          each_ok (I := fun _ => True) (fun _ _ _ _ _ _ => trivial) trivial hrun key hkey
        rw [additionalEntry, hforbids] at hentry
        cases hentry
      have hnone' : a'.keys = [] := by
        rw [hnone] at hkeys
        exact hkeys.nil_eq.symm
      rw [hnone] at hrun
      obtain rfl : q = p := (congrArg Prod.snd hrun).symm
      refine ⟨.present a', hp ▸ .present ha, hread fun owner => ?_⟩
      rw [hnone']
      exact .pure _
    | false =>
      let visits (policy : Node) (keys : List Key) : List (Step × Node) :=
        keys.map fun key => (.entry key, policy)
      obtain ⟨b, hb, hvisited⟩ : ∃ b, q.slot = .present b ∧
          InTurn visit (visits policy a.keys) a b := by
        have hall : Calls visit (Check.each (additionalEntry visit policy s.key) a.keys) a
            (a.keys.filterMap fun key => some (.entry key, policy)) :=
          .each (fun key _ b => additionalEntry_calls h.moving s.key key b) a
        rw [List.filterMap_eq_map'] at hall
        exact hall s p q hs hp hrun
      have hvisitable : Visitable (visits policy a.keys) a := by
        refine ⟨fun x hx => ?_, List.pairwise_map.mpr hapart⟩
        obtain ⟨key, hkey, rfl⟩ := List.mem_map.mp hx
        exact hself key hkey
      have hsame : List.Forall₂ (SameVisit visit visit') (visits policy a.keys)
          (visits policy' a.keys) :=
        List.forall₂_map_left_iff.mpr (List.forall₂_map_right_iff.mpr
          (List.forall₂_same.mpr fun key _ => ⟨rfl, hvisit⟩))
      obtain ⟨b', hb', hinTurn⟩ := hvisited.mirrored hvisitable ha hsame (hkeys.map _)
      refine ⟨.present b', hb ▸ .present hb', hread fun owner => hinTurn.additionalEntries ?_⟩
      rw [forbids_of_reordered hpolicy.tree, hforbids]

end Check

end Conformance

/-
  Key order does not matter.

  Take a schema in which no schema refers to another one by name or has inline schemas among its
  types (`Value.SelfContained`, for all schemas that are found in it), and put the keys of any
  mappings of the schema and of the instance in another order: those of declarations, of schemas, of
  default values, of objects.  A validator that writes defaults accepts the one instance against the
  one schema exactly if it accepts the other against the other, and what it makes of the instances is
  the same up to the order of keys (`key_order_does_not_matter`).

  A check stops at the first violation and writes defaults as it goes, so the two runs are not in
  step: where a member fails, the other run may have visited members that this one never comes to.
  Hence the comparison is of checks that succeed, in one direction (`against_matches`, by induction
  on the depth that is left): all members have been visited then, each has been found as it was at
  first, and the other run finds them all acceptable in its own order.  The relation is symmetric, so
  this is enough.
-/
import Conformance.Proofs.Order.Members

namespace Conformance

/-- A schema that refers to none by name and has none among its types. -/
structure Value.SelfContained (T : Value) : Prop where
  no_reference : ∀ t, T.get? "$ref" ≠ some (.str t)
  plain_type : ∀ t, T.rule? "type" = some t → t.inlineFree = true
  plain_disallow : ∀ t, T.rule? "disallow" = some t → t.inlineFree = true

theorem Value.SelfContained.no_reference_of_reordered {T T' : Value} (h : T.SelfContained)
    (hT : T.reordered T') (t : String) : T'.get? "$ref" ≠ some (.str t) := by
  intro ht
  obtain ⟨v, hv, htext⟩ := exists_of_rel (get?_of_reordered (reordered_symm hT) "$ref") ht
  exact h.no_reference t (hv.trans (congrArg some htext))

namespace Check

variable {S : Value} {visit visit' : Node → Check Unit} {n n' : Node} {a a' : Value}

/-! ## The rules of one schema -/

section Rules

variable (h : Matching S visit visit') (hn : n.Alike n') (hS : S.Embeds n.tree)

include h hn hS

theorem memberRules_matches (ha : a.reordered a') :
    Mirrors (memberRules visit n a) (memberRules visit' n' a') (.present a) (.present a') := by
  have hrel := Value.elements?_of_reordered ha
  cases hx : a.elements? with
  | some xs =>
    obtain ⟨ys, hy, _⟩ := Value.exists_of_rel hrel hx
    unfold memberRules
    rw [hx, hy]
    exact items_matches h hn hS (.present ha)
  | none =>
    have hy : a'.elements? = none := by
      rw [hx] at hrel
      generalize a'.elements? = y at hrel
      cases hrel
      rfl
    have hpolicy := policyNode_alike hn
    have hvisit := h.policy hn hS
    have hobject (r r' : Value) (hr : n.tree.rule? "properties" = some r) (hrr : r.reordered r') :
        Mirrors (additionalPolicy n >>= object visit (n.down (.name "properties") r))
          (additionalPolicy n' >>= object visit' (n'.down (.name "properties") r'))
          (.present a) (.present a') :=
      .policy hn (object_matches h (hn.down _ hrr) (fun e he => hS.property hr he) hpolicy hvisit ha)
    have honly : Mirrors (additionalPolicy n >>= additionalOnly visit)
        (additionalPolicy n' >>= additionalOnly visit') (.present a) (.present a') :=
      .policy hn (additionalOnly_matches h hpolicy hvisit ha)
    have hrule := Value.rule?_of_reordered hn.tree "properties"
    cases hr : n.tree.rule? "properties" with
    | some r =>
      obtain ⟨r', hr', hrr⟩ := Value.exists_of_rel hrule hr
      refine .congr (fun s p _ => ?_) (fun s p _ => ?_) (hobject r r' hr hrr)
      · rw [memberRules_run hn.left hx, hr]
      · rw [memberRules_run hn.right hy, hr']
    | none =>
      have hr' : n'.tree.rule? "properties" = none := by
        rw [hr] at hrule
        generalize n'.tree.rule? "properties" = y at hrule
        cases hrule
        rfl
      have hkey := Value.hasKey_of_reordered hn.tree (.name "additionalProperties")
      cases hhas : n.tree.hasKey (.name "additionalProperties") with
      | true =>
        refine .congr (fun s p _ => ?_) (fun s p _ => ?_) honly
        · rw [memberRules_run hn.left hx, hr, hhas]
          rfl
        · rw [memberRules_run hn.right hy, hr', hkey, hhas]
          rfl
      | false =>
        refine .congr (fun s p _ => ?_) (fun s p _ => ?_) (.pure (.present ha))
        · rw [memberRules_run hn.left hx, hr, hhas]
          rfl
        · rw [memberRules_run hn.right hy, hr', hkey, hhas]
          rfl

theorem contentRules_matches (ha : a.reordered a') :
    Mirrors (contentRules visit n a) (contentRules visit' n' a') (.present a) (.present a') :=
  .bind (memberRules_matches h hn hS ha) fun _ _ _ hτ =>
    Matches.bind (scalarRules_matches hn ha) (closingRules_matches hn) hτ

omit h hn hS in
/-- The value that the rules are chosen by may have its keys in another order. -/
theorem contentRules_of_reordered (ha : a.reordered a') :
    contentRules visit n a' = contentRules visit n a := by
  have hscalar : scalarRules n a' = scalarRules n a := by
    cases Value.reorder_of_reordered ha <;> rfl
  unfold contentRules
  rw [memberRules_of_class? (Value.class?_of_reordered ha), hscalar]

/-- Rules on a value that is there; those on its type look at the class only. -/
theorem presentRules_matches (hself : n.tree.SelfContained) (ha : a.reordered a') :
    Mirrors (presentRules visit n a) (presentRules visit' n' a') (.present a) (.present a') := by
  have htype : Matches (whenGiven n "type" (typeRule visit))
      (whenGiven n' "type" (typeRule visit')) :=
    .whenGiven hn fun r r' hr hrr => typeRule_matches (hn.down _ hrr) (hself.plain_type r hr)
  refine .bind (htype (.present ha)) fun τ τ' hτ hττ =>
    .bind (disallowRule_matches hn hself.plain_disallow hττ) fun ρ ρ' hρ hρρ => ?_
  -- both rules leave the value alone
  have hleaves : ρ = .present a := by
    obtain ⟨s, p, q, _, hp, hrun, rfl⟩ := hτ
    obtain ⟨s', p', q', _, hp', hrun', rfl⟩ := hρ
    have hq : q.slot = p.slot ∧ AcceptsAsIs (whenGiven n "type" (typeRule visit)) p.slot :=
      givenType_acceptsAsIs hn.left hself.plain_type hrun rfl
    have hq' : q'.slot = p'.slot ∧ AcceptsAsIs (disallowRule visit n) p'.slot :=
      disallowRule_acceptsAsIs hn.left hself.plain_disallow hrun' rfl
    rw [hq'.1, hp', hq.1, hp]
  subst hleaves
  cases hρρ with
  | @present _ b hb =>
    have hcontent := contentRules_matches h hn hS hb
    rw [contentRules_of_reordered (Value.reordered_trans (Value.reordered_symm ha) hb)] at hcontent
    cases Value.reorder_of_reordered ha with
    | same =>
      cases a with
      | null => exact .pure (.present hb)
      | _ => exact hcontent
    | _ => exact hcontent

theorem ownRules_matches (hself : n.tree.SelfContained) :
    Matches (ownRules visit n) (ownRules visit' n') := by
  intro σ σ' hσ
  refine .value ?_
  have hmissing := missingRules_matches hn hσ
  cases hσ with
  | @present v _ ha =>
    have hpresent := presentRules_matches h hn hS hself ha
    cases Value.reorder_of_reordered ha with
    | same =>
      cases v with
      | missing => exact hmissing
      | _ => exact hpresent
    | _ => exact hpresent
  | _ => exact hmissing

theorem extendsRule_matches : Matches (extendsRule visit n) (extendsRule visit' n') := by
  refine .whenGiven hn fun r r' hr hrr => ?_
  have hrule : (n.down (.name "extends") r).Alike (n'.down (.name "extends") r') := hn.down _ hrr
  have hbase {b : Value} (hb : b ∈ r.listed) : S.Embeds b := by
    refine hS.base ?_
    unfold Value.bases
    rw [hr]
    exact hb
  cases Value.reorder_of_reordered hrr with
  | list =>
    exact .eachElement hrule fun i v hv v' hvv => h.schemas _ _ (hrule.down _ hvv) (hbase hv)
  | same _ harray =>
    cases r with
    | list _ => cases harray
    | _ => exact h.schemas _ _ hrule (hbase (List.mem_singleton_self _))
  | _ => exact h.schemas _ _ hrule (hbase (List.mem_singleton_self _))

theorem property_matches (hself : n.tree.SelfContained) :
    Matches (property visit n) (property visit' n') := by
  have hid : Matches (idRule n) (idRule n') :=
    .whenGiven hn fun r r' _ _ =>
      .of_acceptsAlways (fun _ s p hp => ⟨_, rfl, hp⟩) (fun _ s p hp => ⟨_, rfl, hp⟩)
  have href : Matches (refRule visit n) (refRule visit' n') := by
    refine fun σ σ' hσ => .congr (fun s p _ => ?_) (fun s p _ => ?_) (.pure hσ)
    · exact refRule_run fun t => by rw [hn.left.content]; exact hself.no_reference t
    · refine refRule_run fun t => ?_
      rw [hn.right.content]
      exact hself.no_reference_of_reordered hn.tree t
  exact .bind hid (.bind href (.bind (extendsRule_matches h hn hS) (ownRules_matches h hn hS hself)))

end Rules

/-! ## Schemas -/

/-- Checks against the schemas that are found in one mirror each other, as deep as they may go. -/
theorem against_matches (hself : ∀ T, S.Embeds T → T.SelfContained) (depth : Nat) :
    Matching S (against depth) (against depth) := by
  have hothers (depth : Nat) (k k' : Node) (hk : k.Alike k') (hmap : k.tree.isMap = false) :
      Matches (against depth k) (against depth k') := by
    have hmap' : k'.tree.isMap = false := by rwa [Value.isMap_of_reordered hk.tree]
    refine fun σ σ' hσ => .congr (fun s p _ => ?_) (fun s p _ => ?_) (.pure hσ)
    · exact against_of_not_map (by rwa [hk.left.content]) depth
    · exact against_of_not_map (by rwa [hk.right.content]) depth
  induction depth with
  | zero =>
    refine ⟨against_moves 0, fun k k' hk hS => ?_, hothers 0⟩
    cases hmap : k.tree.isMap with
    | false => exact hothers 0 k k' hk hmap
    | true =>
      -- there is no depth left
      exact fun σ σ' _ => .of_fails fun s p =>
        ⟨_, against_zero_of_map (by rwa [hk.left.content])⟩
  | succ depth ih =>
    refine ⟨against_moves (depth + 1), fun k k' hk hS => ?_, hothers (depth + 1)⟩
    cases hmap : k.tree.isMap with
    | false => exact hothers (depth + 1) k k' hk hmap
    | true =>
      have hmap' : k'.tree.isMap = true := by rwa [Value.isMap_of_reordered hk.tree]
      have hrules := (property_matches ih hk hS (hself _ hS)).nested k k'
      refine fun σ σ' hσ => .congr (fun s p _ => ?_) (fun s p _ => ?_) (hrules hσ)
      · exact against_succ_of_map (by rwa [hk.left.content]) depth
      · exact against_succ_of_map (by rwa [hk.right.content]) depth

end Check

namespace Value

variable {S S' T T' : Value}

theorem listed_of_reordered (h : T.reordered T') : List.Forall₂ reordered T.listed T'.listed := by
  cases reorder_of_reordered h with
  | list hitems => exact hitems
  | same _ harray =>
    cases T with
    | list _ => cases harray
    | _ => exact .cons h .nil
  | _ => exact .cons h .nil

theorem bases_of_reordered (h : T.reordered T') : List.Forall₂ reordered T.bases T'.bases := by
  have hrel := rule?_of_reordered h "extends"
  unfold bases
  generalize T.rule? "extends" = x at hrel
  generalize T'.rule? "extends" = y at hrel
  cases hrel with
  | none => exact .nil
  | some hr => exact listed_of_reordered hr

/-- The same schemas are found in schemas that are the same up to the order of keys. -/
theorem Embeds.of_reordered (hS : S.reordered S') (h : S'.Embeds T') :
    ∃ T, S.Embeds T ∧ T.reordered T' := by
  have hback {T T' r' : Value} {name : String} (hT : T.reordered T') (hr : T'.rule? name = some r') :
      ∃ r, T.rule? name = some r ∧ r.reordered r' := by
    obtain ⟨r, hr, hrr⟩ := exists_of_rel (rule?_of_reordered (reordered_symm hT) name) hr
    exact ⟨r, hr, reordered_symm hrr⟩
  induction h with
  | self => exact ⟨S, .self, hS⟩
  | base _ hb ih =>
    obtain ⟨T, hT, hTT⟩ := ih
    obtain ⟨b, hb, hbb⟩ := exists_of_mem_right (bases_of_reordered hTT) hb
    exact ⟨b, hT.base hb, hbb⟩
  | item _ hr hb ih =>
    obtain ⟨T, hT, hTT⟩ := ih
    obtain ⟨r, hr, hrr⟩ := hback hTT hr
    obtain ⟨b, hb, hbb⟩ := exists_of_mem_right (listed_of_reordered hrr) hb
    exact ⟨b, hT.item hr hb, hbb⟩
  | property _ hr he ih =>
    obtain ⟨T, hT, hTT⟩ := ih
    obtain ⟨r, hr, hrr⟩ := hback hTT hr
    obtain ⟨es, hperm, hentries⟩ := entries_of_reordered hrr
    obtain ⟨e, he, hee⟩ := exists_of_mem_right hentries (hperm.mem_iff.mpr he)
    exact ⟨e.2, hT.property hr he, hee.2⟩
  | additional _ hr ih =>
    obtain ⟨T, hT, hTT⟩ := ih
    obtain ⟨r, hr, hrr⟩ := exists_of_rel (get?_of_reordered (reordered_symm hTT) _) hr
    exact ⟨r, hT.additional hr, reordered_symm hrr⟩

mutual

/-- There are no inline schemas in another order either. -/
theorem inlineFree_of_reordered : ∀ {v w : Value}, v.reordered w → v.inlineFree = true →
    w.inlineFree = true
  | .list vs, w, h, hfree => by
    obtain ⟨ws, rfl, hitems⟩ := reordered_list.mp h
    exact inlineFreeItems_of_reordered hitems hfree
  | .tuple vs, w, h, _ => by
    obtain ⟨ws, rfl, _⟩ := reordered_tuple.mp h
    rfl
  | .map _, _, _, hfree => by cases hfree
  | .missing, w, h, _ => by cases h; rfl
  | .null, w, h, _ => by cases h; rfl
  | .bool _, w, h, _ => by cases h; rfl
  | .int _, w, h, _ => by cases h; rfl
  | .float _, w, h, _ => by cases h; rfl
  | .str _, w, h, _ => by cases h; rfl
  | .cls _, w, h, _ => by cases h; rfl

theorem inlineFreeItems_of_reordered : ∀ {vs ws : List Value}, List.Forall₂ reordered vs ws →
    inlineFreeItems vs = true → inlineFreeItems ws = true
  | [], _, h, _ => by
    cases h
    rfl
  | v :: vs, _, h, hfree => by
    cases h with
    | cons hv hvs =>
      rw [inlineFreeItems, Bool.and_eq_true] at hfree ⊢
      exact ⟨inlineFree_of_reordered hv hfree.1, inlineFreeItems_of_reordered hvs hfree.2⟩

end

theorem SelfContained.of_reordered (h : T.SelfContained) (hT : T.reordered T') :
    T'.SelfContained := by
  have hfree {name : String} (hplain : ∀ t, T.rule? name = some t → t.inlineFree = true) (t' : Value)
      (ht' : T'.rule? name = some t') : t'.inlineFree = true := by
    obtain ⟨t, ht, htt⟩ := exists_of_rel (rule?_of_reordered (reordered_symm hT) name) ht'
    exact inlineFree_of_reordered (reordered_symm htt) (hplain t ht)
  exact ⟨h.no_reference_of_reordered hT, hfree h.plain_type, hfree h.plain_disallow⟩

/-! ## Telling such schemas -/

/-- Whether a schema refers to none by name and has none among its types. -/
def isSelfContained (T : Value) : Bool :=
  (match T.get? "$ref" with
    | some (.str _) => false
    | _ => true) &&
  (T.rule? "type").all inlineFree && (T.rule? "disallow").all inlineFree

theorem selfContained_of_isSelfContained (h : T.isSelfContained = true) : T.SelfContained := by
  simp only [isSelfContained, Bool.and_eq_true, Option.all_eq_true] at h
  obtain ⟨⟨href, htype⟩, hdisallow⟩ := h
  refine ⟨fun t ht => ?_, htype, hdisallow⟩
  rw [ht] at href
  cases href

/-- What holds of all mappings of a schema holds of those of the schemas found in it. -/
theorem Embeds.everyMapping {q : List (Key × Value) → Bool} (h : S.Embeds T)
    (hS : S.everyMapping q = true) : T.everyMapping q = true := by
  induction h with
  | self => exact hS
  | base _ hb ih => exact everyMapping_base ih hb
  | item _ hr hb ih => exact everyMapping_listed (everyMapping_part ih (mem_parts_of_rule? hr)) hb
  | property _ hr he ih =>
    exact everyMapping_part (everyMapping_part ih (mem_parts_of_rule? hr))
      (mem_parts_of_mem_entries he)
  | additional _ hr ih => exact everyMapping_part ih (mem_parts_of_get? hr)

/-- All schemas found in a schema are self-contained if all its mappings are, read as schemas. -/
theorem selfContained_of_embeds
    (h : S.everyMapping (fun es => (map es).isSelfContained) = true) (hT : S.Embeds T) :
    T.SelfContained := by
  refine selfContained_of_isSelfContained ?_
  have htop := (everyMapping_iff.mp (hT.everyMapping h)).1
  cases T with
  | map es => exact htop
  | _ => rfl

end Value

namespace Validator

open Check

variable {v : Validator} {inst inst' schema schema' : Node}

/-- What is accepted is accepted with its keys in another order, with the same result. -/
theorem validate_reordered (hs : v.interactive.isTruthy = true) (hn : schema.Alike schema')
    (hgiven : schema.tree.isGiven = true) (hinst : inst.tree.reordered inst'.tree)
    (hself : ∀ T, schema.tree.Embeds T → T.SelfContained)
    (hok : (v.validate inst schema).result = .ok ()) :
    (v.validate inst' schema').result = .ok () ∧
      (v.validate inst schema).slot.value.reordered (v.validate inst' schema').slot.value := by
  have hsettles := settles_of_validate hs hgiven hok
  have hvisit := (against_matches hself v.settings.maxDepth).schemas schema schema' hn .self
  obtain ⟨τ', hτ, hanywhere⟩ := hvisit (Slot.reordered_ofValue hinst) _ hsettles
  have hgiven' : schema'.tree.isGiven = true := by rwa [Value.isGiven_of_reordered hn.tree]
  obtain ⟨hresult, hslot⟩ := v.validate_of_given inst' schema' hgiven'
  obtain ⟨q, hq, rfl⟩ := hanywhere (v.rootScope inst') (v.start inst') hs rfl
  have hrun : v.visit schema' (v.rootScope inst') (v.start inst') = (.ok (), q) := hq
  rw [hresult, hslot, hrun]
  have hvalue := hτ.value
  rw [Slot.value_ofValue] at hvalue
  exact ⟨rfl, hvalue⟩

/-- **Key order does not matter.**  Take two schemas that are the same up to the order of keys, in
    which no schema refers to another by name or has inline schemas among its types, and two instances
    that are the same up to the order of keys.  A validator that writes defaults accepts the one
    instance against the one schema exactly if it accepts the other against the other, and then the
    values returned are the same up to the order of keys. -/
theorem key_order_does_not_matter (hs : v.interactive.isTruthy = true) (hn : schema.InSchema)
    (hn' : schema'.InSchema) (hgiven : schema.tree.isGiven = true)
    (hschema : schema.tree.reordered schema'.tree) (hinst : inst.tree.reordered inst'.tree)
    (hself : ∀ T, schema.tree.Embeds T → T.SelfContained) :
    ((v.validate inst schema).result = .ok () ↔ (v.validate inst' schema').result = .ok ()) ∧
      ((v.validate inst schema).result = .ok () →
        (v.validate inst schema).slot.value.reordered (v.validate inst' schema').slot.value) := by
  have hthere := validate_reordered hs ⟨hn, hn', hschema⟩ hgiven hinst hself
  have hself' : ∀ T', schema'.tree.Embeds T' → T'.SelfContained := fun T' hT' => by
    obtain ⟨T, hT, hTT⟩ := hT'.of_reordered hschema
    exact (hself T hT).of_reordered hTT
  have hgiven' : schema'.tree.isGiven = true := by rwa [Value.isGiven_of_reordered hschema]
  have hback := validate_reordered hs ⟨hn', hn, Value.reordered_symm hschema⟩ hgiven'
    (Value.reordered_symm hinst) hself'
  exact ⟨⟨fun hok => (hthere hok).1, fun hok => (hback hok).1⟩, fun hok => (hthere hok).2⟩

/-- A schema with two properties, both of which have defaults, and one of which requires the other. -/
def pairSchema : Value :=
  .map [(.name "properties", .map
      [(.name "at", .map
          [(.name "requires", .str "unit"),
            (.name "default", .map [(.name "x", .int 1), (.name "y", .int 2)])]),
        (.name "unit", .map [(.name "type", .str "string"), (.name "default", .str "mm")])]),
    (.name "additionalProperties", .bool false)]

/-- The same schema with the keys of every mapping in another order. -/
def pairSchemaReordered : Value :=
  .map [(.name "additionalProperties", .bool false),
    (.name "properties", .map
      [(.name "unit", .map [(.name "default", .str "mm"), (.name "type", .str "string")]),
        (.name "at", .map
          [(.name "default", .map [(.name "y", .int 2), (.name "x", .int 1)]),
            (.name "requires", .str "unit")])])]

theorem reordered_swap {k l : Key} {a a' b b' : Value}
    (hkeys : Value.distinctKeys [(k, a), (l, b)] = true) (ha : a.reordered a') (hb : b.reordered b') :
    (Value.map [(k, a), (l, b)]).reordered (.map [(l, b'), (k, a')]) :=
  Value.reordered_map.mpr ⟨hkeys, [(l, b'), (k, a')], [(k, a'), (l, b')], rfl, .swap ..,
    .cons ⟨rfl, ha⟩ (.cons ⟨rfl, hb⟩ .nil)⟩

/-- The empty object filled in by the first schema. -/
def pairFilled : Value :=
  .map [(.name "at", .map [(.name "x", .int 1), (.name "y", .int 2)]), (.name "unit", .str "mm")]

/-- The empty object filled in by the second schema. -/
def pairFilledReordered : Value :=
  .map [(.name "unit", .str "mm"), (.name "at", .map [(.name "y", .int 2), (.name "x", .int 1)])]

/-- The two schemas fill in the empty object alike, each in its own order. -/
theorem pair_filled_in_both_orders :
    let v := Validator.new .default (.bool true)
    let o := v.validate emptyInstance (.ofSchema 0 pairSchema)
    let o' := v.validate emptyInstance (.ofSchema 0 pairSchemaReordered)
    o.result = .ok () ∧ o'.result = .ok () ∧ o.slot.value = pairFilled ∧
      o'.slot.value = pairFilledReordered ∧ pairFilled.reordered pairFilledReordered := by
  intro v o o'
  have hok : o.result = .ok () := by decide +kernel
  have hfilled : o.slot.value = pairFilled := by decide +kernel
  have hfilled' : o'.slot.value = pairFilledReordered := by decide +kernel
  have hpoint : (Value.map [(.name "x", .int 1), (.name "y", .int 2)]).reordered
      (.map [(.name "y", .int 2), (.name "x", .int 1)]) := reordered_swap (by decide +kernel) rfl rfl
  have hat : (Value.map [(.name "requires", .str "unit"),
        (.name "default", .map [(.name "x", .int 1), (.name "y", .int 2)])]).reordered
      (.map [(.name "default", .map [(.name "y", .int 2), (.name "x", .int 1)]),
        (.name "requires", .str "unit")]) := reordered_swap (by decide +kernel) rfl hpoint
  have hunit : (Value.map [(.name "type", .str "string"), (.name "default", .str "mm")]).reordered
      (.map [(.name "default", .str "mm"), (.name "type", .str "string")]) :=
    reordered_swap (by decide +kernel) rfl rfl
  have hschema : pairSchema.reordered pairSchemaReordered :=
    reordered_swap (by decide +kernel) (reordered_swap (by decide +kernel) hat hunit) rfl
  have hself : ∀ T, pairSchema.Embeds T → T.SelfContained := fun _ hT =>
    Value.selfContained_of_embeds (by decide +kernel) hT
  have hswitch : v.interactive.isTruthy = true := rfl
  have hin (S : Value) : (Node.ofSchema 0 S).InSchema := ⟨0, rfl⟩
  have hgiven : (Node.ofSchema 0 pairSchema).tree.isGiven = true := rfl
  have hinst : emptyInstance.tree.reordered emptyInstance.tree :=
    Value.reordered_refl (by decide +kernel)
  have hboth := key_order_does_not_matter hswitch (hin pairSchema) (hin pairSchemaReordered) hgiven
    hschema hinst hself
  -- first the values that are returned, or Lean would run both checks to see what `hboth` says
  rw [show (v.validate emptyInstance (.ofSchema 0 pairSchema)).slot.value = pairFilled from hfilled,
    show (v.validate emptyInstance (.ofSchema 0 pairSchemaReordered)).slot.value =
      pairFilledReordered from hfilled'] at hboth
  exact ⟨hok, hboth.1.mp hok, hfilled, hfilled', hboth.2 hok⟩

end Validator

end Conformance

/-
  References that lead back.

  A schema with an id is registered before any of its rules is looked at.  So a schema whose first
  base, or the first base of that, and so on, refers to this id is found again when the reference is
  followed, from a node other than itself, and its check begins anew: nothing ends it but the limit
  on depth (`validate_cycle`).  The rules on the value come after those on references and bases, so
  none of them has a say, and the run leaves everything as it was (`Silent`).

  The schemas met on the way are all of one kind: the schema itself, or one inside it, from which
  the way leads back (`ComesBack`).  From one of them the check goes on to the next one level deeper
  (`property_onTheWay`), and the induction is on the depth that remains (`against_onTheWay`).

  A schema that refers to itself without a way round is another matter: the reference is passed
  over, and a schema without other rules accepts every value (`ownRules_bare`).
-/
import Conformance.Proofs.Descent
import Conformance.Proofs.AbsentRules
import Conformance.Proofs.MemberVisits

namespace Conformance

/-! ## Ways back to an id -/

namespace Value

/-- A schema refers to an id, or its first base leads there, be it by a base of its own. -/
inductive ComesBack (id : String) : Value → Prop
  | reference {schema : Value} (ref : schema.get? "$ref" = some (.str id)) : ComesBack id schema
  | base {schema first : Value} (ref : ∀ other, schema.get? "$ref" ≠ some (.str other))
    (first_base : schema.bases.head? = some first) (back : ComesBack id first) :
    ComesBack id schema

/-- A schema with an id whose first base leads back to that id. -/
structure Cycles (id : String) (schema : Value) : Prop where
  id_eq : schema.get? "id" = some (.str id)
  ref : ∀ other, schema.get? "$ref" ≠ some (.str other)
  back : ∃ first, schema.bases.head? = some first ∧ ComesBack id first

/-- A schema that refers to its own id, and says nothing else. -/
structure NamesItself (id : String) (schema : Value) : Prop where
  id_eq : schema.get? "id" = some (.str id)
  ref : schema.get? "$ref" = some (.str id)
  only : ∀ key ∈ schema.keys, key = .name "id" ∨ key = .name "$ref"

variable {id : String} {schema first : Value}

/-- What has rules is a mapping. -/
theorem isMap_of_get? {name : String} {x : Value} (h : schema.get? name = some x) :
    schema.isMap = true := by
  cases schema with
  | map es => rfl
  | _ => cases h

/-- Bases are those of a rule. -/
theorem rule?_of_first_base (h : schema.bases.head? = some first) :
    ∃ r, schema.rule? "extends" = some r ∧ r.listed.head? = some first := by
  unfold bases at h
  cases hr : schema.rule? "extends" with
  | none =>
    rw [hr] at h
    cases h
  | some r =>
    rw [hr] at h
    exact ⟨r, rfl, h⟩

/-- Every schema on a way back has a rule to say so. -/
theorem ComesBack.isMap (h : ComesBack id schema) : schema.isMap = true := by
  cases h with
  | reference ref => exact isMap_of_get? ref
  | base _ first_base _ =>
    obtain ⟨r, hr, _⟩ := rule?_of_first_base first_base
    exact isMap_of_get? (Option.eq_some_of_filter_eq_some hr)

/-- The schema itself is on the way. -/
theorem Cycles.comesBack (h : Cycles id schema) : ComesBack id schema := by
  obtain ⟨first, hfirst, hback⟩ := h.back
  exact .base h.ref hfirst hback

/-- A schema that only names itself says nothing under other names. -/
theorem NamesItself.get?_eq_none (h : NamesItself id schema) {name : String} (hid : name ≠ "id")
    (href : name ≠ "$ref") : schema.get? name = none := by
  refine get?_eq_none_of_not_mem fun hmem => ?_
  rcases h.only _ hmem with heq | heq
  · exact hid (Key.name.inj heq)
  · exact href (Key.name.inj heq)

end Value

/-- A schema on the way round: the one with the id, or one inside it on the way back. -/
structure Node.OnTheWay (id : String) (root k : Node) : Prop where
  inSchema : k.InSchema
  back : k.tree.ComesBack id
  place : k = root ∨ root.Encloses k

namespace Check

variable {n : Node} {id : String} {visit : Node → Check Unit} {s : Scope} {p : Progress}

/-! ## Round and round -/

/-- Entering a schema is an event that tells of no default. -/
theorem entered_silent (n : Node) (trail : Trail) (depth : Nat) (p : Progress) :
    Silent p (p.tell (.entered n trail depth)) :=
  .of_events rfl rfl [.entered n trail depth] rfl (by simp [Event.deposit?])

theorem left_silent (n : Node) (r : Except Failure Unit) (p : Progress) :
    Silent p (p.tell (.left n r)) :=
  .of_events rfl rfl [.left n r] rfl (by simp [Event.deposit?])

/-- The first base of a schema is visited first; if that visit fails, so does the rule. -/
theorem exists_first_base {first : Value} (hn : n.InSchema)
    (h : n.tree.bases.head? = some first) :
    ∃ k, k.tree = first ∧ k.InSchema ∧ n.Encloses k ∧
      ∀ {visit : Node → Check Unit} {s p f q}, visit k s p = (.error f, q) →
        extendsRule visit n s p = (.error f, q) := by
  obtain ⟨r, hr, hfirst⟩ := Value.rule?_of_first_base h
  have hinside := Node.Encloses.part (n := n) (.name "extends") (Value.mem_parts_of_rule? hr)
  have hin : (n.down (.name "extends") r).InSchema := hn
  -- a list of bases is gone through from the front, any other base stands alone
  cases r with
  | list bs =>
    obtain ⟨rest, rfl⟩ := List.head?_eq_some_iff.mp hfirst
    have hfurther := hinside.deeper (.index 0) (x := first) (List.mem_cons_self ..)
    refine ⟨(n.down (.name "extends") _).down (.index 0) first, rfl, hin, hfurther,
      fun hvisit => ?_⟩
    rw [extendsRule, whenGiven_run hn, hr]
    show (Check.content _ >>= fun v => visitFrom _ _ 0 v.listItems) _ _ = _
    rw [content_bind, hin.content]
    exact bind_run_error hvisit
  | _ =>
    cases hfirst
    refine ⟨_, rfl, hin, hinside, fun hvisit => ?_⟩
    rw [extendsRule, whenGiven_run hn, hr]
    exact hvisit

/-- A schema with an id that is free, or that it has already, is found under it from then on. -/
theorem find?_named {target : Node} (hn : n.InSchema)
    (h : p.registry.find? id = some target ∨
      n = target ∧ n.tree.get? "id" = some (.str id) ∧ p.registry.find? id = none) :
    (p.named n).registry.find? id = some target := by
  unfold Progress.named
  rw [hn.content]
  -- an id that is taken is not entered again, and one that is free is found at once
  rcases h with hfound | ⟨rfl, hid, hfree⟩
  · split
    · exact Registry.find?_insert_of_some hfound
    · exact hfound
  · rw [Value.rule?, hid]
    exact Registry.find?_insert_self hfree

/-- From a schema on the way, the check goes on to the next one: the schema with the id, where this
    one refers to it, and else the first base. -/
theorem property_onTheWay {root k : Node} (hroot : root.OnTheWay id root)
    (hcycle : root.tree.Cycles id) (hk : root.OnTheWay id k)
    (hfound : (p.named k).registry.find? id = some root) {f : Failure}
    (hvisit : ∀ m, root.OnTheWay id m → ∀ q : Progress, q.registry.find? id = some root →
      ∃ r, visit m s q = (.error f, r) ∧ Silent q r) :
    ∃ r, property visit k s p = (.error f, r) ∧ Silent p r := by
  have hnamed := named_silent k p
  rw [property, bind_run_ok (idRule_run k s p)]
  cases hk.back with
  | reference ref =>
    have hinside : root.Encloses k := by
      rcases hk.place with rfl | hinside
      · exact absurd ref (hcycle.ref id)
      · exact hinside
    -- the reference leads to a node that encloses this one, so it stands elsewhere and is followed
    have hne : root.origin ≠ k.origin := by
      intro heq
      have hlength := hinside.length_lt
      rw [heq] at hlength
      omega
    obtain ⟨r, hrun, hsilent⟩ := hvisit root hroot _ hfound
    have hfollow : refRule visit k s (p.named k) = (.error f, r) := by
      rw [refRule, field?_bind, hk.inSchema.content, ref]
      dsimp only
      rw [follow, progress_bind, hfound]
      dsimp only
      rw [if_neg hne]
      exact hrun
    exact ⟨r, bind_run_error hfollow, hnamed.trans hsilent⟩
  | base ref first_base back =>
    obtain ⟨m, rfl, hm, hinside, hextends⟩ := exists_first_base hk.inSchema first_base
    -- the base of a schema on the way is inside it, and so inside the first one
    have hplace : root.Encloses m := by
      rcases hk.place with rfl | houter
      · exact hinside
      · exact houter.trans hinside
    obtain ⟨r, hrun, hsilent⟩ := hvisit m ⟨hm, back, Or.inr hplace⟩ _ hfound
    have hno : ∀ other, (k.content (p.named k).writes).get? "$ref" ≠ some (.str other) := by
      rwa [hk.inSchema.content]
    rw [bind_run_ok (refRule_run hno)]
    exact ⟨r, bind_run_error (hextends hrun), hnamed.trans hsilent⟩

/-- The way round is gone until the depth is used up, and nothing is left behind. -/
theorem against_onTheWay {root : Node} (hroot : root.OnTheWay id root)
    (hcycle : root.tree.Cycles id) (depth : Nat) {k : Node} (hk : root.OnTheWay id k)
    (hfound : p.registry.find? id = some root ∨ k = root ∧ p.registry.find? id = none) :
    ∃ r, against depth k s p = (.error (.violation ⟨.tooDeep s.limit, s.key, some s.trail⟩), r) ∧
      Silent p r := by
  -- the remaining depth; the schema with the id is found from its first check on
  induction depth generalizing k s p with
  | zero =>
    rw [against_zero_of_map (by rw [hk.inSchema.content]; exact hk.back.isMap)]
    exact ⟨p, rfl, .refl p⟩
  | succ depth ih =>
    rw [against_succ_of_map (by rw [hk.inSchema.content]; exact hk.back.isMap)]
    have hnamed : ((p.tell (.entered k s.trail s.deeper.depth)).named k).registry.find? id =
        some root := by
      refine find?_named hk.inSchema (hfound.imp (fun h => h) ?_)
      rintro ⟨rfl, hfree⟩
      exact ⟨rfl, hcycle.id_eq, hfree⟩
    obtain ⟨r, hrun, hsilent⟩ := property_onTheWay hroot hcycle hk hnamed
      fun m hm q hq => ih (s := s.deeper) hm (Or.inl hq)
    refine ⟨_, nested_run_error hrun, ?_⟩
    exact (entered_silent k s.trail s.deeper.depth p).trans (hsilent.trans (left_silent k _ r))

/-! ## A schema without rules -/

/-- A schema without rules of its own: it may have an id and a reference. -/
structure Bare (n : Node) : Prop where
  onNumbers : n.OnNumbers
  get?_eq_none : ∀ name, name ≠ "id" → name ≠ "$ref" → n.tree.get? name = none

/-- A schema that only names itself has no rules of its own. -/
theorem bare_of_namesItself (hn : n.InSchema) (h : n.tree.NamesItself id) : Bare n := by
  refine ⟨⟨hn, fun name hname => h.get?_eq_none ?_ ?_⟩, fun _ => h.get?_eq_none⟩
  · rintro rfl
    exact hname (List.mem_cons_self ..)
  · rintro rfl
    exact hname (List.mem_cons_of_mem _ (List.mem_cons_self ..))

/-- A schema without rules asks nothing of a value, be it there or not. -/
theorem ownRules_bare (hn : Bare n) (hslot : p.slot.InReach) :
    ownRules visit n s p = (.ok (), p) := by
  rw [ownRules, value_bind]
  -- without a default and a requirement a missing value passes, and any other without rules
  cases p.slot.value with
  | missing =>
    show missingRules n s p = _
    have hoffer : offer? n.tree = none := by
      rw [offer?, hn.get?_eq_none _ (by decide) (by decide)]
      rfl
    rw [missingRules_run, hn.onNumbers.inSchema.content]
    unfold missed
    rw [hn.get?_eq_none _ (by decide) (by decide), if_neg (by simp), hoffer]
    cases s.interactive with
    | false => rfl
    | true =>
      rw [if_neg (by decide)]
      cases hp : p.slot with
      | unaskable _ =>
        rw [hp] at hslot
        exact hslot.elim
      | _ => rfl
  | _ =>
    have hnone : ∀ name ∈ numberNames, n.tree.get? name = none := fun name hname =>
      hn.get?_eq_none name (by rintro rfl; exact absurd hname (by decide))
        (by rintro rfl; exact absurd hname (by decide))
    exact OnlyReturns.presentRules hn.onNumbers hnone _ s p

/-- A schema that refers to itself adds nothing to its own rules, and here there are none. -/
theorem against_namesItself (hn : n.InSchema) (hself : n.tree.NamesItself id)
    (hfree : p.registry.find? id = none) (hslot : p.slot.InReach) (depth : Nat) :
    ∃ r, against (depth + 1) n s p = (.ok (), r) ∧ Silent p r := by
  have hbare := bare_of_namesItself hn hself
  rw [against_succ_of_map (by rw [hn.content]; exact Value.isMap_of_get? hself.ref)]
  let q : Progress := (p.tell (.entered n s.trail s.deeper.depth)).named n
  have hbegin : Silent p q :=
    (entered_silent n s.trail s.deeper.depth p).trans (named_silent n _)
  have hfound : q.registry.find? id = some n := find?_named hn (Or.inr ⟨rfl, hself.id_eq, hfree⟩)
  -- the reference is found to be to this very node
  have href : refRule (against depth) n s.deeper q = (.ok (), q) := by
    rw [refRule, field?_bind, hn.content, hself.ref]
    show (progress >>= _) _ _ = _
    rw [progress_bind, hfound]
    dsimp only
    rw [if_pos rfl]
    rfl
  have hreach : q.slot.InReach := by rwa [hbegin.slot]
  have hproperty : property (against depth) n s.deeper
      (p.tell (.entered n s.trail s.deeper.depth)) = (.ok (), q) := by
    have hextends : extendsRule (against depth) n s.deeper q = (.ok (), q) :=
      OnlyReturns.whenGiven hn (hbare.get?_eq_none _ (by decide) (by decide)) _ _ _
    rw [property, bind_run_ok (idRule_run n _ _), bind_run_ok href, bind_run_ok hextends]
    exact ownRules_bare hbare hreach
  exact ⟨_, nested_run_ok hproperty, hbegin.trans (left_silent n (.ok ()) q)⟩

end Check

namespace Validator

open Check

/-- A run from the beginning that leaves everything as it was. -/
theorem untouched_of_silent {v : Validator} {inst schema : Node}
    (h : Silent (v.start inst) (v.final inst schema)) :
    (v.validate inst schema).slot = .ofValue inst.tree ∧
      (v.validate inst schema).validator.applied = [] := by
  obtain ⟨events, hj, hevents⟩ := h.journal
  refine ⟨h.slot, ?_⟩
  rw [validate_applied, Journal.appliedPaths_eq, Journal.deposits, List.filterMap_reverse, hj]
  show (List.map _ (Journal.deposits (events ++ [])).reverse) = []
  rw [List.append_nil, hevents]
  rfl

/-- **A way back to itself never ends.**  Take a schema with an id whose first base, or the first
    base of that, and so on, refers to this id, however long the way is and whatever else is said on
    it.  A validator that has met nothing yet ends in the error of the limit, for every value, be it
    there or not, in either mode and with any limit, and leaves the value as it was.  Only a schema
    that refers to its own id without a way round is passed over: if it has no other rule, it
    accepts every value. -/
theorem validate_cycle (settings : Settings) (switch : Value) (id : String) (inst : Node)
    {schema : Node} (hschema : schema.InSchema) :
    let o := (Validator.new settings switch).validate inst schema
    (schema.tree.Cycles id →
      o.result = .error (.violation ⟨.tooDeep settings.maxDepth, rootKey, some []⟩) ∧
        o.slot = .ofValue inst.tree ∧ o.validator.applied = []) ∧
      (schema.tree.NamesItself id →
        o.result = .ok () ∧ o.slot = .ofValue inst.tree ∧ o.validator.applied = []) := by
  intro o
  let v := Validator.new settings switch
  have hroot (hmap : schema.tree.isMap = true) :
      v.rootCheck inst schema = against settings.maxDepth schema :=
    if_pos (Value.isGiven_of_isMap hmap)
  constructor
  · intro hcycle
    have hway : schema.OnTheWay id schema := ⟨hschema, hcycle.comesBack, Or.inl rfl⟩
    obtain ⟨r, hrun, hsilent⟩ := against_onTheWay hway hcycle settings.maxDepth hway
      (s := v.rootScope inst) (p := v.start inst) (Or.inr ⟨rfl, rfl⟩)
    rw [← hroot hcycle.comesBack.isMap] at hrun
    have hfinal : v.final inst schema = r := congrArg Prod.snd hrun
    rw [← hfinal] at hsilent
    exact ⟨congrArg Prod.fst hrun, untouched_of_silent hsilent⟩
  · intro hself
    -- one level is needed, and every limit allows it
    obtain ⟨depth, hdepth⟩ := Nat.exists_eq_add_of_le' settings.one_le
    obtain ⟨r, hrun, hsilent⟩ := against_namesItself hschema hself (s := v.rootScope inst)
      (p := v.start inst) rfl (Slot.inReach_ofValue inst.tree) depth
    rw [← hdepth, ← hroot (Value.isMap_of_get? hself.ref)] at hrun
    have hfinal : v.final inst schema = r := congrArg Prod.snd hrun
    rw [← hfinal] at hsilent
    exact ⟨congrArg Prod.fst hrun, untouched_of_silent hsilent⟩

/-- The shortest ways to a reference: so many bases one after the other, without other rules. -/
def wayBack (id : String) : Nat → Value
  | 0 => .map [(.name "$ref", .str id)]
  | length + 1 => .map [(.name "extends", wayBack id length)]

/-- They lead back, however long they are. -/
theorem wayBack_comesBack (id : String) (length : Nat) : (wayBack id length).ComesBack id := by
  -- each base has the next one and no reference of its own
  induction length with
  | zero => exact .reference rfl
  | succ length ih =>
    have hmap : (wayBack id length).isMap = true := ih.isMap
    refine .base (fun other h => by cases h) ?_ ih
    cases hway : wayBack id length with
    | map es =>
      rw [wayBack, hway]
      rfl
    | _ =>
      rw [hway] at hmap
      cases hmap

/-- A schema that requires a text, and comes back to itself over two bases. -/
def wayRound : Value :=
  .map [(.name "id", .str "a"), (.name "type", .str "string"),
    (.name "extends", .list [wayBack "a" 1])]

/-- A schema that refers to itself. -/
def itself : Value := .map [(.name "id", .str "a"), (.name "$ref", .str "a")]

/-- No number is a text, but that is not what the first run ends in; the second one accepts the
    number. -/
theorem number_on_a_way_round :
    wayRound.Cycles "a" ∧ itself.NamesItself "a" ∧
      ((Validator.new .default .null).validate ⟨⟨.instance 0, []⟩, .int 1⟩
        (.ofSchema 0 wayRound)).result =
          .error (.violation ⟨.tooDeep 100, .str "self", some []⟩) ∧
      ((Validator.new .default .null).validate ⟨⟨.instance 0, []⟩, .int 1⟩
        (.ofSchema 0 itself)).result = .ok () := by
  have hround : wayRound.Cycles "a" :=
    ⟨rfl, (fun other h => by cases h), _, rfl, wayBack_comesBack "a" 1⟩
  have hitself : itself.NamesItself "a" := by
    refine ⟨rfl, rfl, fun key hkey => ?_⟩
    simpa [itself, Value.keys, Value.entries] using hkey
  have hfirst : (Node.ofSchema 0 wayRound).InSchema := ⟨0, rfl⟩
  have hsecond : (Node.ofSchema 0 itself).InSchema := ⟨0, rfl⟩
  exact ⟨hround, hitself,
    ((validate_cycle .default .null "a" ⟨⟨.instance 0, []⟩, .int 1⟩ hfirst).1 hround).1,
    ((validate_cycle .default .null "a" ⟨⟨.instance 0, []⟩, .int 1⟩ hsecond).2 hitself).1⟩

end Validator

end Conformance

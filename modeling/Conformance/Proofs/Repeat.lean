/-
  The same call again.

  A call that has injected nothing comes to the same when it is made again at once
  (`validate_again`).  What may differ between the two runs is what they know: the second one
  begins with all the ids that the first one has registered.  It finds more under a name only where
  the first run had met a reference before the id that it names; such a reference is reported as
  unknown, so the two runs agree if none of those reported has become known by the end.

  Where one has, they need not: a reference to a schema that comes later asks for nothing in the
  first call and may fail in the second (`forward_reference_fails_later`).
-/
import Conformance.Proofs.Coupling
import Conformance.Proofs.Record

namespace Conformance

/-- The reference that an event reports as unknown. -/
def Event.unresolved? : Event → Option String
  | .unresolved _ ref => some ref
  | _ => none

/-- The references that were not known when they were met. -/
def Journal.unresolved (j : Journal) : List String := j.filterMap Event.unresolved?

namespace Registry

theorem find?_of_larger {r r' : Registry} (h : r.entries <+: r'.entries) {id : String} {n : Node}
    (hfind : r.find? id = some n) : r'.find? id = some n := by
  obtain ⟨more, hmore⟩ := h
  unfold find?
  rw [← hmore]
  exact lookup_append_of_some hfind

/-- Entering a schema under an id that is known already changes nothing. -/
theorem insert_of_known {r r' : Registry} {id : String} {n : Node}
    (h : (r.insert id n).entries <+: r'.entries) : r'.insert id n = r' := by
  have hknown : ∃ m, (r.insert id n).find? id = some m := by
    cases hfind : r.find? id with
    | none => exact ⟨n, find?_insert_self hfind⟩
    | some m => exact ⟨m, find?_insert_of_some hfind⟩
  obtain ⟨m, hm⟩ := hknown
  have hcontains : r'.contains id = true := by
    unfold contains
    rw [find?_of_larger h hm]
    rfl
  exact if_pos hcontains

theorem settled_nil (r : Registry) : r.settled [] = r := by
  have hsame (e : String × Node) : (e.1, e.2.settled []) = e := by
    rw [Node.settled, Node.content_nil]
  unfold settled
  rw [List.map_congr_left fun e _ => hsame e, List.map_id']

end Registry

namespace Check

/-- Two runs that differ in the ids they know, where the second one knows those in a registry from
    the beginning.  Nothing is said once the first run writes a default, registers a schema that is
    not in the registry, or reports a reference as unknown that is. -/
def idsKnown (known : Registry) : Coupling where
  scopes _ s s' := s' = s
  states p p' := p.writes = [] ∧ p'.writes = [] ∧ p'.registry = known ∧
    p.registry.entries <+: known.entries
  cut _ _ := False
  off p := p.writes ≠ [] ∨ (∃ e ∈ p.journal, ∃ ref, e.unresolved? = some ref ∧
    known.contains ref = true) ∨ ¬ p.registry.entries <+: known.entries
  data _ := True
  still := False

variable {known : Registry}

theorem idsKnown_preserved (known : Registry) : (idsKnown known).Preserved Eq where
  like := .eq
  place := by
    rintro depth s _ rfl
    exact ⟨rfl, rfl⟩
  child := by
    rintro depth s _ rfl step
    rfl
  slot h _ := h
  note h _ _ := h
  register := by
    rintro k _ rfl s s' p p' id ⟨hw, hw', hknown, _⟩ hoff
    have hprefix : (p.registry.insert id k).entries <+: known.entries :=
      Classical.byContradiction fun hstray => hoff (Or.inr (Or.inr hstray))
    refine ⟨hw, hw', ?_, hprefix⟩
    show p'.registry.insert id k = known
    rw [hknown]
    exact Registry.insert_of_known hprefix
  content := by
    rintro k _ rfl p p' ⟨hw, hw', _⟩ _
    rw [hw, hw']
    exact ⟨rfl, rfl⟩
  cut_at h _ := h
  not_data h := h.elim
  enter := by
    rintro k _ rfl depth s _ p p' rfl hp
    exact ⟨rfl, hp⟩
  leave := by
    rintro k _ rfl p p' hp r _
    exact hp
  cut_leave h := h.elim
  data_below _ _ := trivial
  data_held := trivial
  still_or := Or.inr fun _ => trivial
  lasting := .or .written (.or (.told _) (.strayed known.entries))
  total := Or.inr fun k _ hkl t => hkl ▸ rfl

theorem idsKnown_inductive (known : Registry) : (idsKnown known).Inductive Eq 0 where
  toPreserved := idsKnown_preserved known
  bottom := by
    rintro k _ rfl s _ p p' rfl hp hslot _ hoff
    have hsame : k.content p'.writes = k.content p.writes := by rw [hp.1, hp.2.1]
    cases hm : (k.content p.writes).isMap with
    | true =>
      rw [against_zero_of_map hm, against_zero_of_map (hsame ▸ hm)]
      exact Or.inr ⟨.error _, hp, hslot, fun _ => rfl⟩
    | false =>
      rw [against_of_not_map hm, against_of_not_map (hsame ▸ hm)]
      exact Or.inr ⟨.ok rfl, hp, hslot, fun _ => rfl⟩
  reference := by
    rintro depth depth' k _ rfl hvisit
    refine refRule_coupled_of_find (idsKnown_preserved known) rfl
      (fun k => against_lasts (idsKnown_preserved known).lasting depth k)
      (fun k => hvisit k k rfl) ?_ ?_
    · rintro p p' ⟨_, _, hknown, hprefix⟩ ref target hfind
      rw [hknown]
      exact Registry.find?_of_larger hprefix hfind
    · rintro p p' ⟨_, _, hknown, _⟩ trail ref _ hoff
      rw [hknown]
      -- a reference that is known after all would have been reported
      have hunknown : ¬ known.contains ref = true := fun hcontains =>
        hoff (Or.inr (Or.inl ⟨_, List.mem_cons_self .., ref, rfl, hcontains⟩))
      exact Option.not_isSome_iff_eq_none.mp hunknown
  own := by
    intro depth depth' hvisit key
    refine ownSchema_coupled (idsKnown_preserved known) hvisit (fun h => congrArg _ h.symm) ?_ key
    rintro s _ rfl _ _ _ _ _ _ _ _ _
    rfl
  missing := by
    rintro depth k _ rfl
    refine missingRules_coupled (idsKnown_preserved known) (fun h => congrArg _ h.symm)
      (fun _ h => h.elim) rfl ?_
    intro s s' _ p p' _ σ v _ hoff
    exact absurd (Or.inl (List.cons_ne_nil _ _)) hoff

end Check

namespace Validator

open Check

/-- A call that has no deposits on record writes nothing. -/
theorem final_writes_of_applied {v : Validator} {inst schema : Node}
    (h : (v.validate inst schema).validator.applied = []) : (v.final inst schema).writes = [] := by
  obtain ⟨ds, hm⟩ := v.rootCheck_moves inst schema (v.rootScope inst) (v.start inst)
  have hd := deposited_of_moves hm
  have hnil : ds = [] := List.map_eq_nil_iff.mp (hd.applied.symm.trans h)
  have hwrites := hm.writes
  rw [hnil] at hwrites
  exact hwrites

/-- A call has something on record exactly if the instance has changed. -/
theorem applied_eq_nil_iff (v : Validator) (inst schema : Node) :
    (v.validate inst schema).validator.applied = [] ↔
      (v.validate inst schema).slot.value = inst.tree := by
  obtain ⟨ds, hd⟩ := v.exists_deposited inst schema
  rw [hd.applied, hd.injections.eq_iff, List.map_eq_nil_iff]

/-- The check of a whole instance goes side by side with the same check made by a validator that
    knows from the beginning what is known at the end. -/
theorem rootCheck_idsKnown {v : Validator} {inst schema : Node}
    (hon : ¬ (idsKnown (v.final inst schema).registry).off (v.final inst schema)) :
    (idsKnown (v.final inst schema).registry).Joined Eq (v.start inst).slot
      (v.rootCheck inst schema (v.rootScope inst) (v.start inst))
      (v.rootCheck inst schema (v.rootScope inst)
        { v.start inst with registry := (v.final inst schema).registry }) := by
  cases hroot : rootSchema? inst schema with
  | none =>
    obtain ⟨remarks, _, hrun⟩ := rootCheck_of_none hroot
    have hregistry : (v.final inst schema).registry = (v.start inst).registry := by
      unfold final
      rw [hrun]
    rw [hrun, hrun, hregistry]
    exact ⟨.ok rfl, ⟨rfl, rfl, rfl, List.prefix_refl _⟩, rfl, fun _ => rfl⟩
  | some n =>
    have hfinal : v.final inst schema = (v.visit n (v.rootScope inst) (v.start inst)).2 := by
      unfold final
      rw [rootCheck_of_some hroot]
    let K := idsKnown (v.final inst schema).registry
    have hlast := against_lasts (idsKnown_preserved (v.final inst schema).registry).lasting
      v.settings.maxDepth n (v.rootScope inst) (v.start inst)
    have hon' : ¬ K.off (v.visit n (v.rootScope inst) (v.start inst)).2 := by
      rw [← hfinal]
      exact hon
    -- had the registry strayed at the start, it would have at the end
    have hprefix : (v.start inst).registry.entries <+: (v.final inst schema).registry.entries :=
      Classical.byContradiction fun hstray => hon' (hlast.1 (Or.inr (Or.inr hstray)))
    have hcoupled := against_coupled (idsKnown_inductive (v.final inst schema).registry)
      v.settings.maxDepth (rfl : n = n)
    rw [Nat.zero_add] at hcoupled
    rw [rootCheck_of_some hroot]
    rcases hcoupled _ _ _ { v.start inst with registry := (v.final inst schema).registry } rfl
      ⟨rfl, rfl, rfl, hprefix⟩ rfl trivial hon' with ⟨_, _, hcut⟩ | hjoined
    · exact hcut.elim
    · exact hjoined

/-- **The same call again.**  A call that succeeds and injects nothing, and that has reported no
    reference as unknown which is known by its end, succeeds again when it is repeated at once on
    the validator it has left: the instance stays as it is, nothing is on record, and no id is
    added. -/
theorem validate_again {v : Validator} {inst schema : Node}
    (hok : (v.validate inst schema).result = .ok ())
    (hnone : (v.validate inst schema).validator.applied = [])
    (hknown : ∀ ref ∈ (v.validate inst schema).journal.unresolved,
      (v.validate inst schema).validator.registry.contains ref = false) :
    let o := v.validate inst schema
    let again := o.validator.validate inst schema
    o.slot.value = inst.tree ∧ again.result = .ok () ∧ again.slot.value = inst.tree ∧
      again.validator.applied = [] ∧ again.validator.registry = o.validator.registry := by
  intro o again
  have hwrites := final_writes_of_applied hnone
  have hregistry : o.validator.registry = (v.final inst schema).registry := by
    show (v.validate inst schema).validator.registry = _
    rw [validate_registry, hwrites, Registry.settled_nil]
  have hon : ¬ (idsKnown (v.final inst schema).registry).off (v.final inst schema) := by
    rintro (hw | ⟨e, he, ref, href, hcontains⟩ | hstray)
    · exact hw hwrites
    · have hmem : ref ∈ o.journal.unresolved :=
        List.mem_filterMap.mpr ⟨e, List.mem_reverse.mpr he, href⟩
      have hunknown := hknown ref hmem
      rw [show (v.validate inst schema).validator.registry = _ from hregistry,
        hcontains] at hunknown
      cases hunknown
    · exact hstray (List.prefix_refl _)
  obtain ⟨hend, ⟨_, hw, hknows, _⟩, hslot, _⟩ := rootCheck_idsKnown hon
  have hsame := (applied_eq_nil_iff v inst schema).mp hnone
  -- the second call is the same check, made with what is known by now
  have hrun : o.validator.rootCheck inst schema (o.validator.rootScope inst)
      (o.validator.start inst) = v.rootCheck inst schema (v.rootScope inst)
        { v.start inst with registry := (v.final inst schema).registry } := by
    rw [← hregistry]
    rfl
  have hresult : again.result = .ok () := (congrArg Prod.fst hrun).trans (hend.eq.trans hok)
  have hfinal : o.validator.final inst schema = _ := congrArg Prod.snd hrun
  have hvalue : again.slot.value = inst.tree := by
    show (o.validator.validate inst schema).slot.value = _
    rw [validate_slot, hfinal, ← hslot]
    exact hsame
  refine ⟨hsame, hresult, hvalue, (applied_eq_nil_iff _ inst schema).mpr hvalue, ?_⟩
  show (o.validator.validate inst schema).validator.registry = _
  rw [validate_registry, hfinal, hw, Registry.settled_nil, hknows, hregistry]

/-- A schema that gives an id to one of its parts and refers to it from another, which comes later,
    and from a third one to nothing at all. -/
def refersBack : Value :=
  .map [(.name "properties", .map
    [(.name "b", .map [(.name "id", .str "X"), (.name "type", .str "integer")]),
      (.name "a", .map [(.name "$ref", .str "X")]),
      (.name "c", .map [(.name "$ref", .str "Y")])])]

/-- The parts of the same schema the other way round. -/
def refersAhead : Value :=
  .map [(.name "properties", .map
    [(.name "a", .map [(.name "$ref", .str "X")]),
      (.name "b", .map [(.name "id", .str "X"), (.name "type", .str "integer")])])]

/-- An object with numbers for properties. -/
def numbersInstance : Node :=
  ⟨⟨.instance 0, []⟩, .map [(.name "a", .int 1), (.name "b", .int 2), (.name "c", .int 3)]⟩

/-- An object with a text where the part referred to asks for a number. -/
def textInstance : Node :=
  ⟨⟨.instance 0, []⟩, .map [(.name "a", .str "text"), (.name "b", .int 1)]⟩

/-- References to what came before, and to what never comes, are no hindrance. -/
theorem backward_references_hold_again :
    let o := (Validator.new .default .null).validate numbersInstance (.ofSchema 0 refersBack)
    o.journal.unresolved = ["Y"] ∧ o.validator.registry.ids = ["X"] ∧
      (o.validator.validate numbersInstance (.ofSchema 0 refersBack)).result = .ok () := by
  have hok : ((Validator.new .default .null).validate numbersInstance
      (.ofSchema 0 refersBack)).result = .ok () := by decide +kernel
  have hnone : ((Validator.new .default .null).validate numbersInstance
      (.ofSchema 0 refersBack)).validator.applied = [] := by decide +kernel
  have hknown : ∀ ref ∈ ((Validator.new .default .null).validate numbersInstance
      (.ofSchema 0 refersBack)).journal.unresolved,
      ((Validator.new .default .null).validate numbersInstance
        (.ofSchema 0 refersBack)).validator.registry.contains ref = false := by decide +kernel
  have hagain := validate_again hok hnone hknown
  exact ⟨by decide +kernel, by decide +kernel, hagain.2.1⟩

/-- A reference to a schema that comes later asks for nothing at first.  Once the call is over the
    schema is known, and the same call fails. -/
theorem forward_reference_fails_later :
    let o := (Validator.new .default .null).validate textInstance (.ofSchema 0 refersAhead)
    o.result = .ok () ∧ o.validator.applied = [] ∧ o.slot.value = textInstance.tree ∧
      o.journal.unresolved = ["X"] ∧ o.validator.registry.ids = ["X"] ∧
      (o.validator.validate textInstance (.ofSchema 0 refersAhead)).result =
        .error (.violation ⟨.wrongType "string" "integer", .str "a", some [.name "a"]⟩) := by
  decide +kernel

end Validator

end Conformance

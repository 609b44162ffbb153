/-
  Defaults written or not.

  A validator either writes defaults or enforces the schemas that the entries of an instance carry.
  A call that writes none comes to the same where they are not written at all, if no entry carries
  a schema to be enforced (`validate_without_defaults`): the switch is looked at for a missing value
  and for an entry, and nowhere else.

  The two runs go side by side with the same ids behind them and nothing written in either; as soon
  as the first one writes a default nothing is said any more.  Only their journals differ, because
  the first one remarks on members that cannot be written to.
-/
import Conformance.Proofs.WithoutWrites
import Conformance.Proofs.Repeat

namespace Conformance

/-- The scope of a run in which defaults are not written. -/
def Scope.withoutDefaults (s : Scope) : Scope := { s with interactive := false }

namespace Check

/-- Where a missing value is within reach and nothing is put in its place, it comes to the same
    without defaults, but for a remark. -/
theorem missed_withoutDefaults (schema : Value) (s : Scope) {slot : Slot} (h : slot.InReach) :
    missed schema s slot = missed schema s.withoutDefaults slot ∨
      missed schema s.withoutDefaults slot = .passes ∧
        ((∃ e, missed schema s slot = .remarks e) ∨ ∃ σ v, missed schema s slot = .filled σ v) := by
  unfold missed Scope.withoutDefaults
  by_cases hrequired : schema.get? "required" = some (.bool true)
  · rw [if_pos hrequired, if_pos hrequired]
    exact Or.inl rfl
  · rw [if_neg hrequired, if_neg hrequired, if_pos rfl]
    cases s.interactive with
    | false => exact Or.inl rfl
    | true =>
      rw [if_neg (by simp)]
      cases offer? schema with
      | none => cases slot <;> first | exact h.elim | exact Or.inl rfl
      | some v =>
        cases slot with
        | free => exact Or.inr ⟨rfl, Or.inr ⟨_, _, rfl⟩⟩
        | fromEnd _ => exact Or.inr ⟨rfl, Or.inr ⟨_, _, rfl⟩⟩
        | closed _ => exact Or.inr ⟨rfl, Or.inl ⟨_, rfl⟩⟩
        | outOfReach _ _ => exact h.elim
        | unaskable _ => exact h.elim
        | _ => exact Or.inl rfl

/-- Two runs over a value that carries no schemas to be enforced: the first one writes defaults and
    the second one does not.  Nothing is said once the first one has written any. -/
def bothModes : Coupling where
  scopes _ s s' := s' = s.withoutDefaults ∧ s.interactive = true
  states p p' := p.writes = [] ∧ p'.writes = [] ∧ p'.registry = p.registry
  cut _ _ := False
  off p := p.writes ≠ []
  data σ := σ.value.plain = true ∧ σ.InReach
  still := True

theorem bothModes_preserved : bothModes.Preserved Eq where
  like := .eq
  place := by
    rintro depth s _ ⟨rfl, _⟩
    exact ⟨rfl, rfl⟩
  child := by
    rintro depth s _ ⟨rfl, hs⟩ step
    exact ⟨rfl, hs⟩
  slot h _ := h
  note h _ _ := h
  register := by
    rintro k _ rfl s s' p p' id ⟨hw, hw', hregistry⟩ _
    refine ⟨hw, hw', ?_⟩
    show p'.registry.insert id k = p.registry.insert id k
    rw [hregistry]
  content := by
    rintro k _ rfl p p' ⟨hw, hw', _⟩ _
    rw [hw, hw']
    exact ⟨rfl, rfl⟩
  cut_at h _ := h
  not_data h := h.elim
  enter := by
    rintro k _ rfl depth s _ p p' ⟨rfl, hs⟩ hp
    exact ⟨⟨rfl, hs⟩, hp⟩
  leave := by
    rintro k _ rfl p p' hp r _
    exact hp
  cut_leave h := h.elim
  data_below := by
    rintro c ⟨hplain, _⟩ step
    refine ⟨?_, Slot.inReach_slotBelow c step⟩
    rw [Value.slotBelow_value]
    exact SameUnwritten.plain_member hplain step
  data_held := ⟨rfl, trivial⟩
  still_or := Or.inl trivial
  lasting := .written
  total := Or.inr fun k _ hkl t => hkl ▸ rfl

/-- A missing value comes to the same in both runs, unless a default is put in its place. -/
theorem missingRules_bothModes {depth : Nat} (n : Node) :
    Coupled bothModes depth Eq (missingRules n) (missingRules n) := by
  rintro s _ p p' ⟨rfl, _⟩ hp hslot ⟨_, hreach⟩ hoff
  obtain ⟨hsame, _⟩ := bothModes_preserved.content (rfl : n = n) hp fun hq => hq hp.1
  rw [missingRules_run] at hoff ⊢
  rw [missingRules_run, ← hsame, ← hslot]
  refine Or.inr ?_
  rcases missed_withoutDefaults (n.content p.writes) s hreach with
    hequal | ⟨hpasses, ⟨e, hremark⟩ | ⟨σ, v, hfilled⟩⟩
  · rw [← hequal]
    cases hm : missed (n.content p.writes) s p.slot with
    | fails f => exact ⟨.error f, hp, hslot, fun _ => rfl⟩
    | passes => exact ⟨.ok rfl, hp, hslot, fun _ => rfl⟩
    | remarks e => exact ⟨.ok rfl, hp, hslot, fun _ => rfl⟩
    | filled σ v =>
      rw [hm] at hoff
      exact absurd (List.cons_ne_nil _ _) hoff
  · rw [hremark, hpasses]
    exact ⟨.ok rfl, hp, hslot, fun _ => rfl⟩
  · -- the first run would have written the default
    rw [hfilled] at hoff
    exact absurd (List.cons_ne_nil _ _) hoff

theorem bothModes_inductive : bothModes.Inductive Eq 0 where
  toPreserved := bothModes_preserved
  bottom := by
    rintro k _ rfl s _ p p' ⟨rfl, _⟩ hp hslot _ _
    have hsame : k.content p'.writes = k.content p.writes := by rw [hp.1, hp.2.1]
    cases hm : (k.content p.writes).isMap with
    | true =>
      rw [against_zero_of_map hm, against_zero_of_map (hsame ▸ hm)]
      exact Or.inr ⟨.error _, hp, hslot, fun _ => rfl⟩
    | false =>
      rw [against_of_not_map hm, against_of_not_map (hsame ▸ hm)]
      exact Or.inr ⟨.ok rfl, hp, hslot, fun _ => rfl⟩
  reference := by
    rintro depth depth' k _ rfl hvisit
    refine refRule_coupled_of_find bothModes_preserved rfl (fun k => against_lasts .written depth k)
      (fun k => hvisit k k rfl) ?_ ?_
    · rintro p p' ⟨_, _, hregistry⟩ ref target hfind
      rwa [hregistry]
    · rintro p p' ⟨_, _, hregistry⟩ trail ref hfind _
      rwa [hregistry]
  own := by
    rintro depth depth' _ key s _ p p' ⟨rfl, hs⟩ hp hslot ⟨hplain, _⟩ _
    -- the first run asks for no such schema, and the second one finds none
    rw [ownSchema_eq hs, SameUnwritten.ownSchema_of_plain rfl (hslot ▸ hplain)]
    exact Or.inr ⟨.ok rfl, hp, hslot, fun _ => rfl⟩
  missing := by
    rintro depth k _ rfl
    exact missingRules_bothModes k

end Check

namespace Validator

open Check

/-- The check of a whole instance goes side by side with the same check made without defaults. -/
theorem rootCheck_bothModes (v v' : Validator) (hdepth : v'.settings.maxDepth = v.settings.maxDepth)
    (hregistry : v'.registry = v.registry) (hrenewals : v'.renewals = v.renewals)
    (hon : v.interactive.isTruthy = true) (hoff : v'.interactive.isTruthy = false)
    {inst schema : Node} (hplain : inst.tree.plain = true)
    (hnone : (v.final inst schema).writes = []) :
    bothModes.Joined Eq (v.start inst).slot
      (v.rootCheck inst schema (v.rootScope inst) (v.start inst))
      (v'.rootCheck inst schema (v'.rootScope inst) (v'.start inst)) := by
  have hstart : bothModes.states (v.start inst) (v'.start inst) := ⟨rfl, rfl, hregistry⟩
  cases hroot : rootSchema? inst schema with
  | none =>
    obtain ⟨remarks, _, hrun⟩ := rootCheck_of_none hroot
    rw [hrun, hrun]
    exact ⟨.ok rfl, hstart, rfl, fun _ => rfl⟩
  | some n =>
    have hscope : bothModes.scopes v.settings.maxDepth (v.rootScope inst) (v'.rootScope inst) := by
      refine ⟨?_, hon⟩
      unfold rootScope Scope.withoutDefaults
      rw [hdepth, hrenewals, hoff]
    have hdata : bothModes.data (v.start inst).slot := by
      refine ⟨?_, Slot.inReach_ofValue inst.tree⟩
      show (Slot.ofValue inst.tree).value.plain = true
      rwa [Slot.value_ofValue]
    have hnotoff : ¬ bothModes.off (v.visit n (v.rootScope inst) (v.start inst)).2 := by
      intro hwrites
      apply hwrites
      rw [← rootCheck_of_some hroot]
      exact hnone
    have hcoupled := against_coupled bothModes_inductive v.settings.maxDepth (rfl : n = n)
    rw [Nat.zero_add] at hcoupled
    rw [rootCheck_of_some hroot, rootCheck_of_some hroot]
    have hvisit : v'.visit n = v.visit n := by
      unfold visit
      rw [hdepth]
    rw [hvisit]
    rcases hcoupled _ _ _ _ hscope hstart rfl hdata hnotoff with ⟨_, _, hcut⟩ | hjoined
    · exact hcut.elim
    · exact hjoined

/-- **The two modes agree.**  Where no mapping below the top of an instance carries a schema to be
    enforced, a call that may write defaults and writes none comes to the same as the call of a
    validator that does not write any: both end with the same result or the same error, both leave
    the instance as it was, and both register the same ids in the same order. -/
theorem validate_without_defaults {settings settings' : Settings} {switch switch' : Value}
    (hdepth : settings'.maxDepth = settings.maxDepth)
    (hon : (Validator.new settings switch).interactive.isTruthy = true)
    (hoff : (Validator.new settings' switch').interactive.isTruthy = false) {inst schema : Node}
    (hplain : inst.tree.plain = true)
    (hnone : ((Validator.new settings switch).validate inst schema).validator.applied = []) :
    let o := (Validator.new settings switch).validate inst schema
    let o' := (Validator.new settings' switch').validate inst schema
    o'.result = o.result ∧ o.slot.value = inst.tree ∧ o'.slot.value = inst.tree ∧
      o'.validator.registry.ids = o.validator.registry.ids ∧
      o'.validator.registry = o.validator.registry := by
  intro o o'
  let v := Validator.new settings switch
  let v' := Validator.new settings' switch'
  have hwrites := final_writes_of_applied hnone
  have hjoined : bothModes.Joined Eq (v.start inst).slot
      (v.rootCheck inst schema (v.rootScope inst) (v.start inst))
      (v'.rootCheck inst schema (v'.rootScope inst) (v'.start inst)) :=
    rootCheck_bothModes v v' hdepth rfl rfl hon hoff hplain hwrites
  obtain ⟨_, hwrites', hregistry⟩ := hjoined.states
  have hslot : o'.slot = o.slot := hjoined.slot.symm
  have hsame : o.slot.value = inst.tree := (applied_eq_nil_iff v inst schema).mp hnone
  have hregistries : o'.validator.registry = o.validator.registry := by
    have hleft : o.validator.registry = (v.final inst schema).registry := by
      rw [show o.validator.registry = _ from validate_registry v inst schema, hwrites,
        Registry.settled_nil]
    have hright : o'.validator.registry = (v'.final inst schema).registry := by
      rw [show o'.validator.registry = _ from validate_registry v' inst schema,
        show (v'.final inst schema).writes = [] from hwrites', Registry.settled_nil]
    rw [hleft, hright]
    exact hregistry
  refine ⟨hjoined.result.eq, hsame, ?_, ?_, hregistries⟩
  · rw [hslot]
    exact hsame
  · rw [hregistries]

/-- An object of numbers has nothing filled in, so it is checked alike without defaults. -/
theorem numbers_pass_without_defaults :
    let o := (Validator.new .default (.bool true)).validate numbersInstance (.ofSchema 0 refersBack)
    let o' :=
      (Validator.new .default (.bool false)).validate numbersInstance (.ofSchema 0 refersBack)
    o.result = .ok () ∧ o.validator.registry.ids = ["X"] ∧ o'.result = .ok () ∧
      o'.slot.value = numbersInstance.tree ∧ o'.validator.registry.ids = ["X"] := by
  have hplain : numbersInstance.tree.plain = true := by decide +kernel
  have hnone : ((Validator.new .default (.bool true)).validate numbersInstance
      (.ofSchema 0 refersBack)).validator.applied = [] := by decide +kernel
  have hok : ((Validator.new .default (.bool true)).validate numbersInstance
      (.ofSchema 0 refersBack)).result = .ok () := by decide +kernel
  have hids : ((Validator.new .default (.bool true)).validate numbersInstance
      (.ofSchema 0 refersBack)).validator.registry.ids = ["X"] := by decide +kernel
  have hagree := validate_without_defaults (rfl : Settings.default.maxDepth = _)
    (rfl : (Validator.new .default (.bool true)).interactive.isTruthy = true)
    (rfl : (Validator.new .default (.bool false)).interactive.isTruthy = false) hplain hnone
  exact ⟨hok, hids, hagree.1.trans hok, hagree.2.2.1, hagree.2.2.2.1.trans hids⟩

end Validator

end Conformance

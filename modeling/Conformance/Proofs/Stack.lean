/-
  Calls on a stack of limited size.

  A call on a stack with room for so many frames ends by itself, and then as ever: with a result,
  with a violation, or with a fault that a schema in use causes; or it is broken off for want of
  frames (`validate_ends_within_room`).  The latter cannot happen where there is room for five frames
  at each level of nesting, two more for each list that a type expression nests, and a few at the
  ends.

  The limit on depth alone does not see to that, because it counts no lists: seven lists around a
  reference back to the schema exhaust a stack of a thousand frames before the limit that is set by
  default is reached (`looped_alternatives_exhaust`).

  That a counted check takes the course of the check itself (`counted_course`) is what makes its
  frames those of the call.
-/
import Conformance.Proofs.Stack.Course

namespace Conformance

open Check

/-! ## Lists in schemas in use -/

mutual

/-- An expression is larger than its lists are deep. -/
theorem Value.listDepth_le_sizeOf : ∀ v : Value, v.listDepth ≤ sizeOf v
  | .list items => by
    have hitems := listDepthOfItems_le_sizeOf items
    rw [Value.listDepth, Value.list.sizeOf_spec]
    omega
  | .missing => Nat.zero_le _
  | .null => Nat.zero_le _
  | .bool _ => Nat.zero_le _
  | .int _ => Nat.zero_le _
  | .float _ => Nat.zero_le _
  | .str _ => Nat.zero_le _
  | .tuple _ => Nat.zero_le _
  | .map _ => Nat.zero_le _
  | .cls _ => Nat.zero_le _

theorem listDepthOfItems_le_sizeOf : ∀ items : List Value, listDepthOfItems items ≤ sizeOf items
  | [] => Nat.zero_le _
  | v :: rest => by
    have hfirst := Value.listDepth_le_sizeOf v
    have hrest := listDepthOfItems_le_sizeOf rest
    rw [listDepthOfItems, List.cons.sizeOf_spec]
    omega

end

/-- What is inside a value is no larger. -/
theorem Value.Inside.sizeOf_le {x v : Value} (h : x.Inside v) : sizeOf x ≤ sizeOf v := by
  induction h with
  | self => exact Nat.le_refl _
  | part hpart _ ih =>
    have hlt := Value.sizeOf_lt_of_mem_parts hpart
    omega

/-- A part of something in use is smaller than the schema and the instance together. -/
theorem Value.InUse.sizeOf_part_lt {x y schema inst : Value} (h : x.InUse schema inst)
    (hy : y ∈ x.parts) : sizeOf y < sizeOf schema + sizeOf inst := by
  have hpart := Value.sizeOf_lt_of_mem_parts hy
  cases h with
  | blank h =>
    rcases h with rfl | rfl
    · cases hy
    · cases hy
  | given h =>
    have hgiven := h.sizeOf_le
    omega
  | carried howner hown h =>
    have hcarried := Value.sizeOf_lt_of_mem_parts (Value.mem_parts_of_get? hown)
    have hinside := h.sizeOf_le
    have hinst := howner.sizeOf_le
    omega

/-- Schemas in use nest lists to some depth at most. -/
theorem exists_listsWithin (schema inst : Value) :
    ∃ lists, ∀ x : Value, x.InUse schema inst → x.ListsWithin lists := by
  -- any bound will do, and size is one at hand
  refine ⟨sizeOf schema + sizeOf inst, ?_⟩
  intro x hx name _ expr hexpr
  have hdepth := Value.listDepth_le_sizeOf expr
  have hsize := hx.sizeOf_part_lt (Value.mem_parts_of_get? hexpr)
  omega

/-- A schema without type expressions nests no lists. -/
theorem Value.ListsWithin.of_none {x : Value} (htype : x.get? "type" = none)
    (hdisallow : x.get? "disallow" = none) (lists : Nat) : x.ListsWithin lists := by
  rintro name (rfl | rfl) expr hexpr
  · rw [htype] at hexpr
    cases hexpr
  · rw [hdisallow] at hexpr
    cases hexpr

/-! ## The course of a call -/

/-- A bound for every event is one for the whole journal. -/
theorem Journal.mostHeld_le {j : Journal} {room : Nat} (h : ∀ e ∈ j, e.held ≤ room) :
    j.mostHeld ≤ room := by
  unfold Journal.mostHeld
  induction j with
  | nil => exact Nat.zero_le _
  | cons e rest ih =>
    have hfirst := h e (List.mem_cons_self ..)
    have hrest := ih fun f hf => h f (List.mem_cons_of_mem _ hf)
    rw [List.map_cons, List.foldr_cons]
    exact Nat.max_le.mpr ⟨hfirst, hrest⟩

namespace Validator

variable {inst schema : Node} {lists room : Nat}

/-- The check of a whole instance and its counted form end alike, and the latter has room to do so. -/
theorem countedRun_within (settings : Settings) (switch : Value) (callers : Nat)
    (hn : schema.InSchema) (hgiven : schema.tree.isGiven = true)
    (hlists : ∀ x : Value, x.InUse schema.tree inst.tree → x.ListsWithin lists)
    (hroom : callers + (5 + 2 * lists) * settings.maxDepth + 3 ≤ room) :
    let v := Validator.new settings switch
    let x := v.rootCheck inst schema (v.rootScope inst) (v.start inst)
    let y := v.countedRun callers inst schema
    y.1 = x.1 ∧ y.2.slot = x.2.slot ∧
      SameButFrames room v.interactive.isTruthy schema.tree inst.tree x.2 y.2 := by
  intro v x y
  have hschema : rootSchema? inst schema = some schema := if_pos hgiven
  have hsteady : Steady v.interactive.isTruthy schema.tree inst.tree schema :=
    ⟨Or.inl hn, .given .self⟩
  have hcoupled : Coupled
      (withinRoom lists room v.interactive.isTruthy schema.tree inst.tree 0) v.settings.maxDepth Eq
      (against v.settings.maxDepth schema) (Counted.against v.settings.maxDepth schema) :=
    against_counted hlists v.settings.maxDepth hsteady
  let inner : Scope := { v.rootScope inst with depth := callers }
  have hscopes : (withinRoom lists room v.interactive.isTruthy schema.tree inst.tree 0).scopes
      v.settings.maxDepth (v.rootScope inst) inner := ⟨rfl, rfl, hroom⟩
  -- both runs start from the same state, and no frames have been told of
  have hstart : SameButFrames room v.interactive.isTruthy schema.tree inst.tree (v.start inst)
      (v.start inst) := by
    refine ⟨rfl, rfl, rfl, nofun, fun _ => rfl, ?_⟩
    intro ref target hfind
    cases hfind
  have hdata : (withinRoom lists room v.interactive.isTruthy schema.tree inst.tree 0).data
      (v.start inst).slot := fun _ => inst.tree.inside_ofValue
  have hx : x = against v.settings.maxDepth schema (v.rootScope inst) (v.start inst) := by
    show v.rootCheck inst schema (v.rootScope inst) (v.start inst) = _
    rw [rootCheck_of_some hschema]
    rfl
  have hy : y = Counted.against v.settings.maxDepth schema inner (v.start inst) := by
    show v.countedCheck inst schema inner (v.start inst) = _
    rw [countedCheck, hschema]
  -- nothing can cut the coupling
  rcases hcoupled _ _ _ _ hscopes hstart rfl hdata id with ⟨_, _, hcut⟩ | hjoined
  · exact hcut.elim
  · rw [hx, hy]
    exact ⟨hjoined.result.eq, hjoined.slot.symm, hjoined.states⟩

/-- **A counted check takes the course of the check itself.**  They come to the same result, slot,
    registry and writes, and their journals differ in the beginnings that they tell of only. -/
theorem counted_course (settings : Settings) (switch : Value) (callers : Nat) (inst schema : Node)
    (hn : schema.InSchema) (hgiven : schema.tree.isGiven = true) :
    let v := Validator.new settings switch
    let x := v.rootCheck inst schema (v.rootScope inst) (v.start inst)
    let y := v.countedRun callers inst schema
    y.1 = x.1 ∧ y.2.slot = x.2.slot ∧ y.2.registry = x.2.registry ∧ y.2.writes = x.2.writes ∧
      y.2.journal.withoutBeginnings = x.2.journal.withoutBeginnings := by
  -- the bound on frames is none of the conclusion, so any room that is large enough will do
  obtain ⟨lists, hlists⟩ := exists_listsWithin schema.tree inst.tree
  obtain ⟨hresult, hslot, hsame⟩ :=
    countedRun_within settings switch callers hn hgiven hlists (Nat.le_refl _)
  exact ⟨hresult, hslot, hsame.registry, hsame.writes, hsame.journal⟩

/-- A call holds no more frames than five and two for each list at every level, with those of its
    callers and three for a last check that is refused. -/
theorem framesHeld_le (settings : Settings) (switch : Value) (callers : Nat)
    (hn : schema.InSchema) (hgiven : schema.tree.isGiven = true)
    (hlists : ∀ x : Value, x.InUse schema.tree inst.tree → x.ListsWithin lists) :
    (Validator.new settings switch).framesHeld callers inst schema ≤
      callers + (5 + 2 * lists) * settings.maxDepth + 3 := by
  obtain ⟨_, _, hsame⟩ :=
    countedRun_within settings switch callers hn hgiven hlists (Nat.le_refl _)
  unfold framesHeld
  have hheld := Journal.mostHeld_le hsame.held
  exact Nat.max_le.mpr ⟨by omega, hheld⟩

/-! ## Whole instances -/

/-- **Only errors of the library escape, as long as there is room on the stack.**  A call of a fresh
    validator with a schema that never changes is broken off for want of frames, or it ends with a
    result, with a violation, or with a fault that a schema in use, which the call has entered,
    causes by its rule `enum` or `pattern`.  So if no schema in use causes any, a call for a report
    is broken off, or there is a report, and it tells of the violation that validating the instance
    ends with or of none.

    No call is broken off where there is room for five frames at each level of nesting, two more for
    each list that the type expressions of schemas in use nest, four for the call and a last check
    that is refused, one more for a report, and those of the functions that are not followed. -/
theorem validate_ends_within_room (settings : Settings) (switch : Value) (inst schema : Node)
    (hn : schema.InSchema) (hgiven : schema.tree.isGiven = true) (room leaves : Nat) :
    let v := Validator.new settings switch
    let o := v.validate inst schema
    (v.validateOn room leaves inst schema = .exhausted ∨
        v.validateOn room leaves inst schema = .finished o ∧
          (o.result = .ok () ∨ (∃ e, o.result = .error (.violation e)) ∨
            ∃ f, o.result = .error (.fault f) ∧ Traced schema.tree inst.tree f o.journal)) ∧
      ((∀ x : Value, x.InUse schema.tree inst.tree → ∀ f, ¬ x.Causes f) →
        v.checkOn room leaves inst schema = .exhausted ∨
          ∃ c report, v.checkOn room leaves inst schema = .finished c ∧ c.result = .ok report ∧
            (report.error = none ↔ o.result = .ok ()) ∧
            ∀ e, report.error = some e ↔ o.result = .error (.violation e)) ∧
      ∀ lists, (∀ x : Value, x.InUse schema.tree inst.tree → x.ListsWithin lists) →
        ((5 + 2 * lists) * settings.maxDepth + 4 + leaves ≤ room →
          v.validateOn room leaves inst schema ≠ .exhausted) ∧
        ((5 + 2 * lists) * settings.maxDepth + 5 + leaves ≤ room →
          v.checkOn room leaves inst schema ≠ .exhausted) := by
  intro v o
  -- a call that ends by itself ends as it does with all the frames it needs
  obtain ⟨hends, hreports⟩ := validate_ends settings switch inst schema hn hgiven
  refine ⟨?_, ?_, ?_⟩
  · unfold validateOn
    split
    · exact Or.inr ⟨rfl, hends⟩
    · exact Or.inl rfl
  · intro hnone
    obtain ⟨report, hcheck, hok, hviolation⟩ := hreports hnone
    unfold checkOn
    split
    · exact Or.inr ⟨_, report, rfl, hcheck, hok, hviolation⟩
    · exact Or.inl rfl
  · intro lists hlists
    constructor
    · intro hroom
      have hframes : v.framesHeld 1 inst schema ≤ 1 + (5 + 2 * lists) * settings.maxDepth + 3 :=
        framesHeld_le settings switch 1 hn hgiven hlists
      rw [validateOn, if_pos (by omega)]
      nofun
    · intro hroom
      have hframes : v.framesHeld 2 inst schema ≤ 2 + (5 + 2 * lists) * settings.maxDepth + 3 :=
        framesHeld_le settings switch 2 hn hgiven hlists
      rw [checkOn, if_pos (by omega)]
      nofun

/-- A number as an instance. -/
def fiveInstance : Node := ⟨⟨.instance 0, []⟩, .int 5⟩

/-- A schema that is to enumerate a number. -/
def enumeratesNumber : Value := .map [(.name "enum", .int 5)]

/-- A number cannot be enumerated, and the schema that asks for it is the one to blame: a thousand
    frames are enough to find that out.  A schema without rules causes no fault, so there is a
    report. -/
theorem number_not_enumerated :
    let v := Validator.new .default .null
    let o := v.validate fiveInstance (.ofSchema 0 enumeratesNumber)
    v.validateOn 1000 100 fiveInstance (.ofSchema 0 enumeratesNumber) = .finished o ∧
      o.result = .error (.fault (.notIterable "int")) ∧
      Traced enumeratesNumber (.int 5) (.notIterable "int") o.journal ∧
      ∃ c report, v.checkOn 1000 100 fiveInstance (.ofSchema 0 (.map [])) = .finished c ∧
        c.result = .ok report := by
  have hfault : ((Validator.new .default .null).validate fiveInstance
      (.ofSchema 0 enumeratesNumber)).result = .error (.fault (.notIterable "int")) := by
    decide +kernel
  obtain ⟨hends, _, hroom⟩ := validate_ends_within_room .default .null fiveInstance
    (.ofSchema 0 enumeratesNumber) ⟨0, rfl⟩ rfl 1000 100
  obtain ⟨_, hreports, hroom'⟩ := validate_ends_within_room .default .null fiveInstance
    (.ofSchema 0 (.map [])) ⟨0, rfl⟩ rfl 1000 100
  -- neither schema has type expressions, so no lists are nested
  have hlists (x : Value) (hx : x.InUse enumeratesNumber (.int 5)) : x.ListsWithin 0 := by
    rcases hx.of_no_parts rfl with (rfl | rfl) | h
    · exact .of_none rfl rfl 0
    · exact .of_none rfl rfl 0
    cases h with
    | self => exact .of_none (by decide) (by decide) 0
    | part hy inner =>
      obtain rfl := List.mem_singleton.mp hy
      rw [inner.eq_of_no_parts rfl]
      exact .of_none rfl rfl 0
  have hentries (x : Value) (hx : x.InUse (.map []) (.int 5)) : x.entries = [] := by
    rcases hx.of_no_parts rfl with (rfl | rfl) | h
    · rfl
    · rfl
    · rw [h.eq_of_no_parts rfl]
      rfl
  have hlists' (x : Value) (hx : x.InUse (.map []) (.int 5)) : x.ListsWithin 0 :=
    have hnone := Value.get?_of_no_entries (hentries x hx)
    .of_none (hnone "type") (hnone "disallow") 0
  have hfinished := hends.resolve_left ((hroom 0 hlists).1 (by decide))
  obtain ⟨hrun, hends⟩ := hfinished
  have htraced : Traced enumeratesNumber (.int 5) (.notIterable "int")
      ((Validator.new .default .null).validate fiveInstance
        (.ofSchema 0 enumeratesNumber)).journal := by
    rw [hfault] at hends
    rcases hends with hok | ⟨e, he⟩ | ⟨f, hf, htraced⟩
    · cases hok
    · cases he
    · cases hf
      exact htraced
  have hreport := hreports fun x hx _ => Value.not_causes_of_no_entries (hentries x hx)
  obtain ⟨c, report, hcheck, hresult, _⟩ :=
    hreport.resolve_left ((hroom' 0 hlists').2 (by decide))
  exact ⟨hrun, hfault, htraced, c, report, hcheck, hresult⟩

/-! ## Lists that the limit does not count -/

/-- A reference to a schema inside so many lists. -/
def looped : Nat → Value
  | 0 => .map [(.name "$ref", .str "a")]
  | lists + 1 => .list [looped lists]

/-- A schema that comes back to itself through its type. -/
def loopsThrough (lists : Nat) : Value := .map [(.name "id", .str "a"), (.name "type", looped lists)]

/-- A text as an instance. -/
def letterInstance : Node := ⟨⟨.instance 0, []⟩, .str "x"⟩

/-- **The limit on depth does not keep a call within its stack.**  With the limit that is set by
    default and a stack of a thousand frames, seven lists around a reference back to the schema break
    off the call, and a call for a report as well, while with six of them the limit is reached
    first. -/
theorem looped_alternatives_exhaust :
    let v := Validator.new .default .null
    v.validateOn 1000 0 letterInstance (.ofSchema 0 (loopsThrough 7)) = .exhausted ∧
      v.checkOn 1000 0 letterInstance (.ofSchema 0 (loopsThrough 7)) = .exhausted ∧
      ∃ o e, v.validateOn 1000 0 letterInstance (.ofSchema 0 (loopsThrough 6)) = .finished o ∧
        o.result = .error (.violation e) ∧ e.kind = .recursionLimit := by
  let v := Validator.new .default .null
  -- two levels of depth and twenty frames for each time round, and the limit allows fifty times
  have hseven : v.framesHeld 1 letterInstance (.ofSchema 0 (loopsThrough 7)) = 1004 := by
    decide +kernel
  have hreport : v.framesHeld 2 letterInstance (.ofSchema 0 (loopsThrough 7)) = 1005 := by
    decide +kernel
  have hsix : v.framesHeld 1 letterInstance (.ofSchema 0 (loopsThrough 6)) = 904 := by
    decide +kernel
  have hlimit : (v.validate letterInstance (.ofSchema 0 (loopsThrough 6))).result =
      .error (.violation ⟨.tooDeep 100, .str "self", some []⟩) := by decide +kernel
  refine ⟨if_neg ?_, if_neg ?_, _, _, if_pos ?_, hlimit, rfl⟩
  · rw [hseven]
    omega
  · rw [hreport]
    omega
  · rw [hsix]
    omega

end Validator

end Conformance

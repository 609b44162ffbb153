/-
  Where violations are.

  Every violation that a call on a whole instance ends with tells of a place that is really there
  (`violation_located`): its path is that of a trail which leads through the instance, as the call
  leaves it, to a value, and its key is the last of that trail.  Only what is missing, and what is
  nested too deep, need not be there itself; then it is looked for in a container that is.

  A check knows its trail and its key, and that one goes with the other; that is all of the
  condition it keeps (`violationsLocated`).  The place of a violation is told from the slot where it
  comes up, and each time that slot is put back into a container the trail gets one more step at its
  beginning (`Slot.Locates.below`).  Defaults written later on the way do no harm: a member that has
  grown is still the member at its step.

  An entry can be there and hold the mark of an absent key, and the key of an entry can be null.  So
  a path need not lead to a value, nor need a key tell anything (`blank_entry_refused`).
-/
import Conformance.Proofs.Invariants
import Conformance.Proofs.MemberVisits

namespace Conformance

/-! ## Trails that lead somewhere -/

/-- The key that stands last in a trail; that of a whole instance if there is none. -/
def Trail.key (t : Trail) : Value := (t.getLast?.map Step.key).getD rootKey

theorem Trail.key_concat (t : Trail) (step : Step) : Trail.key (t ++ [step]) = step.key := by
  simp [Trail.key]

namespace Value

/-- What stands one step down: the member found there, or what an entry with that very key holds. -/
def Down (v : Value) (step : Step) (w : Value) : Prop :=
  v.child? step = some w ∨ ∃ key, step = .entry key ∧ (key, w) ∈ v.entries

/-- A trail leads from one value to another. -/
inductive Leads : Value → Trail → Value → Prop
  | here (v : Value) : Leads v [] v
  | down {v w x : Value} {step : Step} {t : Trail} (first : v.Down step w) (rest : Leads w t x) :
    Leads v (step :: t) x

end Value

/-- The violations that come up where there need not be anything. -/
def Violation.Lacks (e : Violation) : Prop :=
  e.kind = .missingRequired ∨ e.kind = .recursionLimit

/-- A trail locates a violation in a value: it leads to what the violation is about, or its last step
    is one at which a container lacks it. -/
inductive Value.Locates (root : Value) (e : Violation) : Trail → Prop
  | there {t : Trail} {w : Value} (leads : root.Leads t w)
    (shown : w ≠ .missing ∨ e.cause.IsOfEntry) : Locates root e t
  | gone {t : Trail} {d : Value} {step : Step} (lacks : e.Lacks) (leads : root.Leads t d)
    (container : d.IsContainer) (absent : d.member step = .missing) : Locates root e (t ++ [step])

/-- The same for the value in a slot; the slot itself may have none. -/
def Slot.Locates (σ : Slot) (e : Violation) (t : Trail) : Prop :=
  (∃ c, σ = .present c ∧ c.Locates e t) ∨ (t = [] ∧ σ.value = .missing ∧ e.Lacks)

/-- A violation tells of the end of a trail: by its place, unless it is about a type that is not
    supported, and by its key, unless it is about the shape of an object. -/
structure Violation.TellsOf (e : Violation) (t : Trail) : Prop where
  place : e.trail = if e.kind = .unsupportedType then none else some t
  key : e.key = t.key ∨ (e.cause.IsShape ∧ e.key = .null)

theorem Violation.TellsOf.path_eq_none_iff {e : Violation} {t : Trail} (h : e.TellsOf t) :
    e.path = none ↔ e.kind = .unsupportedType := by
  unfold path
  rw [h.place]
  split
  · next hkind => exact ⟨fun _ => hkind, fun _ => rfl⟩
  · next hkind => exact ⟨nofun, fun hnot => absurd hnot hkind⟩

theorem Violation.TellsOf.path_eq {e : Violation} {t : Trail} (h : e.TellsOf t) {path : String}
    (hpath : e.path = some path) : path = t.text := by
  unfold Violation.path at hpath
  rw [h.place] at hpath
  split at hpath
  · cases hpath
  · cases hpath
    rfl

theorem Cause.IsShape.kind_ne {cause : Cause} (h : cause.IsShape) :
    cause.kind ≠ .unsupportedType := by
  cases cause <;> first | exact h.elim | nofun

theorem Cause.IsOfEntry.kind_ne {cause : Cause} (h : cause.IsOfEntry) :
    cause.kind ≠ .unsupportedType := by
  cases cause <;> first | exact h.elim | nofun

/-! ## Located below and above -/

variable {c : Value} {step : Step} {σ : Slot} {e : Violation} {t : Trail}

/-- What a container has adopted stands one step down, and what is found there is nothing else. -/
theorem Value.adopt_down (h : c.slotBelow step = .free) (v : Value) :
    (c.adopt step v).Down step v ∧ ((c.adopt step v).child? step).getD v = v := by
  unfold slotBelow at h
  split at h
  · next x _ => cases x <;> cases h
  · next hnone =>
    unfold gap at h
    split at h
    · next es key =>
      have hfound : (adopt (.map es) (.entry key) v).child? (.entry key) =
          if key.same key then some v else none := by
        show entryAt? key (es ++ [(key, v)]) = _
        rw [entryAt?_append, show entryAt? key es = none from hnone]
        rfl
      refine ⟨Or.inr ⟨key, rfl, ?_⟩, ?_⟩
      · exact List.mem_append.mpr (Or.inr (List.mem_singleton.mpr rfl))
      · rw [hfound]
        split <;> rfl
    · next items i =>
      have hlength : items.length ≤ i := List.getElem?_eq_none_iff.mp hnone
      have hfound : (padTo items i v)[i]? = some v := by
        unfold padTo
        rw [List.getElem?_append_right (by simp; omega)]
        simp [Nat.add_sub_cancel' hlength]
      refine ⟨Or.inl hfound, ?_⟩
      show ((padTo items i v)[i]?).getD v = v
      rw [hfound]
      rfl
    · cases h

/-- What is located in a member is located in the container. -/
theorem Value.Locates.below {y : Value} (hdown : c.Down step y) (h : y.Locates e t) :
    c.Locates e (step :: t) := by
  cases h with
  | there leads shown => exact .there (.down hdown leads) shown
  | gone lacks leads container absent => exact .gone lacks (.down hdown leads) container absent

/-- A slot that holds a value locates what is about that value; another one can only lack it. -/
theorem Slot.locates_here (h : σ.value ≠ .missing ∨ e.Lacks) : σ.Locates e [] := by
  by_cases hv : σ.value = .missing
  · rcases h with hne | hlacks
    · exact absurd hv hne
    · exact Or.inr ⟨rfl, hv, hlacks⟩
  · exact Or.inl ⟨σ.value, eq_present hv, .there (.here σ.value) (Or.inl hv)⟩

/-- What is located in the slot of a member is located in the container once it is put back. -/
theorem Slot.Locates.below (hbelow : Slot.Below c step σ) (hc : c.IsContainer)
    (h : σ.Locates e t) : (c.settle step σ).Locates e (step :: t) := by
  have hcontainer : (c.settle step σ).IsContainer :=
    Value.isContainer_of_class? (Value.class?_settle hbelow) hc
  rcases h with ⟨y, rfl, hy⟩ | ⟨rfl, hmissing, hlacks⟩
  · have hchild : (c.settle step (.present y)).child? step = some y := by
      generalize hσ : Slot.present y = σ at hbelow
      cases hbelow with
      | found =>
        rw [Value.settle_slotBelow]
        exact Value.child?_of_slotBelow hσ.symm
      | grown hx z =>
        cases hσ
        exact Value.child?_replace hx y
      | filled _ _ => cases hσ
    exact hy.below (Or.inl hchild)
  · have hgone (habsent : (c.settle step σ).member step = .missing) :
        (c.settle step σ).Locates e [step] := .gone (t := []) hlacks (.here _) hcontainer habsent
    cases hbelow with
    | found =>
      apply hgone
      rw [Value.settle_slotBelow, ← Value.slotBelow_value]
      exact hmissing
    | grown hx y =>
      apply hgone
      unfold Value.member
      rw [show (c.settle step (.present y)).child? step = some y from Value.child?_replace hx y]
      exact hmissing
    | filled hfree v =>
      -- a default has been put where the value was missing
      obtain ⟨hdown, honly⟩ := Value.adopt_down hfree v
      by_cases hv : v = .missing
      · apply hgone
        rw [hv] at honly ⊢
        exact honly
      · exact .there (.down hdown (.here v)) (Or.inl hv)

namespace Check

/-! ## Checks tell where they fail -/

/-- Checks have the key that goes with their trail, and their violations are located in their slot.
    -/
def violationsLocated : RunInvariant where
  known _ := True
  inv s _ := s.key = s.trail.key
  fails s f p := ∀ e, f = .violation e → ∃ t, p.slot.Locates e t ∧ e.TellsOf (s.trail ++ t)

/-- A violation that a check tells of the value at hand is located there. -/
theorem located_here {s : Scope} {p : Progress} {e : Violation}
    (hslot : p.slot.value ≠ .missing ∨ e.Lacks) (h : e.TellsOf s.trail) :
    violationsLocated.fails s (.violation e) p := by
  rintro _ ⟨⟩
  refine ⟨[], Slot.locates_here hslot, ?_⟩
  rwa [List.append_nil]

theorem violationsLocated_preserved : violationsLocated.Preserved where
  part _ _ _ _ := trivial
  blank _ _ _ _ := trivial
  content _ _ _ _ := trivial
  found _ _ _ _ := trivial
  carried _ _ _ _ _ _ _ := trivial
  note h _ _ _ := h
  written h _ _ _ _ _ := h
  child _ _ _ _ := (Trail.key_concat ..).symm
  back h _ _ _ _ _ _ _ := h
  fails_back := by
    intro s p _ c _ hc step q hbelow f hf e he
    obtain ⟨t, ht, htells⟩ := hf e he
    refine ⟨step :: t, Or.inl ⟨_, rfl, ht.below hbelow hc⟩, ?_⟩
    rwa [show (s.child step).trail ++ t = s.trail ++ step :: t from List.append_assoc ..] at htells
  enter _ _ _ h := h
  leave h _ := h
  fails_leave hf _ := hf
  fail h hv _ hkind := located_here (Or.inl hv) ⟨(if_neg hkind).symm, Or.inl h⟩
  failAt := by
    intro s p _ key hkey cause hcause
    rintro _ ⟨⟩
    have hpresent : p.slot.value ≠ .missing := by
      intro hmissing
      rw [hmissing] at hkey
      cases hkey
    obtain ⟨⟨key, w⟩, hentry, rfl⟩ := List.mem_map.mp hkey
    refine ⟨[.entry key], Or.inl ⟨_, Slot.eq_present hpresent, ?_⟩,
      ⟨(if_neg hcause.kind_ne).symm, Or.inl ?_⟩⟩
    · exact .there (.down (Or.inr ⟨key, rfl, hentry⟩) (.here w)) (Or.inr hcause)
    · exact (Trail.key_concat s.trail (.entry key)).symm
  failKeyless _ hv _ hcause :=
    located_here (Or.inl hv) ⟨(if_neg hcause.kind_ne).symm, Or.inr ⟨hcause, rfl⟩⟩
  failPlaceless h hv _ := located_here (Or.inl hv) ⟨rfl, Or.inl h⟩
  tooDeep h := located_here (Or.inr (Or.inr rfl)) ⟨rfl, Or.inl h⟩
  missing h _ := located_here (Or.inr (Or.inl rfl)) ⟨rfl, Or.inl h⟩
  fault _ _ _ _ _ _ _ := nofun
  astray _ _ _ := nofun
  changed _ _ _ _ _ _ _ _ := nofun

end Check

namespace Validator

open Check

/-! ## Whole instances -/

/-- **Violations are where they say.**  Where a call on an instance that is there ends with a
    violation, it tells of the end of a trail that locates it in the instance as the call leaves
    it.  There is no path exactly if a type is not supported; otherwise the path is that of the
    trail, and the key is the last of it unless the violation is about the shape of an object. -/
theorem violation_located (v : Validator) {inst schema : Node} (hinst : inst.tree ≠ .missing)
    {e : Violation} (he : (v.validate inst schema).result = .error (.violation e)) :
    (e.path = none ↔ e.kind = .unsupportedType) ∧
      ∃ t, (v.validate inst schema).slot.value.Locates e t ∧
        (∀ path, e.path = some path → path = t.text) ∧
          (e.key = t.key ∨ (e.cause.IsShape ∧ e.key = .null)) := by
  have hends : violationsLocated.Ends (v.rootScope inst) (v.start inst)
      (v.rootCheck inst schema (v.rootScope inst) (v.start inst)) :=
    rootCheck_ends violationsLocated_preserved v (fun _ _ => trivial) rfl
  obtain ⟨t, ht, htells⟩ := hends.fails _ he e rfl
  refine ⟨htells.path_eq_none_iff, t, ?_, fun _ => htells.path_eq, htells.key⟩
  -- the instance is there in the end as well, so the slot locates what its value does
  obtain ⟨_, hmoves⟩ := hends.moves
  have hkept := (injections_of_slot hmoves.slot).keptIn
  rcases ht with ⟨c, hc, hlocates⟩ | ⟨_, hmissing, _⟩
  · rw [validate_slot, show (v.final inst schema).slot = .present c from hc]
    exact hlocates
  · exact absurd hmissing (Value.ne_missing_of_keptIn hkept hinst)

/-- A list of a number and a text under a name. -/
def mixedInstance : Node := ⟨⟨.instance 0, []⟩, .map [(.name "p", .list [.int 1, .str "x"])]⟩

/-- A schema for lists of whole numbers under that name. -/
def wholeNumbers : Value :=
  .map [(.name "properties", .map
    [(.name "p", .map [(.name "items", .map [(.name "type", .str "integer")])])])]

/-- The element that is of the wrong type is the one that the path leads to. -/
theorem wrong_element_located :
    let o := (Validator.new .default .null).validate mixedInstance (.ofSchema 0 wholeNumbers)
    let e : Violation :=
      ⟨.wrongType "string" "integer", .int 1, some [.name "p", .index 1]⟩
    mixedInstance.tree ≠ .missing ∧ o.result = .error (.violation e) ∧ e.path = some "$.p[1]" ∧
      ∃ t, o.slot.value.Locates e t ∧ (∀ path, e.path = some path → path = t.text) ∧
        (e.key = t.key ∨ (e.cause.IsShape ∧ e.key = .null)) := by
  have hresult : ((Validator.new .default .null).validate mixedInstance
      (.ofSchema 0 wholeNumbers)).result =
        .error (.violation ⟨.wrongType "string" "integer", .int 1, some [.name "p", .index 1]⟩) := by
    decide +kernel
  obtain ⟨_, hlocated⟩ := violation_located (.new .default .null) (by nofun) hresult
  exact ⟨nofun, hresult, by decide +kernel, hlocated⟩

/-- An object with an entry that holds the mark of an absent key. -/
def blankEntry : Node := ⟨⟨.instance 0, []⟩, .map [(.name "a", .missing)]⟩

/-- An object with an entry whose key is null, such as a default put under that key leaves. -/
def nullEntry : Node := ⟨⟨.instance 0, []⟩, .map [(.null, .int 1)]⟩

theorem leads_of_missing {t : Trail} {w : Value} (h : Value.Leads .missing t w) : w = .missing := by
  cases h with
  | here => rfl
  | down first _ =>
    rcases first with hchild | ⟨_, _, hentry⟩
    · cases hchild
    · cases hentry

/-- A path need not lead to a value: an entry that holds the mark of an absent key is refused as one
    too many, and nothing but that mark stands at the path told.  And a value that is refused may
    stand under null, which then is the key told. -/
theorem blank_entry_refused :
    let v := Validator.new .default .null
    let refused := v.validate blankEntry
      (.ofSchema 0 (.map [(.name "additionalProperties", .bool false)]))
    let mistyped := v.validate nullEntry
      (.ofSchema 0 (.map [(.name "additionalProperties", .map [(.name "type", .str "string")])]))
    (∃ e, refused.result = .error (.violation e) ∧ e.kind = .unexpectedProperty ∧
        e.path = some "$.a" ∧
          ∀ t w, refused.slot.value.Leads t w → t.text = "$.a" → w = .missing) ∧
      ∃ e, mistyped.result = .error (.violation e) ∧ ¬ e.cause.IsShape ∧
        e.path = some "$.None" ∧ e.key = .null := by
  intro v refused mistyped
  have hrefused : refused.result = .error (.violation
      ⟨.additionalProperty (.str "self"), .str "a", some [.name "a"]⟩) := by
    decide +kernel
  have hmistyped : mistyped.result = .error (.violation
      ⟨.wrongType "integer" "string", .null, some [.entry .null]⟩) := by
    decide +kernel
  have hfinal : refused.slot.value = .map [(.name "a", .missing)] := by decide +kernel
  refine ⟨⟨_, hrefused, rfl, by decide +kernel, ?_⟩, _, hmistyped, nofun, by decide +kernel, rfl⟩
  intro t w hleads htext
  rw [hfinal] at hleads
  cases hleads with
  | here =>
    rw [Trail.text_nil] at htext
    exact absurd htext (by decide)
  | @down _ x _ step rest first below =>
    have hblank : x = .missing := by
      rcases first with hchild | ⟨key, _, hentry⟩
      · have hpart := Value.mem_parts_of_child? hchild
        exact List.mem_singleton.mp hpart
      · exact congrArg Prod.snd (List.mem_singleton.mp hentry)
    rw [hblank] at below
    exact leads_of_missing below

end Validator

end Conformance

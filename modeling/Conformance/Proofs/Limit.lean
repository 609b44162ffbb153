/-
  The limit on depth.

  A run that may go deeper comes to the same as one that may not, unless the latter ends for want
  of depth (`validate_of_deeper`): the limit adds an error of its own and changes nothing else.
  That error comes to the surface from wherever it arises, be it inside an alternative of a type or
  inside what is disallowed, because attempts only catch errors of the data.

  The two runs go side by side with all they leave behind the same, so whatever the first one does
  not enter for want of depth the second one does not enter either.
-/
import Conformance.Proofs.Coupling
import Conformance.Proofs.Record

namespace Conformance

/-- A failure for want of depth. -/
def Failure.OfDepth (f : Failure) : Prop := ∃ e, f = .violation e ∧ e.errorClass = .nesting

namespace Check

/-- A journal that tells of no check deeper than a limit. -/
def Within (limit : Nat) (j : Journal) : Prop :=
  ∀ n trail depth, .entered n trail depth ∈ j → depth ≤ limit

/-- A journal in which every check that has failed for want of depth has failed in this way. -/
def Surfaces (f : Failure) (j : Journal) : Prop :=
  ∀ n g, .left n (.error g) ∈ j → g.OfDepth → g = f

/-- Two runs with one thing between them: the second has a greater limit.  Nothing is said once the
    first one fails for want of depth. -/
def sameWithinLimit (limit : Nat) : Coupling where
  scopes depth s s' := s' = { s with limit := s'.limit } ∧ s.depth + depth = limit
  states p p' := p' = p ∧ Within limit p.journal ∧
    ∀ n g, .left n (.error g) ∈ p.journal → ¬ g.OfDepth
  cut f p := f.OfDepth ∧ Surfaces f p.journal
  off _ := False
  data _ := True
  still := False

variable {limit : Nat}

theorem sameWithinLimit_tell {p p' : Progress} (h : (sameWithinLimit limit).states p p') {e : Event}
    (hentered : ∀ n trail depth, e = .entered n trail depth → depth ≤ limit)
    (hleft : ∀ n g, e = .left n (.error g) → ¬ g.OfDepth) :
    (sameWithinLimit limit).states (p.tell e) (p'.tell e) := by
  obtain ⟨rfl, hwithin, hnone⟩ := h
  refine ⟨rfl, fun n trail depth hmem => ?_, fun n g hmem => ?_⟩
  · rcases List.mem_cons.mp hmem with heq | hmem
    · exact hentered n trail depth heq.symm
    · exact hwithin n trail depth hmem
  · rcases List.mem_cons.mp hmem with heq | hmem
    · exact hleft n g heq.symm
    · exact hnone n g hmem

theorem sameWithinLimit_note {p p' : Progress} (h : (sameWithinLimit limit).states p p') {e : Event}
    (he : e.frames = false) : (sameWithinLimit limit).states (p.tell e) (p'.tell e) := by
  refine sameWithinLimit_tell h ?_ ?_
  · rintro n trail depth rfl
    cases he
  · rintro n g rfl
    cases he

theorem sameWithinLimit_preserved (limit : Nat) : (sameWithinLimit limit).Preserved Eq where
  like := .eq
  place := by
    rintro depth s s' ⟨hs, _⟩
    rw [hs]
    exact ⟨rfl, rfl⟩
  child := by
    rintro depth s s' ⟨hs, hd⟩ step
    refine ⟨?_, hd⟩
    rw [hs]
    rfl
  slot := by
    rintro p _ ⟨rfl, hjournal⟩ σ
    exact ⟨rfl, hjournal⟩
  note h e he := sameWithinLimit_note h he
  register := by
    rintro k _ rfl s s' _ p id ⟨rfl, hwithin, hnone⟩ _
    have hnews := news_frames p.registry id k
    refine ⟨rfl, fun n trail depth hmem => ?_, fun n g hmem => ?_⟩
    · rcases List.mem_append.mp hmem with hmem | hmem
      · cases hnews _ hmem
      · exact hwithin n trail depth hmem
    · rcases List.mem_append.mp hmem with hmem | hmem
      · cases hnews _ hmem
      · exact hnone n g hmem
  content := by
    rintro k _ rfl p _ ⟨rfl, _⟩ _
    exact ⟨rfl, rfl⟩
  cut_at h _ := h
  not_data := by
    rintro e p ⟨⟨_, he, hclass⟩, _⟩
    cases he
    rw [hclass]
    nofun
  enter := by
    rintro k _ rfl depth s s' p p' ⟨hs, hd⟩ hp
    refine ⟨⟨?_, ?_⟩, ?_⟩
    · rw [hs]
      rfl
    · show s.depth + 1 + depth = limit
      omega
    · have hentered := sameWithinLimit_tell (e := .entered k s.trail s.deeper.depth) hp
        (by
          rintro n trail d heq
          cases heq
          show s.depth + 1 ≤ limit
          omega) nofun
      have htrail : s'.trail = s.trail := by rw [hs]
      have hdepth : s'.deeper.depth = s.deeper.depth := by rw [hs]; rfl
      rwa [htrail, hdepth]
  leave := by
    rintro k _ rfl p p' hp r hcut
    refine sameWithinLimit_tell hp nofun ?_
    rintro n g heq hg
    cases heq
    -- nothing else has failed for want of depth, so the run would have been cut here
    exact hcut ⟨g, rfl, hg, fun n f hf hof => absurd hof (hp.2.2 n f hf)⟩
  cut_leave := by
    rintro f p ⟨hf, hsurfaces⟩ k
    refine ⟨hf, fun n g hmem hg => ?_⟩
    rcases List.mem_cons.mp hmem with heq | hmem
    · cases heq
      rfl
    · exact hsurfaces n g hmem hg
  data_below _ _ := trivial
  data_held := trivial
  still_or := Or.inr fun _ => trivial
  lasting := .never
  total := Or.inl fun _ => id

theorem sameWithinLimit_interactive {depth : Nat} {s s' : Scope}
    (h : (sameWithinLimit limit).scopes depth s s') :
    s.interactive = s'.interactive := by
  rw [h.1]

theorem sameWithinLimit_inductive (limit more : Nat) :
    (sameWithinLimit limit).Inductive Eq more where
  toPreserved := sameWithinLimit_preserved limit
  bottom := by
    rintro k _ rfl s s' _ p hs ⟨rfl, hwithin, hnone⟩ hslot _ _
    cases hm : (k.content p.writes).isMap with
    | true =>
      rw [against_zero_of_map hm]
      exact Or.inl ⟨_, rfl, ⟨_, rfl, rfl⟩, fun n f hf hof => absurd hof (hnone n f hf)⟩
    | false =>
      rw [against_of_not_map hm, against_of_not_map hm]
      exact Or.inr ⟨.ok rfl, ⟨rfl, hwithin, hnone⟩, rfl, fun _ => rfl⟩
  reference := by
    rintro depth depth' k _ rfl hvisit
    refine refRule_coupled_of_find (sameWithinLimit_preserved limit) rfl
      (fun k => against_lasts .never depth k) (fun k => hvisit k k rfl) ?_ ?_
    · rintro p _ ⟨rfl, _⟩ ref target hfind
      exact hfind
    · rintro p _ ⟨rfl, _⟩ trail ref hfind _
      exact hfind
  own := by
    intro depth depth' hvisit key
    refine ownSchema_coupled (sameWithinLimit_preserved limit) hvisit
      sameWithinLimit_interactive ?_ key
    rintro s s' ⟨hs, _⟩ _ _ _ _ _ _ _ _ _
    rw [hs]
    rfl
  missing := by
    rintro depth k _ rfl
    refine missingRules_coupled (sameWithinLimit_preserved limit) sameWithinLimit_interactive
      (fun _ hs => hs.elim) rfl ?_
    rintro s s' ⟨hs, _⟩ _ p ⟨rfl, hjournal⟩ σ v _ _
    rw [hs]
    exact sameWithinLimit_note (p := { p with slot := σ, writes := _ :: p.writes })
      ⟨rfl, hjournal⟩ rfl

end Check

namespace Validator

open Check

/-- A validator that differs in its settings only. -/
def under (v : Validator) (settings : Settings) : Validator := { v with settings := settings }

/-- The check of a whole instance under a greater limit: the first run fails for want of depth, as
    does every check in it that does, or both runs are the same. -/
theorem rootCheck_of_deeper (v : Validator) {settings : Settings}
    (h : v.settings.maxDepth ≤ settings.maxDepth) (inst schema : Node) :
    (sameWithinLimit v.settings.maxDepth).Cut
        (v.rootCheck inst schema (v.rootScope inst) (v.start inst)) ∨
      (sameWithinLimit v.settings.maxDepth).Joined Eq (v.start inst).slot
        (v.rootCheck inst schema (v.rootScope inst) (v.start inst))
        ((v.under settings).rootCheck inst schema ((v.under settings).rootScope inst)
          ((v.under settings).start inst)) := by
  have hstart :
      (sameWithinLimit v.settings.maxDepth).states (v.start inst) ((v.under settings).start inst) :=
    ⟨rfl, nofun, nofun⟩
  cases hroot : rootSchema? inst schema with
  | none =>
    obtain ⟨remarks, hremarks, hrun⟩ := rootCheck_of_none hroot
    rw [hrun, hrun]
    refine Or.inr ⟨.ok rfl, ⟨rfl, ?_, ?_⟩, rfl, fun _ => rfl⟩
    · intro n trail depth hmem
      obtain ⟨kind, hkind⟩ := hremarks _ (by simpa [start] using hmem)
      cases hkind
    · intro n f hmem
      obtain ⟨kind, hkind⟩ := hremarks _ (by simpa [start] using hmem)
      cases hkind
  | some n =>
    obtain ⟨more, hmore⟩ := Nat.exists_eq_add_of_le' h
    rw [rootCheck_of_some hroot, rootCheck_of_some hroot]
    have hinductive := sameWithinLimit_inductive v.settings.maxDepth more
    have hcoupled := against_coupled hinductive v.settings.maxDepth
      (rfl : n = n)
    have hvisit : (v.under settings).visit n = against (more + v.settings.maxDepth) n := by
      rw [← hmore]
      rfl
    rw [hvisit]
    exact hcoupled _ _ _ _ ⟨rfl, Nat.zero_add _⟩ hstart rfl trivial id

/-- **The limit only ever adds its own error.**  A failure for want of depth, wherever it arises in
    a run, is how the run ends.  A run that does not end so ends in the same way under any greater
    limit, with the same instance, the same record, the same ids and the same journal, so there is
    no check in it that is nested deeper than the lesser limit. -/
theorem validate_of_deeper {settings settings' : Settings}
    (hdepth : settings.maxDepth ≤ settings'.maxDepth)
    (hswitch : settings'.interactive = settings.interactive) (interactive : Value)
    (inst schema : Node) :
    let o := (Validator.new settings interactive).validate inst schema
    let o' := (Validator.new settings' interactive).validate inst schema
    (∀ n f, .left n (.error f) ∈ o.journal → f.OfDepth → o.result = .error f) ∧
      ((∀ f, o.result = .error f → ¬ f.OfDepth) →
        o'.result = o.result ∧ o'.slot = o.slot ∧ o'.validator.applied = o.validator.applied ∧
          o'.validator.registry = o.validator.registry ∧ o'.journal = o.journal ∧
          ∀ n trail depth, .entered n trail depth ∈ o'.journal → depth ≤ settings.maxDepth) := by
  intro o o'
  let v := Validator.new settings interactive
  have hnew : Validator.new settings' interactive = v.under settings' := by
    simp only [v, under, new, hswitch]
  have ho' : o' = (v.under settings').validate inst schema := congrArg (·.validate inst schema) hnew
  rw [ho']
  have hjournal (e : Event) : e ∈ o.journal ↔ e ∈ (v.final inst schema).journal := List.mem_reverse
  rcases v.rootCheck_of_deeper hdepth inst schema with ⟨f, hf, hof, hsurfaces⟩ | hjoined
  · have hresult : o.result = .error f := hf
    refine ⟨fun n g hmem hg => ?_, fun hnone => absurd hof (hnone f hresult)⟩
    rw [hsurfaces n g ((hjournal _).mp hmem) hg]
    exact hresult
  · obtain ⟨hsame, hwithin, hnone⟩ := hjoined.states
    refine ⟨fun n g hmem hg => absurd hg (hnone n g ((hjournal _).mp hmem)), fun _ => ?_⟩
    have hfinal : (v.under settings').final inst schema = v.final inst schema := hsame
    have hentries : ((v.under settings').validate inst schema).journal = o.journal := by
      rw [validate_journal, hfinal]
      rfl
    refine ⟨hjoined.result.eq, hjoined.slot.symm, ?_, ?_, hentries, fun n trail depth hmem => ?_⟩
    · rw [validate_applied, hfinal]
      rfl
    · rw [validate_registry, hfinal]
      rfl
    · rw [hentries] at hmem
      exact hwithin n trail depth ((hjournal _).mp hmem)

/-- A schema that refers to itself below a property, and fills in another. -/
def refersToItself : Value :=
  .map [(.name "id", .str "node"),
    (.name "properties", .map
      [(.name "next", .map [(.name "$ref", .str "node")]), (.name "size", oneByDefault)])]

/-- Settings for five levels of nesting. -/
def fiveLevels : Settings := ⟨true, 5, by decide, by decide⟩

/-- An object with another one below it. -/
def nestedInstance : Node := ⟨⟨.instance 0, []⟩, .map [(.name "next", .map [])]⟩

/-- Two levels of data take five levels of nesting here, and come to the same with a hundred. -/
theorem five_levels_suffice :
    fiveLevels.maxDepth ≤ Settings.default.maxDepth ∧
      ((Validator.new .default .null).validate nestedInstance (.ofSchema 0 refersToItself)).result =
        .ok () ∧
      ((Validator.new .default .null).validate nestedInstance
        (.ofSchema 0 refersToItself)).validator.applied = ["$.next.size", "$.size"] := by
  have hdepth : fiveLevels.maxDepth ≤ Settings.default.maxDepth := by decide
  have hswitch : Settings.default.interactive = fiveLevels.interactive := rfl
  have hresult : ((Validator.new fiveLevels .null).validate nestedInstance
      (.ofSchema 0 refersToItself)).result = .ok () := by decide +kernel
  have happlied : ((Validator.new fiveLevels .null).validate nestedInstance
      (.ofSchema 0 refersToItself)).validator.applied = ["$.next.size", "$.size"] := by
    decide +kernel
  obtain ⟨_, hdeeper⟩ :=
    validate_of_deeper hdepth hswitch .null nestedInstance (.ofSchema 0 refersToItself)
  have hsame := hdeeper fun f hf => absurd (hresult.symm.trans hf) (by simp)
  exact ⟨hdepth, hsame.1.trans hresult, hsame.2.2.1.trans happlied⟩

-- with four levels the run ends in the error of the limit
example :
    ((Validator.new ⟨true, 4, by decide, by decide⟩ .null).validate nestedInstance
        (.ofSchema 0 refersToItself)).result =
      .error (.violation ⟨.tooDeep 4, .str "next", some [.name "next", .name "next"]⟩) := by
  decide +kernel

end Validator

end Conformance

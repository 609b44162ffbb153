/-
  The course of a counted check, and how many frames it tells of.

  A counted check takes the course of the check itself: it ends alike, with the same slot, the same
  writes and the same ids, and its journal differs in the beginnings it tells of and in nothing
  else.  And the frames that it tells of are bounded by the depth that remains (`against_counted`):
  at each level a check takes five frames at most, and two more for each list that its type
  expressions nest.

  Both are shown in one go, by a coupling of the check with its counted form.  The scopes of the two
  differ in depth only, and what the coupling knows of the second one is how many frames there are
  left: so many for each level that may still be nested, three for a last check that is refused, and
  a few to spare.  A call uses up some of the spare ones (`Coupled.calling`), and a new level brings
  as many as the rules of a schema can ask for (`nested_counted`).
-/
import Conformance.Proofs.Stack.Calls

namespace Conformance

/-! ## Lists in type expressions -/

mutual

/-- How deep lists of alternatives are nested in a type expression. -/
def Value.listDepth : Value → Nat
  | .list items => listDepthOfItems items + 1
  | _ => 0

/-- How deep such lists are nested in several expressions. -/
def listDepthOfItems : List Value → Nat
  | [] => 0
  | v :: rest => max v.listDepth (listDepthOfItems rest)

end

mutual

/-- How deep lists of alternatives are nested in a resolved expression. -/
def TypeTest.listDepth : TypeTest → Nat
  | .anyOf alternatives => listDepthOfTests alternatives + 1
  | .anything => 0
  | .classes _ => 0
  | .schema _ => 0

/-- How deep such lists are nested in several resolved expressions. -/
def listDepthOfTests : List TypeTest → Nat
  | [] => 0
  | t :: rest => max t.listDepth (listDepthOfTests rest)

end

namespace TypeTest

/-- A type name stands for no list. -/
theorem listDepth_of_ofText {name : String} {t : TypeTest} (h : ofText name = .ok t) :
    t.listDepth = 0 := by
  unfold ofText at h
  cases hname : ofName? name with
  | none =>
    rw [hname] at h
    cases h
  | some u =>
    rw [hname] at h
    cases h
    -- every name stands for classes or for anything, as going through them shows
    unfold ofName? at hname
    repeat' split at hname
    all_goals cases hname
    all_goals rfl

mutual

/-- Resolving an expression keeps its lists. -/
theorem listDepth_of_ofValue {o : Place} {t : TypeTest} :
    ∀ v : Value, ofValue o v = .ok t → t.listDepth = v.listDepth
  | .null, h => by cases h; rfl
  | .bool false, h => by cases h; rfl
  | .bool true, h => by unfold ofValue at h; exact listDepth_of_ofText h
  | .map _, h => by cases h; rfl
  | .cls _, h => by cases h; rfl
  | .missing, h => by unfold ofValue at h; exact listDepth_of_ofText h
  | .int _, h => listDepth_of_ofText h
  | .float _, h => listDepth_of_ofText h
  | .str _, h => listDepth_of_ofText h
  | .tuple _, h => listDepth_of_ofText h
  | .list items, h => by
    unfold ofValue at h
    cases hitems : ofItems o 0 items with
    | error name =>
      rw [hitems] at h
      cases h
    | ok ts =>
      rw [hitems] at h
      cases h
      rw [TypeTest.listDepth, Value.listDepth, listDepth_of_ofItems items hitems]

theorem listDepth_of_ofItems {o : Place} {ts : List TypeTest} {i : Nat} :
    ∀ items : List Value, ofItems o i items = .ok ts →
      listDepthOfTests ts = listDepthOfItems items
  | [], h => by cases h; rfl
  | v :: rest, h => by
    unfold ofItems at h
    cases hfirst : ofValue (o.down (.index i)) v with
    | error name =>
      rw [hfirst] at h
      cases h
    | ok first =>
      cases hrest : ofItems o (i + 1) rest with
      | error name =>
        rw [hfirst, hrest] at h
        cases h
      | ok others =>
        rw [hfirst, hrest] at h
        cases h
        rw [listDepthOfTests, listDepthOfItems, listDepth_of_ofValue v hfirst,
          listDepth_of_ofItems rest hrest]

end

end TypeTest

/-- The type expressions of a schema nest lists no deeper than this. -/
def Value.ListsWithin (lists : Nat) (schema : Value) : Prop :=
  ∀ name, name = "type" ∨ name = "disallow" →
    ∀ expr, schema.get? name = some expr → expr.listDepth ≤ lists

/-! ## The coupling -/

/-- Whether an event is the beginning of a check against a schema. -/
def Event.begins : Event → Bool
  | .entered _ _ _ => true
  | _ => false

/-- What a journal tells besides beginnings. -/
def Journal.withoutBeginnings (j : Journal) : Journal := j.filter (!·.begins)

namespace Check

/-- Progress of a check and of its counted form: they differ in the beginnings that they tell of, and
    none of those that the second one tells of takes more frames than there is room for.  All nodes
    at hand are steady. -/
structure SameButFrames (room : Nat) (switch : Bool) (schema inst : Value) (p p' : Progress) :
    Prop where
  registry : p'.registry = p.registry
  writes : p'.writes = p.writes
  journal : p'.journal.withoutBeginnings = p.journal.withoutBeginnings
  held : ∀ e ∈ p'.journal, e.held ≤ room
  nothing_written : switch = false → p.writes = []
  registered : ∀ {ref target}, p.registry.find? ref = some target →
    Steady switch schema inst target

/-- A check and its counted form side by side, where there are frames to spare. -/
def withinRoom (lists room : Nat) (switch : Bool) (schema inst : Value) (spare : Nat) :
    Coupling where
  scopes depth s s' := s' = { s with depth := s'.depth } ∧ s.interactive = switch ∧
    s'.depth + spare + (5 + 2 * lists) * depth + 3 ≤ room
  states := SameButFrames room switch schema inst
  cut _ _ := False
  off _ := False
  data σ := switch = false → σ.value = .missing ∨ σ.value.Inside inst
  still := switch = false

/-- Nodes that are the same and steady. -/
def SameSteady (switch : Bool) (schema inst : Value) (k l : Node) : Prop :=
  l = k ∧ Steady switch schema inst k

variable {lists room spare depth : Nat} {switch : Bool} {schema inst : Value}

namespace SameButFrames

variable {p p' : Progress}

/-- The same event in both journals, which tells of no frames that there is no room for. -/
theorem tell (h : SameButFrames room switch schema inst p p') {e : Event} (he : e.held ≤ room) :
    SameButFrames room switch schema inst (p.tell e) (p'.tell e) := by
  refine ⟨h.registry, h.writes, ?_, ?_, h.nothing_written, h.registered⟩
  · have hjournal := h.journal
    unfold Journal.withoutBeginnings at hjournal ⊢
    simp only [Progress.tell, List.filter_cons]
    rw [hjournal]
  · intro f hf
    rcases List.mem_cons.mp hf with rfl | hf
    · exact he
    · exact h.held f hf

/-- A beginning in the second journal only. -/
theorem begin (h : SameButFrames room switch schema inst p p') {n : Node} {trail : Trail}
    {frames : Nat} (hframes : frames ≤ room) :
    SameButFrames room switch schema inst p (p'.tell (.entered n trail frames)) := by
  refine ⟨h.registry, h.writes, h.journal, ?_, h.nothing_written, h.registered⟩
  intro f hf
  rcases List.mem_cons.mp hf with rfl | hf
  · exact hframes
  · exact h.held f hf

/-- A beginning in both journals, with a number of its own in each. -/
theorem enter (h : SameButFrames room switch schema inst p p') {n n' : Node} {trail trail' : Trail}
    {level frames : Nat} (hframes : frames ≤ room) :
    SameButFrames room switch schema inst (p.tell (.entered n trail level))
      (p'.tell (.entered n' trail' frames)) := by
  refine ⟨h.registry, h.writes, h.journal, ?_, h.nothing_written, h.registered⟩
  exact (h.begin hframes).held

end SameButFrames

/-- Events that are no beginnings tell of no frames. -/
theorem held_of_frames {e : Event} (h : e.frames = false) : e.held = 0 := by
  cases e <;> first | rfl | cases h

/-- Being the same steady node is a likeness. -/
theorem like_sameSteady : Likeness (SameSteady switch schema inst) where
  tree_eq := by
    rintro k _ ⟨rfl, _⟩
    rfl
  part := by
    rintro k _ ⟨rfl, hk⟩ step v hv
    exact ⟨rfl, hk.1, hk.2.of_part hv⟩
  blank := by
    rintro k _ ⟨rfl, hk⟩ step v hv
    exact ⟨rfl, hk.1, .blank hv⟩

/-- Nothing that a check does by itself takes frames, and a level takes as many as are reckoned for
    it. -/
theorem withinRoom_preserved :
    (withinRoom lists room switch schema inst spare).Preserved
      (SameSteady switch schema inst) where
  like := like_sameSteady
  place := by
    rintro depth s s' ⟨hs, _⟩
    rw [hs]
    exact ⟨rfl, rfl⟩
  child := by
    rintro depth s s' ⟨hs, hswitch, hroom⟩ step
    refine ⟨?_, hswitch, hroom⟩
    rw [hs]
    rfl
  slot h _ := ⟨h.registry, h.writes, h.journal, h.held, h.nothing_written, h.registered⟩
  note h e he := h.tell (by rw [held_of_frames he]; exact Nat.zero_le _)
  register := by
    rintro _ k ⟨rfl, hk⟩ s s' p p' id h _
    have hnews := news_frames p.registry id k
    refine ⟨?_, h.writes, ?_, ?_, h.nothing_written, ?_⟩
    · exact congrArg (·.insert id k) h.registry
    · show Journal.withoutBeginnings (p'.registry.news id k ++ p'.journal) =
        Journal.withoutBeginnings (p.registry.news id k ++ p.journal)
      have hjournal := h.journal
      unfold Journal.withoutBeginnings at hjournal ⊢
      -- both runs tell the same of an id, as their registries are the same
      rw [h.registry, List.filter_append, List.filter_append, hjournal]
    · intro e he
      have hmem : e ∈ p'.registry.news id k ++ p'.journal := he
      rw [h.registry] at hmem
      rcases List.mem_append.mp hmem with hmem | hmem
      · rw [held_of_frames (hnews e hmem)]
        exact Nat.zero_le _
      · exact h.held e hmem
    · intro ref target hfind
      rcases Registry.find?_insert_cases hfind with hold | hnew
      · exact h.registered hold
      · rw [hnew]
        exact hk
  content := by
    rintro k _ ⟨rfl, hk⟩ p p' h _
    rw [h.writes, hk.content h.nothing_written]
    exact ⟨rfl, rfl, hk⟩
  cut_at h _ := h
  not_data h := h.elim
  enter := by
    rintro k _ ⟨rfl, hk⟩ depth s s' p p' ⟨hs, hswitch, hroom⟩ h
    -- the level that begins was reckoned with among those that may still be nested
    rw [Nat.mul_succ] at hroom
    refine ⟨⟨?_, hswitch, ?_⟩, h.enter ?_⟩
    · rw [hs]
      rfl
    · show s'.depth + 1 + spare + (5 + 2 * lists) * depth + 3 ≤ room
      omega
    · show s'.depth + 1 ≤ room
      omega
  leave := by
    rintro k _ ⟨rfl, _⟩ p p' h r _
    exact h.tell (Nat.zero_le _)
  cut_leave h := h.elim
  data_below := by
    intro c hdata step hswitch
    exact Value.inside_below (hdata hswitch) step
  data_held _ := Or.inl rfl
  still_or := by
    -- the slot stays as it is where nothing is written, and elsewhere nothing is asked of it
    cases hswitch : switch with
    | false => exact Or.inl rfl
    | true =>
      right
      intro σ hoff
      cases hoff
  lasting := .never
  total := Or.inl fun _ => id

/-! ## Putting counted checks together -/

namespace Coupled

variable {α β γ δ : Type} {R : α → β → Prop} {Q : γ → δ → Prop}

/-- One after the other: nothing ever keeps the second from being looked at. -/
theorem next {c : Check α} {d : Check β} {f : α → Check γ} {g : β → Check δ}
    (hc : Coupled (withinRoom lists room switch schema inst spare) depth R c d)
    (hf : ∀ a b, R a b →
      Coupled (withinRoom lists room switch schema inst spare) depth Q (f a) (g b)) :
    Coupled (withinRoom lists room switch schema inst spare) depth Q (c >>= f) (d >>= g) :=
  .bind withinRoom_preserved hc (fun _ _ _ _ hoff => hoff) hf

/-- Frames to spare need not be used up. -/
theorem weaken {c : Check α} {d : Check β}
    (h : Coupled (withinRoom lists room switch schema inst spare) depth R c d) {more : Nat}
    (hmore : spare ≤ more) :
    Coupled (withinRoom lists room switch schema inst more) depth R c d := by
  rintro s s' p p' ⟨hs, hswitch, hroom⟩ hp hslot hdata hoff
  have hscopes : (withinRoom lists room switch schema inst spare).scopes depth s s' :=
    ⟨hs, hswitch, by omega⟩
  rcases h s s' p p' hscopes hp hslot hdata hoff with ⟨_, _, hcut⟩ | hjoined
  · exact hcut.elim
  · exact Or.inr ⟨hjoined.result, hjoined.states, hjoined.slot, hjoined.still⟩

/-- Calls around the counted check use up as many of the frames to spare as they hold. -/
theorem calling {c : Check α} {d : Check β}
    (h : Coupled (withinRoom lists room switch schema inst spare) depth R c d) {peak held : Nat}
    (hpeak : peak ≤ held + 3) (n : Node) :
    Coupled (withinRoom lists room switch schema inst (spare + held)) depth R c
      (calling peak held n d) := by
  rintro s s' p p' ⟨hs, hswitch, hroom⟩ hp hslot hdata hoff
  let inner : Scope := { s' with depth := s'.depth + held }
  have hscopes : (withinRoom lists room switch schema inst spare).scopes depth s inner := by
    refine ⟨?_, hswitch, ?_⟩
    · show { s' with depth := s'.depth + held } = { s with depth := s'.depth + held }
      rw [hs]
    · show s'.depth + held + spare + (5 + 2 * lists) * depth + 3 ≤ room
      omega
  -- three more than are held are there in any case, for a last check that is refused
  have hframes : s'.depth + peak ≤ room := by omega
  have hbegun : SameButFrames room switch schema inst p
      (p'.tell (.entered n s'.trail (s'.depth + peak))) := hp.begin hframes
  rcases h s inner p _ hscopes hbegun hslot hdata hoff with ⟨_, _, hcut⟩ | hjoined
  · exact hcut.elim
  · exact Or.inr ⟨hjoined.result, hjoined.states, hjoined.slot, hjoined.still⟩

end Coupled

/-! ## Rules without calls of their own -/

section Rules

variable {visit visit' : Node → Check Unit} {n : Node}

/-- Checks that go the same way are coupled, if the visits they make are. -/
theorem coupled_of_parallel (hn : Steady switch schema inst n)
    (hvisit : ∀ k, Steady switch schema inst k →
      Coupled (withinRoom lists room switch schema inst spare) depth Eq (visit k) (visit' k))
    {α β : Type} {R : α → β → Prop} {c : Check α} {d : Check β}
    (h : Parallel ⟨SameSteady switch schema inst, visit, visit', n, n⟩ R c d) :
    Coupled (withinRoom lists room switch schema inst spare) depth R c d := by
  have hlike (k l : Node) (hkl : SameSteady switch schema inst k l) :
      Coupled (withinRoom lists room switch schema inst spare) depth Eq (visit k) (visit' l) := by
    obtain ⟨rfl, hk⟩ := hkl
    exact hvisit _ hk
  have hinteractive {s s' : Scope}
      (hs : (withinRoom lists room switch schema inst spare).scopes depth s s') :
      s.interactive = s'.interactive := by rw [hs.1]
  have hlast (k : Node) : Lasts (fun _ => False) Eq (visit k) := .of_unit fun _ _ hoff => hoff
  refine Parallel.coupled withinRoom_preserved hlast hlike ?_ ?_ ?_ h
  · -- the same steady schema is found under a name by both
    refine refRule_coupled_of_known withinRoom_preserved ⟨rfl, hn⟩ hlast hvisit ?_ ?_
    · intro p p' hp ref target hfind
      refine ⟨hp.registered hfind, ?_⟩
      rwa [hp.registry]
    · intro p p' hp trail ref hfind _
      rwa [hp.registry]
  · -- schemas that entries carry are in use where they are enforced
    refine fun key => ownSchema_coupled withinRoom_preserved hlike hinteractive ?_ key
    intro s s' hs hi σ hdata key es own he ho _
    have hswitch : switch = false := by rw [← hs.2.1]; exact hi
    refine ⟨?_, Or.inr hswitch, Value.inUse_of_entry (hdata hswitch) he ho⟩
    rw [hs.1]
    rfl
  · -- what is written is written by both
    refine missingRules_coupled withinRoom_preserved hinteractive ?_ ⟨rfl, hn⟩ ?_
    · intro s s' hs hstill
      rw [hs.2.1]
      exact hstill
    · intro s s' hs p p' hp σ v hm _
      have hon := (of_missed_filled hm).1
      rw [hs.2.1] at hon
      refine ⟨hp.registry, ?_, ?_, ?_, ?_, hp.registered⟩
      · show (⟨s'.place, v⟩ : Write) :: p'.writes = ⟨s.place, v⟩ :: p.writes
        rw [hp.writes, hs.1]
      · have htrail := (withinRoom_preserved.place hs).2
        show Journal.withoutBeginnings (.defaultWritten s'.trail v :: p'.journal) =
          Journal.withoutBeginnings (.defaultWritten s.trail v :: p.journal)
        rw [← htrail]
        exact (hp.tell (e := .defaultWritten s.trail v) (Nat.zero_le _)).journal
      · exact (hp.tell (e := .defaultWritten s'.trail v) (Nat.zero_le _)).held
      · intro hoff
        -- a default has been written, so they are
        rw [hon] at hoff
        cases hoff

/-- A rule that is given is part of a steady schema, and what the schema says under its name. -/
theorem whenGiven_coupled (hn : Steady switch schema inst n) (name : String)
    {rule rule' : Node → Check Unit}
    (h : ∀ r, Steady switch schema inst r → n.tree.get? name = some r.tree →
      Coupled (withinRoom lists room switch schema inst spare) depth Eq (rule r) (rule' r)) :
    Coupled (withinRoom lists room switch schema inst spare) depth Eq (whenGiven n name rule)
      (whenGiven n name rule') := by
  intro s s' p p' hs hp hslot hdata hoff
  -- both runs read the rule that stands in the schema, as it does not change
  have hcontent : n.content p.writes = n.tree := hn.content hp.nothing_written
  have hcontent' : n.content p'.writes = n.tree := by rw [hp.writes, hcontent]
  rw [whenGiven_run_of_content hcontent, whenGiven_run_of_content hcontent']
  cases hr : n.tree.rule? name with
  | none => exact Or.inr ⟨.ok rfl, hp, hslot, fun _ => rfl⟩
  | some r =>
    have hget : n.tree.get? name = some r := Option.eq_some_of_filter_eq_some hr
    have hsteady : Steady switch schema inst (n.down (.name name) r) :=
      ⟨hn.1, hn.2.of_part (Value.mem_parts_of_get? hget)⟩
    exact h _ hsteady hget s s' p p' hs hp hslot hdata id

end Rules

/-! ## Types -/

section Types

variable {visit visit' : Node → Check Unit}
  (hvisit : ∀ k, Steady switch schema inst k →
    Coupled (withinRoom lists room switch schema inst 0) depth Eq (visit k) (visit' k))

include hvisit

/-- A check that goes the same way as another and makes no calls of its own, whatever there is to
    spare. -/
theorem coupled_of_parallel_self {n : Node} (hn : Steady switch schema inst n) {α β : Type}
    {R : α → β → Prop} {c : Check α} {d : Check β}
    (h : Parallel ⟨SameSteady switch schema inst, visit, visit', n, n⟩ R c d) (spare : Nat) :
    Coupled (withinRoom lists room switch schema inst spare) depth R c d :=
  (coupled_of_parallel hn hvisit h).weaken (Nat.zero_le spare)

mutual

/-- Two frames for each list are enough for a resolved expression. -/
theorem resolvedType_coupled {t u : TypeTest} :
    Parallel.LikeTest (SameSteady switch schema inst) t u → ∀ {expr : Node},
      Steady switch schema inst expr → ∀ {spare : Nat}, 2 * t.listDepth ≤ spare →
        Coupled (withinRoom lists room switch schema inst spare) depth Eq
          (Check.resolvedType visit t expr) (Counted.resolvedType visit' u expr)
  | .anything, _, _, _, _ => .skip
  | .classes members, expr, hexpr, spare, _ => by
    refine coupled_of_parallel_self hvisit hexpr ?_ spare
    refine .bind .value ?_
    rintro x _ rfl
    cases x.isInstance members
    · exact .mismatch ⟨rfl, hexpr⟩
    · exact .skip
  | .schema ⟨hkl, hk⟩, _, _, spare, _ => by
    cases hkl
    exact (hvisit _ hk).weaken (Nat.zero_le spare)
  | .anyOf hts, expr, hexpr, spare, hspare => by
    -- one list is gone into, and its two frames are left for each alternative
    rw [TypeTest.listDepth] at hspare
    refine .next (anyAlternative_coupled hts hexpr 0 ?_) ?_
    · omega
    · rintro b _ rfl
      cases b
      · exact coupled_of_parallel_self hvisit hexpr (.mismatch ⟨rfl, hexpr⟩) spare
      · exact .skip

/-- An alternative is checked within two calls, so it needs two frames more than its lists do. -/
theorem anyAlternative_coupled {ts us : List TypeTest} :
    Parallel.LikeTests (SameSteady switch schema inst) ts us → ∀ {expr : Node},
      Steady switch schema inst expr → ∀ (i : Nat) {spare : Nat},
        2 * listDepthOfTests ts + 2 ≤ spare →
          Coupled (withinRoom lists room switch schema inst spare) depth Eq
            (Check.anyAlternative visit ts expr i) (Counted.anyAlternative visit' us expr i)
  | .nil, _, _, _, _, _ => .pure rfl
  | .cons (t := t) ht hts, expr, hexpr, i, spare, hspare => by
    rw [listDepthOfTests] at hspare
    -- two of the frames go to the calls, and the rest is enough for the lists further in
    obtain ⟨rest, rfl⟩ : ∃ rest, spare = rest + 2 := ⟨spare - 2, by omega⟩
    let P : Pairing := ⟨SameSteady switch schema inst, visit, visit', expr, expr⟩
    have helement : Parallel P P.alike (element expr i) (element expr i) :=
      Parallel.element (P := P) like_sameSteady ⟨rfl, hexpr⟩ i
    refine .next (coupled_of_parallel_self hvisit hexpr helement (rest + 2)) ?_
    rintro _ alternative ⟨rfl, halternative⟩
    have htest : Coupled (withinRoom lists room switch schema inst rest) depth Eq
        (Check.resolvedType visit _ alternative) (Counted.resolvedType visit' _ alternative) :=
      resolvedType_coupled ht halternative (by omega)
    have hcalled := htest.calling (by omega : 2 ≤ 2 + 3) alternative
    refine .next (.attempt withinRoom_preserved hcalled) ?_
    rintro r _ rfl
    cases r with
    | none => exact .pure rfl
    | some e =>
      -- the rejection is told in the same words, and the rest is tried
      have hscope : Coupled (withinRoom lists room switch schema inst (rest + 2)) depth
          (fun s s' => s.key = s'.key ∧ s.trail = s'.trail) Check.scope Check.scope :=
        coupled_of_parallel_self hvisit hexpr .scope _
      refine .next hscope fun s s' hs => ?_
      refine .next (content_coupled withinRoom_preserved ⟨rfl, halternative⟩) ?_
      rintro a _ ⟨rfl, _⟩
      rw [hs.2]
      refine .next (.note withinRoom_preserved rfl) fun _ _ _ => ?_
      exact anyAlternative_coupled hts hexpr (i + 1) (by omega)

end

/-- So two frames for each list are enough for a type expression. -/
theorem typeRule_coupled {expr : Node} (hexpr : Steady switch schema inst expr)
    (hspare : 2 * expr.tree.listDepth ≤ spare) :
    Coupled (withinRoom lists room switch schema inst spare) depth Eq (Check.typeRule visit expr)
      (Counted.typeRule visit' expr) := by
  intro s s' p p' hs hp hslot hdata hoff
  have hcontent : expr.content p.writes = expr.tree := hexpr.content hp.nothing_written
  have hcontent' : expr.content p'.writes = expr.tree := by rw [hp.writes, hcontent]
  let P : Pairing := ⟨SameSteady switch schema inst, visit, visit', expr, expr⟩
  have hresolved := Parallel.likeTest_ofValue (P := P) like_sameSteady expr.tree ⟨rfl, hexpr⟩
  unfold Check.typeRule Counted.typeRule
  rw [content_bind, content_bind, hcontent, hcontent']
  cases htest : TypeTest.ofValue expr.origin expr.tree with
  | error name =>
    have hfails : Parallel P Eq (Check.failPlaceless (.unsupportedType name) : Check Unit)
        (Check.failPlaceless (.unsupportedType name)) := .failPlaceless _
    exact coupled_of_parallel_self hvisit hexpr hfails spare s s' p p' hs hp hslot hdata id
  | ok t =>
    rw [htest] at hresolved
    rw [← TypeTest.listDepth_of_ofValue _ htest] at hspare
    cases hresolved with
    | ok ht =>
      exact resolvedType_coupled hvisit ht hexpr hspare s s' p p' hs hp hslot hdata id

/-! ## One value, one schema -/

/-- The rule `disallow` takes three calls, and two frames for each list. -/
theorem disallowRule_coupled {n : Node} (hn : Steady switch schema inst n)
    (hlists : n.tree.ListsWithin lists) :
    Coupled (withinRoom lists room switch schema inst (2 * lists + 3)) depth Eq
      (Check.disallowRule visit n) (Counted.disallowRule visit' n) := by
  refine whenGiven_coupled hn "disallow" fun expr hexpr hget => ?_
  have hdepth := hlists "disallow" (Or.inr rfl) expr.tree hget
  have htype : Coupled (withinRoom lists room switch schema inst (2 * lists)) depth Eq
      (Check.typeRule visit expr) (Counted.typeRule visit' expr) :=
    typeRule_coupled hvisit hexpr (by omega)
  have hcalled := htype.calling (by omega : 3 ≤ 3 + 3) expr
  refine .next (.attempt withinRoom_preserved hcalled) ?_
  rintro r _ rfl
  -- an attempt takes up errors of the data alike in both runs
  cases r with
  | none => exact coupled_of_parallel_self hvisit hn (.fail _) _
  | some e => exact .skip

/-- Of the rules for a present value those on types hold the most frames. -/
theorem presentRules_coupled {n : Node} (hn : Steady switch schema inst n)
    (hlists : n.tree.ListsWithin lists) (v : Value) :
    Coupled (withinRoom lists room switch schema inst (2 * lists + 3)) depth Eq
      (Check.presentRules visit n v) (Counted.presentRules visit' n v) := by
  have htype : Coupled (withinRoom lists room switch schema inst (2 * lists + 3)) depth Eq
      (whenGiven n "type" (Check.typeRule visit))
      (whenGiven n "type" fun expr => calling 2 2 expr (Counted.typeRule visit' expr)) := by
    refine whenGiven_coupled hn "type" fun expr hexpr hget => ?_
    have hdepth := hlists "type" (Or.inl rfl) expr.tree hget
    have htype : Coupled (withinRoom lists room switch schema inst (2 * lists + 1)) depth Eq
        (Check.typeRule visit expr) (Counted.typeRule visit' expr) :=
      typeRule_coupled hvisit hexpr (by omega)
    exact htype.calling (by omega : 2 ≤ 2 + 3) expr
  -- a member takes fewer frames than a type may, and so it does with those to spare
  have hmember (k : Node) (hk : Steady switch schema inst k) :
      Coupled (withinRoom lists room switch schema inst (2 * lists + 3)) depth Eq (visit k)
        (Counted.memberVisit visit' k) :=
    ((hvisit k hk).calling (by omega : 4 ≤ 2 + 3) k).weaken (by omega)
  have hcontent : Coupled (withinRoom lists room switch schema inst (2 * lists + 3)) depth Eq
      (contentRules visit n v) (contentRules (Counted.memberVisit visit') n v) := by
    let P : Pairing := ⟨SameSteady switch schema inst, visit, Counted.memberVisit visit', n, n⟩
    have halike : P.alike n n := ⟨rfl, hn⟩
    have hmembers : Parallel P Eq (memberRules visit n v)
        (memberRules (Counted.memberVisit visit') n v) := .memberRules like_sameSteady halike v
    have hscalars : Parallel P Eq (scalarRules n v) (scalarRules n v) := .scalarRules halike v
    have hclosing : Parallel P Eq (closingRules n) (closingRules n) := .closingRules halike
    have hrules : Parallel P Eq (contentRules visit n v)
        (contentRules (Counted.memberVisit visit') n v) := by
      refine .bind hmembers fun _ _ _ => ?_
      refine .bind hscalars fun _ _ _ => ?_
      exact hclosing
    exact coupled_of_parallel hn hmember hrules
  refine .next htype fun _ _ _ => .next (disallowRule_coupled hvisit hn hlists) fun _ _ _ => ?_
  cases v with
  | null => exact .skip
  | _ => exact hcontent

/-- Five frames for a level, less the two that the check of the schema holds itself, and two for each
    list are enough for all rules. -/
theorem property_coupled {n : Node} (hn : Steady switch schema inst n)
    (hlists : n.tree.ListsWithin lists) :
    Coupled (withinRoom lists room switch schema inst (2 * lists + 3)) depth Eq
      (Check.property visit n) (Counted.property visit' n) := by
  let P : Pairing := ⟨SameSteady switch schema inst, visit, visit', n, n⟩
  have halike : P.alike n n := ⟨rfl, hn⟩
  have hid : Parallel P Eq (idRule n) (idRule n) := .idRule like_sameSteady halike
  have href : Parallel P Eq (refRule visit n) (refRule visit' n) := .reference
  have hextends : Parallel P Eq (extendsRule visit n) (extendsRule visit' n) :=
    .extendsRule like_sameSteady halike
  have hmissing : Parallel P Eq (missingRules n) (missingRules n) := .missing
  have hvalue : Parallel P Eq value value := .value
  -- an id, references and bases make no calls of their own
  refine .next (coupled_of_parallel_self hvisit hn hid _) fun _ _ _ => ?_
  refine .next (coupled_of_parallel_self hvisit hn href _) fun _ _ _ => ?_
  refine .next (coupled_of_parallel_self hvisit hn hextends _) fun _ _ _ => ?_
  refine .next (coupled_of_parallel_self hvisit hn hvalue _) ?_
  rintro v _ rfl
  cases v with
  | missing => exact coupled_of_parallel_self hvisit hn hmissing _
  | _ => exact presentRules_coupled hvisit hn hlists _

end Types

/-! ## All depths -/

/-- One level further up there are frames for the check itself, and those for its rules. -/
theorem nested_counted {n : Node} {c d : Check Unit}
    (h : Coupled (withinRoom lists room switch schema inst (2 * lists + 4)) depth Eq c d) :
    Coupled (withinRoom lists room switch schema inst 0) (depth + 1) Eq (nested n c)
      (nested n d) := by
  rintro s s' p p' ⟨hs, hswitch, hroom⟩ hp hslot hdata _
  -- the frames of this level are those to spare below, and the one that the check holds
  rw [Nat.mul_succ] at hroom
  have hscopes : (withinRoom lists room switch schema inst (2 * lists + 4)).scopes depth s.deeper
      s'.deeper := by
    refine ⟨?_, hswitch, ?_⟩
    · rw [hs]
      rfl
    · show s'.depth + 1 + (2 * lists + 4) + (5 + 2 * lists) * depth + 3 ≤ room
      omega
  have hframes : s'.depth + 1 ≤ room := by omega
  have hentered : SameButFrames room switch schema inst
      (p.tell (.entered n s.trail s.deeper.depth))
      (p'.tell (.entered n s'.trail s'.deeper.depth)) := hp.enter hframes
  rcases h _ _ _ _ hscopes hentered hslot hdata id with ⟨_, _, hcut⟩ | hjoined
  · exact hcut.elim
  · refine Or.inr ⟨hjoined.result, ?_, hjoined.slot, hjoined.still⟩
    have hsame := hjoined.result.eq
    unfold nested
    dsimp only
    rw [show (d { s' with depth := s'.depth + 1 } { p' with
      journal := .entered n s'.trail (s'.depth + 1) :: p'.journal }).1 = _ from hsame]
    exact hjoined.states.tell (Nat.zero_le _)

/-- A call that comes back at once passes over what is no schema. -/
theorem returns_counted (n : Node) :
    Coupled (withinRoom lists room switch schema inst spare) depth Eq (pure ())
      (calling 1 1 n (pure ())) := by
  rintro s s' p p' ⟨_, _, hroom⟩ hp hslot _ _
  have hframes : s'.depth + 1 ≤ room := by omega
  exact Or.inr ⟨.ok rfl, hp.begin hframes, hslot, fun _ => rfl⟩

/-- A check that is refused is refused with the same error, and there are three frames for it. -/
theorem refused_counted (n : Node) :
    Coupled (withinRoom lists room switch schema inst spare) depth Eq Counted.refused
      (calling 3 1 n Counted.refused) := by
  rintro s s' p p' ⟨hs, _, hroom⟩ hp hslot _ _
  have hframes : s'.depth + 3 ≤ room := by omega
  refine Or.inr ⟨?_, hp.begin hframes, hslot, fun _ => rfl⟩
  show SameEnd Eq (.error (.violation ⟨.tooDeep s.limit, s.key, some s.trail⟩))
    (.error (.violation ⟨.tooDeep s'.limit, s'.key, some s'.trail⟩))
  rw [hs]
  exact .error _

/-- A check against a schema takes the course of its counted form, and holds no more frames than five
    and two for each list at every level, and three at last. -/
theorem against_counted
    (hlists : ∀ x : Value, x.InUse schema inst → x.ListsWithin lists) (depth : Nat) {n : Node}
    (hn : Steady switch schema inst n) :
    Coupled (withinRoom lists room switch schema inst 0) depth Eq (against depth n)
      (Counted.against depth n) := by
  -- the levels that may still be nested; the frames to spare are used up at each of them
  induction depth generalizing n with
  | zero =>
    refine .next (content_coupled withinRoom_preserved ⟨rfl, hn⟩) ?_
    rintro v _ ⟨rfl, _⟩
    cases v.isMap with
    | true => exact refused_counted n
    | false => exact returns_counted n
  | succ depth ih =>
    have hvisit (k : Node) (hk : Steady switch schema inst k) :
        Coupled (withinRoom lists room switch schema inst 0) depth Eq (against depth k)
          (Counted.against depth k) := ih hk
    have hrules := property_coupled hvisit hn (hlists n.tree hn.2)
    have hcalled := hrules.calling (by omega : 2 ≤ 1 + 3) n
    refine .next (content_coupled withinRoom_preserved ⟨rfl, hn⟩) ?_
    rintro v _ ⟨rfl, _⟩
    cases v.isMap with
    | true => exact nested_counted hcalled
    | false => exact returns_counted n

end Check

end Conformance

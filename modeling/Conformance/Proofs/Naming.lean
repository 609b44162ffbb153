/-
  Ids over whole sessions.

  A validator is used for one call after another, some of which fail.  What its registry holds in
  the end is told by the journals of the calls alone (`session_registry`): every schema that was
  entered under an id is named there, and the registry lists the ids named in the order in which
  they first were, each with the schema that was first.

  Within one call the condition to be kept is that the registry holds the names it began with and
  then those in the journal so far, the first of each id (`namesAccounted_preserved`).  Which id a
  schema has is asked when it is entered, and it may be part of the instance and have been written
  to by then, so the names are read off the journal together with the defaults it tells of
  (`Journal.namings`).
-/
import Mathlib.Data.List.Induction
import Conformance.Proofs.Invariants

namespace Conformance

/-! ## Names in a journal -/

/-- The name that an event gives: a schema is entered, and it has an id as it reads by then. -/
def Event.naming? (writes : List Write) : Event → Option (String × Place)
  | .entered n _ _ => ((n.content writes).rule? "id").map fun id => (id.text, n.origin)
  | _ => none

/-- A name is given where a schema is entered that has an id as it reads by then. -/
theorem Event.naming?_eq_some {e : Event} {writes : List Write} {id : String} {place : Place} :
    e.naming? writes = some (id, place) ↔ ∃ n trail depth given, e = .entered n trail depth ∧
      (n.content writes).rule? "id" = some given ∧ given.text = id ∧ n.origin = place := by
  constructor
  · intro h
    cases e with
    | entered n trail depth =>
      obtain ⟨given, hid, hname⟩ := Option.map_eq_some_iff.mp h
      cases hname
      exact ⟨n, trail, depth, given, rfl, hid, rfl, rfl⟩
    | _ => cases h
  · rintro ⟨n, trail, depth, given, rfl, hid, rfl, rfl⟩
    exact Option.map_eq_some_iff.mpr ⟨given, hid, rfl⟩

namespace Journal

variable (renewals : List Place) (root : Place)

/-- The defaults that a journal tells of, as writes in the document at a place. -/
def writes (j : Journal) : List Write := j.deposits.map (Deposit.write renewals root)

/-- The names given in a journal whose latest event stands first, the earliest name first. -/
def namings : Journal → List (String × Place)
  | [] => []
  | e :: older => namings older ++ (e.naming? (writes renewals root older)).toList

/-- Names in a journal are those of its events, each read with the defaults written before it. -/
theorem mem_namings {m : String × Place} {j : Journal} : m ∈ namings renewals root j ↔
    ∃ newer e older, j = newer ++ e :: older ∧ e.naming? (writes renewals root older) = some m := by
  -- the latest event stands first, so it is the older ones that the hypothesis is about
  induction j with
  | nil =>
    constructor
    · intro hm
      cases hm
    · rintro ⟨newer, e, older, hj, _⟩
      cases newer <;> cases hj
  | cons e j ih =>
    rw [namings, List.mem_append, ih, Option.mem_toList]
    constructor
    · rintro (⟨newer, f, older, hj, hf⟩ | he)
      · exact ⟨e :: newer, f, older, by rw [hj]; rfl, hf⟩
      · exact ⟨[], e, j, rfl, he⟩
    · rintro ⟨newer, f, older, hj, hf⟩
      cases newer with
      | nil =>
        cases hj
        exact Or.inr hf
      | cons g newer =>
        cases hj
        exact Or.inl ⟨newer, f, older, rfl, hf⟩

end Journal

/-! ## The first of each name -/

/-- Names with another one at the end, unless it is among them. -/
def keepFirst (known : List (String × Place)) (m : String × Place) : List (String × Place) :=
  if (known.lookup m.1).isSome then known else known ++ [m]

/-- Something is found under the ids that are listed, and under no others. -/
theorem lookup_isSome_iff {α : Type} {entries : List (String × α)} {id : String} :
    (entries.lookup id).isSome = true ↔ id ∈ entries.map (·.1) := by
  induction entries with
  | nil => simp
  | cons e entries ih =>
    obtain ⟨k, a⟩ := e
    rw [List.lookup_cons, List.map_cons, List.mem_cons]
    by_cases hk : id = k
    · simp [hk]
    · rw [beq_false_of_ne hk]
      simp only [hk, false_or]
      exact ih

/-- Whether a name is kept or passed over, looking up finds the same as if it were kept. -/
theorem keepFirst_lookup (known : List (String × Place)) (m : String × Place) (id : String) :
    (keepFirst known m).lookup id = (known ++ [m]).lookup id := by
  unfold keepFirst
  split
  · next hsome =>
    rw [List.lookup_append]
    -- the name at the end is passed over, and only its own id could find it there
    by_cases hid : id = m.1
    · rw [hid]
      obtain ⟨place, hplace⟩ := Option.isSome_iff_exists.mp hsome
      rw [hplace]
      rfl
    · rw [List.lookup_cons, beq_false_of_ne hid]
      cases known.lookup id <;> rfl
  · rfl

/-- Whatever is looked up among the names kept is the first one given. -/
theorem foldl_keepFirst_lookup (known names : List (String × Place)) (id : String) :
    (names.foldl keepFirst known).lookup id = (known ++ names).lookup id := by
  induction names generalizing known with
  | nil => rw [List.foldl_nil, List.append_nil]
  | cons m names ih =>
    rw [List.foldl_cons, ih, List.lookup_append, keepFirst_lookup, ← List.lookup_append,
      List.append_assoc]
    rfl

/-- Names that are kept stay where they are. -/
theorem prefix_foldl_keepFirst (known names : List (String × Place)) :
    known <+: names.foldl keepFirst known := by
  induction names generalizing known with
  | nil => exact List.prefix_refl known
  | cons m names ih =>
    refine List.IsPrefix.trans ?_ (ih (keepFirst known m))
    unfold keepFirst
    split
    · exact List.prefix_refl known
    · exact List.prefix_append known [m]

/-- Keeping the first of each id lists no id twice. -/
theorem nodup_foldl_keepFirst {known : List (String × Place)} (h : (known.map (·.1)).Nodup)
    (names : List (String × Place)) : ((names.foldl keepFirst known).map (·.1)).Nodup := by
  induction names generalizing known with
  | nil => exact h
  | cons m names ih =>
    -- one name at a time
    apply ih
    unfold keepFirst
    split
    · exact h
    · next hnone =>
      rw [lookup_isSome_iff] at hnone
      rw [List.map_append, List.map_singleton]
      exact List.nodup_append.mpr ⟨h, by simp, fun a ha b hb hab => by
        rw [List.mem_singleton.mp hb] at hab
        exact hnone (hab ▸ ha)⟩

/-- The names kept are all names given, each where it was given first. -/
theorem foldl_keepFirst_ids (names : List (String × Place)) :
    (names.foldl keepFirst []).map (·.1) = (names.map (·.1)).eraseDups := by
  -- from the end, where both sides decide on the last name by those before it
  induction names using List.reverseRecOn with
  | nil => rfl
  | append_singleton names m ih =>
    have hknown : ((names.foldl keepFirst []).lookup m.1).isSome = true ↔ m.1 ∈ names.map (·.1) := by
      rw [foldl_keepFirst_lookup, List.nil_append]
      exact lookup_isSome_iff
    rw [List.foldl_append, List.foldl_cons, List.foldl_nil, List.map_append, List.map_singleton,
      List.eraseDups_append, ← ih]
    -- an id that has come before is dropped on both sides, any other is added on both
    by_cases hm : m.1 ∈ names.map (·.1)
    · have hremoved : [m.1].removeAll (names.map (·.1)) = [] := by simpa [List.removeAll] using hm
      rw [hremoved, keepFirst, if_pos (hknown.mpr hm)]
      exact (List.append_nil _).symm
    · have hkept : [m.1].removeAll (names.map (·.1)) = [m.1] := by simpa [List.removeAll] using hm
      rw [hkept, keepFirst, if_neg (fun h => hm (hknown.mp h)), List.map_append]
      rfl

/-- What a registry holds: its ids, each with where the schema stands. -/
def Registry.marks (r : Registry) : List (String × Place) := r.entries.map fun e => (e.1, e.2.origin)

namespace Registry

/-- Looking up among the marks is asking the registry. -/
theorem marks_lookup (r : Registry) (id : String) :
    r.marks.lookup id = (r.find? id).map (·.origin) := by
  unfold marks find?
  induction r.entries with
  | nil => rfl
  | cons e entries ih =>
    obtain ⟨k, n⟩ := e
    rw [List.map_cons, List.lookup_cons, List.lookup_cons]
    cases id == k with
    | true => rfl
    | false => exact ih

/-- The marks list the ids of the registry. -/
theorem marks_ids (r : Registry) : r.marks.map (·.1) = r.ids := by
  simp [marks, ids]

/-- Entering a schema under an id keeps the first one that has it. -/
theorem marks_insert (r : Registry) (id : String) (n : Node) :
    (r.insert id n).marks = keepFirst r.marks (id, n.origin) := by
  have hcontains : (r.marks.lookup id).isSome = r.contains id := by
    rw [marks_lookup, contains, Option.isSome_map]
  unfold keepFirst insert
  rw [hcontains]
  cases r.contains id with
  | true => rfl
  | false => simp [marks]

/-- Writes change what schemas say, and neither their ids nor where they stand. -/
theorem marks_settled (r : Registry) (writes : List Write) : (r.settled writes).marks = r.marks := by
  simp [marks, settled, Node.settled]

end Registry

namespace Check

/-! ## Names within one call -/

/-- The writes are those in the journal, and the registry holds what it held at first and the names
    in the journal, the first of each id. -/
structure Accounted (renewals : List Place) (root : Place) (start : List (String × Place))
    (s : Scope) (p : Progress) : Prop where
  same : s.renewals = renewals
  place : s.place = root.along renewals s.trail
  writes : p.writes = Journal.writes renewals root p.journal
  marks : p.registry.marks = (Journal.namings renewals root p.journal).foldl keepFirst start

/-- Checks keep an account of the names they give. -/
def namesAccounted (renewals : List Place) (root : Place) (start : List (String × Place)) :
    RunInvariant where
  known _ := True
  inv := Accounted renewals root start
  fails _ _ _ := True

variable {renewals : List Place} {root : Place} {start : List (String × Place)} {s : Scope}
  {p : Progress}

/-- Events that neither enter a schema nor deposit anything are of no account. -/
theorem Accounted.events (h : Accounted renewals root start s p) (es : List Event)
    (hnaming : ∀ e ∈ es, ∀ writes, e.naming? writes = none)
    (hdeposits : Journal.deposits es = []) :
    Accounted renewals root start s { p with journal := es ++ p.journal } := by
  have hnamings : Journal.namings renewals root (es ++ p.journal) =
      Journal.namings renewals root p.journal := by
    -- that there are no deposits is not needed here, and would be in the way of the induction
    clear hdeposits
    induction es with
    | nil => rfl
    | cons e es ih =>
      have hnone := hnaming e (List.mem_cons_self ..) (Journal.writes renewals root (es ++ p.journal))
      rw [List.cons_append, Journal.namings, hnone, ih fun f hf =>
        hnaming f (List.mem_cons_of_mem e hf)]
      exact List.append_nil _
  have hwrites : Journal.writes renewals root (es ++ p.journal) =
      Journal.writes renewals root p.journal := by
    unfold Journal.writes
    rw [Journal.deposits_append, hdeposits]
    rfl
  refine ⟨h.same, h.place, ?_, ?_⟩
  · rw [hwrites]
    exact h.writes
  · show p.registry.marks = _
    rw [hnamings]
    exact h.marks

/-- Only events that frame a check can give names. -/
theorem naming?_of_frames {e : Event} (h : e.frames = false) (writes : List Write) :
    e.naming? writes = none := by
  cases e <;> first | rfl | cases h

/-- A schema that is entered and registered under its id is accounted for. -/
theorem Accounted.enter (h : Accounted renewals root start s p) (k : Node) (trail : Trail)
    (depth : Nat) :
    Accounted renewals root start s ((p.tell (.entered k trail depth)).named k) := by
  have hcontent : k.content (p.tell (.entered k trail depth)).writes =
      k.content (Journal.writes renewals root p.journal) := by
    rw [← h.writes]
    rfl
  have hwrites : Journal.writes renewals root (p.tell (.entered k trail depth)).journal =
      Journal.writes renewals root p.journal := rfl
  unfold Progress.named
  rw [hcontent]
  -- without an id nothing is registered, and no name is given either
  cases hid : (k.content (Journal.writes renewals root p.journal)).rule? "id" with
  | none =>
    refine ⟨h.same, h.place, h.writes, ?_⟩
    show p.registry.marks = (Journal.namings renewals root
      (.entered k trail depth :: p.journal)).foldl keepFirst start
    rw [Journal.namings, Event.naming?, hid, h.marks]
    simp
  | some id =>
    have hentered : Accounted renewals root start s
        { p.tell (.entered k trail depth) with registry := p.registry.insert id.text k } := by
      refine ⟨h.same, h.place, h.writes, ?_⟩
      show (p.registry.insert id.text k).marks = (Journal.namings renewals root
        (.entered k trail depth :: p.journal)).foldl keepFirst start
      rw [Journal.namings, Event.naming?, hid, Registry.marks_insert, h.marks]
      simp
    exact hentered.events _ (fun e he => naming?_of_frames (news_frames _ _ _ e he)) (deposits_news ..)

/-- Every step of a check keeps the account: names are given where schemas are entered, and writes
    are told of where they are made. -/
theorem namesAccounted_preserved (renewals : List Place) (root : Place)
    (start : List (String × Place)) :
    (namesAccounted renewals root start).Preserved where
  part _ _ _ _ := trivial
  blank _ _ _ _ := trivial
  content _ _ _ _ := trivial
  found _ _ _ _ := trivial
  carried _ _ _ _ _ _ _ := trivial
  note := by
    intro s p h e hframes hdeposit
    refine h.events [e] ?_ ?_
    · intro f hf
      rw [List.mem_singleton.mp hf]
      exact naming?_of_frames hframes
    · simp [Journal.deposits, hdeposit]
  written := by
    intro s p h n σ v _ _
    refine ⟨h.same, h.place, ?_, ?_⟩
    · show ⟨s.place, v⟩ :: p.writes = _
      -- the default goes where the check stands, which is where its trail leads from the root
      rw [h.place, h.writes]
      rfl
    · show p.registry.marks = (Journal.namings renewals root
        (.defaultWritten s.trail v :: p.journal)).foldl keepFirst start
      rw [Journal.namings, h.marks]
      simp [Event.naming?]
  child := by
    intro s p h c _ step
    refine ⟨h.same, ?_, h.writes, h.marks⟩
    show (s.place.down step).current s.renewals = root.along renewals (s.trail ++ [step])
    -- a step down renews the place as following the trail does
    rw [Place.along_append, h.place, h.same]
  back h _ _ _ _ _ _ hq := ⟨h.same, h.place, hq.writes, hq.marks⟩
  fails_back _ _ _ _ _ _ _ _ _ := trivial
  enter := by
    intro k _ s p h
    have hdeeper : Accounted renewals root start s.deeper p :=
      ⟨h.same, h.place, h.writes, h.marks⟩
    exact hdeeper.enter k s.trail s.deeper.depth
  leave := by
    intro k s q h r
    have hshallow : Accounted renewals root start s q := ⟨h.same, h.place, h.writes, h.marks⟩
    refine hshallow.events [.left k r] ?_ rfl
    intro f hf writes
    rw [List.mem_singleton.mp hf]
    rfl
  fails_leave _ _ := trivial
  fail _ _ _ _ := trivial
  failAt _ _ _ _ _ := trivial
  failKeyless _ _ _ _ := trivial
  failPlaceless _ _ _ := trivial
  tooDeep _ := trivial
  missing _ _ := trivial
  fault _ _ _ _ _ _ _ := trivial
  astray _ _ _ := trivial
  changed _ _ _ _ _ _ _ _ := trivial

end Check

/-! ## Sessions -/

/-- A call on a validator: of a whole instance, or of the value under a key of a parent. -/
inductive Call where
  | validate (inst schema : Node)
  | check (inst schema : Node)
  | property (parent : Node) (key : Value) (handedIn : Option Node) (schema : Node)

namespace Validator

open Check

/-- The place of the value under a key of a parent, or of the one handed in by itself. -/
def memberPlace (v : Validator) (parent : Node) (key : Value) (handedIn : Option Node) : Place :=
  match handedIn, slotOf parent.tree key (handedIn.map (·.tree)) with
  | some n, .present _ => n.origin
  | _, _ => (parent.origin.down (parent.tree.stepTo key)).current v.renewals

/-- Where the value that a call is about stands. -/
def placeOf (v : Validator) : Call → Place
  | .validate inst _ => inst.origin
  | .check inst _ => inst.origin
  | .property parent key handedIn _ => v.memberPlace parent key handedIn

/-- What a call leaves: the validator after it, and its journal. -/
def perform (v : Validator) : Call → Validator × Journal
  | .validate inst schema =>
    ((v.validate inst schema).validator, (v.validate inst schema).journal)
  | .check inst schema => ((v.check inst schema).validator, (v.check inst schema).journal)
  | .property parent key handedIn schema =>
    let o := (v.checkProperty parent key handedIn schema).outcome
    (o.validator, o.journal)

/-- The validator after a call. -/
def after (v : Validator) (call : Call) : Validator := (v.perform call).1

/-- The names given in a call, in order. -/
def names (v : Validator) (call : Call) : List (String × Place) :=
  Journal.namings v.renewals (v.placeOf call) (v.perform call).2.reverse

/-- The validator after a session of calls. -/
def session (v : Validator) (calls : List Call) : Validator := calls.foldl after v

/-- The names given in a session, in order. -/
def sessionNames : Validator → List Call → List (String × Place)
  | _, [] => []
  | v, call :: rest => v.names call ++ (v.after call).sessionNames rest

/-- In some call of a session a schema is entered whose id, as it reads by then, has a certain text.
    A schema that is nested too deep is not entered, and only a mapping has rules. -/
def EntersNamed (v : Validator) (calls : List Call) (id : String) (place : Place) : Prop :=
  ∃ before call later newer n trail depth older given,
    calls = before ++ call :: later ∧
      ((v.session before).perform call).2.reverse = newer ++ .entered n trail depth :: older ∧
      (n.content (Journal.writes (v.session before).renewals
        ((v.session before).placeOf call) older)).rule? "id" = some given ∧
      given.text = id ∧ n.origin = place

/-- A run of a check that follows the account leaves the names it has given in the registry. -/
theorem run_marks (v : Validator) (key : Value) (place : Place) (slot : Slot) {c : Check Unit}
    (hc : ∀ s p, (namesAccounted v.renewals place v.registry.marks).inv s p →
      (namesAccounted v.renewals place v.registry.marks).inv s (c s p).2) :
    (v.run key place slot c).validator.registry.marks =
      (Journal.namings v.renewals place (v.run key place slot c).journal.reverse).foldl keepFirst
        v.registry.marks := by
  let scope : Scope :=
    ⟨key, [], place, v.renewals, 0, v.interactive.isTruthy, v.settings.maxDepth⟩
  -- at first the journal is empty, and the registry holds what it is said to begin with
  have hstart : Accounted v.renewals place v.registry.marks scope ⟨slot, v.registry, [], []⟩ :=
    ⟨rfl, rfl, rfl, rfl⟩
  have hend := (hc scope _ hstart).marks
  show ((c scope ⟨slot, v.registry, [], []⟩).2.registry.settled _).marks =
    (Journal.namings v.renewals place
      (c scope ⟨slot, v.registry, [], []⟩).2.journal.reverse.reverse).foldl keepFirst
      v.registry.marks
  rw [Registry.marks_settled, List.reverse_reverse]
  exact hend

/-- After a call the registry holds what it held before and the names given in the call, the first
    of each id. -/
theorem after_marks (v : Validator) (call : Call) :
    (v.after call).registry.marks = (v.names call).foldl keepFirst v.registry.marks := by
  cases call with
  | validate inst schema =>
    exact run_marks { v with applied := [] } rootKey inst.origin (.ofValue inst.tree)
      fun _ _ h => (rootCheck_ends (namesAccounted_preserved ..) v (fun _ _ => trivial) h).inv
  | check inst schema =>
    exact run_marks { v with applied := [] } rootKey inst.origin (.ofValue inst.tree)
      fun _ _ h => (rootCheck_ends (namesAccounted_preserved ..) v (fun _ _ => trivial) h).inv
  | property parent key handedIn schema =>
    exact run_marks v key (v.memberPlace parent key handedIn)
      (slotOf parent.tree key (handedIn.map (·.tree)))
      fun s p h => (against_preserves (namesAccounted_preserved ..) _ schema trivial s p h).inv

/-- After a session the registry holds what it held before and the names given in the session. -/
theorem session_marks (v : Validator) (calls : List Call) :
    (v.session calls).registry.marks = (v.sessionNames calls).foldl keepFirst v.registry.marks := by
  -- each call goes on from the validator that the one before has left
  induction calls generalizing v with
  | nil => rfl
  | cons call rest ih =>
    have hrest := ih (v.after call)
    rw [after_marks] at hrest
    rw [sessionNames, List.foldl_append]
    exact hrest

/-- A name is given in a session exactly if a schema with that id is entered. -/
theorem mem_sessionNames {v : Validator} {calls : List Call} {id : String} {place : Place} :
    (id, place) ∈ v.sessionNames calls ↔ v.EntersNamed calls id place := by
  induction calls generalizing v with
  | nil =>
    constructor
    · intro h
      cases h
    · rintro ⟨before, call, later, _, _, _, _, _, _, hcalls, _⟩
      cases before <;> cases hcalls
  | cons first rest ih =>
    -- a name is given in the first call or in a later one
    rw [sessionNames, List.mem_append, ih]
    constructor
    · rintro (hfirst | ⟨before, call, later, newer, n, trail, depth, older, given, rfl, henters⟩)
      · obtain ⟨newer, e, older, hjournal, hname⟩ := (Journal.mem_namings ..).mp hfirst
        obtain ⟨n, trail, depth, given, rfl, hid, hplace⟩ := Event.naming?_eq_some.mp hname
        exact ⟨[], first, rest, newer, n, trail, depth, older, given, rfl, hjournal, hid, hplace⟩
      · exact ⟨first :: before, call, later, newer, n, trail, depth, older, given, rfl, henters⟩
    · rintro ⟨before, call, later, newer, n, trail, depth, older, given, hcalls, hjournal, hid,
        hplace⟩
      cases before with
      | nil =>
        cases hcalls
        exact Or.inl ((Journal.mem_namings ..).mpr ⟨newer, _, older, hjournal,
          Event.naming?_eq_some.mpr ⟨n, trail, depth, given, rfl, hid, hplace⟩⟩)
      | cons call' before =>
        cases hcalls
        exact Or.inr ⟨before, call, later, newer, n, trail, depth, older, given, rfl, hjournal,
          hid, hplace⟩

theorem session_append (v : Validator) (calls more : List Call) :
    v.session (calls ++ more) = (v.session calls).session more :=
  List.foldl_append ..

/-- Calls add ids at the end. -/
theorem ids_prefix_session (v : Validator) (calls : List Call) :
    v.registry.ids <+: (v.session calls).registry.ids := by
  rw [← Registry.marks_ids, ← Registry.marks_ids, session_marks]
  exact (prefix_foldl_keepFirst v.registry.marks _).map _

/-- What an id finds it goes on finding. -/
theorem find?_session_of_some {v : Validator} {id : String} {n : Node}
    (h : v.registry.find? id = some n) (calls : List Call) :
    ((v.session calls).registry.find? id).map (·.origin) = some n.origin := by
  have hmark : v.registry.marks.lookup id = some n.origin := by
    rw [Registry.marks_lookup, h]
    rfl
  -- what stands first in the list is found first, whatever is appended
  rw [← Registry.marks_lookup, session_marks, foldl_keepFirst_lookup, List.lookup_append, hmark]
  rfl

section New

variable (settings : Settings) (switch : Value) (calls : List Call)

/-- What an id finds after a session is the schema that was first entered under it. -/
theorem new_session_find? (id : String) :
    (((Validator.new settings switch).session calls).registry.find? id).map (·.origin) =
      ((Validator.new settings switch).sessionNames calls).lookup id := by
  rw [← Registry.marks_lookup, session_marks, foldl_keepFirst_lookup]
  rfl

/-- The ids after a session are those of the names given, in the order in which they first were. -/
theorem new_session_ids :
    ((Validator.new settings switch).session calls).registry.ids =
      (((Validator.new settings switch).sessionNames calls).map (·.1)).eraseDups := by
  rw [← Registry.marks_ids, session_marks]
  exact foldl_keepFirst_ids _

/-- After a session the ids in the registry are those of the names given. -/
theorem new_session_contains (id : String) :
    ((Validator.new settings switch).session calls).registry.contains id = true ↔
      id ∈ ((Validator.new settings switch).sessionNames calls).map (·.1) := by
  rw [← lookup_isSome_iff, ← new_session_find?, Option.isSome_map, Registry.contains]

end New

/-- **What a registry has to do with a session.**  For a new validator and any calls, some of which
    may fail: an id is in the registry exactly if a schema with that id has been entered; the ids are
    listed once each, in the order in which they were first given, and each finds the schema that was
    entered under it first.  More calls only add ids at the end, and whatever an id finds it goes on
    finding.  Looking up, asking whether an id is there, counting and listing agree. -/
theorem session_registry (settings : Settings) (switch : Value) (calls : List Call) :
    let v := Validator.new settings switch
    let names := v.sessionNames calls
    let r := (v.session calls).registry
    (∀ id, r.contains id = true ↔ ∃ place, v.EntersNamed calls id place) ∧
      r.ids.Nodup ∧ r.ids = (names.map (·.1)).eraseDups ∧
      (∀ id, (r.find? id).map (·.origin) = names.lookup id) ∧
      (∀ more, r.ids <+: (v.session (calls ++ more)).registry.ids ∧
        ∀ id n, r.find? id = some n →
          ((v.session (calls ++ more)).registry.find? id).map (·.origin) = some n.origin) ∧
      (∀ id, r.resolve (.str id) = .ok (r.find? id) ∧ (r.contains id = true ↔ id ∈ r.ids)) ∧
      r.size = r.ids.length := by
  intro v names r
  have hids : r.ids = (names.map (·.1)).eraseDups := new_session_ids settings switch calls
  have hcontains (id : String) : r.contains id = true ↔ id ∈ names.map (·.1) :=
    new_session_contains settings switch calls id
  refine ⟨fun id => ?_, ?_, hids, new_session_find? settings switch calls, fun more => ?_,
    fun id => ⟨rfl, ?_⟩, ?_⟩
  · rw [hcontains, List.mem_map]
    constructor
    · rintro ⟨⟨_, place⟩, hmem, rfl⟩
      exact ⟨place, mem_sessionNames.mp hmem⟩
    · rintro ⟨place, henters⟩
      exact ⟨(id, place), mem_sessionNames.mpr henters, rfl⟩
  · rw [← Registry.marks_ids, show r.marks = _ from v.session_marks calls]
    exact nodup_foldl_keepFirst (by simp [v, new, Registry.marks, Registry.empty]) names
  · rw [session_append]
    exact ⟨ids_prefix_session _ more, fun id n hn => find?_session_of_some hn more⟩
  · rw [hcontains, hids, List.mem_eraseDups]
  · rw [Registry.size, Registry.ids, List.length_map]

-- the number 1 and the text 1 are one id; a call that fails has given its names all the same
example :
    let inst : Node := ⟨⟨.instance 0, []⟩, .int 0⟩
    let schemas : List Value := [
      .map [(.name "id", .int 1), (.name "type", .str "string")],
      .map [(.name "id", .str "1"), (.name "extends", .map [(.name "id", .bool true)])]]
    ((Validator.new .default .null).session
      (schemas.zipIdx.map fun (s, i) => .validate inst (.ofSchema i s))).registry.ids =
        ["1", "True"] := by
  decide +kernel

end Validator

end Conformance

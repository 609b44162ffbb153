/-
  History plays no part without references.

  What a validator has been through is in its registry and its record.  A call looks the registry
  up for the text of a `$ref` only, so where no schema in use has one, now or in the course of the
  call, two validators with the same settings answer alike (`validate_whatever_history`).

  Explicit schemas never change.  A schema that an instance carries is part of what is filled in,
  so it may come to have a `$ref` after all, by a default put there; then the answer depends on
  what the validator has been through (`default_reference_remembers`).  The first run is therefore
  broken off at such a default (`againstUntil`), and the two runs are compared up to it.

  In which places list elements have been gone over is known to the validator, but it tells of the
  documents.  Two validators are compared that know the same of this, or else a new one with any
  other, if the schema in use is not part of an instance that has been changed in this way.
-/
import Conformance.Proofs.Frame
import Conformance.Proofs.Record
import Conformance.Proofs.EarlyStop

namespace Conformance

/-! ## References that come in by defaults -/

/-- Whether a write makes a schema at a place refer to another one: it puts a text under a `$ref`
    inside of it.  Schema documents are not written to. -/
def Write.refersIn (w : Write) (origin : Place) : Bool :=
  match origin.document with
  | .schema _ => false
  | _ =>
    w.place.document = origin.document && (trailBelow origin.trail w.place.trail).isSome &&
      w.place.trail.getLast? = some (.name "$ref") &&
      match w.value with
      | .str _ => true
      | _ => false

/-- A place is part of what stands at another one. -/
def Place.Within (p top : Place) : Prop := p.document = top.document ∧ top.trail <+: p.trail

theorem Place.Within.refl (p : Place) : p.Within p := ⟨rfl, List.prefix_refl _⟩

/-- Members of what stands within a place stand within it. -/
theorem Place.Within.down {p top : Place} (h : p.Within top) (step : Step) :
    (p.down step).Within top := ⟨h.1, h.2.trans (List.prefix_append ..)⟩

/-- What is left of a path below another one is what it adds. -/
theorem trailBelow_eq_some {p t rest : Trail} (h : trailBelow p t = some rest) : t = p ++ rest := by
  induction p generalizing t with
  | nil =>
    cases h
    rfl
  | cons s p ih =>
    cases t with
    | nil => cases h
    | cons r t =>
      rw [trailBelow] at h
      split at h
      · next hs => rw [hs, ih h, List.cons_append]
      · cases h

/-- A text that is written under a `$ref` inside of a schema makes it refer to another one. -/
theorem Write.refersIn_of_text {w : Write} {origin : Place} {s : String}
    (hdocument : w.place.document = origin.document) (hschema : ∀ i, origin.document ≠ .schema i)
    (htrail : origin.trail <+: w.place.trail) (hlast : w.place.trail.getLast? = some (.name "$ref"))
    (hvalue : w.value = .str s) : w.refersIn origin = true := by
  unfold refersIn
  obtain ⟨below, hbelow⟩ := htrail
  rw [hvalue, hlast, ← hbelow, trailBelow_append]
  split
  · next i hi => exact absurd hi (hschema i)
  · simp [hdocument]

namespace Value

/-- An instance whose mappings carry only schemas without references.  What is carried and is no
    mapping is no schema. -/
def carriesNoRef : Value → Bool :=
  everyMapping fun es =>
    match entryAt? (.name "$schema") es with
    | some (.map own) => refFree (.map own)
    | _ => true

/-- Parts of schemas without references have none. -/
theorem refFree_part {v x : Value} (h : v.refFree = true) (hx : x ∈ v.parts) : x.refFree = true :=
  everyMapping_part h hx

/-- The schema that such an instance carries at its top has no references. -/
theorem refFree_own {v own : Value} (h : v.carriesNoRef = true)
    (ho : entryAt? (.name "$schema") v.entries = some own) (hmap : own.isMap = true) :
    own.refFree = true := by
  cases v with
  | map es =>
    cases own with
    | map entries =>
      have htop := (everyMapping_map.mp h).1
      rw [show entryAt? (.name "$schema") es = _ from ho] at htop
      exact htop
    | _ => cases hmap
  | _ => cases ho

/-- Whether a mapping names another schema at its top. -/
theorem refFree_iff {v : Value} : v.refFree = true ↔
    (∀ t, v.get? "$ref" ≠ some (.str t)) ∧ ∀ x ∈ v.parts, x.refFree = true := by
  unfold refFree
  rw [everyMapping_iff]
  refine and_congr_left fun _ => ?_
  cases v with
  | map es =>
    rw [get?_map, atTop]
    split
    · next t ht => simp [ht]
    · next hnone =>
      refine iff_of_true rfl fun t ht => hnone t ht
  | _ => simp [atTop, get?]

/-- What stands under a name is left when another member is replaced. -/
theorem get?_replace_of_ne {v x : Value} {step : Step} {name : String} (h : step ≠ .name name) :
    (v.replace step x).get? name = v.get? name := by
  unfold replace
  split
  · next es k =>
    have hk : k.same (.name name) = false :=
      Bool.eq_false_iff.mpr fun hs => h (congrArg Step.entry (Key.same_name_iff.mp hs))
    exact entryAt?_setEntry_of_ne hk x es
  · rfl
  · rfl
  · rfl

/-- A schema stays without references when a member is exchanged for one without, unless it is a
    text under `$ref`. -/
theorem refFree_replace {v x y : Value} {step : Step} (hv : v.refFree = true)
    (hy : y.refFree = true) (hchild : v.child? step = some x)
    (htext : step = .name "$ref" → ∀ t, y ≠ .str t) :
    (v.replace step y).refFree = true := by
  obtain ⟨htop, hparts⟩ := refFree_iff.mp hv
  refine refFree_iff.mpr ⟨fun t ht => ?_, fun z hz => ?_⟩
  -- only what is put under `$ref` itself can name another schema
  · by_cases hstep : step = .name "$ref"
    · rw [← child?_name, ← hstep, child?_replace hchild] at ht
      exact htext hstep t (Option.some.inj ht)
    · rw [get?_replace_of_ne hstep] at ht
      exact htop t ht
  · rcases mem_parts_replace hz with rfl | hz
    · exact hy
    · exact hparts z hz

/-- A schema stays without references when it takes a value in, unless it is a text under `$ref`. -/
theorem refFree_adopt {v y : Value} {step : Step} (hv : v.refFree = true) (hy : y.refFree = true)
    (htext : step = .name "$ref" → ∀ t, y ≠ .str t) : (v.adopt step y).refFree = true := by
  obtain ⟨htop, hparts⟩ := refFree_iff.mp hv
  refine refFree_iff.mpr ⟨fun t ht => ?_, fun z hz => ?_⟩
  -- what is asked for stood there before, or it is what has been taken in
  · unfold adopt at ht
    split at ht
    · next es k =>
      rw [get?_map, entryAt?_append, Option.or_eq_some_iff] at ht
      rcases ht with ht | ⟨_, ht⟩
      · exact htop t ht
      · split at ht
        · next hk =>
          exact htext (congrArg Step.entry (Key.same_name_iff.mp hk)) t (Option.some.inj ht)
        · cases ht
    · cases ht
    · exact htop t ht
  · rcases mem_parts_adopt hz with rfl | rfl | hz
    · exact hy
    · rfl
    · exact hparts z hz

/-- Replacing a member makes no text of anything, -/
theorem replace_ne_str {v y : Value} (h : ∀ t, v ≠ .str t) (step : Step) (t : String) :
    v.replace step y ≠ .str t := by
  cases v <;> cases step <;> simp_all [replace]

/-- and nor does taking one in. -/
theorem adopt_ne_str {v y : Value} (h : ∀ t, v ≠ .str t) (step : Step) (t : String) :
    v.adopt step y ≠ .str t := by
  cases v <;> cases step <;> simp_all [adopt]

/-- Filling in turns nothing into a text. -/
theorem fillAt_ne_str {v w : Value} {rest : Trail} (h : ∀ t, v ≠ .str t) (t : String) :
    v.fillAt rest w ≠ .str t := by
  unfold fillAt
  split
  · exact h t
  · split
    · exact adopt_ne_str h _ t
    · exact h t
  · split
    · exact replace_ne_str h _ t
    · exact h t

/-- A schema stays without references when it is filled in with a value without, unless that is a
    text and goes under a `$ref`. -/
theorem refFree_fillAt {v w : Value} {rest : Trail} (hv : v.refFree = true) (hw : w.refFree = true)
    (htext : rest.getLast? = some (.name "$ref") → ∀ t, w ≠ .str t) :
    (v.fillAt rest w).refFree = true := by
  fun_induction fillAt v rest w with
  | case1 v => exact hv
  | case2 v step hfree =>
    exact refFree_adopt hv hw fun hstep => htext (by rw [hstep]; rfl)
  | case3 v step hfree => exact hv
  | case4 v step rest hrest member hmember ih =>
    have hpart := refFree_part hv (mem_parts_of_child? hmember)
    have hlast : (step :: rest).getLast? = rest.getLast? := by
      cases rest with
      | nil => exact absurd rfl hrest
      | cons s more => rfl
    rw [hlast] at htext
    refine refFree_replace hv (ih hpart htext) hmember fun hstep => ?_
    -- what stands under a `$ref` is no text, and so it does not become one
    refine fillAt_ne_str fun t ht => ?_
    rw [hstep, child?_name, ht] at hmember
    exact (refFree_iff.mp hv).1 t hmember
  | case5 v step rest hrest hnone => exact hv

end Value

/-! ## What a schema says after writes -/

/-- A place that no list element gone over has anything to do with: none above it, none in it. -/
def Place.Untouched (renewals : List Place) (p : Place) : Prop :=
  (∀ k, p.document ≠ .renewal k) ∧ ∀ q ∈ renewals, q.document = p.document →
    ¬ q.trail <+: p.trail ∧ ¬ p.trail <+: q.trail

/-- What stands within an untouched place is untouched. -/
theorem Place.Untouched.within {renewals : List Place} {p top : Place} (h : top.Untouched renewals)
    (hp : p.Within top) : p.Untouched renewals := by
  obtain ⟨hdocument, htrail⟩ := hp
  refine ⟨hdocument ▸ h.1, fun q hq hsame => ?_⟩
  obtain ⟨habove, hbelow⟩ := h.2 q hq (hsame.trans hdocument)
  refine ⟨fun hqp => ?_, fun hpq => hbelow (htrail.trans hpq)⟩
  -- two places above one and the same are one above the other
  rcases List.prefix_or_prefix_of_prefix hqp htrail with hqt | htq
  · exact habove hqt
  · exact hbelow htq

/-- A place that has been gone over goes by another name. -/
theorem Place.current_of_mem {renewals : List Place} {p : Place} (h : p ∈ renewals) :
    ∃ k, (p.current renewals).document = .renewal k := by
  induction renewals with
  | nil => cases h
  | cons q older ih =>
    rw [current]
    split
    · exact ⟨_, rfl⟩
    · next hne =>
      rcases List.mem_cons.mp h with rfl | h
      · exact absurd rfl hne
      · exact ih h

/-- Below a value that has gone over another one there is no way back. -/
theorem Place.along_renewal {renewals : List Place} {p : Place} {k : Nat}
    (h : p.document = .renewal k) (t : Trail) :
    ∃ k, (p.along renewals t).document = .renewal k := by
  induction t generalizing p k with
  | nil => exact ⟨k, h⟩
  | cons step t ih =>
    rw [along]
    -- a member may have been gone over again, or it stands below one that was
    by_cases hmem : p.down step ∈ renewals
    · obtain ⟨j, hj⟩ := current_of_mem hmem
      exact ih hj
    · rw [current_of_notMem hmem]
      exact ih (k := k) h

/-- Where no list element has been gone over, places are told by their trails. -/
theorem Place.along_nil (p : Place) (t : Trail) : p.along [] t = ⟨p.document, p.trail ++ t⟩ := by
  induction t generalizing p with
  | nil => rw [along, List.append_nil]
  | cons step t ih =>
    rw [along, current, ih]
    simp [down]

/-- A write tells an untouched schema the same, whichever list elements have been gone over. -/
theorem applyTo_of_untouched {renewals : List Place} {origin : Place}
    (h : origin.Untouched renewals) (base : Place) (t : Trail) (v tree : Value) :
    (Write.mk (base.along renewals t) v).applyTo origin tree =
      (Write.mk (base.along [] t) v).applyTo origin tree := by
  induction t generalizing base with
  | nil => rfl
  | cons step t ih =>
    rw [Place.along, Place.along]
    by_cases hmem : base.down step ∈ renewals
    · -- from here on the one trail is in another document, the other one below what was gone over
      obtain ⟨j, hj⟩ := Place.current_of_mem hmem
      have hother : (((base.down step).current renewals).along renewals t).document ≠
          origin.document := by
        obtain ⟨i, hi⟩ := Place.along_renewal hj t
        rw [hi]
        exact (h.1 i).symm
      rw [Write.applyTo, if_neg hother, Place.current, Place.along_nil, Write.applyTo]
      split
      · next hsame =>
        split
        · next rest hrest =>
          obtain ⟨habove, hbelow⟩ := h.2 _ hmem hsame
          have htrail : origin.trail <+: (base.down step).trail ++ t :=
            ⟨rest, (trailBelow_eq_some hrest).symm⟩
          rcases List.prefix_or_prefix_of_prefix (List.prefix_append _ t) htrail with hqo | hoq
          · exact absurd hqo habove
          · exact absurd hoq hbelow
        · rfl
      · rfl
    · rw [Place.current_of_notMem hmem]
      exact ih _

/-- Whether deposits tell a schema the same where different list elements have been gone over. -/
def Place.ReadsAlike (base : Place) (renewals renewals' : List Place) (top : Place) : Prop :=
  (∃ i, top.document = .schema i) ∨ ∀ origin, origin.Within top → ∀ (d : Deposit) tree,
    (d.write renewals base).applyTo origin tree = (d.write renewals' base).applyTo origin tree

namespace Node

variable {n : Node} {top base : Place} {renewals renewals' : List Place} {ds : List Deposit}

/-- A schema without references stays without, unless a default makes it refer to another one. -/
theorem refFree_content (hn : n.tree.refFree = true) (htop : n.origin.Within top)
    {writes : List Write} (hvalue : ∀ w ∈ writes, w.value.refFree = true)
    (hrefers : ∀ w ∈ writes, w.refersIn top = false) : (n.content writes).refFree = true := by
  unfold content
  split
  · exact hn
  · next hdocument =>
    -- by induction on the writes, the latest one last
    induction writes with
    | nil => exact hn
    | cons w rest ih =>
      have hrest := ih (fun w hw => hvalue w (List.mem_cons_of_mem _ hw))
        (fun w hw => hrefers w (List.mem_cons_of_mem _ hw))
      rw [List.foldr_cons, Write.applyTo]
      split
      · next hsame =>
        split
        · next below hbelow =>
          refine Value.refFree_fillAt hrest (hvalue w (List.mem_cons_self ..)) fun hlast t ht => ?_
          have htrail := trailBelow_eq_some hbelow
          have hnone := hrefers w (List.mem_cons_self ..)
          rw [Write.refersIn_of_text (hsame.trans htop.1)
            (fun i hi => hdocument i (htop.1.trans hi))
            ?_ ?_ ht] at hnone
          · cases hnone
          · exact htop.2.trans ⟨below, htrail.symm⟩
          · rw [htrail, List.getLast?_append, hlast]
            rfl
        · exact hrest
      · exact hrest

/-- Deposits that tell a schema the same make it read the same. -/
theorem content_alike (h : base.ReadsAlike renewals renewals' top) (htop : n.origin.Within top)
    (ds : List Deposit) : n.content (ds.map (Deposit.write renewals base)) =
      n.content (ds.map (Deposit.write renewals' base)) := by
  rcases h with ⟨i, hi⟩ | h
  · rw [content_schema (htop.1.trans hi), content_schema (htop.1.trans hi)]
  · unfold content
    split
    · rfl
    · induction ds with
      | nil => rfl
      | cons d ds ih =>
        rw [List.map_cons, List.map_cons, List.foldr_cons, List.foldr_cons, ih]
        exact h n.origin htop d _

end Node

/-! ## Two runs with different histories -/

namespace Check

/-- Whether a default has been written by which a schema at a place refers to another one. -/
def refersAnew (top : Place) (p : Progress) : Bool := p.writes.any (·.refersIn top)

/-- Once a schema has come to refer to another one, it has for good. -/
theorem refersAnew_lasts (top : Place) : Lasting fun p => refersAnew top p = true where
  slot _ := id
  event _ := id
  write {p} w h := by
    show (w :: p.writes).any _ = true
    rw [List.any_cons, Bool.or_eq_true]
    exact Or.inr h
  insert _ _ := id

/-- Two runs with the same switch.  Their writes are the same deposits, though the places where they
    were made may go by different names, and what is registered is of no account.  Nothing is said
    once the first one is broken off because the schema has come to refer to another one. -/
def anyHistory (switch : Bool) (renewals renewals' : List Place) (base top : Place) : Coupling where
  scopes _ s s' := s' = { s with renewals := renewals', place := base.along renewals' s.trail } ∧
    s.interactive = switch ∧ s.renewals = renewals ∧ s.place = base.along renewals s.trail
  states p p' := (∃ ds : List Deposit, p.writes = ds.map (Deposit.write renewals base) ∧
      p'.writes = ds.map (Deposit.write renewals' base) ∧ (∀ d ∈ ds, d.value.refFree = true) ∧
      (switch = false → ds = [])) ∧
    Journal.deposits p.journal = Journal.deposits p'.journal ∧ refersAnew top p = false
  cut f p := (∃ g, f = .fault g) ∧ refersAnew top p = true
  off _ := False
  data σ := switch = false → σ.value.carriesNoRef = true
  still := switch = false

/-- Schemas without references that say the same, and stand at the same place if they can change. -/
structure SameWithoutRefs (switch : Bool) (top : Place) (k l : Node) : Prop where
  tree : k.tree = l.tree
  refFree : k.tree.refFree = true
  origin : switch = true → k.origin = l.origin ∧ k.origin.Within top

variable {switch : Bool} {renewals renewals' : List Place} {base top : Place}

/-- Parts of schemas that say the same at the same place are such schemas. -/
theorem sameWithoutRefs_likeness : Likeness (SameWithoutRefs switch top) where
  tree_eq h := h.tree
  part h step v hv := ⟨rfl, Value.refFree_part h.refFree hv, fun hs => by
    obtain ⟨horigin, hwithin⟩ := h.origin hs
    exact ⟨congrArg (·.down step) horigin, hwithin.down step⟩⟩
  blank h step v hv := ⟨rfl, by rcases hv with rfl | rfl <;> rfl, fun hs => by
    obtain ⟨horigin, hwithin⟩ := h.origin hs
    exact ⟨congrArg (·.down step) horigin, hwithin.down step⟩⟩

/-- An event that tells of no deposit, or of the same one in both runs. -/
theorem anyHistory_tell {p p' : Progress}
    (h : (anyHistory switch renewals renewals' base top).states p p') {e e' : Event}
    (he : e.deposit? = e'.deposit?) :
    (anyHistory switch renewals renewals' base top).states (p.tell e) (p'.tell e') := by
  obtain ⟨hwrites, hjournal, hnever⟩ := h
  refine ⟨hwrites, ?_, hnever⟩
  show Journal.deposits (e :: p.journal) = Journal.deposits (e' :: p'.journal)
  rw [Journal.deposits, Journal.deposits, List.filterMap_cons, List.filterMap_cons, he]
  rw [← Journal.deposits, ← Journal.deposits, hjournal]

/-- What a schema says is the same in both runs, as long as no reference has come in. -/
theorem anyHistory_content (hreads : switch = true → base.ReadsAlike renewals renewals' top)
    {k l : Node} (h : SameWithoutRefs switch top k l) {p p' : Progress}
    (hp : (anyHistory switch renewals renewals' base top).states p p') :
    k.content p.writes = l.content p'.writes ∧
      SameWithoutRefs switch top ⟨k.origin, k.content p.writes⟩ ⟨l.origin, l.content p'.writes⟩ := by
  obtain ⟨⟨ds, hw, hw', hvalue, hnil⟩, _, hnever⟩ := hp
  -- where nothing is written, schemas stay as they were
  cases hswitch : switch with
  | false =>
    obtain rfl := hnil hswitch
    rw [hw, hw', List.map_nil, List.map_nil, Node.content_nil, Node.content_nil]
    exact ⟨h.tree, h.tree, h.refFree, nofun⟩
  | true =>
    obtain ⟨horigin, hwithin⟩ := h.origin hswitch
    obtain rfl : k = l := by
      cases k
      cases l
      cases horigin
      exact congrArg _ h.tree
    have hsame : k.content p.writes = k.content p'.writes := by
      rw [hw, hw']
      exact Node.content_alike (hreads hswitch) hwithin ds
    refine ⟨hsame, hsame, ?_, fun _ => ⟨rfl, hwithin⟩⟩
    refine Node.refFree_content h.refFree hwithin (fun w hmem => ?_) fun w hmem => ?_
    · rw [hw] at hmem
      obtain ⟨d, hd, rfl⟩ := List.mem_map.mp hmem
      exact hvalue d hd
    · exact Bool.eq_false_iff.mpr fun hrefers => by
        have := List.any_eq_false.mp hnever w hmem
        exact this hrefers

/-- The coupling is kept by each of the few things that checks do. -/
theorem anyHistory_preserved (hreads : switch = true → base.ReadsAlike renewals renewals' top) :
    (anyHistory switch renewals renewals' base top).Preserved (SameWithoutRefs switch top) where
  like := sameWithoutRefs_likeness
  place := by
    rintro depth s _ ⟨rfl, _⟩
    exact ⟨rfl, rfl⟩
  child := by
    rintro depth s _ ⟨rfl, hswitch, rfl, hplace⟩ step
    refine ⟨?_, hswitch, rfl, ?_⟩
    · have hplace' := Place.along_append renewals' base s.trail step
      unfold Scope.child
      dsimp only
      rw [hplace']
    · show (s.place.down step).current s.renewals = base.along s.renewals (s.trail ++ [step])
      rw [Place.along_append, hplace]
  slot h _ := h
  note h e _ := anyHistory_tell h rfl
  register := by
    rintro k l _ s s' p p' id ⟨hwrites, hjournal, hnever⟩ _
    refine ⟨hwrites, ?_, hnever⟩
    show Journal.deposits (p.registry.news id k ++ p.journal) =
      Journal.deposits (p'.registry.news id l ++ p'.journal)
    rw [Journal.deposits_append, Journal.deposits_append, deposits_news, deposits_news, hjournal]
  content h _ _ hp _ := anyHistory_content hreads h hp
  cut_at h _ := h
  not_data := by
    rintro e p ⟨⟨g, hg⟩, _⟩
    cases hg
  enter := by
    rintro k l _ depth s _ p p' ⟨rfl, hrest⟩ hp
    exact ⟨⟨rfl, hrest⟩, anyHistory_tell hp rfl⟩
  leave _ _ _ hp _ _ := anyHistory_tell hp rfl
  cut_leave h _ := h
  data_below := by
    intro c h step hswitch
    rw [Value.slotBelow_value]
    rcases c.member_mem_parts step with hpart | hmissing
    · exact Value.everyMapping_part (h hswitch) hpart
    · rw [hmissing]
      rfl
  data_held _ := rfl
  still_or := by
    cases hswitch : switch with
    | false => exact Or.inl rfl
    | true => exact Or.inr fun _ h => by cases h
  lasting := .never
  total := Or.inl fun _ => id

variable {depth : Nat} (hreads : switch = true → base.ReadsAlike renewals renewals' top)

include hreads

/-- There is no reference to follow in either run. -/
theorem anyHistory_refRule {visit visit' : Node → Check Unit} {k l : Node}
    (h : SameWithoutRefs switch top k l) :
    Coupled (anyHistory switch renewals renewals' base top) depth Eq (refRule visit k)
      (refRule visit' l) := by
  intro s s' p p' _ hp hslot _ _
  obtain ⟨hsame, hrefless⟩ := anyHistory_content hreads h hp
  have hnone := Value.get?_ref_of_refFree hrefless.refFree
  rw [refRule_run hnone, refRule_run (hsame ▸ hnone)]
  exact Or.inr ⟨.ok rfl, hp, hslot, fun _ => rfl⟩

/-- A schema that an entry carries is without references, and is visited in both runs. -/
theorem anyHistory_ownSchema {visit visit' : Node → Check Unit}
    (hvisit : ∀ k l, SameWithoutRefs switch top k l →
      Coupled (anyHistory switch renewals renewals' base top) depth Eq (visit k) (visit' l))
    (key : Key) : Coupled (anyHistory switch renewals renewals' base top) depth Eq
      (ownSchema visit key) (ownSchema visit' key) := by
  refine ownSchema_coupled (anyHistory_preserved hreads) hvisit ?_ ?_ key
  · rintro s _ ⟨rfl, _⟩
    rfl
  · rintro s _ ⟨rfl, hswitch, _⟩ hoff σ hdata key es own he ho hmap
    rw [hoff] at hswitch
    refine ⟨rfl, ?_, fun hs => by rw [← hswitch] at hs; cases hs⟩
    refine Value.refFree_own (v := .map es) (Value.everyMapping_part (hdata hswitch.symm) ?_)
      ho hmap
    cases hv : σ.value with
    | map entries =>
      rw [hv] at he
      exact Value.mem_of_entryAt? he
    | _ =>
      rw [hv] at he
      cases he

/-- A missing value is filled in alike, unless a reference comes in by it. -/
theorem anyHistory_missing {k l : Node} (h : SameWithoutRefs switch top k l) {s s' : Scope}
    {p p' : Progress}
    (hs : (anyHistory switch renewals renewals' base top).scopes depth s s')
    (hp : (anyHistory switch renewals renewals' base top).states p p') (hslot : p.slot = p'.slot) :
    (missingRules k s p).1 = .ok () ∧ refersAnew top (missingRules k s p).2 = true ∨
      (anyHistory switch renewals renewals' base top).Joined Eq p.slot (missingRules k s p)
        (missingRules l s' p') := by
  obtain ⟨hs', hswitch, hrenewals, hplace⟩ := hs
  obtain ⟨hsame, hrefless⟩ := anyHistory_content hreads h hp
  have hmissed :
      missed (l.content p'.writes) s' p'.slot = missed (k.content p.writes) s p.slot := by
    rw [← hsame, ← hslot, hs']
    exact missed_congr rfl rfl rfl _ _
  rw [missingRules_run, missingRules_run, hmissed]
  cases hm : missed (k.content p.writes) s p.slot with
  | fails f => exact Or.inr ⟨.error f, hp, hslot, fun _ => rfl⟩
  | passes => exact Or.inr ⟨.ok rfl, hp, hslot, fun _ => rfl⟩
  | remarks e => exact Or.inr ⟨.ok rfl, anyHistory_tell hp rfl, hslot, fun _ => rfl⟩
  | filled σ v =>
    obtain ⟨hinteractive, hoffer, _⟩ := of_missed_filled hm
    -- a default has been written, so the switch is on
    have hon : switch ≠ false := by
      rw [← hswitch, hinteractive]
      decide
    -- the write makes the schema refer to another one, and the run ends, or it is one more deposit
    cases hreached : refersAnew top (written σ v s p).2 with
    | true => exact Or.inl ⟨rfl, hreached⟩
    | false =>
      obtain ⟨⟨ds, hw, hw', hvalue, _⟩, hjournal, _⟩ := hp
      have hv : v.refFree = true := Value.refFree_part hrefless.refFree
        (Value.mem_parts_of_get? (offers_of_offer? hoffer).default_eq)
      refine Or.inr ⟨.ok rfl,
        ⟨⟨⟨s.trail, v⟩ :: ds, ?_, ?_, ?_, fun hs => absurd hs hon⟩, ?_, hreached⟩,
        rfl, fun hs => absurd hs hon⟩
      · show Write.mk s.place v :: p.writes = _
        rw [hw, hplace]
        rfl
      · show Write.mk s'.place v :: p'.writes = _
        rw [hw', hs']
        rfl
      · exact List.forall_mem_cons.mpr ⟨hv, hvalue⟩
      · show Deposit.mk s.trail v :: Journal.deposits p.journal =
          Deposit.mk s'.trail v :: Journal.deposits p'.journal
        rw [hjournal, hs']

/-- Checks that go the same way, and fill in no missing value themselves, go on corresponding. -/
theorem anyHistory_parallel {visit visit' : Node → Check Unit}
    (hvisit : ∀ k l, SameWithoutRefs switch top k l →
      Coupled (anyHistory switch renewals renewals' base top) depth Eq (visit k) (visit' l))
    {α β : Type} {R : α → β → Prop} {c : Check α} {d : Check β}
    (h : Parallel ⟨SameWithoutRefs switch top, visit, visit', blank, blank⟩ R c d) :
    Coupled (anyHistory switch renewals renewals' base top) depth R c d := by
  -- the rules that may differ are those of a schema that says nothing
  have hblank (writes : List Write) : blank.content writes = .null := Node.content_schema rfl writes
  refine Parallel.coupled (anyHistory_preserved hreads) (fun _ => .of_unit fun _ _ => id) hvisit ?_
    (anyHistory_ownSchema hreads hvisit) ?_ h
  · intro s s' p p' _ hp hslot _ _
    have hnone (writes : List Write) (t : String) :
        (blank.content writes).get? "$ref" ≠ some (.str t) := by
      rw [hblank]
      nofun
    rw [refRule_run (hnone _), refRule_run (hnone _)]
    exact Or.inr ⟨.ok rfl, hp, hslot, fun _ => rfl⟩
  · intro s s' p p' ⟨hs, _⟩ hp hslot _ _
    have hmissed : missed .null s' p'.slot = missed .null s p.slot := by
      rw [← hslot, hs]
      exact missed_congr rfl rfl rfl _ _
    rw [missingRules_run, missingRules_run, hblank, hblank, hmissed]
    refine Or.inr ?_
    cases hm : missed .null s p.slot with
    | fails f => exact ⟨.error f, hp, hslot, fun _ => rfl⟩
    | passes => exact ⟨.ok rfl, hp, hslot, fun _ => rfl⟩
    | remarks e => exact ⟨.ok rfl, anyHistory_tell hp rfl, hslot, fun _ => rfl⟩
    | filled σ v => cases (of_missed_filled hm).2.1

/-- The rules of a schema go alike, unless the run is broken off. -/
theorem anyHistory_property {visit visit' : Node → Check Unit} {k l : Node}
    (hvisit : ∀ k l, SameWithoutRefs switch top k l →
      Coupled (anyHistory switch renewals renewals' base top) depth Eq (visit k) (visit' l))
    (h : SameWithoutRefs switch top k l) :
    Coupled (anyHistory switch renewals renewals' base top) depth Eq
      (property visit k >>= fun _ => stopWhen (refersAnew top)) (property visit' l) := by
  have hK : (anyHistory switch renewals renewals' base top).Preserved (SameWithoutRefs switch top) :=
    anyHistory_preserved hreads
  have hlike : Likeness (SameWithoutRefs switch top) := sameWithoutRefs_likeness
  have hparallel {α : Type} {R : α → α → Prop} {c d : Check α}
      (hcd : Parallel ⟨SameWithoutRefs switch top, visit, visit', blank, blank⟩ R c d) :
      Coupled (anyHistory switch renewals renewals' base top) depth R c d :=
    anyHistory_parallel hreads hvisit hcd
  unfold property
  rw [bind_assoc]
  refine .bind hK (hparallel (.idRule hlike h)) (fun _ _ _ _ => False.elim) fun _ _ _ => ?_
  rw [bind_assoc]
  refine .bind hK (anyHistory_refRule hreads h) (fun _ _ _ _ => False.elim) fun _ _ _ => ?_
  rw [bind_assoc]
  refine .bind hK (hparallel (.extendsRule hlike h)) (fun _ _ _ _ => False.elim) fun _ _ _ => ?_
  refine .stopWhen (fun hp => hp.2.2) (fun hreached => ⟨⟨_, rfl⟩, hreached⟩) ?_
  intro s s' p p' hs hp hslot hdata
  unfold ownRules
  rw [value_bind, value_bind, ← hslot]
  have hpresent := hparallel (.presentRules hlike h p.slot.value) s s' p p' hs hp hslot hdata id
  cases hv : p.slot.value with
  | missing => exact (anyHistory_missing hreads h hs hp hslot).imp_right Or.inr
  | _ =>
    rw [hv] at hpresent
    exact Or.inr hpresent

/-- A check that stops at a reference corresponds to the ordinary one with another history behind
    it. -/
theorem anyHistory_against (depth : Nat) {k l : Node} (h : SameWithoutRefs switch top k l) :
    Coupled (anyHistory switch renewals renewals' base top) depth Eq
      (againstUntil (refersAnew top) depth k) (against depth l) := by
  have hK : (anyHistory switch renewals renewals' base top).Preserved (SameWithoutRefs switch top) :=
    anyHistory_preserved hreads
  induction depth generalizing k l with
  | zero =>
    intro s s' p p' hs hp hslot _ _
    -- the schema says the same in both runs, so both are refused or neither
    obtain ⟨hsame, _⟩ := anyHistory_content hreads h hp
    rw [againstUntil]
    cases hm : (k.content p.writes).isMap with
    | true =>
      rw [against_zero_of_map hm, against_zero_of_map (hsame ▸ hm), hs.1]
      exact Or.inr ⟨.error _, hp, hslot, fun _ => rfl⟩
    | false =>
      rw [against_of_not_map hm, against_of_not_map (hsame ▸ hm)]
      exact Or.inr ⟨.ok rfl, hp, hslot, fun _ => rfl⟩
  | succ depth ih =>
    have hproperty := anyHistory_property hreads (fun _ _ => ih) h
    rw [againstUntil, against]
    refine .read hK (fun _ _ => rfl) (content_coupled hK h) (fun _ _ _ => id) ?_
    rintro v _ ⟨rfl, _⟩
    cases v.isMap with
    | true => exact nested_coupled hK h hproperty
    | false => exact .skip

end Check

namespace Validator

open Check

/-- The writes of a call are the deposits that its journal tells of. -/
theorem final_writes (v : Validator) (inst schema : Node) :
    (v.final inst schema).writes =
      ((Journal.deposits (v.validate inst schema).journal).map
        (Deposit.write v.renewals inst.origin)).reverse := by
  obtain ⟨ds, hm⟩ := v.rootCheck_moves inst schema (v.rootScope inst) (v.start inst)
  have hdeposits : Journal.deposits (v.validate inst schema).journal = ds := by
    obtain ⟨events, hj, hd⟩ := hm.journal
    have hfinal : (v.final inst schema).journal = events ++ [] := hj
    rw [validate_journal, hfinal, List.append_nil, Journal.deposits, List.filterMap_reverse,
      ← Journal.deposits, hd, List.reverse_reverse]
    exact List.map_id ds
  have hwrites : (v.final inst schema).writes = _ := hm.writes
  rw [hwrites, hdeposits]
  exact List.append_nil _

/-- Two validators give the same answers: the same result, the same instance and the same record. -/
structure AnswersLike (v v' : Validator) (inst schema : Node) : Prop where
  result : (v.validate inst schema).result = (v'.validate inst schema).result
  slot : (v.validate inst schema).slot = (v'.validate inst schema).slot
  applied : (v.validate inst schema).validator.applied = (v'.validate inst schema).validator.applied
  report : (v.check inst schema).result = (v'.check inst schema).result
  reported_slot : (v.check inst schema).slot = (v'.check inst schema).slot
  reported_applied :
    (v.check inst schema).validator.applied = (v'.check inst schema).validator.applied

/-- A report only tells what the call comes to. -/
theorem answersLike_of_validate {v v' : Validator} {inst schema : Node}
    (hresult : (v.validate inst schema).result = (v'.validate inst schema).result)
    (hslot : (v.validate inst schema).slot = (v'.validate inst schema).slot)
    (happlied :
      (v.validate inst schema).validator.applied = (v'.validate inst schema).validator.applied) :
    v.AnswersLike v' inst schema := by
  refine ⟨hresult, hslot, happlied, ?_, hslot, happlied⟩
  unfold check
  dsimp only
  rw [hresult, hslot, happlied]

/-- The schema that a whole instance is checked against has no references. -/
theorem refFree_of_rootSchema? {inst schema n : Node} (hschema : schema.tree.refFree = true)
    (hinst : inst.tree.carriesNoRef = true) (h : rootSchema? inst schema = some n) :
    n.tree.refFree = true := by
  -- the schema is the one that is given, or the one that the instance carries
  unfold rootSchema? at h
  split at h
  · cases h
    exact hschema
  · split at h
    · next entries htree =>
      dsimp only at h
      split at h
      · next hown =>
        cases h
        rw [Bool.and_eq_true] at hown
        cases ho : Value.entryAt? (.name "$schema") entries with
        | none =>
          rw [ho] at hown
          cases hown.2
        | some own =>
          rw [ho] at hown
          exact Value.refFree_own hinst (by rw [htree]; exact ho) hown.2
      · cases h
    · cases h

section Histories

variable {v v' : Validator} {inst schema : Node}

/-- The check of a whole instance goes alike with different histories, where the schema in use has
    no references and gets none. -/
theorem rootCheck_anyHistory {n : Node} (hroot : rootSchema? inst schema = some n)
    (hsettings : v'.settings = v.settings)
    (hswitch : v'.interactive.isTruthy = v.interactive.isTruthy) (hn : n.tree.refFree = true)
    (hinst : inst.tree.carriesNoRef = true)
    (hnever : refersAnew n.origin (v.final inst schema) = false)
    (hreads : inst.origin.ReadsAlike v.renewals v'.renewals n.origin) :
    (anyHistory v.interactive.isTruthy v.renewals v'.renewals inst.origin n.origin).Joined Eq
      (v.start inst).slot (v.rootCheck inst schema (v.rootScope inst) (v.start inst))
      (v'.rootCheck inst schema (v'.rootScope inst) (v'.start inst)) := by
  have hvisit : v'.visit n = v.visit n := by
    unfold visit
    rw [hsettings]
  have hfinal : v.final inst schema = (v.visit n (v.rootScope inst) (v.start inst)).2 := by
    unfold final
    rw [rootCheck_of_some hroot]
  have huntil :
      againstUntil (refersAnew n.origin) v.settings.maxDepth n (v.rootScope inst) (v.start inst) =
        v.visit n (v.rootScope inst) (v.start inst) :=
    againstUntil_eq (refersAnew_lasts n.origin) (hfinal ▸ hnever)
  have hrefless : SameWithoutRefs v.interactive.isTruthy n.origin n n :=
    ⟨rfl, hn, fun _ => ⟨rfl, .refl _⟩⟩
  have hscopes :
      (anyHistory v.interactive.isTruthy v.renewals v'.renewals inst.origin n.origin).scopes
        v.settings.maxDepth (v.rootScope inst) (v'.rootScope inst) := by
    refine ⟨?_, rfl, rfl, rfl⟩
    unfold rootScope
    rw [hsettings, hswitch]
    rfl
  have hdata : v.interactive.isTruthy = false →
      (v.start inst).slot.value.carriesNoRef = true := by
    intro _
    show (Slot.ofValue inst.tree).value.carriesNoRef = true
    rw [Slot.value_ofValue]
    exact hinst
  have hcoupled := anyHistory_against (fun _ => hreads) v.settings.maxDepth hrefless _ _
    (v.start inst) (v'.start inst) hscopes ⟨⟨[], rfl, rfl, nofun, fun _ => rfl⟩, rfl, rfl⟩ rfl hdata
    id
  rw [huntil] at hcoupled
  rw [rootCheck_of_some hroot, rootCheck_of_some hroot, hvisit]
  rcases hcoupled with ⟨f, _, _, hreached⟩ | hjoined
  · -- no reference has come in by the end
    rw [← hfinal, hnever] at hreached
    cases hreached
  · exact hjoined

/-- Two validators answer alike where the schema in use has no references and gets none. -/
theorem answersLike_of_reads (hsettings : v'.settings = v.settings)
    (hswitch : v'.interactive.isTruthy = v.interactive.isTruthy)
    (hschema : schema.tree.refFree = true) (hinst : inst.tree.carriesNoRef = true)
    (hkept : ∀ n, rootSchema? inst schema = some n →
      ∀ d ∈ Journal.deposits (v.validate inst schema).journal,
        (d.write v.renewals inst.origin).refersIn n.origin = false)
    (hreads : ∀ n, rootSchema? inst schema = some n →
      inst.origin.ReadsAlike v.renewals v'.renewals n.origin) : v.AnswersLike v' inst schema := by
  cases hroot : rootSchema? inst schema with
  | none =>
    obtain ⟨remarks, _, hrun⟩ := rootCheck_of_none hroot
    refine answersLike_of_validate ?_ ?_ ?_
    · show (v.rootCheck inst schema _ _).1 = (v'.rootCheck inst schema _ _).1
      rw [hrun, hrun]
    · rw [validate_slot, validate_slot, final, final, hrun, hrun]
      rfl
    · rw [validate_applied, validate_applied, final, final, hrun, hrun]
      rfl
  | some n =>
    -- no deposit of the call makes the schema refer to another one
    have hnever : refersAnew n.origin (v.final inst schema) = false := by
      refine List.any_eq_false.mpr fun w hw => ?_
      rw [final_writes, List.mem_reverse] at hw
      obtain ⟨d, hd, rfl⟩ := List.mem_map.mp hw
      exact Bool.eq_false_iff.mp (hkept n hroot d hd)
    obtain ⟨hend, ⟨_, hjournal, _⟩, hslot, _⟩ := rootCheck_anyHistory hroot hsettings hswitch
      (refFree_of_rootSchema? hschema hinst hroot) hinst hnever (hreads n hroot)
    refine answersLike_of_validate hend.eq.symm hslot ?_
    have hdeposits : Journal.deposits (v.final inst schema).journal.reverse =
        Journal.deposits (v'.final inst schema).journal.reverse := by
      rw [Journal.deposits, Journal.deposits, List.filterMap_reverse, List.filterMap_reverse]
      exact congrArg List.reverse hjournal
    rw [validate_applied, validate_applied, Journal.appliedPaths_eq, Journal.appliedPaths_eq,
      hdeposits]

/-- **History plays no part without references.**  Let neither the schema nor any schema that the
    instance carries have a text under a `$ref`, and let the call put none into the schema in use.
    Then the answer is the same whatever the validator has been through: it is that of any other
    validator with the same settings and the same switch that knows the same list elements to have
    been gone over; and it is that of a new one, unless the schema in use is part of an instance
    and list elements there have been gone over. -/
theorem validate_whatever_history (hschema : schema.tree.refFree = true)
    (hinst : inst.tree.carriesNoRef = true)
    (hkept : ∀ n, rootSchema? inst schema = some n →
      ∀ d ∈ Journal.deposits (v.validate inst schema).journal,
        (d.write v.renewals inst.origin).refersIn n.origin = false) :
    ((∀ n, rootSchema? inst schema = some n → n.InSchema ∨ n.origin.Untouched v.renewals) →
      v.AnswersLike (.new v.settings (.bool v.interactive.isTruthy)) inst schema) ∧
    ∀ v' : Validator, v'.settings = v.settings →
      v'.interactive.isTruthy = v.interactive.isTruthy → v'.renewals = v.renewals →
        v.AnswersLike v' inst schema := by
  refine ⟨fun huntouched => ?_, fun v' hsettings hswitch hrenewals => ?_⟩
  -- a new validator: no list elements gone over
  · refine answersLike_of_reads rfl rfl hschema hinst hkept fun n hroot => ?_
    refine (huntouched n hroot).imp_right fun h origin hwithin d tree => ?_
    exact applyTo_of_untouched (h.within hwithin) inst.origin d.trail d.value tree
  · refine answersLike_of_reads hsettings hswitch hschema hinst hkept fun n hroot => Or.inr ?_
    rw [hrenewals]
    exact fun _ _ _ _ => rfl

end Histories

/-! ## A schema that is filled in while it is in use -/

/-- A schema that gives an id to a demand for texts. -/
def namedText : Value := .map [(.name "id", .str "X"), (.name "type", .str "string")]

/-- A text as an instance. -/
def textDocument : Node := ⟨⟨.instance 1, []⟩, .str "text"⟩

/-- The default validator after it has met an id. -/
def informedValidator : Validator :=
  ((Validator.new .default .null).validate textDocument (.ofSchema 0 namedText)).validator

/-- No schema. -/
def noSchema : Node := .ofSchema 1 .null

/-- An object with one property and a schema of its own, which puts a text into the declaration of
    that property, under a name. -/
def describesItself (name : String) : Node :=
  ⟨⟨.instance 0, []⟩, .map
    [(.name "$schema", .map [(.name "properties", .map
      [(.name "$schema", .map [(.name "properties", .map
        [(.name "properties", .map [(.name "properties", .map
          [(.name "zz", .map [(.name "properties", .map
            [(.name name, .map [(.name "default", .str "X")])])])])])])]),
        (.name "zz", .map [])])]),
      (.name "zz", .int 5)]⟩

/-- A default for the description of a property is put into the schema in use, and the answer is
    that of a new validator. -/
theorem described_property_forgets :
    informedValidator.registry.ids = ["X"] ∧
      (informedValidator.validate (describesItself "description") noSchema).result = .ok () ∧
      (informedValidator.validate (describesItself "description") noSchema).validator.applied =
        ["$.$schema.properties.zz.description"] := by
  have hkept : ∀ n, rootSchema? (describesItself "description") noSchema = some n →
      ∀ d ∈ Journal.deposits
          (informedValidator.validate (describesItself "description") noSchema).journal,
        (d.write informedValidator.renewals (describesItself "description").origin).refersIn
          n.origin = false := by
    intro n hn
    obtain rfl := Option.some.inj hn
    decide +kernel
  have huntouched : ∀ n, rootSchema? (describesItself "description") noSchema = some n →
      n.InSchema ∨ n.origin.Untouched informedValidator.renewals := by
    intro n hn
    obtain rfl := Option.some.inj hn
    exact Or.inr ⟨nofun, nofun⟩
  have halike : informedValidator.AnswersLike (.new .default (.bool true))
      (describesItself "description") noSchema :=
    (validate_whatever_history (by decide +kernel) (by decide +kernel) hkept).1 huntouched
  refine ⟨by decide +kernel, halike.result.trans ?_, halike.applied.trans ?_⟩
  · decide +kernel
  · decide +kernel

/-- The same default under `$ref` makes the schema in use refer to another one.  A new validator
    does not know that one and accepts the instance; one that has met it before finds a number
    where it asks for a text.  Neither the schema nor what the instance carries had a reference
    before. -/
theorem default_reference_remembers :
    noSchema.tree.refFree = true ∧ (describesItself "$ref").tree.carriesNoRef = true ∧
      informedValidator.settings = Settings.default ∧
      informedValidator.interactive = (Validator.new .default .null).interactive ∧
      ((Validator.new .default .null).validate (describesItself "$ref") noSchema).result = .ok () ∧
      (informedValidator.validate (describesItself "$ref") noSchema).result =
        .error (.violation ⟨.wrongType "integer" "string", .str "zz", some [.name "zz"]⟩) := by
  refine ⟨by decide +kernel, by decide +kernel, rfl, rfl, by decide +kernel, by decide +kernel⟩

end Validator

end Conformance

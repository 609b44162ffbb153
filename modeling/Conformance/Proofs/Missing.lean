/-
  Missing values, at the top and below it.

  Of a missing value a schema asks little: its id is registered, its reference followed, its bases
  visited, and then the value may be required and may be filled in.  Only the last depends on the
  slot: a free slot takes the first default that is offered, and one that counts as held takes none.
  So a schema that accepts a missing value in a free slot accepts one in a held slot as well, though
  it stands in another document there (`against_follows`).  The two runs keep the same ids, each
  with the nodes of its own document.

  A property that an object lacks has a free slot, and a missing instance counts as held.  Hence
  what is offered to a property is not offered to a whole instance: where the one is filled in, the
  other stays missing (`missing_instance_stays_missing`).
-/
import Conformance.Proofs.Extends

namespace Conformance

/-! ## The same schemas in another document -/

/-- A node as it stands where its document is a part of another one. -/
def Node.under (site : Place) (n : Node) : Node :=
  ⟨⟨site.document, site.trail ++ n.origin.trail⟩, n.tree⟩

/-- Going down may come before the document is made a part of another one, or after. -/
theorem Node.down_under (site : Place) (n : Node) (step : Step) (t : Value) :
    (n.down step t).under site = (n.under site).down step t := by
  simp [under, down, Place.down]

/-- Nodes of one document remain as different as they were. -/
theorem Node.origin_under_inj (site : Place) {m n : Node}
    (h : m.origin.document = n.origin.document) :
    (m.under site).origin = (n.under site).origin ↔ m.origin = n.origin := by
  obtain ⟨⟨d, t⟩, a⟩ := m
  obtain ⟨⟨e, u⟩, b⟩ := n
  obtain rfl : d = e := h
  simp [under]

namespace Registry

/-- The registry with its nodes as they stand where their document is a part of another one. -/
def under (site : Place) (r : Registry) : Registry :=
  ⟨r.entries.map fun e => (e.1, e.2.under site)⟩

/-- All nodes of a registry are parts of one document. -/
def Within (d : Document) (r : Registry) : Prop := ∀ e ∈ r.entries, e.2.origin.document = d

variable {site : Place} {d : Document} {r : Registry} {id : String} {n : Node}

/-- What a name leads to is moved along with the document. -/
theorem find?_under (site : Place) (r : Registry) (id : String) :
    (r.under site).find? id = (r.find? id).map (·.under site) := by
  obtain ⟨entries⟩ := r
  simp only [find?, under]
  induction entries with
  | nil => rfl
  | cons e rest ih =>
    obtain ⟨key, m⟩ := e
    cases hkey : id == key with
    | true => simp [List.lookup_cons, hkey]
    | false => simpa [List.lookup_cons, hkey] using ih

/-- A schema may be registered before its document is moved, or after. -/
theorem insert_under (site : Place) (r : Registry) (id : String) (n : Node) :
    (r.insert id n).under site = (r.under site).insert id (n.under site) := by
  -- an id is known before the move if it is known after it
  have hcontains : (r.under site).contains id = r.contains id := by
    rw [contains, find?_under, Option.isSome_map, ← contains]
  unfold insert
  rw [hcontains]
  split
  · rfl
  · simp [under]

/-- A registry stays within a document when one of its nodes is entered. -/
theorem Within.insert (h : r.Within d) (hn : n.origin.document = d) (id : String) :
    (r.insert id n).Within d := by
  unfold Registry.insert
  split
  · exact h
  · intro e he
    rcases List.mem_append.mp he with he | he
    · exact h e he
    · obtain rfl := List.mem_singleton.mp he
      exact hn

/-- A name leads to a node of that document. -/
theorem Within.found (h : r.Within d) (hfind : r.find? id = some n) : n.origin.document = d := by
  obtain ⟨before, after, hentries, -⟩ := List.lookup_eq_some_iff.mp hfind
  exact h (id, n) (by simp [hentries])

end Registry

namespace Check

/-! ## A free slot beside a held one -/

section Beside

variable {i j : Nat} {t : Trail}

/-- Two runs on a missing value: the slot of the first can take a default or has taken one, that of
    the second counts as held, and both have met the same schemas, which are a part of another
    document in the first. -/
structure Beside (i : Nat) (t : Trail) (j : Nat) (p q : Progress) : Prop where
  open_slot : p.slot = .free ∨ ∃ v, p.slot = .filled v
  held : q.slot = .held
  registry : p.registry = q.registry.under ⟨.schema i, t⟩
  within : q.registry.Within (.schema j)

/-- Whenever the first check succeeds on a slot that is open, so does the second on one that is
    held. -/
def Follows (i : Nat) (t : Trail) (j : Nat) (c d : Check Unit) : Prop :=
  ∀ s s' p q p', Beside i t j p q → c s p = (.ok (), p') →
    ∃ q', d s' q = (.ok (), q') ∧ Beside i t j p' q'

namespace Follows

theorem skip : Follows i t j (pure ()) (pure ()) := by
  intro s s' p q p' hpq h
  cases h
  exact ⟨q, rfl, hpq⟩

/-- Checks that follow each other, one after the other. -/
theorem bind {c c' d d' : Check Unit} (first : Follows i t j c d) (rest : Follows i t j c' d') :
    Follows i t j (c >>= fun _ => c') (d >>= fun _ => d') := by
  intro s s' p q p' hpq h
  obtain ⟨_, p₁, hc, h⟩ := bind_ok h
  obtain ⟨q₁, hd, hpq₁⟩ := first s s' p q p₁ hpq hc
  obtain ⟨q', hd', hpq'⟩ := rest s s' p₁ q₁ p' hpq₁ h
  exact ⟨q', by rw [bind_run_ok hd, hd'], hpq'⟩

end Follows

/-! ## Rules for a missing value -/

variable {visit visit' : Node → Check Unit} {n : Node}

/-- A node that has been moved stands in a schema document. -/
theorem inSchema_under (i : Nat) (t : Trail) (n : Node) : (n.under ⟨.schema i, t⟩).InSchema :=
  ⟨i, rfl⟩

/-- A rule that is given in the one document is given in the other. -/
theorem whenGiven_follows (hn : n.origin.document = .schema j) {name : String}
    {rule rule' : Node → Check Unit}
    (h : ∀ r, Follows i t j (rule ((n.down (.name name) r).under ⟨.schema i, t⟩))
      (rule' (n.down (.name name) r))) :
    Follows i t j (whenGiven (n.under ⟨.schema i, t⟩) name rule) (whenGiven n name rule') := by
  intro s s' p q p' hpq hrun
  rw [whenGiven_run (inSchema_under i t n)] at hrun
  rw [whenGiven_run ⟨j, hn⟩]
  rw [show (n.under ⟨.schema i, t⟩).tree = n.tree from rfl] at hrun
  cases hr : n.tree.rule? name with
  | none =>
    rw [hr] at hrun
    exact Follows.skip s s' p q p' hpq hrun
  | some r =>
    rw [hr] at hrun
    dsimp only at hrun
    rw [← Node.down_under] at hrun
    exact h r s s' p q p' hpq hrun

/-- An id is registered in both. -/
theorem idRule_follows (hn : n.origin.document = .schema j) :
    Follows i t j (idRule (n.under ⟨.schema i, t⟩)) (idRule n) := by
  refine whenGiven_follows hn fun r s s' p q p' hpq h => ?_
  cases h
  refine ⟨_, rfl, hpq.open_slot, hpq.held, ?_, hpq.within.insert hn _⟩
  show p.registry.insert _ _ = (q.registry.insert _ _).under _
  rw [hpq.registry, Registry.insert_under]
  rfl

/-- A reference leads to the same schema in both documents, or to none in either. -/
theorem follow_follows (hn : n.origin.document = .schema j)
    (hvisit : ∀ k, k.origin.document = .schema j →
      Follows i t j (visit (k.under ⟨.schema i, t⟩)) (visit' k)) (ref : String) :
    Follows i t j (follow visit (n.under ⟨.schema i, t⟩) ref) (follow visit' n ref) := by
  intro s s' p q p' hpq h
  unfold follow at h ⊢
  rw [progress_bind, hpq.registry, Registry.find?_under] at h
  rw [progress_bind]
  cases hfind : q.registry.find? ref with
  | none =>
    rw [hfind] at h
    cases h
    exact ⟨_, rfl, hpq.open_slot, hpq.held, hpq.registry, hpq.within⟩
  | some target =>
    have htarget : target.origin.document = .schema j := hpq.within.found hfind
    rw [hfind] at h
    dsimp only [Option.map_some] at h ⊢
    -- a schema that refers to itself does so in both documents
    have hself := Node.origin_under_inj ⟨.schema i, t⟩ (htarget.trans hn.symm)
    by_cases horigin : target.origin = n.origin
    · rw [if_pos (hself.mpr horigin)] at h
      rw [if_pos horigin]
      exact Follows.skip s s' p q p' hpq h
    · rw [if_neg (mt hself.mp horigin)] at h
      rw [if_neg horigin]
      exact hvisit target htarget s s' p q p' hpq h

/-- A reference is followed in both, or in neither. -/
theorem refRule_follows (hn : n.origin.document = .schema j)
    (hvisit : ∀ k, k.origin.document = .schema j →
      Follows i t j (visit (k.under ⟨.schema i, t⟩)) (visit' k)) :
    Follows i t j (refRule visit (n.under ⟨.schema i, t⟩)) (refRule visit' n) := by
  intro s s' p q p' hpq h
  unfold refRule at h ⊢
  rw [field?_bind, (inSchema_under i t n).content] at h
  rw [field?_bind, Node.content_schema hn]
  rw [show (n.under ⟨.schema i, t⟩).tree = n.tree from rfl] at h
  cases hr : n.tree.get? "$ref" with
  | none =>
    rw [hr] at h
    exact Follows.skip s s' p q p' hpq h
  | some r =>
    rw [hr] at h
    cases r with
    | str ref => exact follow_follows hn hvisit ref s s' p q p' hpq h
    | _ => exact Follows.skip s s' p q p' hpq h

/-- The elements of a list in a schema are visited in both documents, one after the other. -/
theorem visitFrom_follows (hn : n.origin.document = .schema j)
    (hvisit : ∀ k, k.origin.document = .schema j →
      Follows i t j (visit (k.under ⟨.schema i, t⟩)) (visit' k))
    {items : List Value} {a : Nat} (ha : n.tree.listItems.length = a + items.length) :
    Follows i t j (visitFrom (n.under ⟨.schema i, t⟩) (fun _ => visit) a items)
      (visitFrom n (fun _ => visit') a items) := by
  induction items generalizing a with
  | nil =>
    intro s s' p q p' hpq h
    -- the list has been gone through, and a schema document does not grow
    have hlength : n.tree.listItems.length ≤ a := by simp [ha]
    rw [visitFrom_end (inSchema_under i t n) hlength] at h
    rw [visitFrom_end ⟨j, hn⟩ hlength]
    cases h
    exact ⟨q, rfl, hpq⟩
  | cons v rest ih =>
    have hfirst := hvisit (n.down (.index a) v) hn
    rw [Node.down_under] at hfirst
    have hrest := ih (a := a + 1) (by rw [ha, List.length_cons]; omega)
    exact hfirst.bind hrest

/-- Bases are visited in both documents. -/
theorem extendsRule_follows (hn : n.origin.document = .schema j)
    (hvisit : ∀ k, k.origin.document = .schema j →
      Follows i t j (visit (k.under ⟨.schema i, t⟩)) (visit' k)) :
    Follows i t j (extendsRule visit (n.under ⟨.schema i, t⟩)) (extendsRule visit' n) := by
  refine whenGiven_follows hn fun r => ?_
  have hr : (n.down (.name "extends") r).origin.document = .schema j := hn
  cases r with
  | list bases =>
    intro s s' p q p' hpq h
    have hvisits := visitFrom_follows hr hvisit (Nat.zero_add _).symm s s' p q p' hpq
    obtain ⟨_, p₁, hread, h⟩ := bind_ok h
    rw [Check.content, (inSchema_under i t _).content] at hread
    cases hread
    obtain ⟨q', hq', hpq'⟩ := hvisits h
    refine ⟨q', ?_, hpq'⟩
    show eachElement _ _ s' q = _
    unfold eachElement
    rwa [content_bind, Node.content_schema hr]
  | _ => exact hvisit _ hr

/-- A missing value that is required is reported, whatever its slot. -/
theorem missed_required {schema : Value} (h : schema.get? "required" = some (.bool true))
    (s : Scope) (slot : Slot) :
    missed schema s slot = .fails (.violation ⟨.missing, s.key, some s.trail⟩) := if_pos h

/-- A missing value that is not required passes where its slot is held. -/
theorem missed_held {schema : Value} (h : schema.get? "required" ≠ some (.bool true)) (s : Scope) :
    missed schema s .held = .passes := by
  unfold missed
  rw [if_neg h]
  split
  · rfl
  · cases offer? schema <;> rfl

/-- An open slot stays open, whatever becomes of the missing value. -/
theorem open_of_missed {schema : Value} {s : Scope} {p q : Progress}
    (hp : p.slot = .free ∨ ∃ v, p.slot = .filled v)
    (h : (missed schema s p.slot).check s p = (.ok (), q)) :
    (q.slot = .free ∨ ∃ v, q.slot = .filled v) ∧ q.registry = p.registry := by
  cases hm : missed schema s p.slot with
  | fails f =>
    rw [hm] at h
    cases h
  | passes =>
    rw [hm] at h
    cases h
    exact ⟨hp, rfl⟩
  | remarks e =>
    rw [hm] at h
    cases h
    exact ⟨hp, rfl⟩
  | filled σ v =>
    rw [hm] at h
    cases h
    have hinjection := (of_missed_filled hm).2.2
    -- a slot that is free can be filled, and one that has been filled cannot
    rcases hp with hfree | ⟨w, hfilled⟩
    · rw [hfree] at hinjection
      cases hinjection
      exact ⟨Or.inr ⟨v, rfl⟩, rfl⟩
    · rw [hfilled] at hinjection
      cases hinjection

/-- Where an open slot is accepted, a held one is: the value is not required. -/
theorem missingRules_follows (hn : n.origin.document = .schema j) :
    Follows i t j (missingRules (n.under ⟨.schema i, t⟩)) (missingRules n) := by
  intro s s' p q p' hpq h
  rw [missingRules_run, (inSchema_under i t n).content] at h
  rw [missingRules_run, Node.content_schema hn, hpq.held]
  rw [show (n.under ⟨.schema i, t⟩).tree = n.tree from rfl] at h
  -- a value that is required would have been reported in the open slot
  have hnot : n.tree.get? "required" ≠ some (.bool true) := by
    intro hrequired
    rw [missed_required hrequired] at h
    cases h
  rw [missed_held hnot]
  obtain ⟨hopen, hregistry⟩ := open_of_missed hpq.open_slot h
  exact ⟨q, rfl, hopen, hpq.held, hregistry.trans hpq.registry, hpq.within⟩

/-- A missing value is met by no other rules. -/
theorem ownRules_follows (hn : n.origin.document = .schema j) :
    Follows i t j (ownRules visit (n.under ⟨.schema i, t⟩)) (ownRules visit' n) := by
  intro s s' p q p' hpq h
  have hmissing : p.slot.value = .missing := by
    rcases hpq.open_slot with hp | ⟨v, hp⟩ <;> rw [hp] <;> rfl
  unfold ownRules at h ⊢
  rw [value_bind, hmissing] at h
  rw [value_bind, hpq.held]
  exact missingRules_follows hn s s' p q p' hpq h

/-! ## Whole schemas -/

/-- Going one level deeper leaves the slots and the registries as they are. -/
theorem nested_follows {c d : Check Unit} (h : Follows i t j c d) (k l : Node) :
    Follows i t j (nested k c) (nested l d) := by
  intro s s' p q p' hpq hrun
  obtain ⟨p₁, hc, rfl⟩ := nested_ok hrun
  let entered : Progress := { q with journal := .entered l s'.trail (s'.depth + 1) :: q.journal }
  have hentered : Beside i t j { p with journal := .entered k s.trail (s.depth + 1) :: p.journal }
      entered := ⟨hpq.open_slot, hpq.held, hpq.registry, hpq.within⟩
  obtain ⟨q₁, hd, hpq₁⟩ := h _ { s' with depth := s'.depth + 1 } _ entered p₁ hentered hc
  exact ⟨_, nested_run_ok hd, hpq₁.open_slot, hpq₁.held, hpq₁.registry, hpq₁.within⟩

/-- What is no mapping asks for nothing. -/
theorem against_follows_of_not_map (hn : n.origin.document = .schema j)
    (hmap : n.tree.isMap = false) (depth depth' : Nat) :
    Follows i t j (against depth (n.under ⟨.schema i, t⟩)) (against depth' n) := by
  intro s s' p q p' hpq h
  rw [against_of_not_map (by rwa [(inSchema_under i t n).content])] at h
  rw [against_of_not_map (by rwa [Node.content_schema hn])]
  exact Follows.skip s s' p q p' hpq h

/-- **A missing value is accepted in a held slot where it is accepted in an open one**, by the same
    schema in a document of its own, with as much depth to go at least. -/
theorem against_follows {depth depth' : Nat} (hdepth : depth ≤ depth')
    (hn : n.origin.document = .schema j) :
    Follows i t j (against depth (n.under ⟨.schema i, t⟩)) (against depth' n) := by
  induction depth generalizing depth' n with
  -- no depth is left, so the first check has succeeded only if there is nothing to check
  | zero =>
    cases hmap : n.tree.isMap with
    | true =>
      intro s s' p q p' hpq h
      rw [against_zero_of_map (by rwa [(inSchema_under i t n).content])] at h
      cases h
    | false => exact against_follows_of_not_map hn hmap 0 depth'
  | succ depth ih =>
    obtain ⟨depth', rfl⟩ : ∃ k, depth' = k + 1 := ⟨depth' - 1, by omega⟩
    have hvisit (k : Node) (hk : k.origin.document = .schema j) :
        Follows i t j (against depth (k.under ⟨.schema i, t⟩)) (against depth' k) :=
      ih (by omega) hk
    have hproperty : Follows i t j (property (against depth) (n.under ⟨.schema i, t⟩))
        (property (against depth') n) := by
      refine (idRule_follows hn).bind ?_
      refine (refRule_follows hn hvisit).bind ?_
      exact (extendsRule_follows hn hvisit).bind (ownRules_follows hn)
    cases hmap : n.tree.isMap with
    | true =>
      intro s s' p q p' hpq h
      rw [against_succ_of_map (by rwa [(inSchema_under i t n).content])] at h
      rw [against_succ_of_map (by rwa [Node.content_schema hn])]
      exact nested_follows hproperty _ n s s' p q p' hpq h
    | false => exact against_follows_of_not_map hn hmap (depth + 1) (depth' + 1)

end Beside

end Check

/-! ## A property that an object lacks -/

/-- The schema that declares one property and says nothing else. -/
def declaring (k : String) (S : Value) : Value :=
  .map [(.name "properties", .map [(.name k, S)])]

namespace Check

section Declaring

variable {i : Nat} {k : String} {S : Value} {visit : Node → Check Unit} {s : Scope} {p q : Progress}

/-- Its declarations, as a part of a schema document. -/
def oneDeclaration (i : Nat) (k : String) (S : Value) : Node :=
  (Node.ofSchema i (declaring k S)).down (.name "properties") (.map [(.name k, S)])

/-- Its policy on other properties, of which it says nothing. -/
def noPolicy (i : Nat) (k : String) (S : Value) : Node :=
  (Node.ofSchema i (declaring k S)).down (.name "additionalProperties") .null

/-- Where the schema of the property stands. -/
def propertySite (i : Nat) (k : String) : Place := ⟨.schema i, [.name "properties", .name k]⟩

/-- An object is all that such a schema asks for. -/
theorem property_declaring (hp : p.slot = .present (.map [])) :
    property visit (.ofSchema i (declaring k S)) s p =
      object visit (oneDeclaration i k S) (noPolicy i k S) s p := by
  have hown : property visit (.ofSchema i (declaring k S)) s p =
      ownRules visit (.ofSchema i (declaring k S)) s p := rfl
  rw [hown, ownRules, value_bind, hp]
  -- the other rules are not given
  have hpresent : presentRules visit (.ofSchema i (declaring k S)) (.map []) =
      (object visit (oneDeclaration i k S) (noPolicy i k S) >>= fun _ => pure ()) := rfl
  show presentRules visit (.ofSchema i (declaring k S)) (.map []) s p = _
  rw [hpresent, bind_pure_unit]

/-- Where an entry is admitted, nothing else has happened, -/
theorem admission_ok {policy : Node} {key : Key} {declared : Option Value}
    (h : admission policy key declared s p = (.ok (), q)) : q = p := by
  unfold admission at h
  split at h <;> cases h
  rfl

/-- and where a requirement is met, nothing has either. -/
theorem requirementRule_ok {key : Key} {declared : Option Value}
    (h : requirementRule key declared s p = (.ok (), q)) : q = p := by
  unfold requirementRule at h
  cases hr : requirement declared with
  | null =>
    rw [hr] at h
    cases h
    rfl
  | str required =>
    rw [hr] at h
    dsimp only at h
    rw [value_bind] at h
    split at h <;> cases h
    rfl
  | _ =>
    rw [hr] at h
    cases h

/-- The one property is declared, whatever has been written. -/
theorem hasKey_declared (p : Progress) :
    ((oneDeclaration i k S).content p.writes).hasKey (.name k) = true := by
  show (Value.map [(.name k, S)]).hasKey (.name k) = true
  simp [Value.hasKey, Value.entries, Value.entryWith?, Key.same]

/-- An entry that is declared passes as it is where defaults are written. -/
theorem entry_ok (hs : s.interactive = true)
    (h : entry visit (oneDeclaration i k S) (noPolicy i k S) (.name k) s p = (.ok (), q)) :
    q = p := by
  unfold entry at h
  rw [content_bind] at h
  obtain ⟨_, p₁, hadmission, h⟩ := bind_ok h
  obtain ⟨_, p₂, hrequirement, h⟩ := bind_ok h
  obtain ⟨_, p₃, hpolicy, hown⟩ := bind_ok h
  obtain rfl := admission_ok hadmission
  obtain rfl := requirementRule_ok hrequirement
  rw [policyRule, content_bind, hasKey_declared] at hpolicy
  cases hpolicy
  rw [ownSchema_eq hs] at hown
  cases hown
  rfl

/-- An object without the declared property is what the check of that property leaves: it is made
    in a free slot, and nothing comes after it. -/
theorem object_declaring {depth : Nat} (hk : isReserved (.name k) = false)
    (hp : p.slot = .present (.map []))
    (h : object (against depth) (oneDeclaration i k S) (noPolicy i k S) s p = (.ok (), q)) :
    ∃ r ds, against depth ((Node.ofSchema 0 S).under (propertySite i k)) (s.child (.name k))
        { p with slot := .free } = (.ok (), r) ∧
      Moves (s.child (.name k)) { p with slot := .free } ds r ∧
      q = { r with slot := .present ((Value.map []).settle (.name k) r.slot) } := by
  let member := (Node.ofSchema 0 S).under (propertySite i k)
  unfold object at h
  have hcontent : (oneDeclaration i k S).content p.writes = .map [(.name k, S)] := rfl
  rw [content_bind, hcontent] at h
  obtain ⟨_, p₁, honly, h⟩ := bind_ok h
  obtain ⟨_, p₂, hdeclared, h⟩ := bind_ok h
  rw [objectOnly, value_bind, hp] at honly
  cases honly
  -- the one property, and nothing is declared meanwhile
  obtain ⟨_, p₃, hproperty, hdeclared⟩ := bind_ok hdeclared
  rw [declaredProperty, hk] at hproperty
  have hsize : (stillOfSize (oneDeclaration i k S) 1 >>= fun _ => pure ()) s p₃ = (.ok (), p₃) :=
    rfl
  obtain rfl : p₃ = p₂ := congrArg Prod.snd (hsize.symm.trans hdeclared)
  have hchild : atChild (.name k) (against depth member) s p = (.ok (), p₃) := hproperty
  obtain ⟨r, hr, rfl⟩ := atChild_ok hp hchild
  obtain ⟨ds, hm⟩ := against_moves depth member (s.child (.name k)) { p with slot := .free }
  rw [show against depth member (s.child (.name k)) { p with slot := .free } = (.ok (), r)
    from hr] at hm
  refine ⟨r, ds, hr, hm, ?_⟩
  -- the entries that are there by now: none, or the one that is declared
  rw [value_bind] at h
  rcases hm.slot.of_free with ⟨rfl, hfree⟩ | ⟨v, rfl, hfilled⟩
  · rw [hfree] at h ⊢
    cases h
    rfl
  · have hs : s.interactive = true := by
      cases hi : s.interactive with
      | true => rfl
      | false => cases hm.eq_nil hi
    rw [hfilled] at h ⊢
    obtain ⟨_, p₄, hentry, hnone⟩ := bind_ok h
    cases hnone
    exact entry_ok hs hentry

/-- What a check of an object without the declared property comes to: the property is checked in a
    free slot one level down, and whatever is deposited is deposited there. -/
theorem against_declaring {depth : Nat} (hk : isReserved (.name k) = false)
    (hp : p.slot = .present (.map []))
    (h : against (depth + 1) (.ofSchema i (declaring k S)) s p = (.ok (), q)) :
    ∃ s' p' r ds, p'.slot = .free ∧ p'.registry = p.registry ∧
      against depth ((Node.ofSchema 0 S).under (propertySite i k)) s' p' = (.ok (), r) ∧
      q.slot = .present ((Value.map []).settle (.name k) r.slot) ∧
      Slot.free.Injections ds r.slot ∧ Moves s p (ds.map (Deposit.below (.name k))) q := by
  let holder := Node.ofSchema i (declaring k S)
  let entered : Progress :=
    { p with journal := .entered holder s.trail (s.depth + 1) :: p.journal }
  rw [against_succ_of_map (by rfl)] at h
  obtain ⟨o, ho, rfl⟩ := nested_ok h
  have hentered : entered.slot = .present (.map []) := hp
  obtain ⟨r, ds, hr, hm, rfl⟩ :=
    object_declaring hk hentered ((property_declaring hentered).symm.trans ho)
  have hback : { entered with slot := .present (.map []) } = entered := by
    rw [← hentered]
  have hmember := (hm.member (show Slot.free = (Value.map []).slotBelow (.name k) from rfl)).2
  rw [hback] at hmember
  refine ⟨_, { entered with slot := .free }, r, ds, rfl, rfl, hr, rfl, hm.slot, ?_⟩
  have hbefore : Silent p entered := .of_events rfl rfl [_] rfl (by simp [Event.deposit?])
  exact .silent ((Moves.of_silent hbefore).trans hmember.deeper)
    (.of_events rfl rfl [_] rfl (by simp [Event.deposit?]))

end Declaring

end Check

/-! ## A missing instance -/

namespace Validator

open Check

variable {settings : Settings} {switch : Value} {i : Nat} {k : String} {S : Value} {here : Place}

/-- A call that accepts an object without a declared property has checked the property in a free
    slot, and leaves the object empty, with nothing on record, or with the one default that is. -/
theorem validate_declaring (hk : isReserved (.name k) = false)
    (hok : ((Validator.new settings switch).validate ⟨here, .map []⟩
      (.ofSchema i (declaring k S))).result = .ok ()) :
    let below := (Validator.new settings switch).validate ⟨here, .map []⟩
      (.ofSchema i (declaring k S))
    (∃ depth s p r, depth ≤ settings.maxDepth ∧ p.slot = .free ∧ p.registry = .empty ∧
        against depth ((Node.ofSchema 0 S).under (propertySite i k)) s p = (.ok (), r)) ∧
      ((below.slot.value = .map [] ∧ below.validator.applied = []) ∨
        ∃ d, below.slot.value = .map [(.name k, d)] ∧
          below.validator.applied = [Trail.text [.name k]]) := by
  intro below
  let v := Validator.new settings switch
  let inst : Node := ⟨here, .map []⟩
  let schema : Node := .ofSchema i (declaring k S)
  have hrun : against settings.maxDepth schema (v.rootScope inst) (v.start inst) =
      (.ok (), v.final inst schema) := Prod.ext hok rfl
  obtain ⟨depth, hdepth⟩ := Nat.exists_eq_add_of_le' settings.one_le
  rw [hdepth] at hrun
  obtain ⟨s, p, r, ds, hfree, hregistry, hproperty, hleft, hinjections, hmoves⟩ :=
    against_declaring hk rfl hrun
  refine ⟨⟨depth, s, p, r, by omega, hfree, hregistry, hproperty⟩, ?_⟩
  have happlied : below.validator.applied = _ := (deposited_of_moves hmoves).applied
  have hvalue : below.slot.value = (Value.map []).settle (.name k) r.slot :=
    congrArg Slot.value hleft
  rw [happlied, hvalue]
  -- a free slot receives nothing, or one default
  rcases hinjections.of_free with ⟨rfl, hr⟩ | ⟨d, rfl, hr⟩
  · rw [hr]
    exact Or.inl ⟨rfl, rfl⟩
  · rw [hr]
    exact Or.inr ⟨d, rfl, rfl⟩

/-- A missing instance is accepted where a missing property is, and receives nothing. -/
theorem validate_missing (hS : S.isMap = true) {depth : Nat} (hdepth : depth ≤ settings.maxDepth)
    {s : Scope} {p r : Progress} (hp : p.slot = .free) (hregistry : p.registry = .empty)
    (h : against depth ((Node.ofSchema 0 S).under (propertySite i k)) s p = (.ok (), r))
    (switch : Value) (there : Place) (j : Nat) :
    let top := (Validator.new settings switch).validate ⟨there, .missing⟩ (.ofSchema j S)
    top.result = .ok () ∧ top.slot.value = .missing ∧ top.validator.applied = [] := by
  intro top
  let v := Validator.new settings switch
  let inst : Node := ⟨there, .missing⟩
  have hgiven : (Node.ofSchema j S).tree.isGiven = true := Value.isGiven_of_isMap hS
  -- both validators are new, so neither has met any schema
  have hbeside : Beside i [.name "properties", .name k] j p (v.start inst) :=
    ⟨Or.inl hp, rfl, hregistry, by simp [Registry.Within, start, v, Validator.new, Registry.empty]⟩
  obtain ⟨q, hq, hbeside'⟩ := against_follows (n := .ofSchema j S) hdepth rfl s (v.rootScope inst) p
    (v.start inst) r hbeside h
  obtain ⟨hresult, hslot⟩ := validate_of_given v inst (.ofSchema j S) hgiven
  have hvisit : v.visit (.ofSchema j S) (v.rootScope inst) (v.start inst) = (.ok (), q) := hq
  rw [hvisit] at hresult hslot
  have hmissing : top.slot.value = .missing := by
    show (v.validate inst (.ofSchema j S)).slot.value = _
    rw [hslot, hbeside'.held]
    rfl
  -- what is missing still has received nothing
  obtain ⟨ds, hdeposited⟩ := v.exists_deposited inst (.ofSchema j S)
  have hnone : ds = [] := hdeposited.injections.eq_iff.mp hmissing
  refine ⟨hresult, hmissing, ?_⟩
  show (v.validate inst (.ofSchema j S)).validator.applied = []
  rw [hdeposited.applied, hnone]
  rfl

/-- **A missing instance stays missing.**  Where an object is accepted without a declared property,
    a missing instance is accepted by the schema of that property.  But while the property may have
    been filled in, with one default on record, the instance never is, and nothing is on record: the
    two calls leave the same and record the same exactly if nothing has been filled in. -/
theorem missing_instance_stays_missing (settings : Settings) (switch : Value) (i j : Nat)
    (here there : Place) {k : String} {S : Value} (hk : isReserved (.name k) = false)
    (hS : S.isMap = true) :
    let v := Validator.new settings switch
    let below := v.validate ⟨here, .map []⟩ (.ofSchema i (declaring k S))
    let top := v.validate ⟨there, .missing⟩ (.ofSchema j S)
    below.result = .ok () →
      top.result = .ok () ∧ top.slot.value = .missing ∧ top.validator.applied = [] ∧
        ((below.slot.value = .map [] ∧ below.validator.applied = []) ∨
          ∃ d, below.slot.value = .map [(.name k, d)] ∧
            below.validator.applied = [Trail.text [.name k]]) ∧
        ((top.slot.value = (below.slot.value.get? k).getD .missing ∧
            (top.validator.applied.length = 1 ↔ below.validator.applied.length = 1)) ↔
          below.validator.applied = []) := by
  intro v below top hok
  -- the run of the property is the one that the run of the instance follows
  obtain ⟨⟨depth, s, p, r, hdepth, hp, hregistry, hrun⟩, hleft⟩ := validate_declaring hk hok
  obtain ⟨hresult, hvalue, happlied⟩ :=
    validate_missing hS hdepth hp hregistry hrun switch there j
  refine ⟨hresult, hvalue, happlied, hleft, ?_⟩
  rw [hvalue, happlied]
  rcases hleft with ⟨hb, ha⟩ | ⟨d, hb, ha⟩
  · have hb' : below.slot.value = .map [] := hb
    have ha' : below.validator.applied = [] := ha
    simp [hb', ha', Value.get?, Value.entryAt?, Value.entryWith?]
  · have ha' : below.validator.applied = [Trail.text [.name k]] := ha
    simp [ha']

/-- A property is filled in, and a missing instance is not, by the same schema. -/
theorem one_filled_in_below :
    let v := Validator.new .default .null
    let below := v.validate emptyInstance (.ofSchema 0 (declaring "k" oneByDefault))
    let top := v.validate ⟨⟨.instance 1, []⟩, .missing⟩ (.ofSchema 1 oneByDefault)
    below.slot.value = .map [(.name "k", .int 1)] ∧ below.validator.applied = ["$.k"] ∧
      top.result = .ok () ∧ top.slot.value = .missing ∧ top.validator.applied = [] := by
  intro v below top
  have hok : below.result = .ok () := by decide +kernel
  obtain ⟨hresult, hvalue, happlied, _⟩ :=
    missing_instance_stays_missing .default .null 0 1 emptyInstance.origin ⟨.instance 1, []⟩
      (k := "k") (S := oneByDefault) (by decide) rfl hok
  exact ⟨by decide +kernel, by decide +kernel, hresult, hvalue, happlied⟩

/-- So a whole instance is not filled in the way a property is. -/
theorem instance_not_filled_like_property :
    ¬ ∀ S : Value, S.isMap = true →
      let v := Validator.new .default .null
      let below := v.validate emptyInstance (.ofSchema 0 (declaring "k" S))
      let top := v.validate ⟨⟨.instance 1, []⟩, .missing⟩ (.ofSchema 1 S)
      below.result = .ok () →
        top.result = .ok () ∧ top.slot.value = (below.slot.value.get? "k").getD .missing ∧
          (top.validator.applied.length = 1 ↔ below.validator.applied.length = 1) := by
  intro h
  obtain ⟨_, hvalue, _⟩ := h oneByDefault rfl (by decide +kernel)
  exact absurd hvalue (by decide +kernel)

end Validator

end Conformance

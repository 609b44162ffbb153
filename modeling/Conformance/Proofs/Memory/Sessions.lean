/-
  Sessions: calls over schemas and instances that lie in one memory.

  A `Store` knows its schemas and instances by words.  A call reads the documents it is about, and
  the defaults that it writes are put into memory one after the other, each as a copy of its own
  (`Store.perform`).  A store is `Apart` if no container belongs to two instances, to an instance
  and a schema, or to one document twice.

  One call keeps a store apart, and what it writes is seen in one instance only (`Laid.perform`).
  The main statement is that for whole sessions, whatever the validators: schemas read as they did
  at the start, instances that a call is not about read as they did before it, and the one that it
  is about reads as the call leaves it.  An instance may be any value, so a parent that is none of
  the documents proper is one more instance.
-/
import Conformance.Proofs.Memory.Effects
import Conformance.Proofs.Memory.Writes

namespace Conformance

/-- Schemas and instances in one memory, known by words. -/
structure Store where
  memory : Memory
  schemas : List Word
  instances : List Word

namespace Store

/-! ## Calls -/

/-- A part of an instance: the number of the instance, and the way down. -/
structure Part where
  index : Nat
  trail : Trail

/-- The value that a check of one property is about. -/
inductive Subject where
  /-- What the parent has under the key. -/
  | found
  /-- The mark of an absent key, handed in. -/
  | absent
  /-- A part of an instance, handed in by itself. -/
  | part (p : Part)

/-- A call, on instances and an explicit schema that are known by their numbers. -/
inductive Call where
  | validate (inst schema : Nat)
  | check (inst schema : Nat)
  | property (parent : Part) (key : Value) (subject : Subject) (schema : Nat)

/-- The instances that a call names. -/
def Call.instances : Call → List Nat
  | .validate i _ => [i]
  | .check i _ => [i]
  | .property parent _ (.part p) _ => [parent.index, p.index]
  | .property parent _ _ _ => [parent.index]

/-- What a call does to the instances: the part that it writes to, the defaults with their trails
    from there, and the value that is there afterwards. -/
structure Effect where
  part : Part
  deposits : List Deposit
  left : Value

/-- The effect of a check that has looked into a parent. -/
def Effect.ofMember (parent : Part) (step : Step) (o : Validator.MemberOutcome) : Effect :=
  ⟨parent, o.outcome.journal.deposits.map (Deposit.below step), o.parent⟩

/-! ## What a call does -/

/-- What the schema with a number reads as. -/
def schema? (σ : Store) (k : Nat) : Option Value := σ.schemas[k]?.bind σ.memory.read

/-- What the instance with a number reads as. -/
def instance? (σ : Store) (i : Nat) : Option Value := σ.instances[i]?.bind σ.memory.read

/-- The schema with a number, as a node. -/
def schemaNode? (σ : Store) (k : Nat) : Option Node := (σ.schema? k).map (Node.ofSchema k)

/-- A part of an instance, as a node at the place where a validator knows it. -/
def partNode? (σ : Store) (v : Validator) (p : Part) : Option Node :=
  ((σ.instance? p.index).bind (·.at? p.trail)).map fun x =>
    ⟨Place.along v.renewals ⟨.instance p.index, []⟩ p.trail, x⟩

/-- What a call does, if all that it names is there. -/
def effect? (σ : Store) (v : Validator) : Call → Option Effect
  | .validate i k => do
    let o := v.validate (← σ.partNode? v ⟨i, []⟩) (← σ.schemaNode? k)
    return ⟨⟨i, []⟩, o.journal.deposits, o.slot.value⟩
  | .check i k => do
    let o := v.check (← σ.partNode? v ⟨i, []⟩) (← σ.schemaNode? k)
    return ⟨⟨i, []⟩, o.journal.deposits, o.slot.value⟩
  | .property parent key subject k => do
    let here ← σ.partNode? v parent
    let schema ← σ.schemaNode? k
    let step := here.tree.stepTo key
    match subject with
    | .found => return .ofMember parent step (v.checkProperty here key none schema)
    | .absent =>
      return .ofMember parent step
        (v.checkProperty here key (some ⟨here.origin, .missing⟩) schema)
    | .part p =>
      let n ← σ.partNode? v p
      let o := v.checkProperty here key (some n) schema
      return if n.tree.isMissing then .ofMember parent step o
        else ⟨p, o.outcome.journal.deposits, o.value⟩

/-- A store after a call: what the call writes is put into the instance in place. -/
def perform (σ : Store) (v : Validator) (c : Call) : Store :=
  match σ.effect? v c with
  | none => σ
  | some e => { σ with
      memory := σ.memory.putAll (.tuple σ.instances)
        (e.deposits.map (Deposit.under (.index e.part.index :: e.part.trail))) }

/-- A store after several calls, each made by some validator. -/
def after (σ : Store) (calls : List (Validator × Call)) : Store :=
  calls.foldl (fun σ c => σ.perform c.1 c.2) σ

/-- The instance that a call writes to. -/
def target? (σ : Store) (v : Validator) (c : Call) : Option Nat :=
  (σ.effect? v c).map (·.part.index)

/-- A store of documents that have been read in one by one. -/
def decode (schemas instances : List Value) : Store :=
  let (ss, m) := (Memory.mk []).copyAll schemas
  let (is, m') := m.copyAll instances
  ⟨m', ss, is⟩

/-! ## Documents apart from each other -/

/-- The documents of a store and where they lie.  No schema and no instance has a cell twice, and no
    instance has one in common with another document; schemas may have some in common. -/
structure Laid (σ : Store) (schemas instances : List Layout) : Prop where
  schemas_eq : σ.schemas = schemas.map Layout.word
  instances_eq : σ.instances = instances.map Layout.word
  schemas_hold : ∀ t ∈ schemas, t.Holds σ.memory
  schemas_simple : ∀ t ∈ schemas, t.addresses.Nodup
  instances_hold : (Layout.tuple instances).Holds σ.memory
  instances_simple : (Layout.tuple instances).addresses.Nodup
  disjoint : ∀ t ∈ schemas, ∀ a ∈ t.addresses, a ∉ (Layout.tuple instances).addresses

/-- No container belongs to two instances, to an instance and a schema, or to one document
    twice. -/
def Apart (σ : Store) : Prop := ∃ schemas instances, σ.Laid schemas instances

/-- Documents that have been read in one by one share nothing. -/
theorem decode_apart (schemas instances : List Value) : (decode schemas instances).Apart := by
  obtain ⟨ss, hs, hswords, _⟩ := Layout.exists_copyAll ⟨[]⟩ schemas
  obtain ⟨is, hi, hiwords, _⟩ := Layout.exists_copyAll ((Memory.mk []).copyAll schemas).2 instances
  -- the instances are copied into cells behind those of the schemas
  refine ⟨ss, is, hswords.symm, hiwords.symm, fun t ht => ?_, fun t ht => ?_, hi.holds, hi.simple,
    fun t ht a ha hmem => ?_⟩
  · exact (hs.holds.part ht).congr fun a ha => hi.cell?_eq ((hs.holds.part ht).lt_size ha)
  · exact Layout.nodup_part hs.simple ht
  · exact Nat.not_le.mpr ((hs.holds.part ht).lt_size ha) (hi.fresh a hmem)

variable {σ : Store} {S I : List Layout}

/-- A schema reads as what lies at its word. -/
theorem Laid.schema? (h : σ.Laid S I) (k : Nat) : σ.schema? k = S[k]?.map Layout.erase := by
  unfold Store.schema?
  rw [h.schemas_eq, List.getElem?_map]
  cases ht : S[k]? with
  | none => rfl
  | some t =>
    have hmem : t ∈ S := List.mem_of_getElem? ht
    exact (h.schemas_hold t hmem).read (h.schemas_simple t hmem)

/-- An instance reads as what lies at its word. -/
theorem Laid.instance? (h : σ.Laid S I) (i : Nat) :
    σ.instance? i = I[i]?.map Layout.erase := by
  unfold Store.instance?
  rw [h.instances_eq, List.getElem?_map]
  cases ht : I[i]? with
  | none => rfl
  | some t =>
    have hmem : t ∈ I := List.mem_of_getElem? ht
    exact (h.instances_hold.part hmem).read (Layout.nodup_part h.instances_simple hmem)

/-- What is put into the instances is written into their values, and the schemas lie as before. -/
theorem Laid.putAll (h : σ.Laid S I) (ds : List Deposit) :
    ∃ I', Laid { σ with memory := σ.memory.putAll (.tuple σ.instances) ds } S I' ∧
      Value.tuple (I'.map Layout.erase) = (Value.tuple (I.map Layout.erase)).writeAll ds := by
  obtain ⟨t', ht', hvalue⟩ := h.instances_hold.putAll h.instances_simple ds
  rw [Layout.word_tuple, ← h.instances_eq] at ht'
  rw [Layout.erase_tuple] at hvalue
  -- memory is written through the tuple of all instances, which stays a tuple
  obtain ⟨I', rfl⟩ : ∃ I', t' = .tuple I' := by
    have hword := ht'.word
    cases t' with
    | tuple I' => exact ⟨I', rfl⟩
    | _ => simp at hword
  have hwords : I'.map Layout.word = I.map Layout.word := by simpa using ht'.word
  rw [Layout.erase_tuple] at hvalue
  refine ⟨I', ⟨h.schemas_eq, h.instances_eq.trans hwords.symm, fun t ht => ?_, h.schemas_simple,
    ht'.holds, ht'.simple, fun t ht a ha hmem => ?_⟩, hvalue⟩
  · refine (h.schemas_hold t ht).congr fun a ha => ?_
    exact ht'.frame a ((h.schemas_hold t ht).lt_size ha) (h.disjoint t ht a ha)
  -- a cell of an instance is an old one of its own or a new one, and schemas have neither
  · rcases ht'.addresses a hmem with hold | hnew
    · exact h.disjoint t ht a ha hold
    · exact Nat.not_le.mpr ((h.schemas_hold t ht).lt_size ha) hnew

/-! ## Calls on a store -/

variable {v : Validator} {c : Call} {e : Effect}

/-- The effect of a call is on a part of an instance that the call names, and it is what the
    defaults come to when they are written into that part in place. -/
structure Sound (σ : Store) (c : Call) (e : Effect) : Prop where
  named : e.part.index ∈ c.instances
  exists_part : ∃ root x, σ.instance? e.part.index = some root ∧ root.at? e.part.trail = some x ∧
    e.left = x.writeAll e.deposits
  below : ∀ d ∈ e.deposits, d.trail ≠ []

/-- A part that is named is found in its instance. -/
theorem exists_of_partNode? {p : Part} {n : Node} (h : σ.partNode? v p = some n) :
    ∃ root, σ.instance? p.index = some root ∧ root.at? p.trail = some n.tree := by
  unfold partNode? at h
  cases hroot : σ.instance? p.index with
  | none => simp [hroot] at h
  | some root =>
    cases hx : root.at? p.trail with
    | none => simp [hroot, hx] at h
    | some x =>
      obtain rfl : _ = n := by simpa [hroot, hx] using h
      exact ⟨root, rfl, hx⟩

/-- A call that has looked into its parent. -/
theorem sound_ofMember {parent : Part} {key : Value} {subject : Subject} {k : Nat} {here : Node}
    {schema : Node} {handedIn : Option Node} (hhere : σ.partNode? v parent = some here)
    (h : ∀ n, handedIn = some n → n.tree = .missing) :
    σ.Sound (.property parent key subject k) (.ofMember parent (here.tree.stepTo key)
      (v.checkProperty here key handedIn schema)) := by
  obtain ⟨root, hroot, hx⟩ := exists_of_partNode? hhere
  refine ⟨?_, ⟨root, _, hroot, hx, v.checkProperty_parent here key schema h⟩, fun d hd => ?_⟩
  · cases subject <;> simp [Call.instances, Effect.ofMember]
  · obtain ⟨d', _, rfl⟩ := List.mem_map.mp hd
    simp [Deposit.below]

/-- A call on a whole instance. -/
theorem sound_whole {i : Nat} {x schema : Node} (hx : σ.partNode? v ⟨i, []⟩ = some x)
    (hc : c.instances = [i]) : σ.Sound c ⟨⟨i, []⟩, (v.validate x schema).journal.deposits,
      (v.validate x schema).slot.value⟩ := by
  obtain ⟨root, hroot, hpart⟩ := exists_of_partNode? hx
  obtain ⟨hleft, hbelow⟩ := v.validate_writes x schema
  exact ⟨by simp [hc], ⟨root, _, hroot, hpart, hleft⟩, hbelow⟩

/-- Whatever a call does, its effect is sound. -/
theorem sound_of_effect? (h : σ.effect? v c = some e) : σ.Sound c e := by
  cases c with
  | validate i k =>
    simp only [effect?, Option.bind_eq_bind, Option.bind_eq_some_iff] at h
    obtain ⟨x, hx, schema, -, h⟩ := h
    cases h
    exact sound_whole hx rfl
  | check i k =>
    simp only [effect?, Option.bind_eq_bind, Option.bind_eq_some_iff] at h
    obtain ⟨x, hx, schema, -, h⟩ := h
    cases h
    exact sound_whole hx rfl
  | property parent key subject k =>
    simp only [effect?, Option.bind_eq_bind, Option.bind_eq_some_iff] at h
    obtain ⟨here, hhere, schema, -, h⟩ := h
    cases subject with
    | found =>
      cases h
      exact sound_ofMember hhere nofun
    | absent =>
      cases h
      refine sound_ofMember hhere fun n hn => ?_
      cases hn
      rfl
    | part p =>
      simp only [Option.bind_eq_some_iff] at h
      obtain ⟨n, hn, h⟩ := h
      -- a missing value that is handed in leaves the call to look into the parent
      by_cases hmissing : n.tree.isMissing = true
      · rw [if_pos hmissing] at h
        cases h
        refine sound_ofMember hhere fun n' hn' => ?_
        cases hn'
        cases ht : n.tree <;> simp [ht, Value.isMissing] at hmissing ⊢
      · rw [if_neg hmissing] at h
        cases h
        have hne : n.tree ≠ .missing := by
          intro ht
          simp [ht, Value.isMissing] at hmissing
        obtain ⟨root, hroot, hpart⟩ := exists_of_partNode? hn
        obtain ⟨hleft, hbelow⟩ := v.checkProperty_value here key schema hne
        exact ⟨by simp [Call.instances], ⟨root, _, hroot, hpart, hleft⟩, hbelow⟩

/-- **One call.**  Documents that lie apart do so after any call, and it has changed the value of
    one instance at most: the one with the part that the call writes to, which is as the call leaves
    it. -/
theorem Laid.perform (h : σ.Laid S I) (v : Validator) (c : Call) :
    ∃ I', (σ.perform v c).Laid S I' ∧ I'.length = I.length ∧
      (∀ i, σ.target? v c ≠ some i → I'[i]?.map Layout.erase = I[i]?.map Layout.erase) ∧
      ∀ e, σ.effect? v c = some e → ∃ root, σ.instance? e.part.index = some root ∧
        I'[e.part.index]?.map Layout.erase = some (root.exchangeAt e.part.trail e.left) := by
  unfold Store.perform Store.target?
  cases he : σ.effect? v c with
  | none => exact ⟨I, h, rfl, fun _ _ => rfl, nofun⟩
  | some e =>
    have hsound := sound_of_effect? he
    obtain ⟨root, x, hroot, hx, hleft⟩ := hsound.exists_part
    have hread : (I.map Layout.erase)[e.part.index]? = some root := by
      rw [List.getElem?_map, ← h.instance?, hroot]
    obtain ⟨hi, -⟩ := List.getElem?_eq_some_iff.mp hread
    -- seen from all instances together, the part is one more step away
    have hat : (Value.tuple (I.map Layout.erase)).at? (.index e.part.index :: e.part.trail) =
        some x := by
      simp only [Value.at?, Value.child?, hread, Option.bind_some]
      exact hx
    obtain ⟨I', hI', hvalue⟩ :=
      h.putAll (e.deposits.map (Deposit.under (.index e.part.index :: e.part.trail)))
    rw [Value.writeAll_under hat hsound.below, ← hleft, Value.exchangeAt] at hvalue
    -- one instance is exchanged in the tuple, and the others stand where they did
    have hvalues : I'.map Layout.erase =
        (I.map Layout.erase).set e.part.index (root.exchangeAt e.part.trail e.left) := by
      simpa [Value.child?, hread, Value.replace] using hvalue
    have hget : ∀ i, I'[i]?.map Layout.erase = (I'.map Layout.erase)[i]? := fun i =>
      List.getElem?_map.symm
    refine ⟨I', hI', by simpa using congrArg List.length hvalues, fun i hne => ?_, ?_⟩
    · have hne' : e.part.index ≠ i := fun hsame => hne (congrArg some hsame)
      rw [hget, hvalues, List.getElem?_set_ne hne', List.getElem?_map]
    · rintro _ ⟨⟩
      exact ⟨root, hroot, by rw [hget, hvalues, List.getElem?_set_self hi]⟩

/-- Documents that lie apart do so after any number of calls, with the schemas where they were. -/
theorem Laid.after (h : σ.Laid S I) (calls : List (Validator × Call)) :
    ∃ I', (σ.after calls).Laid S I' ∧ I'.length = I.length := by
  -- the documents lie elsewhere after a call, but they lie apart
  induction calls generalizing σ I with
  | nil => exact ⟨I, h, rfl⟩
  | cons call calls ih =>
    obtain ⟨I₁, h₁, hlength₁, _⟩ := h.perform call.1 call.2
    obtain ⟨I₂, h₂, hlength₂⟩ := ih h₁
    exact ⟨I₂, h₂, hlength₂.trans hlength₁⟩

/-- **Schemas are never written, and instances never become entangled.**  Let schemas and instances
    share no container, save schemas with each other.  After any calls, made by any validators, and
    one call more, that is still so; every schema reads as it did at the start, and every instance
    reads as it did before the last call, except for the one that this call writes to.  That is an
    instance that the call names, and it reads with its part as the call leaves it. -/
theorem documents_stay_apart (h : σ.Apart) (calls : List (Validator × Call)) (v : Validator)
    (c : Call) :
    let before := σ.after calls
    let after := before.perform v c
    after.Apart ∧
      (∀ k, after.schema? k = σ.schema? k ∧
        (k < σ.schemas.length → (after.schema? k).isSome = true)) ∧
      (∀ i, before.target? v c ≠ some i → after.instance? i = before.instance? i) ∧
      (∀ i < σ.instances.length, (after.instance? i).isSome = true) ∧
      ∀ e, before.effect? v c = some e → e.part.index ∈ c.instances ∧
        ∃ root, before.instance? e.part.index = some root ∧
          after.instance? e.part.index = some (root.exchangeAt e.part.trail e.left) := by
  intro before after
  obtain ⟨S, I, hlaid⟩ := h
  obtain ⟨I₁, hbefore, hlength₁⟩ := hlaid.after calls
  obtain ⟨I₂, hafter, hlength₂, hothers, hleft⟩ := hbefore.perform v c
  refine ⟨⟨S, I₂, hafter⟩, fun k => ⟨?_, fun hk => ?_⟩, fun i hi => ?_, fun i hi => ?_,
    fun e he => ⟨(sound_of_effect? he).named, ?_⟩⟩
  · rw [hafter.schema?, hlaid.schema?]
  · have hlt : k < S.length := by simpa [hlaid.schemas_eq] using hk
    rw [hafter.schema?, List.getElem?_eq_getElem hlt]
    rfl
  · rw [hafter.instance?, hbefore.instance?]
    exact hothers i hi
  · have hlt : i < I₂.length := by
      rw [hlength₂, hlength₁]
      simpa [hlaid.instances_eq] using hi
    rw [hafter.instance?, List.getElem?_eq_getElem hlt]
    rfl
  · obtain ⟨root, hroot, hvalue⟩ := hleft e he
    exact ⟨root, hroot, by rw [hafter.instance?, hvalue]⟩

/-- A schema that offers an object with a list in it, and one that offers more inside that
    object. -/
def sharedDefaults : List Value :=
  [.map [(.name "properties", .map [(.name "a", .map
      [(.name "default", .map [(.name "x", .list [])])])])],
    .map [(.name "properties", .map [(.name "a", .map
      [(.name "properties", .map [(.name "b", .map [(.name "default", .int 1)])])])])]]

/-- Two instances receive the same object by default, and then one of them receives another default
    inside it.  The other instance and both schemas are as they were. -/
theorem default_inside_default :
    let v := Validator.new .default .null
    let σ := decode sharedDefaults [.map [], .map []]
    let received := Value.map [(.name "a", .map [(.name "x", .list [])])]
    let before := σ.after [(v, .validate 0 0), (.new .default (.int 1), .check 1 0)]
    let after := before.perform v (.validate 0 1)
    σ.Apart ∧ before.instance? 0 = some received ∧ before.instance? 1 = some received ∧
      after.instance? 0 =
        some (.map [(.name "a", .map [(.name "x", .list []), (.name "b", .int 1)])]) ∧
      after.instance? 1 = some received ∧ after.schema? 0 = σ.schema? 0 ∧
      after.schema? 1 = σ.schema? 1 := by
  intro v σ received before after
  have hapart : σ.Apart := decode_apart _ _
  obtain ⟨-, hschemas, hothers, -, -⟩ := documents_stay_apart hapart
    [(v, .validate 0 0), (.new .default (.int 1), .check 1 0)] v (.validate 0 1)
  have hbefore : before.instance? 0 = some received ∧ before.instance? 1 = some received := by
    decide +kernel
  have htarget : before.target? v (.validate 0 1) = some 0 := by decide +kernel
  refine ⟨hapart, hbefore.1, hbefore.2, by decide +kernel, ?_, (hschemas 0).1, (hschemas 1).1⟩
  have hother := hothers 1 (by rw [htarget]; decide)
  exact hother.trans hbefore.2

/-- Sharing is what would do harm: an instance that held the default of a schema itself, and no copy
    of it, would have the schema written to by a later call. -/
example :
    let (schemas, memory) := (Memory.mk []).copyAll sharedDefaults
    let (inst, memory) := memory.alloc (.map [(.name "a", .ref 1)])
    let σ : Store := ⟨memory, schemas, [inst]⟩
    let after := σ.perform (.new .default .null) (.validate 0 1)
    σ.instance? 0 = some (.map [(.name "a", .map [(.name "x", .list [])])]) ∧
      after.schema? 0 = some (.map [(.name "properties", .map [(.name "a", .map
        [(.name "default", .map [(.name "x", .list []), (.name "b", .int 1)])])])]) := by
  decide +kernel

end Store

end Conformance

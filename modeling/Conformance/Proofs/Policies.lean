/-
  Two ways to forbid what is not declared.

  An object can be closed by the policy false, or by a policy that is a schema which no value
  satisfies.  The first is looked up where an entry is admitted, the second is visited for an entry
  without a declaration, and an object without declarations has rules of its own.  These decide in
  different words which entries are additional: the first passes over reserved names and takes a
  declaration of null or false for none.

  A check of declared properties is the same under either policy (`sameButJournals`: a run does not
  look at its journal), and leaves every entry that is not declared as it was (`Declares`).  After
  that each entry is looked at by itself (`Gate`), so what an object comes to can be written down
  for any policy (`object_ok_iff`).  From this follows where the two policies agree
  (`closed_either_way`), and where they do not (`reserved_entry_admitted`).
-/
import Conformance.Proofs.Order.Values
import Conformance.Proofs.Modes
import Conformance.Proofs.Decision
import Conformance.Proofs.Extends

namespace Conformance

namespace Check

/-! ## The journal plays no part -/

/-- Two runs that differ in their journals only. -/
def sameButJournals : Coupling where
  scopes _ s s' := s' = s
  states p p' := p'.registry = p.registry ∧ p'.writes = p.writes
  cut _ _ := False
  off _ := False
  data _ := True
  still := False

/-- One step keeps the registry and the writes equal; only events may differ. -/
theorem sameButJournals_preserved : sameButJournals.Preserved Eq where
  like := .eq
  place := by
    rintro depth s _ rfl
    exact ⟨rfl, rfl⟩
  child := by
    rintro depth s _ rfl step
    rfl
  slot h _ := h
  note h _ _ := h
  register := by
    rintro k _ rfl s s' p p' id ⟨hregistry, hwrites⟩ _
    refine ⟨?_, hwrites⟩
    show p'.registry.insert id k = p.registry.insert id k
    -- an id is entered into registries that hold the same
    rw [hregistry]
  content := by
    rintro k _ rfl p p' ⟨_, hwrites⟩ _
    -- what a node reads now depends on the writes alone
    rw [hwrites]
    exact ⟨rfl, rfl⟩
  cut_at h := h.elim
  not_data h := h.elim
  enter := by
    rintro k _ rfl depth s _ p p' rfl hp
    exact ⟨rfl, hp⟩
  leave := by
    rintro k _ rfl p p' hp r _
    exact hp
  cut_leave h := h.elim
  data_below _ _ := trivial
  data_held := trivial
  still_or := Or.inr fun _ => trivial
  lasting := .never
  total := Or.inl fun _ h => h

/-- The relation runs through whole checks, cut off at the same depth on both sides. -/
theorem sameButJournals_inductive : sameButJournals.Inductive Eq 0 where
  toPreserved := sameButJournals_preserved
  bottom := by
    rintro k _ rfl s _ p p' rfl hp hslot _ _
    have hsame : k.content p'.writes = k.content p.writes := by rw [hp.2]
    cases hm : (k.content p.writes).isMap with
    | true =>
      rw [against_zero_of_map hm, against_zero_of_map (hsame ▸ hm)]
      exact Or.inr ⟨.error _, hp, hslot, fun h => h.elim⟩
    | false =>
      rw [against_of_not_map hm, against_of_not_map (hsame ▸ hm)]
      exact Or.inr ⟨.ok rfl, hp, hslot, fun h => h.elim⟩
  reference := by
    rintro depth depth' k _ rfl hvisit
    -- a reference is looked up in the registry, which is the same on both sides
    refine refRule_coupled_of_find sameButJournals_preserved rfl
      (fun k => against_lasts .never depth k)
      (fun k => hvisit k k rfl) ?_ ?_
    · rintro p p' ⟨hregistry, _⟩ ref target hfind
      rwa [hregistry]
    · rintro p p' ⟨hregistry, _⟩ trail ref hfind _
      rwa [hregistry]
  own := by
    rintro depth depth' hvisit key
    refine ownSchema_coupled sameButJournals_preserved hvisit ?_ ?_ key
    · rintro s _ rfl
      rfl
    · rintro s _ rfl _ σ _ key es own _ _ _
      rfl
  missing := by
    rintro depth k _ rfl
    refine missingRules_coupled sameButJournals_preserved ?_ ?_ rfl ?_
    · rintro s _ rfl
      rfl
    · rintro s _ rfl h
      exact h.elim
    · rintro _ s rfl p p' ⟨hregistry, hwrites⟩ σ v _ _
      refine ⟨hregistry, ?_⟩
      show (⟨s.place, v⟩ : Write) :: p'.writes = ⟨s.place, v⟩ :: p.writes
      rw [hwrites]

/-- Checks put together alike from visits come to the same, whatever their journals tell. -/
theorem same_of_journals {depth : Nat} {n : Node} {c : Check Unit}
    (h : Parallel ⟨Eq, against depth, against depth, n, n⟩ Eq c c) {s : Scope} {p p' : Progress}
    (hslot : p'.slot = p.slot) (hregistry : p'.registry = p.registry)
    (hwrites : p'.writes = p.writes) :
    (c s p').1 = (c s p).1 ∧ (c s p').2.slot = (c s p).2.slot := by
  have hvisit (k l : Node) (hkl : k = l) :
      Coupled sameButJournals depth Eq (against depth k) (against depth l) := by
    have hk := against_coupled sameButJournals_inductive depth hkl
    rwa [Nat.zero_add] at hk
  have hcoupled := Parallel.coupled (P := ⟨Eq, against depth, against depth, n, n⟩)
    sameButJournals_preserved
    (against_lasts .never depth) hvisit (sameButJournals_inductive.reference rfl hvisit)
    (sameButJournals_inductive.own hvisit) (sameButJournals_inductive.missing rfl) h
  -- neither run can be cut off, so they are related to the end
  rcases hcoupled s s p p' rfl ⟨hregistry, hwrites⟩ hslot.symm trivial id with
    ⟨_, _, hcut⟩ | hjoined
  · exact hcut.elim
  · exact ⟨hjoined.result.eq, hjoined.slot.symm⟩

/-! ## Declared properties -/

section Declared

variable {depth : Nat} {n : Node} {s : Scope} {p : Progress}

/-- What the check of declared properties makes of the entries of an object: it may add some of the
    properties declared by a mapping, and leaves alone what is not declared. -/
structure Declares (declared es es' : List (Key × Value)) : Prop where
  kept : ∀ k ∈ es.map (·.1), k ∈ es'.map (·.1)
  added : ∀ k ∈ es'.map (·.1), k ∈ es.map (·.1) ∨
    ∃ d, (k, d) ∈ declared ∧ d.isMap = true ∧ isReserved k = false
  alone : ∀ k, (∀ e ∈ declared, e.1.same k = false) →
    Value.entryAt? k es' = Value.entryAt? k es

/-- A check that adds nothing and changes nothing is within what declarations allow. -/
theorem Declares.refl (declared es : List (Key × Value)) : Declares declared es es :=
  ⟨fun _ h => h, fun _ h => Or.inl h, fun _ _ => rfl⟩

/-- Declarations one after the other: what the first has added, the second keeps. -/
theorem Declares.trans {first rest es es' es'' : List (Key × Value)} (h : Declares first es es')
    (h' : Declares rest es' es'') : Declares (first ++ rest) es es'' where
  kept k hk := h'.kept k (h.kept k hk)
  added k hk := by
    -- a key that is new in the end was added by the one or by the other
    rcases h'.added k hk with hk | ⟨d, hd, hmap, hreserved⟩
    · rcases h.added k hk with hk | ⟨d, hd, hmap, hreserved⟩
      · exact Or.inl hk
      · exact Or.inr ⟨d, List.mem_append_left _ hd, hmap, hreserved⟩
    · exact Or.inr ⟨d, List.mem_append_right _ hd, hmap, hreserved⟩
  alone k hk := by
    rw [h'.alone k fun e he => hk e (List.mem_append_right _ he),
      h.alone k fun e he => hk e (List.mem_append_left _ he)]

/-- An entry put back after its check: it is there as before, exchanged, or added. -/
theorem settle_declares {key : Key} {d : Value} (hreserved : isReserved key = false)
    {es : List (Key × Value)} {σ : Slot} {ds : List Deposit}
    (h : ((Value.map es).slotBelow (.entry key)).Injections ds σ)
    (hfilled : ∀ v, σ = .filled v → d.isMap = true) :
    ∃ es', (Value.map es).settle (.entry key) σ = .map es' ∧ Declares [(key, d)] es es' ∧
      (ds = [] → es' = es) := by
  have hother {k : Key} (hk : ∀ e ∈ [(key, d)], e.1.same k = false) : key.same k = false :=
    hk (key, d) (List.mem_singleton.mpr rfl)
  -- whether the entry is there decides what the check of it may leave behind
  cases hchild : (Value.map es).child? (.entry key) with
  | none =>
    have hfree : (Value.map es).slotBelow (.entry key) = .free := by
      simp [Value.slotBelow, hchild, Value.gap]
    rw [hfree] at h
    rcases h.of_free with ⟨_, rfl⟩ | ⟨v, rfl, rfl⟩
    · exact ⟨es, rfl, .refl _ es, fun _ => rfl⟩
    · refine ⟨es ++ [(key, v)], rfl, ⟨fun k hk => ?_, fun k hk => ?_, fun k hk => ?_⟩, by simp⟩
      · rw [List.map_append]
        exact List.mem_append_left _ hk
      · rw [List.map_append, List.mem_append] at hk
        refine hk.imp_right fun hk => ?_
        obtain rfl := List.mem_singleton.mp hk
        exact ⟨d, List.mem_singleton.mpr rfl, hfilled v rfl, hreserved⟩
      · rw [Value.entryAt?_append, hother hk]
        simp
  | some x =>
    have hfound : (Value.map es).slotBelow (.entry key) = .ofValue x := by
      simp [Value.slotBelow, hchild]
    rw [hfound] at h
    -- an entry that holds the mark for a missing value stays as it is
    by_cases hx : x = .missing
    · subst hx
      obtain ⟨rfl, _⟩ := h.of_held
      exact ⟨es, rfl, .refl _ es, fun _ => rfl⟩
    · rw [Slot.ofValue_of_ne hx] at h
      obtain ⟨b, rfl, hb⟩ := h.of_present
      refine ⟨Value.setEntry key b es, rfl, ⟨fun k hk => ?_, fun k hk => ?_, fun k hk => ?_⟩,
        fun hnone => ?_⟩
      · rwa [Value.setEntry_keys]
      · rw [Value.setEntry_keys] at hk
        exact Or.inl hk
      · exact Value.entryAt?_setEntry_of_ne (hother hk) b es
      · rw [hb.eq_iff.mpr hnone]
        exact Value.setEntry_self hchild

/-- What is looked up below a container has not been put there meanwhile. -/
theorem slotBelow_ne_filled (container : Value) (step : Step) (v : Value) :
    container.slotBelow step ≠ .filled v := by
  intro h
  -- the slot is that of a value, or a gap, and neither counts as filled in
  unfold Value.slotBelow at h
  split at h
  · next x _ => cases x <;> cases h
  · rcases container.gap_eq step with hgap | hgap <;> rw [hgap] at h <;> cases h

/-- One property.  A declaration that is no mapping asks for nothing and fills nothing in. -/
theorem declaredProperty_declares (depth : Nat) (s : Scope) (hn : n.InSchema) (key : Key)
    (d : Value) {es : List (Key × Value)} (hp : p.slot = .present (.map es)) :
    ∃ es', (declaredProperty (against depth) n key d s p).2.slot = .present (.map es') ∧
      Declares [(key, d)] es es' ∧ (s.interactive = false → es' = es) := by
  unfold declaredProperty
  cases hreserved : isReserved key with
  | true => exact ⟨es, hp, .refl _ es, fun _ => rfl⟩
  | false =>
    let member := n.down (.entry key) d
    let q := against depth member (s.child (.entry key))
      { p with slot := (Value.map es).slotBelow (.entry key) }
    have hslot : (atChild (.entry key) (against depth member) s p).2.slot =
        .present ((Value.map es).settle (.entry key) q.2.slot) := by
      unfold atChild
      rw [hp]
    obtain ⟨ds, hm⟩ := against_moves depth member (s.child (.entry key))
      { p with slot := (Value.map es).slotBelow (.entry key) }
    have hfilled (v : Value) (hv : q.2.slot = .filled v) : d.isMap = true := by
      -- without a mapping there are no rules, and so nothing that could fill in a default
      refine Decidable.byContradiction fun hmap => ?_
      have hmember : member.InSchema := hn
      have hnot : d.isMap = false := by simpa using hmap
      have hskip : q = (.ok (), { p with slot := (Value.map es).slotBelow (.entry key) }) :=
        against_of_not_map (by rw [hmember.content]; exact hnot) depth
      rw [hskip] at hv
      exact slotBelow_ne_filled _ _ v hv
    obtain ⟨es', hsettle, hdeclares, hsame⟩ := settle_declares hreserved hm.slot hfilled
    exact ⟨es', by rw [← hsettle]; exact hslot, hdeclares, fun hi => hsame (hm.eq_nil hi)⟩

/-- All of them in order, as far as the run goes. -/
theorem declaredProperties_declares (depth : Nat) (s : Scope) (hn : n.InSchema) (size : Nat)
    (declared : List (Key × Value)) {es : List (Key × Value)} (hp : p.slot = .present (.map es)) :
    ∃ es', (declaredProperties (against depth) n size declared s p).2.slot = .present (.map es') ∧
      Declares declared es es' ∧ (s.interactive = false → es' = es) := by
  -- the entries may change from one declaration to the next, and so does the state
  induction declared generalizing es p with
  | nil => exact ⟨es, hp, .refl _ es, fun _ => rfl⟩
  | cons e rest ih =>
    obtain ⟨key, d⟩ := e
    obtain ⟨es₁, hslot, hfirst, hsame⟩ :=
      declaredProperty_declares depth s hn key d hp
    rw [declaredProperties, bind_run]
    rcases hr : declaredProperty (against depth) n key d s p with ⟨r, q⟩
    rw [hr] at hslot
    cases r with
    | error f => exact ⟨es₁, hslot, hfirst.trans (.refl rest es₁), hsame⟩
    | ok _ =>
      dsimp only
      rw [bind_run]
      -- the test of the size only reads
      have hstill : (stillOfSize n size s q).2 = q := by
        unfold stillOfSize
        rw [content_bind]
        split <;> rfl
      rcases hz : stillOfSize n size s q with ⟨r, q'⟩
      rw [hz] at hstill
      obtain rfl : q' = q := hstill
      cases r with
      | error f => exact ⟨es₁, hslot, hfirst.trans (.refl rest es₁), hsame⟩
      | ok _ =>
        obtain ⟨es₂, hslot', hrest, hsame'⟩ := ih hslot
        exact ⟨es₂, hslot', hfirst.trans hrest, fun hi => (hsame' hi).trans (hsame hi)⟩

end Declared

/-! ## A schema that no value satisfies -/

/-- The schema that disallows everything. -/
def rejecting : Value := .map [(.name "disallow", .str "any")]

/-- A nested check that fails inside fails as a whole, and the journal tells so. -/
theorem nested_run_error {c : Check Unit} {n : Node} {s : Scope} {p r : Progress} {f : Failure}
    (h : c { s with depth := s.depth + 1 }
      { p with journal := .entered n s.trail (s.depth + 1) :: p.journal } = (.error f, r)) :
    nested n c s p = (.error f, { r with journal := .left n (.error f) :: r.journal }) := by
  unfold nested
  rw [h]

/-- No value gets past it, however deep checks may still be nested. -/
theorem against_rejecting {n : Node} (hn : n.InSchema) (htree : n.tree = rejecting) {s : Scope}
    {p : Progress} {x : Value} (hp : p.slot = .present x) (hx : x ≠ .missing) (depth : Nat) :
    ∃ f q, against depth n s p = (.error f, q) := by
  have hmap : (n.content p.writes).isMap = true := by
    rw [hn.content, htree]
    rfl
  -- where no check may be nested any more, the run ends with that error
  cases depth with
  | zero => exact ⟨_, _, against_zero_of_map hmap⟩
  | succ depth =>
    obtain ⟨i, hi⟩ := hn
    obtain ⟨⟨document, trail⟩, tree⟩ := n
    obtain rfl : document = .schema i := hi
    obtain rfl : tree = rejecting := htree
    rw [against_succ_of_map hmap]
    -- none of the other rules is given, and everything fits what is disallowed
    have hproperty (s : Scope) (p : Progress) (hp : p.slot = .present x) :
        property (against depth) ⟨⟨.schema i, trail⟩, rejecting⟩ s p =
          (.error (.violation ⟨.disallowed, s.key, some s.trail⟩), p) := by
      have hown : property (against depth) ⟨⟨.schema i, trail⟩, rejecting⟩ s p =
          ownRules (against depth) ⟨⟨.schema i, trail⟩, rejecting⟩ s p := rfl
      rw [hown, ownRules, value_bind, hp]
      cases x with
      | missing => exact absurd rfl hx
      | _ => rfl
    exact ⟨_, _, nested_run_error (hproperty _ _ hp)⟩

/-! ## Looking at one entry after the other -/

/-- A check that lets the run go on as it is, or ends it. -/
structure Gate (c : Check Unit) (s : Scope) (p : Progress) (opens : Prop) : Prop where
  pass : opens → c s p = (.ok (), p)
  stop : ¬ opens → ∃ f q, c s p = (.error f, q)

namespace Gate

variable {c d : Check Unit} {s : Scope} {p : Progress} {a b : Prop}

/-- A gate is passed exactly where it is open. -/
theorem ok_iff (h : Gate c s p a) : (c s p).1 = .ok () ↔ a := by
  refine ⟨fun hok => Classical.byContradiction fun ha => ?_, fun ha => by rw [h.pass ha]⟩
  obtain ⟨f, q, hrun⟩ := h.stop ha
  rw [hrun] at hok
  cases hok

theorem done : Gate (pure ()) s p True := ⟨fun _ => rfl, fun h => absurd trivial h⟩

theorem congr (h : Gate c s p a) (hab : a ↔ b) : Gate c s p b :=
  ⟨h.pass ∘ hab.mpr, h.stop ∘ mt hab.mp⟩

theorem of_eq (hrun : c s p = d s p) (h : Gate d s p a) : Gate c s p a := by
  refine ⟨fun ha => hrun.trans (h.pass ha), fun ha => ?_⟩
  obtain ⟨f, q, hstop⟩ := h.stop ha
  exact ⟨f, q, hrun.trans hstop⟩

/-- Two gates in a row are open if both are. -/
theorem bind (hc : Gate c s p a) (hd : Gate d s p b) : Gate (c >>= fun _ => d) s p (a ∧ b) where
  pass h := by rw [bind_run_ok (hc.pass h.1), hd.pass h.2]
  stop h := by
    by_cases ha : a
    · rw [bind_run_ok (hc.pass ha)]
      exact hd.stop fun hb => h ⟨ha, hb⟩
    · obtain ⟨f, q, hrun⟩ := hc.stop ha
      exact ⟨f, q, bind_run_error hrun⟩

/-- A row of gates is open if every one of them is. -/
theorem each {α : Type} {c : α → Check Unit} {opens : α → Prop} {l : List α}
    (h : ∀ x ∈ l, Gate (c x) s p (opens x)) : Gate (Check.each c l) s p (∀ x ∈ l, opens x) := by
  -- no gate changes the state, so the hypothesis for the rest is about the same state
  induction l with
  | nil => exact done.congr (by simp)
  | cons x rest ih =>
    have hrest := ih fun y hy => h y (List.mem_cons_of_mem _ hy)
    exact ((h x (List.mem_cons_self ..)).bind hrest).congr (by simp)

end Gate

/-! ## The entries of an object -/

/-- An entry may be there, so far as it has to be declared. -/
def admits (policy : Value) (declared : List (Key × Value)) (key : Key) : Prop :=
  isReserved key = true ∨ isUndeclared (Value.entryAt? key declared) = false ∨
    forbids policy = false

/-- An entry is not left to the policy, or the policy is no schema. -/
def settles (policy : Value) (declared : List (Key × Value)) (key : Key) : Prop :=
  policy.isMap = true → (Value.map declared).hasKey key = true

/-- What the declaration of an entry requires is there. -/
def requirementMet (declared : Option Value) (object : Value) : Bool :=
  match requirement declared with
  | .null => true
  | .str required => object.hasKey (.name required)
  | _ => false

section Entries

variable {depth : Nat} {decl policy : Node} {s : Scope} {p : Progress} {key : Key}
  {declared es : List (Key × Value)}

/-- An entry is admitted, or the run ends with the error that it is not defined. -/
theorem admission_gate (policy : Node) (declared : List (Key × Value)) (key : Key) :
    Gate (admission policy key (Value.entryAt? key declared)) s p
      (admits policy.tree declared key) := by
  unfold admission admits
  by_cases h : (!isReserved key && isUndeclared (Value.entryAt? key declared) &&
      forbids policy.tree) = true
  · rw [if_pos h]
    simp only [Bool.and_eq_true, Bool.not_eq_true'] at h
    exact ⟨fun hopen => by simp [h.1.1, h.1.2, h.2] at hopen, fun _ => ⟨_, _, rfl⟩⟩
  · rw [if_neg h]
    refine ⟨fun _ => rfl, fun hclosed => absurd ?_ h⟩
    simpa [not_or, and_assoc] using hclosed

/-- The requirement of a declared entry looks at the object, and changes nothing. -/
theorem requirementRule_gate (s : Scope) (p : Progress) (key : Key) (declared : Option Value) :
    Gate (requirementRule key declared) s p (requirementMet declared p.slot.value = true) := by
  unfold requirementRule requirementMet
  cases requirement declared with
  | null => exact ⟨fun _ => rfl, fun h => absurd rfl h⟩
  | str required =>
    dsimp only
    cases hkey : p.slot.value.hasKey (.name required) with
    | true => exact ⟨fun _ => by rw [value_bind, hkey]; rfl, fun h => absurd rfl h⟩
    | false => exact ⟨fun h => (by cases h), fun _ => ⟨_, p, by rw [value_bind, hkey]; rfl⟩⟩
  | _ => exact ⟨fun h => (by cases h), fun _ => ⟨_, p, rfl⟩⟩

/-- The policies at hand: one that is no schema, and the schema that no value satisfies. -/
def IsPolicy (policy : Node) : Prop :=
  policy.InSchema ∧ (policy.tree.isMap = false ∨ policy.tree = rejecting)

/-- An entry that is visited by the policy does not get past it. -/
theorem atChild_policy_gate (depth : Nat) (s : Scope) (hpolicy : IsPolicy policy)
    (hp : p.slot = .present (.map es)) {x : Value} (hentry : Value.entryAt? key es = some x)
    (hx : x ≠ .missing) :
    Gate (atChild (.entry key) (against depth policy)) s p (policy.tree.isMap = false) := by
  have hbelow : (Value.map es).slotBelow (.entry key) = .ofValue x := by
    simp [Value.slotBelow, Value.child?, hentry]
  rw [Slot.ofValue_of_ne hx] at hbelow
  constructor
  -- a policy that is no schema leaves the entry alone, and it is put back as it was
  · intro hmap
    unfold atChild
    rw [hp]
    dsimp only
    rw [against_of_not_map (by rwa [hpolicy.1.content])]
    dsimp only
    rw [Value.settle_slotBelow, ← hp]
  · intro hmap
    -- the policy is the schema that no value satisfies
    have htree := hpolicy.2.resolve_left hmap
    obtain ⟨f, q, hrun⟩ := against_rejecting hpolicy.1 htree (s := s.child (.entry key))
      (p := { p with slot := (Value.map es).slotBelow (.entry key) }) hbelow hx depth
    refine ⟨f, { q with slot := .present ((Value.map es).settle (.entry key) q.slot) }, ?_⟩
    unfold atChild
    rw [hp]
    dsimp only
    rw [hrun]

/-- An entry that no declaration speaks of is left to the policy. -/
theorem policyRule_gate (depth : Nat) (hdecl : decl.InSchema) (htree : decl.tree = .map declared)
    (hpolicy : IsPolicy policy) (hp : p.slot = .present (.map es))
    (hpresent : (Value.map declared).hasKey key = false →
      ∃ x, Value.entryAt? key es = some x ∧ x ≠ .missing) :
    Gate (policyRule (against depth) decl policy key) s p (settles policy.tree declared key) := by
  have hread : policyRule (against depth) decl policy key s p =
      (if !(Value.map declared).hasKey key then atChild (.entry key) (against depth policy)
        else pure ()) s p := by
    rw [policyRule, content_bind, hdecl.content, htree]
  unfold settles
  cases hkey : (Value.map declared).hasKey key with
  | true =>
    rw [hkey] at hread
    exact (Gate.of_eq hread .done).congr (by simp)
  | false =>
    obtain ⟨x, hentry, hx⟩ := hpresent hkey
    rw [hkey] at hread
    exact (Gate.of_eq hread (atChild_policy_gate depth s hpolicy hp hentry hx)).congr (by simp)

/-- A schema that an entry carries itself is not there, or not looked at. -/
theorem ownSchema_gate (depth : Nat) (key : Key)
    (hplain : s.interactive = false → p.slot.value.plain = true) :
    Gate (ownSchema (against depth) key) s p True := by
  refine Gate.of_eq ?_ .done
  -- entries with a schema of their own are looked at where nothing is written, and then the plain
  -- ones carry none
  cases hi : s.interactive with
  | true => exact ownSchema_eq hi p
  | false => exact SameUnwritten.ownSchema_of_plain hi (hplain hi)

/-- One entry: it is admitted, what its declaration requires is there, and it does not come to the
    policy. -/
theorem entry_gate (hdecl : decl.InSchema) (htree : decl.tree = .map declared)
    (hpolicy : IsPolicy policy) (hp : p.slot = .present (.map es))
    (hplain : s.interactive = false → (Value.map es).plain = true)
    (hpresent : (Value.map declared).hasKey key = false →
      ∃ x, Value.entryAt? key es = some x ∧ x ≠ .missing) :
    Gate (entry (against depth) decl policy key) s p
      (admits policy.tree declared key ∧
        requirementMet (Value.entryAt? key declared) (.map es) = true ∧
          settles policy.tree declared key) := by
  have hvalue : p.slot.value = .map es := by rw [hp]; rfl
  have hread : entry (against depth) decl policy key s p =
      (admission policy key (Value.entryAt? key declared) >>= fun _ =>
        requirementRule key (Value.entryAt? key declared) >>= fun _ =>
          policyRule (against depth) decl policy key >>= fun _ =>
            ownSchema (against depth) key) s p := by
    rw [entry, content_bind, hdecl.content, htree]
    rfl
  have hadmission := admission_gate (s := s) (p := p) policy declared key
  have hrequirement := requirementRule_gate s p key (Value.entryAt? key declared)
  rw [hvalue] at hrequirement
  have hrule := policyRule_gate (s := s) depth hdecl htree hpolicy hp hpresent
  have hown := ownSchema_gate (s := s) (p := p) depth key (by rwa [hvalue])
  have hall := hadmission.bind (hrequirement.bind (hrule.bind hown))
  exact (Gate.of_eq hread hall).congr (by simp only [and_true])

end Entries

/-! ## Objects -/

section Objects

variable {depth : Nat} {decl policy : Node} {s : Scope} {p : Progress}
  {declared es : List (Key × Value)}

/-- What has to be there of an entry that no declaration speaks of: it is found, with a value. -/
theorem undeclared_entry (hdeclared : Value.distinctKeys declared = true)
    (hes : Value.distinctKeys es = true) (hmarks : ∀ x ∈ es.map (·.2), x ≠ .missing)
    {es' : List (Key × Value)} (h : Declares declared es es') {k : Key} (hk : k ∈ es'.map (·.1))
    (hnone : (Value.map declared).hasKey k = false) :
    ∃ x, Value.entryAt? k es' = some x ∧ x ≠ .missing := by
  have hlacks : ∀ e ∈ declared, e.1.same k = false := by
    simpa [Value.hasKey, Value.entryWith?, Value.entries] using hnone
  -- what is not declared has not been added, so it was there before
  rcases h.added k hk with hk | ⟨d, hd, _, _⟩
  · obtain ⟨x, hx⟩ := Value.exists_entryAt? ((Value.distinctKeys_iff.mp hes).1 k hk) hk
    exact ⟨x, by rw [h.alone k hlacks, hx], hmarks x (Value.mem_of_entryAt? hx)⟩
  · have hself := (Value.distinctKeys_iff.mp hdeclared).1 k (List.mem_map_of_mem (f := (·.1)) hd)
    rw [hlacks (k, d) hd] at hself
    cases hself

/-- What an object comes to: its declared properties, and then one entry after the other. -/
theorem object_ok_iff (hdecl : decl.InSchema) (htree : decl.tree = .map declared)
    (hpolicy : IsPolicy policy) (hp : p.slot = .present (.map es))
    (hplain : (Value.map es).plain = true) (hmarks : ∀ x ∈ es.map (·.2), x ≠ .missing)
    (hes : Value.distinctKeys es = true) (hdeclared : Value.distinctKeys declared = true)
    {es' : List (Key × Value)} (h : Declares declared es es')
    (hstill : s.interactive = false → es' = es)
    (hleft : (declaredProperties (against depth) decl declared.length declared s p).2.slot =
      .present (.map es')) :
    (object (against depth) decl policy s p).1 = .ok () ↔
      (declaredProperties (against depth) decl declared.length declared s p).1 = .ok () ∧
        ∀ k ∈ es'.map (·.1), admits policy.tree declared k ∧
          requirementMet (Value.entryAt? k declared) (.map es') = true ∧
            settles policy.tree declared k := by
  have hobject : object (against depth) decl policy s p =
      (objectOnly >>= fun _ =>
        declaredProperties (against depth) decl declared.length declared >>= fun _ =>
          value >>= fun found => each (entry (against depth) decl policy) found.keys) s p := by
    rw [object, content_bind, hdecl.content, htree]
  have honly : objectOnly s p = (.ok (), p) := by
    rw [objectOnly, value_bind, hp]
    rfl
  rw [hobject, bind_run_ok honly, bind_run]
  rcases hr : declaredProperties (against depth) decl declared.length declared s p with ⟨r, q⟩
  rw [hr] at hleft
  -- an error among the declarations ends the check, and the entries are not looked at
  cases r with
  | error f => exact iff_of_false (fun h => by cases h) (fun h => by cases h.1)
  | ok _ =>
    have hq : q.slot = .present (.map es') := hleft
    -- from here on every step leaves the state as it is
    have hgate : Gate (each (entry (against depth) decl policy) (es'.map (·.1))) s q _ :=
      Gate.each fun k hk => entry_gate hdecl htree hpolicy hq
        (fun hi => by rw [hstill hi]; exact hplain)
        (undeclared_entry hdeclared hes hmarks h hk)
    have hread : (value >>= fun found => each (entry (against depth) decl policy) found.keys) s q =
        each (entry (against depth) decl policy) (es'.map (·.1)) s q := by
      rw [value_bind, hq]
      rfl
    dsimp only
    rw [hread, hgate.ok_iff]
    exact ⟨fun hall => ⟨rfl, hall⟩, fun hall => hall.2⟩

/-- An object without declarations has to be empty, whichever of the two policies it has. -/
theorem additionalOnly_ok_iff (hpolicy : IsPolicy policy)
    (hno : policy.tree = .bool false ∨ policy.tree = rejecting)
    (hp : p.slot = .present (.map es)) (hmarks : ∀ x ∈ es.map (·.2), x ≠ .missing)
    (hes : Value.distinctKeys es = true) :
    (additionalOnly (against depth) policy s p).1 = .ok () ↔ es = [] := by
  have hread : additionalOnly (against depth) policy s p =
      each (additionalEntry (against depth) policy s.key) (es.map (·.1)) s p := by
    have hallows : allows policy.tree = false := by rcases hno with h | h <;> rw [h] <;> rfl
    rw [additionalOnly, value_bind, hp, hallows]
    rfl
  have hgate : Gate (each (additionalEntry (against depth) policy s.key) (es.map (·.1))) s p
      (∀ k ∈ es.map (·.1), False) := by
    -- neither policy lets any entry through
    refine Gate.each fun k hk => ?_
    unfold additionalEntry
    rcases hno with h | h
    · rw [h, if_pos (show forbids (.bool false) = true from rfl)]
      exact ⟨False.elim, fun _ => ⟨_, p, rfl⟩⟩
    · rw [h, if_neg (by decide)]
      obtain ⟨x, hx⟩ := Value.exists_entryAt? ((Value.distinctKeys_iff.mp hes).1 k hk) hk
      have hentry := atChild_policy_gate depth s hpolicy hp hx
        (hmarks x (Value.mem_of_entryAt? hx))
      exact hentry.congr (by rw [h]; simp [rejecting, Value.isMap])
  rw [hread, hgate.ok_iff]
  simp [List.eq_nil_iff_forall_not_mem]

end Objects

end Check

/-! ## Schemas that close an object -/

/-- The schema that has a policy on additional properties and says nothing else. -/
def policyOnly (policy : Value) : Value := .map [(.name "additionalProperties", policy)]

/-- The schema that declares properties and has a policy on others. -/
def policyBeside (declared : List (Key × Value)) (policy : Value) : Value :=
  .map [(.name "properties", .map declared), (.name "additionalProperties", policy)]

/-- The declarations in it, where it is a schema document. -/
def declarationsAt (i : Nat) (declared : List (Key × Value)) : Node :=
  ⟨⟨.schema i, [.name "properties"]⟩, .map declared⟩

/-- The two policies that close an object. -/
def Closing (policy : Value) : Prop := policy = .bool false ∨ policy = Check.rejecting

namespace Check

section Closing

variable {depth i : Nat} {s : Scope} {p : Progress} {declared es : List (Key × Value)}
  {policy : Value}

/-- Both policies that close an object are among those that entries are looked at with. -/
theorem isPolicy_of_closing (h : Closing policy) {n : Node} (hn : n.InSchema) :
    IsPolicy (n.down (.name "additionalProperties") policy) := by
  refine ⟨hn, ?_⟩
  rcases h with rfl | rfl
  · exact Or.inl rfl
  · exact Or.inr rfl

/-- What the journal tells of the beginning and the end of a check changes nothing about its
    result. -/
theorem nested_result {n : Node} {c : Check Unit} :
    (nested n c s p).1 =
      (c s.deeper (p.tell (.entered n s.trail s.deeper.depth))).1 := rfl

/-- A schema document of which only the rules on members are given comes to these rules, whatever
    the journal tells by then. -/
theorem against_result_of_rules {S : Value} {c : Check Unit} (hmap : S.isMap = true)
    (hp : p.slot = .present (.map es))
    (hown : ∀ s p, property (against depth) (.ofSchema i S) s p =
      ownRules (against depth) (.ofSchema i S) s p)
    (hrules : presentRules (against depth) (.ofSchema i S) (.map es) = c >>= fun _ => pure ()) :
    (against (depth + 1) (.ofSchema i S) s p).1 =
      (c s.deeper (p.tell (.entered (.ofSchema i S) s.trail s.deeper.depth))).1 := by
  have hslot : (p.tell (.entered (.ofSchema i S) s.trail s.deeper.depth)).slot =
      .present (.map es) := hp
  rw [against_succ_of_map (by exact hmap), nested_result, hown, ownRules, value_bind, hslot]
  show (presentRules (against depth) (.ofSchema i S) (.map es) _ _).1 = _
  rw [hrules, bind_pure_unit]

/-- With a policy alone, only the empty object is accepted. -/
theorem against_only_ok_iff (hpolicy : Closing policy) (hp : p.slot = .present (.map es))
    (hmarks : ∀ x ∈ es.map (·.2), x ≠ .missing) (hes : Value.distinctKeys es = true) :
    (against (depth + 1) (.ofSchema i (policyOnly policy)) s p).1 = .ok () ↔ es = [] := by
  have hrules : presentRules (against depth) (.ofSchema i (policyOnly policy)) (.map es) =
      additionalOnly (against depth)
        ((Node.ofSchema i (policyOnly policy)).down (.name "additionalProperties") policy) >>=
          fun _ => pure () := by
    rcases hpolicy with rfl | rfl <;> rfl
  rw [against_result_of_rules rfl hp (fun _ _ => rfl) hrules]
  exact additionalOnly_ok_iff (isPolicy_of_closing hpolicy ⟨i, rfl⟩) hpolicy hp hmarks hes

/-- Beside declarations it comes to the entries that the declared properties leave. -/
theorem against_beside_ok_iff (hpolicy : Closing policy) (hp : p.slot = .present (.map es))
    (hplain : (Value.map es).plain = true) (hmarks : ∀ x ∈ es.map (·.2), x ≠ .missing)
    (hes : Value.distinctKeys es = true) (hdeclared : Value.distinctKeys declared = true)
    {es' : List (Key × Value)} (h : Declares declared es es')
    (hstill : s.interactive = false → es' = es)
    (hleft : (declaredProperties (against depth) (declarationsAt i declared) declared.length
      declared s.deeper p).2.slot = .present (.map es')) :
    (against (depth + 1) (.ofSchema i (policyBeside declared policy)) s p).1 = .ok () ↔
      (declaredProperties (against depth) (declarationsAt i declared) declared.length declared
          s.deeper p).1 = .ok () ∧
        ∀ k ∈ es'.map (·.1), admits policy declared k ∧
          requirementMet (Value.entryAt? k declared) (.map es') = true ∧
            settles policy declared k := by
  let n := Node.ofSchema i (policyBeside declared policy)
  let decl := declarationsAt i declared
  let q := p.tell (.entered n s.trail s.deeper.depth)
  have hq : q.slot = .present (.map es) := hp
  have hrules : presentRules (against depth) n (.map es) =
      object (against depth) decl (n.down (.name "additionalProperties") policy) >>=
        fun _ => pure () := by
    rcases hpolicy with rfl | rfl <;> rfl
  rw [against_result_of_rules rfl hp (fun _ _ => rfl) hrules]
  let declaring := declaredProperties (against depth) decl declared.length declared
  have hparallel : Parallel ⟨Eq, against depth, against depth, decl, decl⟩ Eq declaring declaring :=
    .declaredProperties rfl _ _ fun _ _ _ => rfl
  -- the run starts one event later, which changes nothing
  obtain ⟨hfirst, hslot⟩ : (declaring s.deeper q).1 = (declaring s.deeper p).1 ∧
      (declaring s.deeper q).2.slot = (declaring s.deeper p).2.slot :=
    same_of_journals hparallel rfl rfl rfl
  have hok := object_ok_iff (s := s.deeper) (show decl.InSchema from ⟨i, rfl⟩) rfl
    (isPolicy_of_closing (n := n) hpolicy ⟨i, rfl⟩) hq hplain hmarks hes hdeclared h hstill
    (hslot.trans hleft)
  rw [show (declaredProperties (against depth) decl declared.length declared s.deeper q).1 = _
    from hfirst] at hok
  exact hok

end Closing

end Check

namespace Validator

open Check

/-- The two policies agree on an entry, if its name is not reserved where it has no declaration, and
    its declaration is none that says nothing. -/
theorem admits_iff_settles {declared es es' : List (Key × Value)}
    (hdeclared : Value.distinctKeys declared = true) (h : Declares declared es es')
    (hreserved : ∀ k ∈ es.map (·.1), Value.entryAt? k declared = none → isReserved k = false)
    (hblank : ∀ k ∈ es.map (·.1), isReserved k = false → Value.entryAt? k declared ≠ some .null ∧
      Value.entryAt? k declared ≠ some (.bool false)) {k : Key} (hk : k ∈ es'.map (·.1)) :
    admits (.bool false) declared k ∧ settles (.bool false) declared k ↔
      admits rejecting declared k ∧ settles rejecting declared k := by
  have hkey : (Value.map declared).hasKey k = (Value.entryAt? k declared).isSome := by
    simp [Value.hasKey, Value.entryAt?, Value.entries]
  have hleft : admits (.bool false) declared k ∧ settles (.bool false) declared k ↔
      isReserved k = true ∨ isUndeclared (Value.entryAt? k declared) = false := by
    simp [admits, settles, forbids, Value.isMap]
  have hright : admits rejecting declared k ∧ settles rejecting declared k ↔
      (Value.entryAt? k declared).isSome = true := by
    simp [admits, settles, rejecting, forbids, Value.isMap, hkey]
  rw [hleft, hright]
  rcases h.added k hk with hold | ⟨d, hd, hmap, _⟩
  · cases hentry : Value.entryAt? k declared with
    | none => simp [hreserved k hold hentry, isUndeclared]
    | some d =>
      refine iff_of_true ?_ rfl
      by_cases hr : isReserved k = true
      · exact Or.inl hr
      · obtain ⟨hnull, hfalse⟩ := hblank k hold (by simpa using hr)
        rw [hentry] at hnull hfalse
        -- a declaration of null or false counts as none under the policy false, and as one for the
        -- schema
        cases hgiven : d.isGiven with
        | true => exact Or.inr (by simp [isUndeclared, hgiven])
        | false =>
          rcases (Value.isGiven_eq_false_iff d).mp hgiven with rfl | rfl
          · exact absurd rfl hnull
          · exact absurd rfl hfalse
  · -- what has been added is declared by a mapping
    have hself := (Value.distinctKeys_iff.mp hdeclared).1 k (List.mem_map_of_mem (f := (·.1)) hd)
    have hentry : Value.entryAt? k declared = some d :=
      (Value.entryAt?_eq_some_iff hdeclared).mpr ⟨(k, d), hd, hself, rfl⟩
    rw [hentry]
    exact iff_of_true (Or.inr (by simp [isUndeclared, Value.isGiven_of_isMap hmap])) rfl

/-- **Closed either way.**  Whatever the mode, an object has the same verdict under the policy
    false and under a policy that no value satisfies, beside any declarations, if no entry without a
    declaration has a reserved name, and no entry is declared by null or false.  Without
    declarations the two agree on every object.  Leaving the declarations out is then the same as
    declaring nothing, under the policy false if no entry has a reserved name. -/
theorem closed_either_way (v : Validator) (parent : Node) (key : Value) (handedIn : Option Node)
    (i : Nat) (declared es : List (Key × Value)) (hsubject : subject parent key handedIn = .map es)
    (hplain : (Value.map es).plain = true) (hmarks : ∀ x ∈ es.map (·.2), x ≠ .missing)
    (hes : Value.distinctKeys es = true) (hdeclared : Value.distinctKeys declared = true) :
    let accepts (S : Value) : Prop :=
      (v.checkProperty parent key handedIn (.ofSchema i S)).outcome.result = .ok ()
    ((∀ k ∈ es.map (·.1), Value.entryAt? k declared = none → isReserved k = false) →
      (∀ k ∈ es.map (·.1), isReserved k = false → Value.entryAt? k declared ≠ some .null ∧
        Value.entryAt? k declared ≠ some (.bool false)) →
      (accepts (policyBeside declared (.bool false)) ↔
        accepts (policyBeside declared rejecting))) ∧
    (accepts (policyOnly (.bool false)) ↔ accepts (policyOnly rejecting)) ∧
    (accepts (policyOnly rejecting) ↔ accepts (policyBeside [] rejecting)) ∧
    ((∀ k ∈ es.map (·.1), isReserved k = false) →
      (accepts (policyOnly (.bool false)) ↔ accepts (policyBeside [] (.bool false)))) := by
  intro accepts
  obtain ⟨s, p, hp, hrun⟩ := exists_run_of_subject v hsubject nofun
  obtain ⟨depth, hdepth⟩ := Nat.exists_eq_add_of_le' v.settings.one_le
  have haccepts (S : Value) :
      accepts S ↔ (against (depth + 1) (.ofSchema i S) s p).1 = .ok () := by
    show (v.checkProperty parent key handedIn (.ofSchema i S)).outcome.result = .ok () ↔ _
    rw [(hrun _).1, visit, hdepth]
  have honly {policy : Value} (hpolicy : Closing policy) : accepts (policyOnly policy) ↔ es = [] :=
    (haccepts _).trans (against_only_ok_iff hpolicy hp hmarks hes)
  -- where nothing is declared, nothing is done before the entries are looked at
  have hnothing {policy : Value} (hpolicy : Closing policy) : accepts (policyBeside [] policy) ↔
      ∀ k ∈ es.map (·.1), admits policy [] k ∧ settles policy [] k := by
    rw [haccepts, against_beside_ok_iff hpolicy hp hplain hmarks hes rfl (.refl [] es)
      (fun _ => rfl) hp]
    simp [declaredProperties, pure_run, requirementMet, requirement, Value.entryAt?,
      Value.entryWith?]
  -- the four parts in turn: beside declarations, alone, and declarations left out
  refine ⟨fun hreserved hblank => ?_, ?_, ?_, fun hreserved => ?_⟩
  -- the declared properties come first, and are the same check under either policy
  · obtain ⟨es', hleft, hdeclares, hstill⟩ := declaredProperties_declares depth s.deeper
      (n := declarationsAt i declared) ⟨i, rfl⟩ declared.length declared hp
    have hbeside {policy : Value} (hpolicy : Closing policy) :=
      against_beside_ok_iff (s := s) hpolicy hp hplain hmarks hes hdeclared hdeclares hstill hleft
    rw [haccepts, haccepts, hbeside (Or.inl rfl), hbeside (Or.inr rfl)]
    refine and_congr_right fun _ => forall_congr' fun k => forall_congr' fun hk => ?_
    have hagree := admits_iff_settles hdeclared hdeclares hreserved hblank hk
    constructor
    · rintro ⟨hadmits, hmet, hsettles⟩
      obtain ⟨hadmits', hsettles'⟩ := hagree.mp ⟨hadmits, hsettles⟩
      exact ⟨hadmits', hmet, hsettles'⟩
    · rintro ⟨hadmits, hmet, hsettles⟩
      obtain ⟨hadmits', hsettles'⟩ := hagree.mpr ⟨hadmits, hsettles⟩
      exact ⟨hadmits', hmet, hsettles'⟩
  · rw [honly (Or.inl rfl), honly (Or.inr rfl)]
  · rw [honly (Or.inr rfl), hnothing (Or.inr rfl)]
    simp [settles, rejecting, Value.isMap, Value.hasKey, Value.entries, Value.entryWith?,
      List.eq_nil_iff_forall_not_mem]
  · have hnone (k : Key) (hk : k ∈ es.map (·.1)) :
        ¬ (admits (.bool false) [] k ∧ settles (.bool false) [] k) := by
      simp [admits, hreserved k hk, isUndeclared, forbids, Value.entryAt?, Value.entryWith?]
    rw [honly (Or.inl rfl), hnothing (Or.inl rfl)]
    refine ⟨fun h => by simp [h], fun hall => ?_⟩
    exact List.map_eq_nil_iff.mp
      (List.eq_nil_iff_forall_not_mem.mpr fun k hk => hnone k hk (hall k hk))

/-- The call of a new validator on an object handed in by itself. -/
def acceptsObject (es : List (Key × Value)) (S : Value) : Bool :=
  decide (((Validator.new .default .null).checkProperty ⟨⟨.instance 1, []⟩, .null⟩ (.str "k")
    (some ⟨⟨.instance 0, []⟩, .map es⟩) (.ofSchema 0 S)).outcome.result = .ok ())

/-- A declared entry is accepted under the policy that is a schema as it is under the other one. -/
theorem declared_entry_closed :
    let es := [(Key.name "a", Value.int 1)]
    let declared := [(Key.name "a", Value.map [(.name "type", .str "integer")])]
    acceptsObject es (policyBeside declared (.bool false)) = true ∧
      acceptsObject es (policyBeside declared rejecting) = true := by
  intro es declared
  have hfalse : acceptsObject es (policyBeside declared (.bool false)) = true := by decide +kernel
  obtain ⟨hagree, _⟩ := closed_either_way (Validator.new .default .null)
    ⟨⟨.instance 1, []⟩, .null⟩ (.str "k") (some ⟨⟨.instance 0, []⟩, .map es⟩) 0 declared es
    (by decide +kernel) (by decide +kernel) (by decide +kernel) (by decide +kernel)
    (by decide +kernel)
  have hboth := hagree (by decide +kernel) (by decide +kernel)
  exact ⟨hfalse, decide_eq_true (hboth.mp (of_decide_eq_true hfalse))⟩

/-- An object whose one entry has a reserved name. -/
def reservedEntry : List (Key × Value) := [(.name "__x", .int 1)]

/-- A declaration that says nothing. -/
def nullDeclaration : List (Key × Value) := [(.name "a", .null)]

/-- The policies part where a name is reserved: false passes it over beside declarations, though not
    without them, and the schema never does.  They part, too, where a declaration is null. -/
theorem reserved_entry_admitted :
    (acceptsObject reservedEntry (policyBeside [] (.bool false)) = true ∧
      acceptsObject reservedEntry (policyBeside [] rejecting) = false ∧
      acceptsObject reservedEntry (policyOnly (.bool false)) = false) ∧
    (acceptsObject [(.name "a", .int 1)] (policyBeside nullDeclaration (.bool false)) = false ∧
      acceptsObject [(.name "a", .int 1)] (policyBeside nullDeclaration rejecting) = true) := by
  decide +kernel

end Validator

end Conformance

/-
  What an accepted object has.

  The check of an object goes over it twice: the declared properties first, where defaults come in,
  and then the entries that are there by then, whose own checks may write deeper down.  What it
  promises is meant of the object as it is left, so two facts carry the proof.  The first round only
  adds keys, and at the end of it no property is missing that is required or had a default to get
  (`declaredProperties_grant`).  The second round leaves the keys as they are (`entries_keep`), so
  what each entry has been asked on its turn, it would be asked to the same effect at the end.

  The main statement is `accepted_object`; what is promised is the structure `ObjectHolds`.
-/
import Conformance.Proofs.Lineage
import Conformance.Proofs.Order.Members
import Conformance.Proofs.Policies

namespace Conformance

/-- A slot without a value stays one, even if a default has been put there. -/
theorem Slot.missing_of_injections {σ τ : Slot} {ds : List Deposit} (h : σ.Injections ds τ)
    (hσ : σ.value = .missing) : τ.value = .missing := by
  induction h with
  | none => exact hσ
  | later _ last ih =>
    cases last with
    | fill v => rfl
    | onTop old v => rfl
    | @within a b d hab =>
      obtain rfl : a = .missing := ih
      -- a missing value has no member to inject into
      cases hab with
      | @member _ _ _ step _ hchild _ => cases step <;> cases hchild

/-- A declaration whose property is never missing in the end: the property is required, or filled in
    where defaults are written. -/
def Value.Grants (interactive : Bool) (d : Value) : Prop :=
  d.get? "required" = some (.bool true) ∨ interactive = true ∧ ∃ w, d.Offers w

/-- Only a schema grants anything. -/
theorem Value.Grants.isMap {interactive : Bool} {d : Value} (h : d.Grants interactive) :
    d.isMap = true := by
  have hsome : ∃ name w, d.get? name = some w := by
    rcases h with h | ⟨_, w, hw⟩
    · exact ⟨_, _, h⟩
    · exact ⟨_, w, hw.default_eq⟩
  obtain ⟨name, w, hw⟩ := hsome
  cases d with
  | map es => rfl
  | _ => cases hw

/-- An accepted object before and after its check: keys are only added, and only declared ones, and
    with the keys that are there in the end everything is in order that the declarations and the
    policy ask of keys. -/
structure ObjectHolds (interactive : Bool) (declared : List (Key × Value)) (policy : Value)
    (es es' : List (Key × Value)) : Prop where
  kept : ∀ k ∈ es.map (·.1), k ∈ es'.map (·.1)
  added : ∀ k ∈ es'.map (·.1),
    k ∈ es.map (·.1) ∨ k ∈ declared.map (·.1) ∧ Check.isReserved k = false
  closed : policy = .bool false → ∀ k ∈ es'.map (·.1), Check.isReserved k = false →
    ∃ d, Value.entryAt? k declared = some d ∧ d ≠ .null ∧ d ≠ .bool false
  accompanied : ∀ k ∈ es'.map (·.1), ∀ d r, Value.entryAt? k declared = some d →
    d.get? "requires" = some r → r ≠ .null →
      ∃ name, r = .str name ∧ (Value.map es').hasKey (.name name) = true
  filled : interactive = true → ∀ k d w, (k, d) ∈ declared → Check.isReserved k = false →
    d.Offers w → (Value.map es').hasKey k = true
  required : ∀ k d, (k, d) ∈ declared → Check.isReserved k = false →
    d.get? "required" = some (.bool true) → (Value.map es').hasKey k = true

namespace Check

variable {depth : Nat} {n declarations policy : Node} {s : Scope} {p q : Progress} {key : Key}
  {es declared : List (Key × Value)}

/-! ## A missing property -/

theorem offer?_of_offers {schema v : Value} (h : schema.Offers v) : offer? schema = some v := by
  have hnull := h.not_null
  have hwritable := h.writable
  unfold offer?
  rw [h.default_eq]
  cases v <;> simp_all

/-- What lets a missing value pass does not require it, and has filled it in where it offers a
    default, if no other schema has done so before. -/
theorem missingRules_pass (h : missingRules n s p = (.ok (), q)) :
    (n.content p.writes).get? "required" ≠ some (.bool true) ∧
      (s.interactive = true → ∀ w, (n.content p.writes).Offers w →
        (p.slot = .free ∨ ∃ x, p.slot = .filled x) → ∃ x, q.slot = .filled x) := by
  rw [missingRules_run] at h
  have hrequired : (n.content p.writes).get? "required" ≠ some (.bool true) := by
    intro hrequired
    unfold missed at h
    rw [if_pos hrequired] at h
    cases h
  refine ⟨hrequired, fun hs w hw hp => ?_⟩
  unfold missed at h
  rw [if_neg hrequired, hs, if_neg (by simp), offer?_of_offers hw] at h
  rcases hp with hp | ⟨x, hp⟩
  · rw [hp] at h
    cases h
    exact ⟨w, rfl⟩
  · rw [hp] at h
    cases h
    exact ⟨x, hp⟩

/-- A schema that a free slot gets past does not require a value, and if it offers a default, the
    slot has been filled, by this schema or by one that it names or extends. -/
theorem against_free (hn : n.InSchema) (hp : p.slot = .free)
    (h : against depth n s p = (.ok (), q)) (hgrants : n.tree.Grants s.interactive) :
    ∃ x, q.slot = .filled x := by
  obtain ⟨d, p', q', -, hp', hq', hrun⟩ := property_of_ok hn hgrants.isMap h
  -- before its own rules speak, other schemas may have filled the slot
  obtain ⟨r, ds, hreceived, hown⟩ := property_own hn hrun
  rw [hp', hp] at hreceived
  have hreached : r.slot = .free ∨ ∃ x, r.slot = .filled x :=
    hreceived.of_free.imp (·.2) fun ⟨x, _, hx⟩ => ⟨x, hx⟩
  have hmissing : r.slot.value = .missing := Slot.missing_of_injections hreceived rfl
  rw [ownRules, value_bind, hmissing] at hown
  obtain ⟨hrequired, hfilled⟩ := missingRules_pass hown
  rw [hn.content] at hrequired hfilled
  rw [← hq']
  rcases hgrants with hrequires | ⟨hs, w, hw⟩
  · exact absurd hrequires hrequired
  · exact hfilled hs w hw hreached

/-! ## Keys that stay -/

/-- A slot holds a mapping with these keys. -/
def Keyed (keys : List Key) (σ : Slot) : Prop :=
  ∃ es, σ = .present (.map es) ∧ es.map (·.1) = keys

theorem Keyed.keys {keys : List Key} {σ : Slot} (h : Keyed keys σ) : σ.value.keys = keys := by
  obtain ⟨es, rfl, hkeys⟩ := h
  exact hkeys

/-- An entry that is there is put back under its key. -/
theorem keyed_settle {x : Value} {σ : Slot} {ds : List Deposit} (hx : Value.entryAt? key es = some x)
    (h : ((Value.map es).slotBelow (.entry key)).Injections ds σ) :
    Keyed (es.map (·.1)) (.present ((Value.map es).settle (.entry key) σ)) := by
  have hfound : (Value.map es).slotBelow (.entry key) = .ofValue x :=
    Value.slotBelow_of_child? hx
  rw [hfound] at h
  by_cases hmissing : x = .missing
  · subst hmissing
    obtain ⟨rfl, _⟩ := h.of_held
    exact ⟨es, rfl, rfl⟩
  · rw [Slot.ofValue_of_ne hmissing] at h
    obtain ⟨y, rfl, _⟩ := h.of_present
    exact ⟨Value.setEntry key y es, rfl, Value.setEntry_keys es key y⟩

/-- A check that leaves the keys of a mapping as they are, so far as it succeeds. -/
def KeepsKeys {α : Type} (keys : List Key) (c : Check α) : Prop :=
  ∀ s p a q, c s p = (.ok a, q) → Keyed keys p.slot → Keyed keys q.slot

namespace KeepsKeys

variable {keys : List Key} {visit : Node → Check Unit}

theorem of_still {α : Type} {c : Check α} (h : ∀ s p, (c s p).2.slot = p.slot) :
    KeepsKeys keys c := by
  intro s p a q hrun hp
  have hslot := h s p
  rw [hrun] at hslot
  exact hslot ▸ hp

theorem of_readsOnly {c : Check Unit} (h : ReadsOnly c) : KeepsKeys keys c :=
  of_still fun s p => (h s p).1

theorem bind {α β : Type} {c : Check α} {f : α → Check β} (hc : KeepsKeys keys c)
    (hf : ∀ a, KeepsKeys keys (f a)) : KeepsKeys keys (c >>= f) := by
  intro s p b r hrun hp
  obtain ⟨a, q, hfirst, hrest⟩ := bind_ok hrun
  exact hf a s q b r hrest (hc s p a q hfirst hp)

theorem atChild {c : Check Unit} (hc : Moving c) (hkey : key ∈ keys) (hself : key.same key = true) :
    KeepsKeys keys (Check.atChild (.entry key) c) := by
  rintro s p _ q hrun ⟨es, hp, rfl⟩
  obtain ⟨x, hx⟩ := Value.exists_entryAt? hself hkey
  obtain ⟨r, hr, rfl⟩ := atChild_ok hp hrun
  obtain ⟨ds, hm⟩ := hc (s.child (.entry key)) { p with slot := (Value.map es).slotBelow (.entry key) }
  rw [hr] at hm
  exact keyed_settle hx hm.slot

theorem each {α : Type} {c : α → Check Unit} {xs : List α} (h : ∀ x ∈ xs, KeepsKeys keys (c x)) :
    KeepsKeys keys (Check.each c xs) := by
  induction xs with
  | nil => exact of_readsOnly .pure
  | cons x xs ih =>
    exact .bind (h x (List.mem_cons_self ..)) fun _ => ih fun y hy => h y (List.mem_cons_of_mem _ hy)

/-- The policy is checked against the entry in its place. -/
theorem policyRule (hvisit : Moving (visit policy)) (hkey : key ∈ keys)
    (hself : key.same key = true) :
    KeepsKeys keys (Check.policyRule visit declarations policy key) := by
  refine .bind (of_still fun _ _ => rfl) fun declared => ?_
  split
  · exact .atChild hvisit hkey hself
  · exact .of_readsOnly .pure

/-- So is the schema that the entry carries. -/
theorem ownSchema (hvisit : ∀ k, Moving (visit k)) (hkey : key ∈ keys)
    (hself : key.same key = true) : KeepsKeys keys (Check.ownSchema visit key) := by
  refine .bind (of_still fun _ _ => rfl) fun s => ?_
  split
  · exact .of_readsOnly .pure
  · refine .bind (of_still fun _ _ => rfl) fun v => ?_
    split
    · dsimp only
      split
      · split
        · exact .atChild (hvisit _) hkey hself
        · exact .of_still fun _ _ => rfl
      · exact .of_readsOnly .pure
    · exact .of_readsOnly .pure

/-- One entry is checked with its neighbours in place, and stays where it is. -/
theorem entry (hvisit : ∀ k, Moving (visit k)) (hkey : key ∈ keys) (hself : key.same key = true) :
    KeepsKeys keys (Check.entry visit declarations policy key) := by
  refine .bind (of_still fun _ _ => rfl) fun declared => ?_
  refine .bind (.of_readsOnly (admission_readsOnly _ _ _)) fun _ => ?_
  refine .bind (.of_readsOnly (requirementRule_readsOnly _ _)) fun _ => ?_
  refine .bind (.policyRule (hvisit policy) hkey hself) fun _ => ?_
  exact .ownSchema hvisit hkey hself

end KeepsKeys

/-! ## The declared properties -/

/-- A key that a mapping has, any with more keys has as well. -/
theorem hasKey_of_kept {a b : Value} (h : ∀ k ∈ a.keys, k ∈ b.keys) (hkey : a.hasKey key = true) :
    b.hasKey key = true := by
  rw [Value.hasKey_eq, List.any_eq_true] at hkey ⊢
  obtain ⟨k, hk, hsame⟩ := hkey
  exact ⟨k, h k hk, hsame⟩

/-- A key that is the same as itself is one that the mapping has. -/
theorem hasKey_of_mem {a : Value} (hself : key.same key = true) (h : key ∈ a.keys) :
    a.hasKey key = true := by
  rw [Value.hasKey_eq, List.any_eq_true]
  exact ⟨key, h, hself⟩

/-- Where there is an entry under a key, the mapping has the key. -/
theorem hasKey_of_entryAt? {x : Value} (h : Value.entryAt? key es = some x) :
    (Value.map es).hasKey key = true := by
  have hkey : (Value.map es).hasKey key = (Value.entryAt? key es).isSome := by
    simp [Value.hasKey, Value.entryAt?, Value.entries]
  rw [hkey, h]
  rfl

/-- A declared property that has been gone over with success is there, if its declaration grants
    that. -/
theorem declaredProperty_grants {d : Value} (hn : n.InSchema) (hself : key.same key = true)
    (hreserved : isReserved key = false) (hgrants : d.Grants s.interactive)
    (hp : p.slot = .present (.map es))
    (h : declaredProperty (against depth) n key d s p = (.ok (), q)) :
    q.slot.value.hasKey key = true := by
  unfold declaredProperty at h
  rw [hreserved] at h
  obtain ⟨r, hr, rfl⟩ := atChild_ok hp h
  -- the property is filled in, or it was there before
  cases hchild : Value.entryAt? key es with
  | none =>
    have hfree : (Value.map es).slotBelow (.entry key) = .free := by
      simp [Value.slotBelow, Value.child?, hchild, Value.gap]
    have hmember : (n.down (.entry key) d).InSchema := hn
    obtain ⟨x, hx⟩ := against_free hmember hfree hr hgrants
    show ((Value.map es).settle (.entry key) r.slot).hasKey key = true
    rw [hx]
    refine hasKey_of_mem hself ?_
    show key ∈ (es ++ [(key, x)]).map (·.1)
    simp
  | some x => exact hasKey_settle _ _ _ _ (hasKey_of_entryAt? hchild)

/-- So it is with all of them together, since none that comes later takes one away. -/
theorem declaredProperties_grant (hn : n.InSchema) {size : Nat}
    (hself : ∀ k ∈ declared.map (·.1), k.same k = true) (hp : p.slot = .present (.map es))
    (h : declaredProperties (against depth) n size declared s p = (.ok (), q)) :
    ∀ k d, (k, d) ∈ declared → isReserved k = false → d.Grants s.interactive →
      q.slot.value.hasKey k = true := by
  induction declared generalizing es p with
  | nil => exact fun k d hmem => absurd hmem List.not_mem_nil
  | cons e rest ih =>
    obtain ⟨key, definition⟩ := e
    obtain ⟨_, p₁, hfirst, h⟩ := bind_ok h
    obtain ⟨_, p₂, hsize, hrest⟩ := bind_ok h
    have hstill : p₂.slot = p₁.slot := ((stillOfSize_readsOnly hn size).acceptsAsIs hsize).1
    obtain ⟨es₁, hp₁, _⟩ := declaredProperty_declares depth s hn key definition hp
    rw [hfirst] at hp₁
    have hp₂ : p₂.slot = .present (.map es₁) := hstill.trans hp₁
    intro k d hmem hreserved hgrants
    -- the property just gone over stays while the others are
    rcases List.mem_cons.mp hmem with hhead | htail
    · cases hhead
      have hthere := declaredProperty_grants hn (hself key (List.mem_cons_self ..)) hreserved
        hgrants hp hfirst
      obtain ⟨es₂, hq, hdeclares, _⟩ := declaredProperties_declares depth s hn size rest hp₂
      rw [hrest] at hq
      dsimp only at hp₁ hq
      rw [hp₁] at hthere
      rw [hq]
      exact hasKey_of_kept (a := .map es₁) (b := .map es₂) hdeclares.kept hthere
    · exact ih (fun k hk => hself k (List.mem_cons_of_mem _ hk)) hp₂ hrest k d htail hreserved
        hgrants

/-! ## Objects -/

/-- What the check of an entry has asked of keys. -/
theorem entry_asks {visit : Node → Check Unit} (hdecl : declarations.InSchema)
    (htree : declarations.tree = .map declared)
    (h : entry visit declarations policy key s p = (.ok (), q)) :
    admits policy.tree declared key ∧
      requirementMet (Value.entryAt? key declared) p.slot.value = true := by
  unfold entry at h
  rw [content_bind, hdecl.content, htree] at h
  obtain ⟨_, p₁, hadmission, h⟩ := bind_ok h
  obtain ⟨_, p₂, hrequirement, _⟩ := bind_ok h
  have hslot : p₁.slot = p.slot := ((admission_readsOnly _ _ _).acceptsAsIs hadmission).1
  refine ⟨(admission_gate (s := s) (p := p) policy declared key).ok_iff.mp ?_, ?_⟩
  · exact congrArg Prod.fst hadmission
  · rw [← hslot]
    exact (requirementRule_gate s p₁ key _).ok_iff.mp (congrArg Prod.fst hrequirement)

/-- Where the policy is false, what is admitted and not reserved is declared. -/
theorem declared_of_admits (hclosed : policy.tree = .bool false)
    (h : admits policy.tree declared key) (hreserved : isReserved key = false) :
    ∃ d, Value.entryAt? key declared = some d ∧ d ≠ .null ∧ d ≠ .bool false := by
  -- of the three ways to be admitted only a declaration is left
  have hdeclared : isUndeclared (Value.entryAt? key declared) = false := by
    rcases h with h | h | h
    · rw [hreserved] at h
      cases h
    · exact h
    · rw [hclosed] at h
      cases h
  cases hd : Value.entryAt? key declared with
  | none =>
    rw [hd] at hdeclared
    cases hdeclared
  | some d =>
    rw [hd] at hdeclared
    refine ⟨d, rfl, ?_, ?_⟩
    · rintro rfl
      cases hdeclared
    · rintro rfl
      cases hdeclared

/-- A requirement that is met names a key that is there. -/
theorem named_of_requirementMet {d r object : Value}
    (h : requirementMet (some d) object = true) (hr : d.get? "requires" = some r)
    (hgiven : r ≠ .null) : ∃ name, r = .str name ∧ object.hasKey (.name name) = true := by
  unfold requirementMet requirement at h
  dsimp only at h
  rw [hr] at h
  cases r with
  | null => exact absurd rfl hgiven
  | str name => exact ⟨name, rfl, h⟩
  | _ => cases h

/-- Whether a requirement is met depends on the keys. -/
theorem requirementMet_congr {a b : Value} (h : a.keys = b.keys) (required : Option Value) :
    requirementMet required a = requirementMet required b := by
  unfold requirementMet
  split
  · rfl
  · rw [Value.hasKey_eq, Value.hasKey_eq, h]
  · rfl

/-- The second round leaves the keys as they are, and what it asks of keys holds of those that are
    there in the end. -/
theorem entries_keep {keys : List Key} (hdecl : declarations.InSchema)
    (htree : declarations.tree = .map declared) (hself : ∀ k ∈ keys, k.same k = true)
    (hp : Keyed keys p.slot)
    (h : each (entry (against depth) declarations policy) keys s p = (.ok (), q)) :
    Keyed keys q.slot ∧ ∀ k ∈ keys, admits policy.tree declared k ∧
      requirementMet (Value.entryAt? k declared) q.slot.value = true := by
  have hkeeps : ∀ k ∈ keys, KeepsKeys keys (entry (against depth) declarations policy k) :=
    fun k hk => .entry (against_moves depth) hk (hself k hk)
  have hend : Keyed keys q.slot := KeepsKeys.each hkeeps s p () q h hp
  refine ⟨hend, fun k hk => ?_⟩
  -- each entry has been checked on an object with the same keys
  obtain ⟨p', q', hp', hrun⟩ := each_ok (I := fun p => Keyed keys p.slot)
    (fun k hk p q hp hrun => hkeeps k hk s p () q hrun hp) hp h k hk
  obtain ⟨hadmits, hmet⟩ := entry_asks hdecl htree hrun
  refine ⟨hadmits, ?_⟩
  rw [requirementMet_congr (hend.keys.trans hp'.keys.symm)]
  exact hmet

/-- Only a mapping is accepted as an object, and only with a mapping of declarations. -/
theorem object_found {visit : Node → Check Unit} (hdecl : declarations.InSchema)
    (h : object visit declarations policy s p = (.ok (), q)) :
    ∃ declared es, declarations.tree = .map declared ∧ p.slot = .present (.map es) := by
  unfold object at h
  rw [content_bind, hdecl.content] at h
  cases htree : declarations.tree with
  | map declared =>
    rw [htree] at h
    obtain ⟨_, _, honly, _⟩ := bind_ok h
    -- the declarations are a mapping and the value is an object, or the check has failed
    have hmap := isMap_of_objectOnly honly
    cases hvalue : p.slot.value with
    | map es =>
      refine ⟨declared, es, rfl, ?_⟩
      rw [Slot.eq_present (σ := p.slot) (by simp [hvalue]), hvalue]
    | _ =>
      rw [hvalue] at hmap
      cases hmap
  | _ =>
    rw [htree] at h
    cases h

/-- An object that passes its check, in two rounds. -/
theorem object_holds (hdecl : declarations.InSchema) (htree : declarations.tree = .map declared)
    (hdeclared : Value.distinctKeys declared = true) (hp : p.slot = .present (.map es))
    (hes : Value.distinctKeys es = true)
    (h : object (against depth) declarations policy s p = (.ok (), q)) :
    ∃ es', q.slot = .present (.map es') ∧
      ObjectHolds s.interactive declared policy.tree es es' := by
  unfold object at h
  rw [content_bind, hdecl.content, htree] at h
  obtain ⟨_, p₁, honly, h⟩ := bind_ok h
  obtain ⟨_, p₂, hfirst, hentries⟩ := bind_ok h
  have hp₁ : p₁.slot = .present (.map es) := ((objectOnly_readsOnly.acceptsAsIs honly).1).trans hp
  have hdeclaredSelf := (Value.distinctKeys_iff.mp hdeclared).1
  have hesSelf := (Value.distinctKeys_iff.mp hes).1
  -- the first round
  obtain ⟨between, hp₂, hdeclares, _⟩ :=
    declaredProperties_declares depth s hdecl declared.length declared hp₁
  rw [hfirst] at hp₂
  have hgrants := declaredProperties_grant hdecl hdeclaredSelf hp₁ hfirst
  rw [hp₂] at hgrants
  have hself : ∀ k ∈ between.map (·.1), k.same k = true := by
    intro k hk
    rcases hdeclares.added k hk with hk | ⟨d, hd, _, _⟩
    · exact hesSelf k hk
    · exact hdeclaredSelf k (List.mem_map_of_mem (f := (·.1)) hd)
  -- the second round
  rw [value_bind, hp₂] at hentries
  obtain ⟨⟨es', hq, hkeys⟩, hasked⟩ :=
    entries_keep hdecl htree hself ⟨between, hp₂, rfl⟩ hentries
  rw [hq, ← hkeys] at hasked
  have hstay {k : Key} (hk : (Value.map between).hasKey k = true) :
      (Value.map es').hasKey k = true :=
    hasKey_of_kept (a := .map between) (b := .map es') (fun l hl => by rwa [Value.keys_map, hkeys]) hk
  refine ⟨es', hq, ?_, ?_, ?_, ?_, ?_, ?_⟩
  · exact fun k hk => hkeys ▸ hdeclares.kept k hk
  · intro k hk
    rcases hdeclares.added k (hkeys ▸ hk) with hk | ⟨d, hd, _, hreserved⟩
    · exact Or.inl hk
    · exact Or.inr ⟨List.mem_map_of_mem (f := (·.1)) hd, hreserved⟩
  · exact fun hclosed k hk => declared_of_admits hclosed (hasked k hk).1
  · intro k hk d r hd hr
    have hmet := (hasked k hk).2
    rw [hd] at hmet
    exact named_of_requirementMet hmet hr
  · exact fun hs k d w hd hreserved hw =>
      hstay (hgrants k d hd hreserved (Or.inr ⟨hs, w, hw⟩))
  · exact fun k d hd hreserved hr => hstay (hgrants k d hd hreserved (Or.inl hr))

end Check

namespace Validator

open Check

/-- **What an accepted object has.**  If an object passes the check against declarations and a
    policy, whatever the validator has met before, then it is a mapping, and as it is left
    (`ObjectHolds`): no key has gone, and what has come is declared and not reserved; under the
    policy false every key that is not reserved has a declaration that says something; what the
    declaration of a key requires along with it is a name and is there, even where the key has only
    come with a default; where defaults are written, every property has come that is declared with
    one to offer; and none is missing that is required. -/
theorem accepted_object (v : Validator) (inst declarations policy : Node)
    (hdecl : declarations.InSchema)
    (hdeclared : Value.distinctKeys declarations.tree.entries = true)
    (hinst : Value.distinctKeys inst.tree.entries = true)
    (hok : (v.checkObject inst declarations policy).result = .ok ()) :
    ∃ declared es es', declarations.tree = .map declared ∧ inst.tree = .map es ∧
      (v.checkObject inst declarations policy).slot = .present (.map es') ∧
      ObjectHolds v.interactive.isTruthy declared policy.tree es es' := by
  let s : Scope := ⟨.null, [], inst.origin, v.renewals, 0, v.interactive.isTruthy, v.settings.maxDepth⟩
  let p : Progress := ⟨.ofValue inst.tree, v.registry, [], []⟩
  have hrun : object v.visit declarations policy s p =
      (.ok (), (object v.visit declarations policy s p).2) := Prod.ext hok rfl
  obtain ⟨declared, es, htree, hp⟩ := object_found hdecl hrun
  have hvalue : inst.tree = .map es := by
    rw [← Slot.value_ofValue inst.tree, show Slot.ofValue inst.tree = _ from hp]
    rfl
  rw [htree] at hdeclared
  rw [hvalue] at hinst
  obtain ⟨es', hslot, hholds⟩ := object_holds hdecl htree hdeclared hp hinst hrun
  exact ⟨declared, es, es', htree, hvalue, hslot, hholds⟩

/-- A card that comes with a billing address, and an address that comes with a card. -/
def cardDeclarations : List (Key × Value) :=
  [(.name "card", .map [(.name "requires", .str "billing"), (.name "required", .bool true)]),
    (.name "billing", .map [(.name "requires", .str "card"), (.name "default", .str "home")])]

/-- What a card requires is filled in, and requires the card in turn. -/
theorem default_brings_requirement :
    let card : List (Key × Value) := [(.name "card", .int 1)]
    let o := (Validator.new .default (.bool true)).checkObject ⟨⟨.instance 0, []⟩, .map card⟩
      (.ofSchema 0 (.map cardDeclarations)) (.ofSchema 1 (.bool false))
    let filled : List (Key × Value) := [(.name "card", .int 1), (.name "billing", .str "home")]
    o.slot = .present (.map filled) ∧
      ObjectHolds true cardDeclarations (.bool false) card filled := by
  intro card o filled
  obtain ⟨declared, es, es', hdeclared, hes, hslot, hholds⟩ := accepted_object
    (Validator.new .default (.bool true)) ⟨⟨.instance 0, []⟩, .map card⟩
    (.ofSchema 0 (.map cardDeclarations)) (.ofSchema 1 (.bool false)) ⟨0, rfl⟩
    (by decide +kernel) (by decide +kernel) (by decide +kernel)
  obtain rfl : cardDeclarations = declared := Value.map.inj hdeclared
  obtain rfl : card = es := Value.map.inj hes
  have hfilled : o.slot = .present (.map filled) := by decide +kernel
  obtain rfl : es' = filled := Value.map.inj (Slot.present.inj (hslot.symm.trans hfilled))
  exact ⟨hfilled, hholds⟩

end Validator

end Conformance

/-
  What the rules on members visit.

  The rules on arrays and objects visit members in turn (`Calls`): all elements, the declared
  properties and then the entries without a declaration, or all entries.  No member is visited
  twice, so at the end each one is accepted as its own visit has left it, and the rules find nothing
  more to do on the container that they leave behind (`everyElement_acceptsAsIs`,
  `object_acceptsAsIs`, `additionalOnly_acceptsAsIs`).
-/
import Conformance.Proofs.Decision.Members
import Conformance.Proofs.MemberVisits

namespace Conformance

namespace Value

/-- A mapping has a key if it has one that is the same. -/
theorem hasKey_eq (v : Value) (key : Key) : v.hasKey key = v.keys.any fun k => k.same key := by
  rw [Bool.eq_iff_iff]
  simp [hasKey, entryWith?, keys]

/-- Members of a value whose mappings hold each key once are such values. -/
theorem wellKeyed_member {v : Value} (h : v.wellKeyed = true) (step : Step) :
    (v.slotBelow step).value.wellKeyed = true := by
  rw [slotBelow_value]
  rcases v.member_mem_parts step with hp | hm
  · exact everyMapping_part h hp
  · rw [hm]
    rfl

theorem distinctKeys_entries {v : Value} (h : v.atTop distinctKeys = true) :
    distinctKeys v.entries = true := by
  cases v with
  | map es => exact h
  | _ => rfl

/-- The slot at a key of a mapping is not free. -/
theorem slotBelow_ne_free_of_mem_keys {v : Value} {key : Key} (hself : key.same key = true)
    (h : key ∈ v.keys) : v.slotBelow (.entry key) ≠ .free := by
  cases v with
  | map es =>
    -- a key that is the same as itself is found again, so something is held there
    obtain ⟨w, hw⟩ := exists_entryAt? hself h
    rw [slotBelow_of_child? (show (map es).child? (.entry key) = some w from hw)]
    exact ofValue_ne_free w
  | _ => cases h

end Value

namespace Check

variable {visit visit' : Node → Check Unit} {a b : Value} {todo more : List (Step × Node)}
  {n : Node} {s : Scope} {p q : Progress}

/-- On a container, a check that succeeds makes these visits in turn, and does nothing else to it.
    -/
def Calls (visit : Node → Check Unit) (c : Check Unit) (a : Value) (todo : List (Step × Node)) :
    Prop :=
  ∀ s p q, s.interactive = true → p.slot = .present a → c s p = (.ok (), q) →
    ∃ b, q.slot = .present b ∧ InTurn visit todo a b

namespace Calls

variable {c d : Check Unit}

/-- A check that only reads visits nothing. -/
theorem of_readsOnly (h : ReadsOnly c) : Calls visit c a [] := by
  intro s p q _ hp hq
  exact ⟨a, (h.acceptsAsIs hq).1.trans hp, .done a⟩

/-- What two checks visit, one after the other, is visited in that order. -/
theorem bind (hc : Calls visit c a todo) (hd : ∀ b, Calls visit d b more) :
    Calls visit (c >>= fun _ => d) a (todo ++ more) := by
  intro s p r hs hp hr
  obtain ⟨_, q, hq, hr⟩ := bind_ok hr
  obtain ⟨b, hb, hfirst⟩ := hc s p q hs hp hq
  obtain ⟨e, he, hsecond⟩ := hd b s q r hs hb hr
  exact ⟨e, he, hfirst.append hsecond⟩

/-- What a schema says decides on the visits. -/
theorem content (hn : n.InSchema) {f : Value → Check Unit} (h : Calls visit (f n.tree) a todo) :
    Calls visit (Check.content n >>= f) a todo := by
  intro s p q hs hp hq
  rw [content_bind, hn.content] at hq
  exact h s p q hs hp hq

/-- Several checks, each of which visits one member or none. -/
theorem each {α : Type} {f : α → Check Unit} {todo : α → Option (Step × Node)} {xs : List α}
    (h : ∀ x ∈ xs, ∀ b, Calls visit (f x) b (todo x).toList) (a : Value) :
    Calls visit (Check.each f xs) a (xs.filterMap todo) := by
  induction xs generalizing a with
  | nil => exact .of_readsOnly .pure
  | cons x xs ih =>
    rw [show (x :: xs).filterMap todo = (todo x).toList ++ xs.filterMap todo by
      rw [List.filterMap_cons]
      cases todo x <;> rfl]
    exact .bind (h x (List.mem_cons_self ..) a)
      (ih fun y hy => h y (List.mem_cons_of_mem _ hy))

/-- A check of a member is the visit of that member. -/
theorem atChild {k : Node} (hmoves : Moving (visit k)) (step : Step) (a : Value) :
    Calls visit (Check.atChild step (visit k)) a [(step, k)] := by
  intro s p q hs hp hq
  obtain ⟨r, hr, rfl⟩ := atChild_ok hp hq
  -- the visit has moved on below the member, so what it has left can be put back
  obtain ⟨ds, hm⟩ := hmoves (s.child step) { p with slot := a.slotBelow step }
  rw [hr] at hm
  exact ⟨_, rfl, .next ⟨s.child step, _, r, hs, rfl, hr, rfl⟩ (hm.member rfl).1 (.done _)⟩

end Calls

/-- Of several checks that all succeed, each one does where the ones before it have led. -/
theorem each_ok {α : Type} {f : α → Check Unit} {I : Progress → Prop} {xs : List α}
    (hstep : ∀ x ∈ xs, ∀ p q, I p → f x s p = (.ok (), q) → I q)
    (hp : I p) (h : each f xs s p = (.ok (), q)) :
    ∀ x ∈ xs, ∃ p q, I p ∧ f x s p = (.ok (), q) := by
  induction xs generalizing p with
  | nil => exact nofun
  | cons x xs ih =>
    obtain ⟨_, p', hx, hrest⟩ := bind_ok h
    intro y hy
    rcases List.mem_cons.mp hy with rfl | hy
    · exact ⟨p, p', hp, hx⟩
    · exact ih (fun z hz => hstep z (List.mem_cons_of_mem _ hz))
        (hstep x (List.mem_cons_self ..) p p' hp hx) hrest y hy

/-- Members that are there, and have all been visited against one schema, are accepted as
    they are. -/
theorem each_acceptsAsIs {α : Type} {f : α → Check Unit} {xs : List α} {step : α → Step} {k : Node}
    (hcalls : ∀ x ∈ xs, ∀ b, Calls visit (f x) b [(step x, k)])
    (hfind : ∀ x ∈ xs, a.Findable (step x)) (hfound : ∀ x ∈ xs, a.slotBelow (step x) ≠ .free)
    (hapart : xs.Pairwise fun x y => (step x).Separate (step y))
    (hleaves : LeavesAccepted (visit k) (visit' k)) (hkeyed : a.wellKeyed = true)
    (hs : s.interactive = true)
    (hp : p.slot = .present a) (h : each f xs s p = (.ok (), q)) :
    ∃ b, q.slot = .present b ∧ Value.SameShape a b ∧
      ∀ x ∈ xs, AcceptsAsIs (visit' k) (b.slotBelow (step x)) := by
  let visits := xs.filterMap fun x => some (step x, k)
  have hvisit {y : Step × Node} : y ∈ visits ↔ ∃ x ∈ xs, (step x, k) = y := by simp [visits]
  have hall : Calls visit (each f xs) a visits := .each hcalls a
  obtain ⟨b, hb, hvisited⟩ := hall s p q hs hp h
  -- the members can be visited one after the other, since no two of them are the same
  have hvisitable : Visitable visits a := by
    refine ⟨fun y hy => ?_, List.pairwise_filterMap.mpr (hapart.imp ?_)⟩
    · obtain ⟨x, hx, rfl⟩ := hvisit.mp hy
      exact hfind x hx
    · rintro x y hxy _ ⟨⟩ _ ⟨⟩
      exact hxy
  have haccepts : ∀ y ∈ visits, AcceptsAsIs (visit' y.2) (b.slotBelow y.1) := by
    refine hvisited.acceptsAsIs hvisitable (fun y _ => Value.wellKeyed_member hkeyed y.1)
      fun y hy => ?_
    obtain ⟨x, _, rfl⟩ := hvisit.mp hy
    exact hleaves
  refine ⟨b, hb, hvisited.sameShape hvisitable fun y hy => ?_,
    fun x hx => haccepts _ (hvisit.mpr ⟨x, hx, rfl⟩)⟩
  obtain ⟨x, hx, rfl⟩ := hvisit.mp hy
  exact hfound x hx

/-! ## Policies -/

/-- A policy that has been read once is read again. -/
theorem additionalPolicy_ok (hn : n.InSchema) {k : Node}
    (h : additionalPolicy n s p = (.ok k, q)) :
    k = policyNode n ∧ q = p ∧ ∀ s p, additionalPolicy n s p = (.ok (policyNode n), p) := by
  unfold additionalPolicy policyNode at *
  simp only [field?_bind, hn.content] at *
  -- the policy is missing, a boolean or a schema; otherwise there is no result
  cases hp : n.tree.get? "additionalProperties" with
  | none =>
    rw [hp] at h
    cases h
    exact ⟨rfl, rfl, fun _ _ => rfl⟩
  | some policy =>
    rw [hp] at h
    cases policy with
    | bool b =>
      cases h
      exact ⟨rfl, rfl, fun _ _ => rfl⟩
    | map es =>
      cases h
      exact ⟨rfl, rfl, fun _ _ => rfl⟩
    | _ => cases h

/-! ## Arrays -/

/-- The slot at an index within an array holds the element there. -/
theorem slotBelow_of_lt {xs : List Value} (h : a.elements? = some xs) {i : Nat}
    (hi : i < xs.length) : a.slotBelow (.index i) = .ofValue xs[i] := by
  refine Value.slotBelow_of_child? ?_
  cases a with
  | list _ =>
    cases h
    exact List.getElem?_eq_getElem hi
  | tuple _ =>
    cases h
    exact List.getElem?_eq_getElem hi
  | _ => cases h

/-- The elements of an array that have all been visited are accepted as they are. -/
theorem everyElement_acceptsAsIs {k : Node} (hmoves : Moving (visit k))
    (hleaves : LeavesAccepted (visit k) (visit' k)) (hkeyed : a.wellKeyed = true)
    (harray : a.elements?.isSome = true) (hs : s.interactive = true)
    (hp : p.slot = .present a) (h : everyElement visit k s p = (.ok (), q)) :
    ∃ b, q.slot = .present b ∧ b.class? = a.class? ∧
      AcceptsAsIs (everyElement visit' k) (.present b) := by
  obtain ⟨xs, hxs⟩ := Option.isSome_iff_exists.mp harray
  have hlength : (a.elements?.getD []).length = xs.length := by rw [hxs]; rfl
  have hrun : each (fun i => atChild (.index i) (visit k)) (List.range xs.length) s p =
      (.ok (), q) := by
    rw [← hlength, ← show p.slot.value = a by rw [hp]; rfl]
    exact h
  obtain ⟨b, hb, hshape, haccepts⟩ := each_acceptsAsIs (fun i _ b => .atChild hmoves (.index i) b)
    (fun i hi => ⟨_, slotBelow_of_lt hxs (List.mem_range.mp hi)⟩)
    (fun i hi => by
      rw [slotBelow_of_lt hxs (List.mem_range.mp hi)]
      exact Value.ofValue_ne_free _)
    List.nodup_range hleaves hkeyed hs hp hrun
  refine ⟨b, hb, hshape.class_eq, .read (fun s p hp => ?_)
    (.each fun i hi => .atChild (haccepts i hi))⟩
  -- there are as many elements as before, since visits leave the shape
  show (Except.ok (p.slot.value.elements?.getD []).length, p) = (.ok xs.length, p)
  rw [hp, ← hlength, ← hshape.length]
  rfl

/-! ## Objects -/

/-- Asking for an object only reads. -/
theorem objectOnly_readsOnly : ReadsOnly objectOnly :=
  .value fun _ => .ite (.of_error fun _ _ => ⟨_, rfl⟩) .pure

/-- Where an object was asked for and the check went on, there is one, -/
theorem isMap_of_objectOnly (h : objectOnly s p = (.ok (), q)) : p.slot.value.isMap = true := by
  unfold objectOnly at h
  rw [value_bind] at h
  cases hmap : p.slot.value.isMap with
  | true => rfl
  | false =>
    rw [hmap] at h
    cases h

/-- and an object is accepted when it is asked for. -/
theorem objectOnly_acceptsAsIs {σ : Slot} (h : σ.value.isMap = true) :
    AcceptsAsIs objectOnly σ := by
  refine .value ?_
  rw [h]
  exact .pure σ

/-- Asking whether the declarations have changed only reads, -/
theorem stillOfSize_readsOnly {declarations : Node} (hn : declarations.InSchema) (size : Nat) :
    ReadsOnly (stillOfSize declarations size) :=
  .content hn (.ite (.stop _) .pure)

/-- and in a document they have not. -/
theorem stillOfSize_acceptsAsIs {declarations : Node} (hn : declarations.InSchema) (σ : Slot) :
    AcceptsAsIs (stillOfSize declarations declarations.tree.entries.length) σ := by
  refine .content hn ?_
  rw [if_neg (by simp)]
  exact .pure σ

/-- The visit that a declaration asks for. -/
def declaredVisit (declarations : Node) (e : Key × Value) : Option (Step × Node) :=
  if isReserved e.1 then none else some (.entry e.1, declarations.down (.entry e.1) e.2)

theorem declaredVisit_eq_some {declarations : Node} {e : Key × Value} {x : Step × Node} :
    declaredVisit declarations e = some x ↔ isReserved e.1 = false ∧
      x = (.entry e.1, declarations.down (.entry e.1) e.2) := by
  unfold declaredVisit
  cases isReserved e.1 <;> simp [@eq_comm _ x]

/-- Declared properties are visited in the order of their declarations, reserved names left out. -/
theorem declaredProperties_calls {declarations : Node} (hn : declarations.InSchema)
    (hmoves : ∀ k, Moving (visit k)) (size : Nat) (es : List (Key × Value)) (a : Value) :
    Calls visit (declaredProperties visit declarations size es) a
      (es.filterMap (declaredVisit declarations)) := by
  induction es generalizing a with
  | nil => exact .of_readsOnly .pure
  | cons e rest ih =>
    obtain ⟨key, definition⟩ := e
    have hrest (b : Value) := Calls.bind (.of_readsOnly (a := b) (stillOfSize_readsOnly hn size)) ih
    unfold declaredProperties declaredProperty
    rw [List.filterMap_cons]
    unfold declaredVisit
    cases isReserved key with
    | true =>
      show Calls visit _ a ([] ++ _)
      exact .bind (.of_readsOnly .pure) hrest
    | false => exact .bind (.atChild (hmoves _) _ a) hrest

/-- They are all accepted as they are if each one is. -/
theorem declaredProperties_acceptsAsIs {declarations : Node} (hn : declarations.InSchema)
    {es : List (Key × Value)} (h : ∀ e ∈ es, isReserved e.1 = false →
      AcceptsAsIs (visit' (declarations.down (.entry e.1) e.2)) (b.slotBelow (.entry e.1))) :
    AcceptsAsIs (declaredProperties visit' declarations declarations.tree.entries.length es)
      (.present b) := by
  induction es with
  | nil => exact .pure _
  | cons e rest ih =>
    refine .bind ?_ (.bind (stillOfSize_acceptsAsIs hn _)
      (ih fun e he => h e (List.mem_cons_of_mem _ he)))
    unfold declaredProperty
    have hfirst := h e (List.mem_cons_self ..)
    cases hr : isReserved e.1 with
    | true => exact .pure _
    | false => exact .atChild (hfirst hr)

/-- The visit that an entry without a declaration asks for. -/
def undeclaredVisit (declarations policy : Node) (key : Key) : Option (Step × Node) :=
  if declarations.tree.hasKey key then none else some (.entry key, policy)

theorem undeclaredVisit_eq_some {declarations policy : Node} {key : Key} {x : Step × Node} :
    undeclaredVisit declarations policy key = some x ↔ declarations.tree.hasKey key = false ∧
      x = (.entry key, policy) := by
  unfold undeclaredVisit
  cases declarations.tree.hasKey key <;> simp [@eq_comm _ x]

theorem admission_readsOnly (policy : Node) (key : Key) (declared : Option Value) :
    ReadsOnly (admission policy key declared) := .ite (.failAt _ _) .pure

theorem requirementRule_readsOnly (key : Key) (declared : Option Value) :
    ReadsOnly (requirementRule key declared) := by
  unfold requirementRule
  split
  · exact .pure
  · exact .value fun _ => .ite (.failAt _ _) .pure
  · exact .failAt _ _

/-- What a declaration requires is required of the keys only. -/
theorem requirementRule_acceptsAsIs {key : Key} {declared : Option Value} {σ : Slot}
    (h : requirementRule key declared s p = (.ok (), q))
    (hkeys : σ.value.keys = p.slot.value.keys) : AcceptsAsIs (requirementRule key declared) σ := by
  unfold requirementRule at *
  -- a text is looked up among the keys, which are the same here
  cases hr : requirement declared with
  | null => exact .pure σ
  | str required =>
    rw [hr] at h
    dsimp only at h
    rw [value_bind, Value.hasKey_eq, ← hkeys, ← Value.hasKey_eq] at h
    refine .value ?_
    split at h
    · cases h
    · next hhas =>
      rw [if_neg hhas]
      exact .pure σ
  | _ =>
    rw [hr] at h
    cases h

/-- An entry is visited if it has no declaration, and then against the policy. -/
theorem entry_calls {declarations policy : Node} (hn : declarations.InSchema)
    (hmoves : ∀ k, Moving (visit k)) (key : Key) (a : Value) :
    Calls visit (entry visit declarations policy key) a
      (undeclaredVisit declarations policy key).toList := by
  have hpolicy (b : Value) : Calls visit (policyRule visit declarations policy key) b
      (undeclaredVisit declarations policy key).toList := by
    refine .content hn ?_
    unfold undeclaredVisit
    cases declarations.tree.hasKey key with
    | true => exact .of_readsOnly .pure
    | false => exact .atChild (hmoves _) _ b
  -- no schema of its own is enforced where defaults are written
  have hown (b : Value) : Calls visit (ownSchema visit key) b [] := by
    intro s p q hs hp hq
    rw [ownSchema_eq hs] at hq
    cases hq
    exact ⟨b, hp, .done b⟩
  have hlast (b : Value) := Calls.bind (hpolicy b) hown
  rw [List.append_nil] at hlast
  have hrequired (b : Value) : Calls visit (requirementRule key
      (Value.entryAt? key declarations.tree.entries)) b [] :=
    .of_readsOnly (requirementRule_readsOnly _ _)
  refine .content hn (.bind (.of_readsOnly (admission_readsOnly _ _ _)) fun b => ?_)
  exact .bind (hrequired b) hlast

/-- An entry that has been accepted is accepted as it is where the keys are the same and the member
    is. -/
theorem entry_acceptsAsIs {declarations policy : Node} (hn : declarations.InSchema) {key : Key}
    (h : entry visit declarations policy key s p = (.ok (), q)) (hkeys : b.keys = p.slot.value.keys)
    (hmember : declarations.tree.hasKey key = false →
      AcceptsAsIs (visit' policy) (b.slotBelow (.entry key))) :
    AcceptsAsIs (entry visit' declarations policy key) (.present b) := by
  unfold entry at h
  rw [content_bind, hn.content] at h
  obtain ⟨_, q₁, hadmission, h⟩ := bind_ok h
  obtain ⟨_, q₂, hrequirement, _⟩ := bind_ok h
  have hslot : q₁.slot = p.slot := ((admission_readsOnly _ _ _).acceptsAsIs hadmission).1
  have hadmitted : AcceptsAsIs (admission policy key (Value.entryAt? key declarations.tree.entries))
      (.present b) := by
    unfold admission at hadmission ⊢
    split at hadmission
    · cases hadmission
    · next hno =>
      rw [if_neg hno]
      exact .pure _
  refine .content hn (.bind hadmitted (.bind (requirementRule_acceptsAsIs hrequirement ?_)
    (.bind ?_ ?_)))
  · rw [hslot]
    exact hkeys
  · refine .content hn ?_
    cases hhas : declarations.tree.hasKey key with
    | true => exact .pure _
    | false => exact .atChild (hmember hhas)
  · exact fun s p hs hp => ⟨p, ownSchema_eq hs p, hp⟩

/-- Declared keys are told apart, -/
theorem pairwise_declared {declarations : Node} {es : List (Key × Value)}
    (hkeys : Value.distinctKeys es = true) :
    (es.filterMap (declaredVisit declarations)).Pairwise fun x y => x.1.Separate y.1 := by
  have happart := List.pairwise_map.mp (Value.distinctKeys_iff.mp hkeys).2
  refine List.pairwise_filterMap.mpr (happart.imp ?_)
  intro e f hef x hx y hy
  obtain ⟨_, rfl⟩ := declaredVisit_eq_some.mp hx
  obtain ⟨_, rfl⟩ := declaredVisit_eq_some.mp hy
  exact hef

/-- and so are the keys of the entries without a declaration. -/
theorem pairwise_undeclared {declarations policy : Node} {keys : List Key}
    (hkeys : keys.Pairwise fun k l => k.same l = false) :
    (keys.filterMap (undeclaredVisit declarations policy)).Pairwise
      fun x y => x.1.Separate y.1 := by
  refine List.pairwise_filterMap.mpr (hkeys.imp ?_)
  intro k l hkl x hx y hy
  obtain ⟨_, rfl⟩ := undeclaredVisit_eq_some.mp hx
  obtain ⟨_, rfl⟩ := undeclaredVisit_eq_some.mp hy
  exact hkl

/-- The visits to the members of an object that has these keys once the declared properties have
    been gone through. -/
def objectVisits (declarations policy : Node) (keys : List Key) : List (Step × Node) :=
  declarations.tree.entries.filterMap (declaredVisit declarations) ++
    keys.filterMap (undeclaredVisit declarations policy)

/-- A visit to an object is one to a declared property, or one to an entry without a declaration. -/
theorem mem_objectVisits {declarations policy : Node} {keys : List Key} {x : Step × Node} :
    x ∈ objectVisits declarations policy keys ↔
      (∃ e ∈ declarations.tree.entries, isReserved e.1 = false ∧
        x = (.entry e.1, declarations.down (.entry e.1) e.2)) ∨
      ∃ key ∈ keys, declarations.tree.hasKey key = false ∧ x = (.entry key, policy) := by
  simp only [objectVisits, List.mem_append, List.mem_filterMap, declaredVisit_eq_some,
    undeclaredVisit_eq_some]

/-- The declared properties are members that can be visited one after the other, -/
theorem visitable_declared {declarations : Node}
    (h : Value.distinctKeys declarations.tree.entries = true) (a : Value) :
    Visitable (declarations.tree.entries.filterMap (declaredVisit declarations)) a := by
  refine ⟨fun x hx => ?_, pairwise_declared h⟩
  obtain ⟨e, he, hx⟩ := List.mem_filterMap.mp hx
  obtain ⟨_, rfl⟩ := declaredVisit_eq_some.mp hx
  exact (Value.distinctKeys_iff.mp h).1 e.1 (List.mem_map_of_mem he)

/-- and so are the entries of an object. -/
theorem visitable_undeclared {declarations policy : Node} (hb : Value.distinctKeys b.entries = true)
    (a : Value) : Visitable (b.keys.filterMap (undeclaredVisit declarations policy)) a := by
  obtain ⟨hself, hapart⟩ := Value.distinctKeys_iff.mp hb
  refine ⟨fun x hx => ?_, pairwise_undeclared hapart⟩
  obtain ⟨key, hkey, hx⟩ := List.mem_filterMap.mp hx
  obtain ⟨_, rfl⟩ := undeclaredVisit_eq_some.mp hx
  exact hself key hkey

/-- Declared properties and entries without a declaration are all different members. -/
theorem visitable_object {declarations policy : Node}
    (hdeclared : Value.distinctKeys declarations.tree.entries = true)
    (hb : Value.distinctKeys b.entries = true) (a : Value) :
    Visitable (objectVisits declarations policy b.keys) a := by
  have hfirst : Visitable _ a := visitable_declared hdeclared a
  have hsecond : Visitable (b.keys.filterMap (undeclaredVisit declarations policy)) a :=
    visitable_undeclared hb a
  refine ⟨fun x hx => ?_, ?_⟩
  · rcases List.mem_append.mp hx with hx | hx
    · exact hfirst.findable x hx
    · exact hsecond.findable x hx
  · refine List.pairwise_append.mpr ⟨hfirst.apart, hsecond.apart, fun x hx y hy => ?_⟩
    -- a key without a declaration is no declared one
    obtain ⟨e, he, hx⟩ := List.mem_filterMap.mp hx
    obtain ⟨_, rfl⟩ := declaredVisit_eq_some.mp hx
    obtain ⟨key, _, hy⟩ := List.mem_filterMap.mp hy
    obtain ⟨hno, rfl⟩ := undeclaredVisit_eq_some.mp hy
    rw [Value.hasKey_eq, List.any_eq_false] at hno
    exact Bool.eq_false_iff.mpr (hno e.1 (List.mem_map_of_mem he))

/-- The visits to entries leave their container its shape, and each entry is accepted on a container
    with the same keys. -/
theorem entries_accepted {declarations policy : Node} (hn : declarations.InSchema)
    (hmoves : ∀ k, Moving (visit k)) (hb : Value.distinctKeys b.entries = true)
    (hs : s.interactive = true) (hp : p.slot = .present b)
    (h : each (entry visit declarations policy) b.keys s p = (.ok (), q)) :
    ∀ key ∈ b.keys, ∃ p q, p.slot.value.keys = b.keys ∧
      entry visit declarations policy key s p = (.ok (), q) := by
  have hself := (Value.distinctKeys_iff.mp hb).1
  -- what each visit to an entry leaves behind: an object with the same keys
  let invariant (p : Progress) : Prop := ∃ a, p.slot = .present a ∧ Value.SameShape b a
  have hstep : ∀ key ∈ b.keys, ∀ p q, invariant p →
      entry visit declarations policy key s p = (.ok (), q) → invariant q := by
    rintro key hkey p q ⟨a, ha, hshape⟩ hq
    obtain ⟨a', ha', hvisited⟩ := entry_calls hn hmoves key a s p q hs ha hq
    refine ⟨a', ha', hshape.trans (hvisited.sameShape ⟨fun x hx => ?_, ?_⟩ fun x hx => ?_)⟩
    · obtain ⟨_, rfl⟩ := undeclaredVisit_eq_some.mp (Option.mem_toList.mp hx)
      exact hself key hkey
    · cases undeclaredVisit declarations policy key <;> simp
    · obtain ⟨_, rfl⟩ := undeclaredVisit_eq_some.mp (Option.mem_toList.mp hx)
      exact Value.slotBelow_ne_free_of_mem_keys (hself key hkey) (by rwa [hshape.keys])
  intro key hkey
  obtain ⟨p', q', ⟨a, ha, hshape⟩, hq'⟩ := each_ok hstep ⟨b, hp, .refl b⟩ h key hkey
  exact ⟨p', q', by rw [ha]; exact hshape.keys, hq'⟩

/-- An object in the two rounds of visits that a check of it comes to: the declared properties, and
    then the entries that are there by then, each of which is accepted with these keys. -/
structure Rounds (visit : Node → Check Unit) (declarations policy : Node) (s : Scope)
    (a between b : Value) : Prop where
  listed : declarations.tree.isMap = true
  object : a.isMap = true
  declared :
    InTurn visit (declarations.tree.entries.filterMap (declaredVisit declarations)) a between
  keys : Value.distinctKeys between.entries = true
  undeclared : InTurn visit (between.keys.filterMap (undeclaredVisit declarations policy)) between b
  accepted : ∀ key ∈ between.keys, ∃ p q, p.slot.value.keys = between.keys ∧
    entry visit declarations policy key s p = (.ok (), q)

/-- A check of an object that succeeds has gone through these two rounds. -/
theorem object_rounds {declarations policy : Node} (hn : declarations.InSchema)
    (hdeclared : Value.distinctKeys declarations.tree.entries = true)
    (hmoves : ∀ k, Moving (visit k)) (hkeyed : a.atTop Value.distinctKeys = true)
    (hs : s.interactive = true) (hp : p.slot = .present a)
    (h : object visit declarations policy s p = (.ok (), q)) :
    ∃ between b, q.slot = .present b ∧ Rounds visit declarations policy s a between b := by
  unfold object at h
  rw [content_bind, hn.content] at h
  cases htree : declarations.tree with
  | map entries =>
    rw [htree] at h
    obtain ⟨_, p₁, honly, h⟩ := bind_ok h
    obtain ⟨_, p₂, hfirst, h⟩ := bind_ok h
    have hmap : a.isMap = true := by
      have hvalue := isMap_of_objectOnly honly
      rwa [hp] at hvalue
    have hp₁ : p₁.slot = .present a := ((objectOnly_readsOnly.acceptsAsIs honly).1).trans hp
    rw [show entries = declarations.tree.entries by rw [htree]; rfl] at hfirst
    obtain ⟨m, hm, hvisited⟩ := declaredProperties_calls hn hmoves _ _ a s p₁ p₂ hs hp₁ hfirst
    rw [value_bind, hm] at h
    obtain ⟨b, hb, hvisited'⟩ :=
      Calls.each (fun key _ a => entry_calls hn hmoves key a) m s p₂ q hs hm h
    -- the keys that the declared properties leave behind are told apart
    have hdistinct : Value.distinctKeys m.entries = true :=
      Value.distinctKeys_entries (hvisited.distinctKeys (visitable_declared hdeclared a) hkeyed)
    exact ⟨m, b, hb, by rw [htree]; rfl, hmap, hvisited, hdistinct, hvisited',
      entries_accepted hn hmoves hdistinct hs hm h⟩
  | _ =>
    rw [htree] at h
    cases h

/-- The visits to entries leave the keys that the declared properties have left. -/
theorem Rounds.keys_eq {declarations policy : Node} {between : Value}
    (h : Rounds visit declarations policy s a between b) : b.keys = between.keys := by
  have hvisitable :
      Visitable (between.keys.filterMap (undeclaredVisit declarations policy)) between :=
    visitable_undeclared h.keys between
  -- entries that are there are visited, and none of them is free
  refine (h.undeclared.sameShape hvisitable fun x hx => ?_).keys
  obtain ⟨key, hkey, hx⟩ := List.mem_filterMap.mp hx
  obtain ⟨_, rfl⟩ := undeclaredVisit_eq_some.mp hx
  exact Value.slotBelow_ne_free_of_mem_keys ((Value.distinctKeys_iff.mp h.keys).1 key hkey) hkey

/-- What a check of an object comes to: the visits to its members, of which those to entries leave
    the keys that the declared properties have left, and each entry is accepted with these keys. -/
theorem object_run {declarations policy : Node} (hn : declarations.InSchema)
    (hdeclared : Value.distinctKeys declarations.tree.entries = true)
    (hmoves : ∀ k, Moving (visit k)) (hkeyed : a.atTop Value.distinctKeys = true)
    (hs : s.interactive = true) (hp : p.slot = .present a)
    (h : object visit declarations policy s p = (.ok (), q)) :
    declarations.tree.isMap = true ∧ a.isMap = true ∧ ∃ b, q.slot = .present b ∧
      Visitable (objectVisits declarations policy b.keys) a ∧
      InTurn visit (objectVisits declarations policy b.keys) a b ∧
      ∀ key ∈ b.keys, ∃ p q, p.slot.value.keys = b.keys ∧
        entry visit declarations policy key s p = (.ok (), q) := by
  obtain ⟨m, b, hb, hrounds⟩ := object_rounds hn hdeclared hmoves hkeyed hs hp h
  refine ⟨hrounds.listed, hrounds.object, b, hb, ?_⟩
  rw [hrounds.keys_eq]
  exact ⟨visitable_object hdeclared hrounds.keys a, hrounds.declared.append hrounds.undeclared,
    hrounds.accepted⟩

/-- An object that has been checked is accepted as it is. -/
theorem object_acceptsAsIs {declarations policy : Node} (hn : declarations.InSchema)
    (hdeclared : declarations.tree.wellKeyed = true) (hmoves : ∀ k, Moving (visit k))
    (hproperty : ∀ e ∈ declarations.tree.entries, isReserved e.1 = false →
      LeavesAccepted (visit (declarations.down (.entry e.1) e.2))
        (visit' (declarations.down (.entry e.1) e.2)))
    (hpolicy : LeavesAccepted (visit policy) (visit' policy)) (hkeyed : a.wellKeyed = true)
    (hs : s.interactive = true) (hp : p.slot = .present a)
    (h : object visit declarations policy s p = (.ok (), q)) :
    ∃ b, q.slot = .present b ∧ b.class? = a.class? ∧
      AcceptsAsIs (object visit' declarations policy) (.present b) := by
  obtain ⟨hmap, hobject, b, hb, hvisitable, hvisited, haccepted⟩ := object_run hn
    (Value.distinctKeys_entries (Value.everyMapping_iff.mp hdeclared).1) hmoves
    (Value.everyMapping_iff.mp hkeyed).1 hs hp h
  -- each member is accepted as its own visit has left it, because none is visited again
  have haccepts : ∀ x ∈ objectVisits declarations policy b.keys,
      AcceptsAsIs (visit' x.2) (b.slotBelow x.1) := by
    refine hvisited.acceptsAsIs hvisitable (fun x _ => Value.wellKeyed_member hkeyed x.1)
      fun x hx => ?_
    rcases mem_objectVisits.mp hx with ⟨e, he, hr, rfl⟩ | ⟨key, _, _, rfl⟩
    · exact hproperty e he hr
    · exact hpolicy
  have hproperties : AcceptsAsIs
      (declaredProperties visit' declarations declarations.tree.entries.length
      declarations.tree.entries) (.present b) :=
    declaredProperties_acceptsAsIs hn fun e he hr =>
      haccepts _ (mem_objectVisits.mpr (Or.inl ⟨e, he, hr, rfl⟩))
  have hentries : AcceptsAsIs (Check.each (entry visit' declarations policy) b.keys)
      (.present b) := by
    refine .each fun key hkey => ?_
    obtain ⟨p', q', hkeys, haccept⟩ := haccepted key hkey
    exact entry_acceptsAsIs hn haccept hkeys.symm fun hno =>
      haccepts _ (mem_objectVisits.mpr (Or.inr ⟨key, hkey, hno, rfl⟩))
  refine ⟨b, hb, hvisited.class?, .content hn ?_⟩
  cases htree : declarations.tree with
  | map entries =>
    rw [htree] at hproperties
    refine .bind (objectOnly_acceptsAsIs ?_) (.bind hproperties (.value hentries))
    rw [← hobject]
    exact Value.isMap_of_class? hvisited.class?
  | _ =>
    rw [htree] at hmap
    cases hmap

/-! ## Objects without declarations -/

/-- Without declarations each entry is visited against the policy. -/
theorem additionalEntry_calls {policy : Node} (hmoves : ∀ k, Moving (visit k)) (owner : Value)
    (key : Key) (a : Value) :
    Calls visit (additionalEntry visit policy owner key) a [(.entry key, policy)] := by
  unfold additionalEntry
  split
  · intro s p q _ _ hq
    cases hq
  · exact .atChild (hmoves _) _ a

/-- An object without declarations that has been checked is accepted as it is. -/
theorem additionalOnly_acceptsAsIs {policy : Node} (hmoves : ∀ k, Moving (visit k))
    (hpolicy : LeavesAccepted (visit policy) (visit' policy)) (hkeyed : a.wellKeyed = true)
    (hs : s.interactive = true) (hp : p.slot = .present a)
    (h : additionalOnly visit policy s p = (.ok (), q)) :
    ∃ b, q.slot = .present b ∧ b.class? = a.class? ∧
      AcceptsAsIs (additionalOnly visit' policy) (.present b) := by
  unfold additionalOnly at h
  rw [value_bind, show p.slot.value = a by rw [hp]; rfl] at h
  cases hskip : allows policy.tree || !a.isMap with
  | true =>
    rw [if_pos hskip] at h
    cases h
    refine ⟨a, hp, rfl, .value ?_⟩
    rw [show (Slot.present a).value = a from rfl, if_pos hskip]
    exact .pure _
  | false =>
    rw [if_neg (by simp [hskip]), scope_bind] at h
    -- the keys are told apart, so each entry is visited once
    obtain ⟨hself, hapart⟩ := Value.distinctKeys_iff.mp
      (Value.distinctKeys_entries (Value.everyMapping_iff.mp hkeyed).1)
    obtain ⟨b, hb, hshape, haccepts⟩ :=
      each_acceptsAsIs (fun key _ b => additionalEntry_calls hmoves s.key key b) hself
        (fun key hkey => Value.slotBelow_ne_free_of_mem_keys (hself key hkey) hkey) hapart hpolicy
        hkeyed hs hp h
    refine ⟨b, hb, hshape.class_eq, .value ?_⟩
    rw [show (Slot.present b).value = b from rfl, Value.isMap_of_class? hshape.class_eq,
      if_neg (by simp [hskip]), hshape.keys]
    refine fun s' p' hs' hp' => AcceptsAsIs.each (fun key hkey => ?_) s' p' hs' hp'
    unfold additionalEntry
    cases hforbids : forbids policy.tree with
    | true =>
      -- a policy that forbids entries has met none
      obtain ⟨_, _, _, hentry⟩ :=
        each_ok (I := fun _ => True) (fun _ _ _ _ _ _ => trivial) trivial h key hkey
      rw [additionalEntry, hforbids] at hentry
      cases hentry
    | false => exact .atChild (haccepts key hkey)

end Check

end Conformance

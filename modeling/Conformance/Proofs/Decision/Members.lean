/-
  The rules on arrays and objects, each with the question that it decides.

  What becomes of a member is left to `visit`, as for types.  The rules that lead to members and
  those that only look at their number and keys come together in `memberRules_decides`.
-/
import Conformance.Proofs.Decision.Scalar

namespace Conformance

namespace Check

variable {v : Value} {n : Node} {visit : Node → Check Unit}

/-! ## Members -/

/-- The number of elements is that of the array at hand. -/
theorem Ends.length {Q : Except Failure Unit → Prop} {f : Nat → Check Unit} {xs : List Value}
    (hv : v.elements? = some xs) (h : Ends v Q (f xs.length)) : Ends v Q (Check.length >>= f) :=
  .read (fun s p _ hp => by
    show (Except.ok (p.slot.value.elements?.getD []).length, p) = _
    rw [hp, hv]
    rfl) h

/-- The policy on additional members as a node, if it is one. -/
def policyNode (n : Node) : Node :=
  n.down (.name "additionalProperties") ((n.tree.get? "additionalProperties").getD .null)

/-- The policy is read off the schema; what is no policy is a defect of it. -/
theorem additionalPolicy_answers : Ends v (Answer (· = policyNode n)) (additionalPolicy n) := by
  refine .field? ?_
  unfold policyNode
  cases hp : n.tree.get? "additionalProperties" with
  | none => exact .pure rfl
  | some policy =>
    cases policy with
    | bool b => exact .pure rfl
    | map es => exact .pure rfl
    | _ => exact .of_still (fun _ _ => rfl) fun _ _ _ _ _ => by intro h; cases h

/-- So a check that goes on with the policy decides what it decides for that node. -/
theorem Decides.policy {P : Prop} {f : Node → Check Unit} (h : Decides v P (f (policyNode n))) :
    Decides v P (additionalPolicy n >>= f) := by
  refine additionalPolicy_answers.decide ?_
  rintro _ rfl
  exact h

/-- A schema without references has a policy without references. -/
theorem policyNode_refFree (hn : n.tree.refFree = true) : (policyNode n).tree.refFree = true := by
  unfold policyNode Node.down
  cases hp : n.tree.get? "additionalProperties" with
  | none => rfl
  | some policy => exact Value.everyMapping_part hn (Value.mem_parts_of_get? hp)

theorem forbids_iff (policy : Value) : forbids policy = true ↔ policy = .bool false := by
  unfold forbids
  split <;> simp_all

/-- What is no mapping is conformed to by everything. -/
theorem conforms_of_not_map {S : Value} (h : S.isMap = false) : v.Conforms S := by
  rw [Value.Conforms]
  intro hmap
  simp [h] at hmap

/-- A policy that allows everything is conformed to by everything. -/
theorem conforms_of_allows {policy : Value} (h : allows policy = true) : v.Conforms policy := by
  cases policy with
  | bool _ => exact conforms_of_not_map rfl
  | _ => cases h

/-- Schemas that members carry are among those that the whole carries. -/
theorem ownRefFree_member (hv : v.ownRefFree = true) (step : Step) :
    (v.member step).ownRefFree = true := by
  rcases v.member_mem_parts step with hp | hm
  · exact Value.everyMapping_part hv hp
  · rw [hm]
    rfl

section Members

variable (hvisit : VisitDecides visit) (hv : v.ownRefFree = true)

include hvisit hv

/-- A nested check of a member decides whether the member conforms. -/
theorem member_decides {k : Node} (hk : k.tree.refFree = true) (step : Step) :
    Decides v ((v.member step).Conforms k.tree) (atChild step (visit k)) :=
  .atChild (hvisit k _ hk (ownRefFree_member hv step))

/-! ## Arrays -/

/-- One schema for all elements decides whether each of them conforms. -/
theorem everyElement_decides {xs : List Value} (hx : v.elements? = some xs) {k : Node}
    (hk : k.tree.refFree = true) :
    Decides v (∀ i, i < xs.length → (v.member (.index i)).Conforms k.tree)
      (everyElement visit k) := by
  refine .length hx ?_
  have heach : Decides v (∀ i ∈ List.range xs.length, (v.member (.index i)).Conforms k.tree)
      (Check.each (fun i => atChild (.index i) (visit k)) (List.range xs.length)) :=
    .each fun i _ => member_decides hvisit hv hk (.index i)
  exact heach.congr (by simp)

/-- Items by position, and the policy on additional items. -/
def PositionsFit (S v : Value) (schemas xs : List Value) : Prop :=
  (∀ i sub, schemas[i]? = some sub → (v.member (.index i)).Conforms sub) ∧
    ∀ policy, S.get? "additionalProperties" = some policy →
      (policy = .bool false → xs.length ≤ schemas.length) ∧
        ∀ i, i < xs.length → (v.member (.index i)).Conforms policy

/-- Schemas by position decide on the elements they stand for, and the policy on the others. -/
theorem positionalItems_decides {xs schemas : List Value} (hx : v.elements? = some xs)
    (hn : n.tree.refFree = true) (hs : n.tree.rule? "items" = some (.list schemas)) :
    Decides v (PositionsFit n.tree v schemas xs)
      (positionalItems visit n (n.down (.name "items") (.list schemas))) := by
  have hschemas := Value.everyMapping_part hn (Value.mem_parts_of_rule? hs)
  refine .and (.eachElement fun i sub hi => ?_) fun _ => .content ?_
  · exact member_decides hvisit hv (Value.everyMapping_part hschemas (List.mem_of_getElem? hi)) _
  · rw [Value.hasKey_name]
    cases hp : n.tree.get? "additionalProperties" with
    | none => exact Decides.yes (by simp)
    | some policy =>
      have htree : (policyNode n).tree = policy := by simp [policyNode, Node.down, hp]
      refine Decides.congr (P := (policy = .bool false → xs.length ≤ schemas.length) ∧
        ∀ i, i < xs.length → (v.member (.index i)).Conforms policy) (by simp) ?_
      refine Decides.policy ?_
      rw [htree]
      -- a policy that forbids more elements counts them; any other one is checked against
      cases hf : forbids policy with
      | true =>
        obtain rfl := (forbids_iff policy).mp hf
        refine .content (.length hx ?_)
        by_cases hlt : schemas.length < xs.length
        · simp only [Value.listItems, Node.down, hlt, if_true]
          exact Decides.fail fun _ h => absurd (h.1 trivial) (by omega)
        · simp only [Value.listItems, Node.down, hlt, if_false]
          exact Decides.yes ⟨fun _ => by omega, fun _ _ => conforms_of_not_map rfl⟩
      | false =>
        have hne : policy ≠ .bool false := fun h => by simp [h, forbids] at hf
        cases ha : allows policy with
        | true => exact Decides.yes ⟨fun h => absurd h hne, fun _ _ => conforms_of_allows ha⟩
        | false =>
          have hall := everyElement_decides hvisit hv hx (policyNode_refFree hn)
          rw [htree] at hall
          exact hall.congr ⟨fun h => ⟨fun h' => absurd h' hne, h⟩, fun h => h.2⟩

/-- What the rules on arrays decide: schemas for elements, and how many there may be. -/
theorem items_decides {xs : List Value} (hx : v.elements? = some xs)
    (hn : n.tree.refFree = true) :
    Decides v ((∀ r, n.tree.rule? "items" = some r → match r with
        | .list schemas => PositionsFit n.tree v schemas xs
        | r => ∀ i, i < xs.length → (v.member (.index i)).Conforms r) ∧
      n.tree.CountFits xs.length) (items visit n) := by
  refine .and (.whenGiven fun r hr => ?_) fun _ => itemCounts_decides hx
  have hr' := Value.everyMapping_part hn (Value.mem_parts_of_rule? hr)
  cases r with
  | list schemas => exact positionalItems_decides hvisit hv hx hn hr
  | _ => exact everyElement_decides hvisit hv hx (k := n.down (.name "items") _) hr'

/-! ## Objects -/

/-- Declared properties decide whether the members at their keys conform, be they there or missing.
    -/
theorem declaredProperties_decides {k : Node} {es : List (Key × Value)} {size : Nat}
    (hsize : k.tree.entries.length = size) (hes : ∀ e ∈ es, e.2.refFree = true) :
    Decides v (∀ e ∈ es, isReserved e.1 = false → (v.member (.entry e.1)).Conforms e.2)
      (declaredProperties visit k size es) := by
  induction es with
  | nil => exact .yes (by simp)
  | cons e es ih =>
    obtain ⟨key, definition⟩ := e
    -- by induction on the declarations: one property, and then the others
    have hfirst : Decides v (isReserved key = false → (v.member (.entry key)).Conforms definition)
        (declaredProperty visit k key definition) := by
      unfold declaredProperty
      cases isReserved key with
      | true => exact .yes (by simp)
      | false =>
        have hmember := member_decides hvisit hv (k := k.down (.entry key) definition)
          (hes _ (List.mem_cons_self ..)) (.entry key)
        exact hmember.congr (by simp [Node.down])
    -- nothing is written, so the declarations cannot have changed in number
    have hsame : Decides v True (stillOfSize k size) := by
      refine .content ?_
      rw [if_neg (by simp [hsize])]
      exact Decides.yes trivial
    have hrest := ih fun e he => hes e (List.mem_cons_of_mem _ he)
    exact (hfirst.and fun _ => hsame.and fun _ => hrest).congr (by simp)

/-- An entry is checked against the policy if it has no declaration. -/
theorem policyRule_decides {r k : Node} (hk : k.tree.refFree = true) (key : Key) :
    Decides v (r.tree.hasKey key = false → (v.member (.entry key)).Conforms k.tree)
      (policyRule visit r k key) := by
  refine .content ?_
  cases r.tree.hasKey key with
  | true => exact Decides.yes (by simp)
  | false => exact (member_decides hvisit hv hk (.entry key)).congr (by simp)

omit hvisit hv in
/-- A schema without rules is conformed to by everything, -/
theorem conforms_empty : v.Conforms (.map []) := by
  rw [Value.Conforms]
  have hrule (name : String) : (Value.map []).rule? name = none := rfl
  have hget (name : String) : (Value.map []).get? name = none := rfl
  have hbound (name : String) : (Value.map []).bound? name = none := rfl
  -- every clause asks for a rule that is not there
  refine fun _ => ⟨by simp [Value.bases, hrule], by simp [hget], fun _ => ⟨by simp [hrule],
    by simp [hrule], fun _ => ⟨⟨⟨?_, by simp [hrule], by simp [hrule], by simp [hget]⟩, ⟨?_, ?_⟩,
      by simp [Value.Enumerated, hrule]⟩, ?_⟩⟩⟩
  · exact fun _ _ => ⟨by simp [hbound], by simp [hbound]⟩
  · exact fun _ _ => ⟨by simp [hget], by simp [hbound], by simp [hbound]⟩
  · exact fun _ _ => ⟨by simp [hbound], by simp [hbound], by simp [hbound]⟩
  · intro step sub h
    cases h <;> simp_all

omit hvisit hv in
/-- and so is what does not count as true. -/
theorem conforms_of_not_truthy {S : Value} (h : S.isTruthy = false) : v.Conforms S := by
  cases S with
  | map es =>
    cases es with
    | nil => exact conforms_empty
    | cons _ _ => simp [Value.isTruthy] at h
  | _ => exact conforms_of_not_map rfl

omit hvisit hv in
/-- What stands under a key stands in the entries. -/
theorem child?_entry (v : Value) (key : Key) :
    v.child? (.entry key) = Value.entryAt? key v.entries := by
  cases v <;> rfl

/-- A schema that an entry carries itself decides whether the entry conforms to it. -/
theorem ownSchema_decides (key : Key) :
    Decides v (∀ own, (v.member (.entry key)).get? "$schema" = some own →
      (v.member (.entry key)).Conforms own) (ownSchema visit key) := by
  refine .scope fun s hs => ?_
  -- defaults are not written, so the schema of an entry is enforced
  rw [hs, if_neg (by simp)]
  refine .value ?_
  rw [← child?_entry]
  cases hc : v.child? (.entry key) with
  | none => exact Decides.yes (by simp [Value.member, hc, Value.get?])
  | some w =>
    have hw : v.member (.entry key) = w := by simp [Value.member, hc]
    rw [hw]
    cases w with
    | map entries =>
      have hmember := ownRefFree_member hv (.entry key)
      rw [hw] at hmember
      simp only [Value.get?_map]
      cases ho : Value.entryAt? (.name "$schema") entries with
      | none => exact Decides.yes (by simp)
      | some own =>
        have hown : own.refFree = true := by
          simp only [Value.ownRefFree, Value.everyMapping, Value.atTop, ho, Option.getD_some,
            Bool.and_eq_true] at hmember
          exact hmember.1
        refine Decides.congr (P := (Value.map entries).Conforms own) (by simp) ?_
        simp only [Option.getD_some]
        -- what is no mapping is passed over, with a remark if it counts as true
        cases ht : own.isTruthy with
        | false => exact .yes (conforms_of_not_truthy ht)
        | true =>
          cases hm : own.isMap with
          | false => exact .note _ (conforms_of_not_map hm)
          | true =>
            have hdecides := member_decides hvisit hv (k := ⟨(s.child (.entry key)).place.down
              (.name "$schema"), own⟩) hown (.entry key)
            rwa [hw] at hdecides
    | _ => exact Decides.yes (by simp [Value.get?])

/-- What is asked about one entry of an object with declarations. -/
structure EntryFits (v declared policy : Value) (key : Key) : Prop where
  admitted : policy = .bool false → isReserved key = false →
    isUndeclared (Value.entryAt? key declared.entries) = false
  required : ∀ name, requirement (Value.entryAt? key declared.entries) = .str name →
    v.hasKey (.name name) = true
  additional : declared.hasKey key = false → (v.member (.entry key)).Conforms policy
  own : ∀ own, (v.member (.entry key)).get? "$schema" = some own →
    (v.member (.entry key)).Conforms own

omit hvisit hv in
/-- Where the policy forbids entries, each one has to be declared or have a reserved name. -/
theorem admission_decides (policy : Node) (key : Key) (declared : Option Value) :
    Decides v (policy.tree = .bool false → isReserved key = false → isUndeclared declared = false)
      (admission policy key declared) := by
  unfold admission
  refine (Decides.unless fun _ => .failAt fun _ h => h).congr ?_
  rw [← forbids_iff]
  cases forbids policy.tree <;> cases isReserved key <;> cases isUndeclared declared <;> simp

omit hvisit hv in
/-- A requirement decides whether the object has the key it names. -/
theorem requirementRule_decides (key : Key) (declared : Option Value) :
    Decides v (∀ name, requirement declared = .str name → v.hasKey (.name name) = true)
      (requirementRule key declared) := by
  unfold requirementRule
  cases requirement declared with
  | null => exact .yes (by simp)
  | str required =>
    refine .value ?_
    exact (Decides.unless fun _ => .failAt fun _ h => h).congr (by simp)
  | _ => exact Decides.failAt fun h => by cases h

/-- The four rules on an entry decide the four questions, in this order. -/
theorem entry_decides {r k : Node} (hk : k.tree.refFree = true) (key : Key) :
    Decides v (EntryFits v r.tree k.tree key) (entry visit r k key) := by
  refine .content ?_
  have hadmission := admission_decides (v := v) k key (Value.entryAt? key r.tree.entries)
  have hrequirement := requirementRule_decides (v := v) key (Value.entryAt? key r.tree.entries)
  have hpolicy := policyRule_decides hvisit hv (r := r) hk key
  have hown := ownSchema_decides hvisit hv key
  have hall := hadmission.and fun _ => hrequirement.and fun _ => hpolicy.and fun _ => hown
  exact hall.congr ⟨fun ⟨ha, hr, hp, ho⟩ => ⟨ha, hr, hp, ho⟩, fun h => ⟨h.1, h.2, h.3, h.4⟩⟩

/-- The rules on objects decide whether it is one, whether its declared properties conform, and
    whether each entry fits. -/
theorem object_decides {r k : Node} (hr : r.tree.refFree = true) (hk : k.tree.refFree = true) :
    Decides v (v.isMap = true ∧
      (∀ e ∈ r.tree.entries, isReserved e.1 = false → (v.member (.entry e.1)).Conforms e.2) ∧
      ∀ key ∈ v.keys, EntryFits v r.tree k.tree key) (object visit r k) := by
  refine .content ?_
  cases hes : r.tree with
  | map es =>
    have hmap : Decides v (v.isMap = true) objectOnly := by
      refine .value ?_
      exact (Decides.unless fun _ => .failKeyless fun _ h => h).congr (by simp)
    have hdeclared : Decides v
        (∀ e ∈ es, isReserved e.1 = false → (v.member (.entry e.1)).Conforms e.2)
        (declaredProperties visit r es.length es) := by
      refine declaredProperties_decides hvisit hv (by rw [hes]; rfl) fun e he => ?_
      exact Value.everyMapping_part hr (by rw [hes]; exact List.mem_map_of_mem he)
    have hentries : Decides v (∀ key ∈ v.keys, EntryFits v r.tree k.tree key)
        (Check.value >>= fun w => each (entry visit r k) w.keys) :=
      .value <| Decides.each fun key _ => entry_decides hvisit hv hk key
    rw [hes] at hentries
    exact hmap.and fun _ => hdeclared.and fun _ => hentries
  | _ => exact Decides.failKeyless fun h => by cases h

/-- Without declarations the policy decides on all entries. -/
theorem additionalOnly_decides {k : Node} (hk : k.tree.refFree = true) :
    Decides v ((k.tree = .bool false → v.keys = []) ∧
      ∀ key ∈ v.keys, (v.member (.entry key)).Conforms k.tree) (additionalOnly visit k) := by
  refine .value ?_
  cases hm : v.isMap with
  | false =>
    have hkeys : v.keys = [] := by
      cases v with
      | map _ => cases hm
      | _ => rfl
    simp only [Bool.not_false, Bool.or_true, if_true, hkeys]
    exact Decides.yes (by simp)
  | true =>
    cases ha : allows k.tree with
    | true =>
      refine Decides.yes ⟨fun h => ?_, fun _ _ => conforms_of_allows ha⟩
      simp [h, allows] at ha
    | false =>
      refine .scope fun s _ => ?_
      -- each entry is refused, or it is checked against the policy
      have heach : Decides v (∀ key ∈ v.keys, k.tree ≠ .bool false ∧
          (v.member (.entry key)).Conforms k.tree)
          (each (additionalEntry visit k s.key) v.keys) := by
        refine .each fun key _ => ?_
        unfold additionalEntry
        cases hf : forbids k.tree with
        | true => exact .failAt fun _ h => h.1 ((forbids_iff _).mp hf)
        | false =>
          have hne : k.tree ≠ .bool false := fun h => by simp [h, forbids] at hf
          exact (member_decides hvisit hv hk (.entry key)).congr ⟨fun h => ⟨hne, h⟩, fun h => h.2⟩
      refine heach.congr ⟨fun h => ⟨fun hp => ?_, fun key hkey => (h key hkey).2⟩, fun h key hkey =>
        ⟨fun hp => ?_, h.2 key hkey⟩⟩
      · exact List.eq_nil_iff_forall_not_mem.mpr fun key hkey => (h key hkey).1 hp
      · rw [h.1 hp] at hkey
        cases hkey

/-! ## All members -/

/-- What is asked about the members of a value. -/
def MembersConform (S v : Value) : Prop :=
  S.MemberRules v ∧ ∀ step sub, S.Demand v step sub → (v.member step).Conforms sub

/-- For arrays that is all that is asked about members. -/
theorem arrayMembers_decides {xs : List Value} (hx : v.elements? = some xs)
    (hn : n.tree.refFree = true) : Decides v (MembersConform n.tree v) (items visit n) := by
  refine (items_decides hvisit hv hx hn).congr ⟨fun ⟨hitems, hcount⟩ => ⟨⟨?_, ?_, ?_, ?_⟩, ?_⟩,
    fun ⟨hrules, hdemands⟩ => ⟨fun r hr => ?_, hrules.count xs hx⟩⟩
  · intro ys hy
    cases hx.symm.trans hy
    exact hcount
  · intro ys schemas hy hs hp
    cases hx.symm.trans hy
    exact ((hitems _ hs).2 _ hp).1 rfl
  · intro _ hnone
    cases hx.symm.trans hnone
  · intro hnone
    cases hx.symm.trans hnone
  -- what is demanded of the members of an array stands for an element
  · intro step sub hd
    cases hd with
    | position _ hs hi => exact (hitems _ hs).1 _ _ hi
    | policyItem hy hs hp hi =>
      cases hx.symm.trans hy
      exact ((hitems _ hs).2 _ hp).2 _ hi
    | item hy hs hl hi =>
      cases hx.symm.trans hy
      have hsub := hitems _ hs
      cases sub with
      | list schemas => exact absurd rfl (hl schemas)
      | _ => exact hsub _ hi
    | property hnone => cases hx.symm.trans hnone
    | additional hnone => cases hx.symm.trans hnone
    | own hnone => cases hx.symm.trans hnone
    | entry hnone => cases hx.symm.trans hnone
  · cases r with
    | list schemas =>
      refine ⟨fun i sub hi => hdemands _ _ (.position hx hr hi), fun policy hp => ⟨?_, ?_⟩⟩
      · rintro rfl
        exact hrules.no_extra_items xs schemas hx hr hp
      · exact fun i hi => hdemands _ _ (.policyItem hx hr hp hi)
    | _ => exact fun i hi => hdemands _ _ (.item hx hr (by simp) hi)

/-- For objects with declarations it is what the rules on objects decide. -/
theorem declaredMembers_decides {declared : Value} (hx : v.elements? = none)
    (hr : n.tree.rule? "properties" = some declared) (hn : n.tree.refFree = true) :
    Decides v (MembersConform n.tree v)
      (object visit (n.down (.name "properties") declared) (policyNode n)) := by
  have hpolicy {policy : Value} (hp : n.tree.get? "additionalProperties" = some policy) :
      (policyNode n).tree = policy := by simp [policyNode, Node.down, hp]
  have hobject := object_decides hvisit hv (r := n.down (.name "properties") declared)
    (Value.everyMapping_part hn (Value.mem_parts_of_rule? hr)) (policyNode_refFree hn)
  refine hobject.congr ⟨fun ⟨hmap, hdeclared, hentries⟩ => ⟨⟨?_, ?_, ?_, ?_⟩, ?_⟩,
    fun ⟨hrules, hdemands⟩ => ?_⟩
  · intro ys hy
    cases hx.symm.trans hy
  · intro ys _ hy
    cases hx.symm.trans hy
  · intro d _ hd
    cases hr.symm.trans hd
    exact ⟨hmap, fun hp key hkey => (hentries key hkey).admitted (hpolicy hp),
      fun key hkey => (hentries key hkey).required⟩
  · intro _ hnone
    cases hr.symm.trans hnone
  -- what is demanded of an entry is demanded by a declaration, the policy or the entry itself
  · intro step sub hd
    cases hd with
    | position hy => cases hx.symm.trans hy
    | policyItem hy => cases hx.symm.trans hy
    | item hy => cases hx.symm.trans hy
    | property _ hd hmem hk =>
      cases hr.symm.trans hd
      exact hdeclared _ hmem hk
    | additional _ hd hp hkey hnot =>
      cases hr.symm.trans hd
      have hadditional := (hentries _ hkey).additional hnot
      rwa [hpolicy hp] at hadditional
    | own _ hd hkey ho => exact (hentries _ hkey).own _ ho
    | entry _ hnone => cases hr.symm.trans hnone
  · obtain ⟨hmap, hadmitted, hrequired⟩ := hrules.declarations declared hx hr
    refine ⟨hmap, fun e he hk => hdemands _ _ (.property hx hr he hk), fun key hkey =>
      ⟨fun hp => ?_, hrequired key hkey, fun hnot => ?_, fun own ho => ?_⟩⟩
    · refine hadmitted ?_ key hkey
      cases hg : n.tree.get? "additionalProperties" with
      | none => simp [policyNode, Node.down, hg] at hp
      | some policy =>
        rw [hpolicy hg] at hp
        rw [hp]
    · cases hg : n.tree.get? "additionalProperties" with
      | none => exact conforms_of_not_map (by simp [policyNode, Node.down, hg, Value.isMap])
      | some policy =>
        rw [hpolicy hg]
        exact hdemands _ _ (.additional hx hr hg hkey hnot)
    · exact hdemands _ _ (.own hx hr hkey ho)

omit hvisit hv in
/-- A value with no elements, a schema with no declarations: the policy is all that matters. -/
theorem membersConform_iff (hx : v.elements? = none) {S : Value}
    (hr : S.rule? "properties" = none) :
    MembersConform S v ↔ ∀ policy, S.get? "additionalProperties" = some policy →
      (policy = .bool false → v.keys = []) ∧
        ∀ key ∈ v.keys, (v.member (.entry key)).Conforms policy := by
  constructor
  · rintro ⟨hrules, hdemands⟩ policy hp
    refine ⟨?_, fun key hkey => hdemands _ _ (.entry hx hr hp hkey)⟩
    rintro rfl
    exact hrules.no_entries hx hr hp
  · intro h
    refine ⟨⟨?_, ?_, ?_, fun _ _ hp => (h _ hp).1 rfl⟩, fun step sub hd => ?_⟩
    · intro ys hy
      cases hx.symm.trans hy
    · intro ys _ hy
      cases hx.symm.trans hy
    · intro d _ hd
      cases hr.symm.trans hd
    · cases hd with
      | position hy => cases hx.symm.trans hy
      | policyItem hy => cases hx.symm.trans hy
      | item hy => cases hx.symm.trans hy
      | property _ hd => cases hr.symm.trans hd
      | additional _ hd => cases hr.symm.trans hd
      | own _ hd => cases hr.symm.trans hd
      | entry _ _ hp hkey => exact (h _ hp).2 _ hkey

/-- The rules that lead to members decide whether these are as the schema asks. -/
theorem memberRules_decides (hn : n.tree.refFree = true) :
    Decides v (MembersConform n.tree v) (memberRules visit n v) := by
  unfold memberRules
  cases hx : v.elements? with
  | some xs => exact arrayMembers_decides hvisit hv hx hn
  | none =>
    unfold given?
    rw [bind_assoc]
    refine .field? ?_
    cases hr : n.tree.rule? "properties" with
    | some declared =>
      obtain ⟨hget, hgiven⟩ := Option.filter_eq_some_iff.mp hr
      rw [hget]
      simp only [hgiven, if_true]
      exact Decides.policy (declaredMembers_decides hvisit hv hx hr hn)
    | none =>
      have hsecond : Decides v (MembersConform n.tree v) (do
          if ((← content n).hasKey (.name "additionalProperties")) then
            additionalOnly visit (← additionalPolicy n)) := by
        rw [membersConform_iff hx hr]
        refine .content ?_
        rw [Value.hasKey_name]
        cases hp : n.tree.get? "additionalProperties" with
        | none => exact Decides.yes (by simp)
        | some policy =>
          have htree : (policyNode n).tree = policy := by simp [policyNode, Node.down, hp]
          have hadditional := additionalOnly_decides hvisit hv (policyNode_refFree hn)
          rw [htree] at hadditional
          exact Decides.policy (hadditional.congr (by simp))
      -- declarations that do not count as given are as good as none
      cases hget : n.tree.get? "properties" with
      | none => exact hsecond
      | some declared =>
        have hgiven : declared.isGiven = false := by
          simpa [Value.rule?, hget, Option.filter_eq_none_iff] using hr
        simp only [hgiven]
        exact hsecond

end Members

end Check

end Conformance

/-
  Members visited in turn.

  A check of a container visits members one after another and puts each slot back (`InTurn`).  A
  slot that has been put back is found again, as the value that is there now (`slotBelow_settle`),
  and the slots at other steps stay as they were (`slotBelow_settle_of_separate`).  So if no member
  is visited twice, each is found at the end as its own visit has left it.  If what every visit
  leaves would be accepted as it is (`LeavesAccepted`), then so are all members at the end
  (`InTurn.acceptsAsIs`).
-/
import Conformance.Proofs.Frame
import Conformance.Proofs.Moves
import Conformance.Proofs.Accepting

namespace Conformance

/-! ## Slots that are put back -/

/-- The slot in which a value is found once it has been put there. -/
def Slot.again : Slot → Slot
  | .present v => .ofValue v
  | .filled v => .ofValue v
  | σ => σ

/-- A slot as a look into a container finds it. -/
def Slot.Found : Slot → Prop
  | .present v => v ≠ .missing
  | .held => True
  | .free => True
  | .closed _ => True
  | .outOfReach _ _ => True
  | .filled _ => False
  | .fromEnd _ => False
  | .unaskable _ => False

/-- A slot that stands for a value may be found in a container. -/
theorem Slot.found_ofValue (v : Value) : (Slot.ofValue v).Found := by
  cases v <;> simp [ofValue, Found]

/-- The slot of a value that is there holds the value. -/
theorem Slot.ofValue_of_ne {v : Value} (h : v ≠ .missing) : Slot.ofValue v = .present v := by
  cases v with
  | missing => exact absurd rfl h
  | _ => rfl

/-- A slot that has been found is found again as it is. -/
theorem Slot.again_of_found {σ : Slot} (h : σ.Found) : σ.again = σ := by
  cases σ with
  | present v => exact ofValue_of_ne h
  | filled v => cases h
  | _ => rfl

/-- Steps that lead to different members. -/
def Step.Separate : Step → Step → Prop
  | .entry k, .entry l => k.same l = false
  | .index i, .index j => i ≠ j
  | _, _ => True

/-- Whether two members are different does not depend on their order. -/
theorem Step.Separate.symm {a b : Step} (h : a.Separate b) : b.Separate a := by
  cases a with
  | entry k =>
    cases b with
    | entry l =>
      refine Bool.eq_false_iff.mpr fun hlk => ?_
      have hkl : k.same l = false := h
      -- keys that are the same in one order are so in the other
      rw [Key.same_symm hlk] at hkl
      cases hkl
    | index j => trivial
  | index i =>
    cases b with
    | entry l => trivial
    | index j => exact Ne.symm h

namespace Value

/-- What a look into a container comes to is a slot that is found. -/
theorem found_slotBelow (c : Value) (step : Step) : (c.slotBelow step).Found := by
  unfold slotBelow
  split
  · exact Slot.found_ofValue _
  · rcases c.gap_eq step with h | h <;> rw [h] <;> trivial

/-- A step along which a value can be put into a container and found again: a key that is the same
    as itself, or an index at which there is an element. -/
def Findable (c : Value) : Step → Prop
  | .entry k => k.same k = true
  | .index i => ∃ v, c.slotBelow (.index i) = .ofValue v

/-- Where there is a member, the slot holds it. -/
theorem slotBelow_of_child? {c v : Value} {step : Step} (h : c.child? step = some v) :
    c.slotBelow step = .ofValue v := by
  unfold slotBelow
  rw [h]

/-- In a mapping the slot at a key holds an entry or is free. -/
theorem slotBelow_map (es : List (Key × Value)) (k : Key) : (map es).slotBelow (.entry k) =
    match entryAt? k es with
    | some v => .ofValue v
    | none => .free := rfl

/-- The slot of a value is not free. -/
theorem ofValue_ne_free (v : Value) : Slot.ofValue v ≠ .free := by
  cases v <;> exact nofun

/-- A value is only taken in under a key of a mapping, if it can be found again. -/
theorem eq_map_of_free {c : Value} {step : Step} (hfree : c.slotBelow step = .free)
    (hfind : c.Findable step) :
    ∃ es k, c = .map es ∧ step = .entry k ∧ entryAt? k es = none ∧ k.same k = true := by
  cases step with
  | index i =>
    obtain ⟨v, hv⟩ := hfind
    exact absurd (hv.symm.trans hfree) (ofValue_ne_free v)
  | entry k =>
    unfold slotBelow at hfree
    split at hfree
    · next w _ => exact absurd hfree (ofValue_ne_free w)
    · next hchild =>
      -- only a mapping has a free slot at a key
      unfold gap at hfree
      split at hfree
      · next es k' hstep =>
        obtain rfl : k = k' := by simpa using hstep
        exact ⟨es, k, rfl, rfl, hchild, hfind⟩
      · next hstep => cases hstep
      · cases hfree

/-- A slot that has been put back is found again. -/
theorem slotBelow_settle {c : Value} {step : Step} {σ : Slot} (h : Slot.Below c step σ)
    (hfind : c.Findable step) : (c.settle step σ).slotBelow step = σ.again := by
  cases h with
  | found => rw [settle_slotBelow, Slot.again_of_found (found_slotBelow c step)]
  -- by what the member has come to: left as it was, grown, or filled in
  | grown hchild y => exact slotBelow_of_child? (child?_replace hchild y)
  | filled hfree v =>
    obtain ⟨es, k, rfl, rfl, hnone, hself⟩ := eq_map_of_free hfree hfind
    refine slotBelow_of_child? ?_
    show entryAt? k (es ++ [(k, v)]) = some v
    rw [entryAt?_append, hnone, if_pos hself]
    rfl

/-- Replacing a member leaves the other ones. -/
theorem child?_replace_of_separate {step other : Step} (h : step.Separate other) (c y : Value) :
    (c.replace step y).child? other = c.child? other := by
  unfold replace
  split
  · next es k =>
    cases other with
    | entry l => exact entryAt?_setEntry_of_ne h y es
    | index j => rfl
  · cases other with
    | entry l => rfl
    | index j => exact List.getElem?_set_ne h
  · cases other with
    | entry l => rfl
    | index j => exact List.getElem?_set_ne h
  · rfl

/-- What an absent member counts as is no matter of the members that are there. -/
theorem gap_replace (step other : Step) (c y : Value) :
    (c.replace step y).gap other = c.gap other := by
  unfold replace
  split
  · cases other <;> rfl
  · next items i => cases other <;> simp [gap, className, class?]
  · cases other <;> rfl
  · rfl

/-- Putting a slot back leaves the slots at other steps as they were. -/
theorem slotBelow_settle_of_separate {c : Value} {step other : Step} {σ : Slot}
    (h : Slot.Below c step σ) (hfind : c.Findable step) (hsep : step.Separate other) :
    (c.settle step σ).slotBelow other = c.slotBelow other := by
  cases h with
  | found => rw [settle_slotBelow]
  | grown hchild y =>
    show (c.replace step y).slotBelow other = _
    unfold slotBelow
    -- what is replaced is another member
    rw [child?_replace_of_separate hsep, gap_replace]
  | filled hfree v =>
    obtain ⟨es, k, rfl, rfl, _, _⟩ := eq_map_of_free hfree hfind
    cases other with
    | index j => rfl
    | entry l =>
      -- what is added is an entry under another key
      have hsame : entryAt? l (es ++ [(k, v)]) = entryAt? l es := by
        rw [entryAt?_append, show k.same l = false from hsep]
        exact Option.or_none
      show (Value.map (es ++ [(k, v)])).slotBelow (.entry l) = _
      rw [slotBelow_map, slotBelow_map, hsame]

/-- Where another member is found it still is, after one has been put back. -/
theorem findable_settle_of_separate {c : Value} {step other : Step} {σ : Slot}
    (h : Slot.Below c step σ) (hfind : c.Findable step) (hother : c.Findable other)
    (hsep : step.Separate other) : (c.settle step σ).Findable other := by
  cases other with
  | entry l => exact hother
  | index j =>
    obtain ⟨v, hv⟩ := hother
    exact ⟨v, by rw [slotBelow_settle_of_separate h hfind hsep, hv]⟩

/-! ## Keys and shapes -/

/-- Whether the keys of entries are told apart, and each of them is found again.  A mapping holds
    each key once; a float that is no number is the same key as none, not even as itself. -/
def distinctKeys : List (Key × Value) → Bool
  | [] => true
  | (k, _) :: rest => k.same k && (entryAt? k rest).isNone && distinctKeys rest

/-- Whether all mappings of a value are such.  Those of decoded documents are, their keys being
    names. -/
def wellKeyed : Value → Bool := everyMapping distinctKeys

/-- Nothing stands under a key exactly if no key of the entries is the same. -/
theorem entryAt?_eq_none_iff {k : Key} {es : List (Key × Value)} :
    entryAt? k es = none ↔ ∀ l ∈ es.map (·.1), l.same k = false := by
  simp [entryAt?, entryWith?]

/-- Keys are told apart if each is the same as itself and no two are the same. -/
theorem distinctKeys_iff {es : List (Key × Value)} : distinctKeys es = true ↔
    (∀ k ∈ es.map (·.1), k.same k = true) ∧
      (es.map (·.1)).Pairwise fun k l => k.same l = false := by
  induction es with
  | nil => simp [distinctKeys]
  | cons e rest ih =>
    obtain ⟨k, v⟩ := e
    have hswap : (∀ l ∈ rest.map (·.1), l.same k = false) ↔
        ∀ l ∈ rest.map (·.1), k.same l = false := by
      constructor <;> intro h l hl <;> refine Bool.eq_false_iff.mpr fun hkl => ?_ <;>
        exact absurd (Key.same_symm hkl) (by simp [h l hl])
    simp only [distinctKeys, Bool.and_eq_true, ih, Option.isNone_iff_eq_none, entryAt?_eq_none_iff,
      hswap, List.map_cons, List.forall_mem_cons, List.pairwise_cons]
    exact ⟨fun ⟨⟨a, b⟩, c, d⟩ => ⟨⟨a, c⟩, b, d⟩, fun ⟨⟨a, c⟩, b, d⟩ => ⟨⟨a, b⟩, c, d⟩⟩

/-- A new key may be added at the end. -/
theorem distinctKeys_append {es : List (Key × Value)} (h : distinctKeys es = true) {k : Key}
    (hself : k.same k = true) (hnew : entryAt? k es = none) (v : Value) :
    distinctKeys (es ++ [(k, v)]) = true := by
  rw [distinctKeys_iff] at h ⊢
  rw [entryAt?_eq_none_iff] at hnew
  simp only [List.map_append, List.map_cons, List.map_nil, List.forall_mem_append,
    List.pairwise_append, List.forall_mem_singleton, List.pairwise_singleton, true_and]
  exact ⟨⟨h.1, hself⟩, h.2, hnew⟩

/-- A key that is found again is found where it stands. -/
theorem exists_entryAt? {k : Key} {es : List (Key × Value)} (hself : k.same k = true)
    (h : k ∈ es.map (·.1)) : ∃ v, entryAt? k es = some v := by
  cases hfound : entryAt? k es with
  | some v => exact ⟨v, rfl⟩
  | none =>
    rw [entryAt?_eq_none_iff] at hfound
    rw [hfound k h] at hself
    cases hself

/-- Containers of the same class with the same keys and as many elements. -/
structure SameShape (c d : Value) : Prop where
  class_eq : d.class? = c.class?
  keys : d.keys = c.keys
  length : (d.elements?.getD []).length = (c.elements?.getD []).length

theorem SameShape.refl (c : Value) : SameShape c c := ⟨rfl, rfl, rfl⟩

theorem SameShape.trans {b c d : Value} (h : SameShape b c) (h' : SameShape c d) :
    SameShape b d :=
  ⟨h'.class_eq.trans h.class_eq, h'.keys.trans h.keys, h'.length.trans h.length⟩

/-- Of two values of the same class, one is a mapping if the other is. -/
theorem isMap_of_class? {c d : Value} (h : d.class? = c.class?) : d.isMap = c.isMap := by
  cases c <;> cases d <;> first | rfl | cases h

/-- Replacing a member leaves keys, length and class. -/
theorem sameShape_replace (c : Value) (step : Step) (y : Value) :
    SameShape c (c.replace step y) := by
  unfold replace
  split
  · exact ⟨rfl, setEntry_keys _ _ _, rfl⟩
  · exact ⟨rfl, rfl, List.length_set⟩
  · exact ⟨rfl, rfl, List.length_set⟩
  · exact .refl _

section Settle

variable {c : Value} {step : Step} {σ : Slot} (h : Slot.Below c step σ)

include h

/-- Putting a slot back leaves the class of the container. -/
theorem class?_settle : (c.settle step σ).class? = c.class? := by
  cases h with
  | found => rw [settle_slotBelow]
  | grown _ y => exact (sameShape_replace c step y).class_eq
  | filled hfree v =>
    show (c.adopt step v).class? = _
    unfold adopt
    split <;> rfl

/-- A member that is there can be changed, but the container keeps its shape. -/
theorem sameShape_settle (hfound : c.slotBelow step ≠ .free) : SameShape c (c.settle step σ) := by
  cases h with
  | found =>
    rw [settle_slotBelow]
    exact .refl c
  | grown _ y => exact sameShape_replace c step y
  | filled hfree _ => exact absurd hfree hfound

/-- A mapping that holds each key once does so after a slot has been put back. -/
theorem distinctKeys_settle (hfind : c.Findable step) (hc : c.atTop distinctKeys = true) :
    (c.settle step σ).atTop distinctKeys = true := by
  cases h with
  | found => rwa [settle_slotBelow]
  | grown _ y =>
    show (c.replace step y).atTop distinctKeys = true
    unfold replace
    split
    · show distinctKeys _ = true
      -- replacing the value of an entry leaves the keys
      rw [distinctKeys_iff, setEntry_keys]
      exact distinctKeys_iff.mp hc
    · rfl
    · rfl
    · exact hc
  | filled hfree v =>
    obtain ⟨es, k, rfl, rfl, hnone, hself⟩ := eq_map_of_free hfree hfind
    exact distinctKeys_append hc hself hnone v

end Settle

end Value

namespace Check

/-! ## Visits in turn -/

/-- Where one check has accepted a slot of a well-formed value, another one accepts the slot that is
    left behind as it is. -/
def LeavesAccepted (c d : Check Unit) : Prop :=
  ∀ σ τ, σ.Found → σ.value.wellKeyed = true → AcceptsAs c σ τ → AcceptsAsIs d τ.again

/-- Members of a container are visited in turn, each against a schema, and their slots are put
    back. -/
inductive InTurn (visit : Node → Check Unit) : List (Step × Node) → Value → Value → Prop
  | done (a : Value) : InTurn visit [] a a
  | next {step : Step} {k : Node} {rest : List (Step × Node)} {a b : Value} {τ : Slot}
    (here : AcceptsAs (visit k) (a.slotBelow step) τ) (below : Slot.Below a step τ)
    (after : InTurn visit rest (a.settle step τ) b) : InTurn visit ((step, k) :: rest) a b

/-- Members that can be visited in turn: each is found again afterwards, and none is visited twice.
    -/
structure Visitable (todo : List (Step × Node)) (a : Value) : Prop where
  findable : ∀ x ∈ todo, a.Findable x.1
  apart : todo.Pairwise fun x y => x.1.Separate y.1

variable {visit visit' : Node → Check Unit} {todo more : List (Step × Node)} {a b c : Value}

/-- After the first visit, the other members can still be visited in turn. -/
theorem Visitable.next {x : Step × Node} {τ : Slot} (h : Visitable (x :: todo) a)
    (below : Slot.Below a x.1 τ) : Visitable todo (a.settle x.1 τ) where
  findable y hy := Value.findable_settle_of_separate below (h.findable x (List.mem_cons_self ..))
    (h.findable y (List.mem_cons_of_mem _ hy)) (List.rel_of_pairwise_cons h.apart hy)
  apart := h.apart.of_cons

namespace InTurn

/-- Two rounds of visits make one. -/
theorem append (h : InTurn visit todo a b) (h' : InTurn visit more b c) :
    InTurn visit (todo ++ more) a c := by
  induction h with
  | done => exact h'
  | next here below _ ih => exact .next here below (ih h')

/-- Visits leave the class of the container. -/
theorem class? (h : InTurn visit todo a b) : b.class? = a.class? := by
  induction h with
  | done => rfl
  | next _ below _ ih => exact ih.trans (Value.class?_settle below)

/-- Members at other steps stay as they were. -/
theorem slotBelow_of_separate (h : InTurn visit todo a b) (hw : Visitable todo a) {step : Step}
    (hsep : ∀ x ∈ todo, x.1.Separate step) : b.slotBelow step = a.slotBelow step := by
  induction h with
  | done => rfl
  | next _ below _ ih =>
    have hrest := ih (hw.next below) fun x hx => hsep x (List.mem_cons_of_mem _ hx)
    rw [hrest]
    exact Value.slotBelow_settle_of_separate below (hw.findable _ (List.mem_cons_self ..))
      (hsep _ (List.mem_cons_self ..))

/-- Keys that are told apart stay so. -/
theorem distinctKeys (h : InTurn visit todo a b) (hw : Visitable todo a)
    (ha : a.atTop Value.distinctKeys = true) : b.atTop Value.distinctKeys = true := by
  induction h with
  | done => exact ha
  | next _ below _ ih =>
    exact ih (hw.next below)
      (Value.distinctKeys_settle below (hw.findable _ (List.mem_cons_self ..)) ha)

/-- Visits to members that are there leave the container its shape. -/
theorem sameShape (h : InTurn visit todo a b) (hw : Visitable todo a)
    (hfound : ∀ x ∈ todo, a.slotBelow x.1 ≠ .free) : Value.SameShape a b := by
  induction h with
  | done a => exact .refl a
  | next _ below _ ih =>
    have hfirst := Value.sameShape_settle below (hfound _ (List.mem_cons_self ..))
    refine hfirst.trans (ih (hw.next below) fun x hx => ?_)
    -- the other members are still there after the first visit
    rw [Value.slotBelow_settle_of_separate below (hw.findable _ (List.mem_cons_self ..))
      (List.rel_of_pairwise_cons hw.apart hx)]
    exact hfound x (List.mem_cons_of_mem _ hx)

/-- Each member is accepted as it is at the end, as its own visit has left it. -/
theorem acceptsAsIs (h : InTurn visit todo a b) (hw : Visitable todo a)
    (hkeyed : ∀ x ∈ todo, (a.slotBelow x.1).value.wellKeyed = true)
    (hleaves : ∀ x ∈ todo, LeavesAccepted (visit x.2) (visit' x.2)) :
    ∀ x ∈ todo, AcceptsAsIs (visit' x.2) (b.slotBelow x.1) := by
  induction h with
  | done => exact nofun
  | @next step k rest a b τ here below after ih =>
    have hfind := hw.findable _ (List.mem_cons_self ..)
    -- the first member is accepted as its visit has left it
    have hfirst : AcceptsAsIs (visit' k) τ.again :=
      hleaves _ (List.mem_cons_self ..) _ τ (a.found_slotBelow step)
        (hkeyed _ (List.mem_cons_self ..)) here
    intro x hx
    rcases List.mem_cons.mp hx with rfl | hx
    · -- later visits are to other members
      rw [after.slotBelow_of_separate (hw.next below) fun y hy =>
        (List.rel_of_pairwise_cons hw.apart hy).symm, Value.slotBelow_settle below hfind]
      exact hfirst
    · refine ih (hw.next below) (fun y hy => ?_)
        (fun y hy => hleaves y (List.mem_cons_of_mem _ hy)) x hx
      rw [Value.slotBelow_settle_of_separate below hfind (List.rel_of_pairwise_cons hw.apart hy)]
      exact hkeyed y (List.mem_cons_of_mem _ hy)

end InTurn

end Check

end Conformance

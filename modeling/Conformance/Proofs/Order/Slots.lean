/-
  Slots that are put back into containers, in whatever order.

  Slots are the same up to the order of keys if they are of one kind and what is in them is
  (`Slot.Reordered`).  Looking into containers that are the same finds such slots, and putting such
  slots back makes such containers (`settle_of_reordered`).

  Where no member is visited twice, it does not matter in which order the slots of members are put
  back: two at a time commute up to the order of keys (`settle_comm`), and so do all of them
  (`settleAll_perm`).
-/
import Conformance.Proofs.Order.Values

namespace Conformance

/-! ## Slots -/

/-- Slots of one kind, with the same in them up to the order of keys. -/
inductive Slot.Reordered : Slot → Slot → Prop
  | present {v w : Value} (h : v.reordered w) : Reordered (.present v) (.present w)
  | filled {v w : Value} (h : v.reordered w) : Reordered (.filled v) (.filled w)
  | held : Reordered .held .held
  | free : Reordered .free .free
  | closed (className : String) : Reordered (.closed className) (.closed className)

namespace Slot

/-- The same slots hold the same values. -/
theorem Reordered.value {σ τ : Slot} (h : σ.Reordered τ) : σ.value.reordered τ.value := by
  cases h with
  | present h => exact h
  | _ => rfl

/-- What some slot is the same as is the same as itself. -/
theorem Reordered.self {σ τ : Slot} (h : σ.Reordered τ) : τ.Reordered τ := by
  cases h with
  | present h => exact .present (Value.reordered_self (Value.reordered_symm h))
  | filled h => exact .filled (Value.reordered_self (Value.reordered_symm h))
  | held => exact .held
  | free => exact .free
  | closed className => exact .closed className

/-- The same values are in the same slots. -/
theorem reordered_ofValue {v w : Value} (h : v.reordered w) :
    (ofValue v).Reordered (ofValue w) := by
  cases Value.reorder_of_reordered h with
  | same =>
    cases v with
    | missing => exact .held
    | _ => exact .present h
  | _ => exact .present h

/-- The slot of a value is the same as slots of values only. -/
theorem Reordered.of_ofValue {x : Value} {σ : Slot} (h : (ofValue x).Reordered σ) :
    ∃ y, σ = ofValue y := by
  cases x with
  | missing =>
    cases h
    exact ⟨.missing, rfl⟩
  | _ =>
    cases h with
    | @present _ w h =>
      refine ⟨w, (ofValue_of_ne fun hw => ?_).symm⟩
      rw [hw] at h
      cases Value.eq_missing_of_reordered h

/-- What can become of a slot that has been found below a container. -/
inductive Becomes : Slot → Slot → Prop
  | stays (σ : Slot) : Becomes σ σ
  | grows (x y : Value) : Becomes (.ofValue x) (.present y)
  | fills (v : Value) : Becomes .free (.filled v)

/-- What a member's slot can have come to is told by the slot that was found. -/
theorem below_iff {c : Value} {step : Step} {σ : Slot} :
    Below c step σ ↔ Becomes (c.slotBelow step) σ := by
  constructor
  · intro h
    cases h with
    | found => exact .stays _
    | grown hchild y =>
      rw [Value.slotBelow_of_child? hchild]
      exact .grows _ y
    | filled hfree v =>
      rw [hfree]
      exact .fills v
  · intro h
    generalize hfound : c.slotBelow step = τ at h
    cases h with
    | stays =>
      rw [← hfound]
      exact .found
    | fills v => exact .filled hfound v
    | grows x y =>
      -- the slot is that of a value; with nothing there it would be a gap, which holds none
      unfold Value.slotBelow at hfound
      cases hchild : c.child? step with
      | some w => exact .grown hchild y
      | none =>
        rw [hchild] at hfound
        rcases c.gap_eq step with hgap | hgap <;> rw [hgap] at hfound <;> cases x <;> cases hfound

/-- The same can become of slots that are the same. -/
theorem Becomes.of_reordered {σ σ' τ τ' : Slot} (h : σ.Becomes τ) (hfound : σ.Found)
    (hσ : σ.Reordered σ') (hτ : τ.Reordered τ') : σ'.Becomes τ' := by
  have hgrows {x y : Value} (hx : (ofValue x).Reordered σ') (hy : (Slot.present y).Reordered τ') :
      σ'.Becomes τ' := by
    obtain ⟨x', rfl⟩ := hx.of_ofValue
    cases hy with
    | present => exact .grows x' _
  cases h with
  | grows x y => exact hgrows hσ hτ
  | fills v =>
    cases hσ
    cases hτ with
    | filled => exact .fills _
  | stays =>
    -- a slot that has stayed may hold a value that is the same only up to order, so it counts as
    -- grown
    cases σ with
    | present v =>
      rw [← ofValue_of_ne hfound] at hσ
      exact hgrows hσ hτ
    | held =>
      cases hσ
      cases hτ
      exact .stays _
    | free =>
      cases hσ
      cases hτ
      exact .stays _
    | closed className =>
      cases hσ
      cases hτ
      exact .stays _
    | _ => cases hσ <;> cases hfound

/-- Only a free slot can have been filled. -/
theorem Becomes.filled_of_free {σ : Slot} {v : Value} (h : σ.Becomes (.filled v))
    (hfound : σ.Found) : σ = .free := by
  generalize hτ : Slot.filled v = τ at h
  cases h with
  | stays =>
    subst hτ
    cases hfound
  | grows => cases hτ
  | fills => rfl

end Slot

namespace Value

/-- What is found one step down is the same up to the order of keys. -/
theorem slotBelow_of_reordered {a b : Value} (h : a.reordered b) (step : Step) :
    (a.slotBelow step).Reordered (b.slotBelow step) := by
  -- whether there is room one step down depends on the kind of container only
  have hgap : b.gap step = a.gap step := by
    cases reorder_of_reordered h <;> cases step <;> rfl
  have hchild := child?_of_reordered h step
  unfold slotBelow
  rw [hgap]
  revert hchild
  generalize a.child? step = x
  generalize b.child? step = y
  intro hchild
  cases hchild with
  | some h => exact Slot.reordered_ofValue h
  | none =>
    rcases a.gap_eq step with hgap | hgap
    · rw [hgap]
      exact .free
    · rw [hgap]
      exact .closed _

/-! ## Putting slots back -/

/-- Where keys are told apart, an entry is exchanged wherever its key stands. -/
theorem setEntry_eq_map {es : List (Key × Value)} (h : distinctKeys es = true) (key : Key)
    (v : Value) :
    setEntry key v es = es.map fun e => if e.1.same key then (e.1, v) else e := by
  induction es with
  | nil => rfl
  | cons e rest ih =>
    obtain ⟨k, w⟩ := e
    simp only [distinctKeys, Bool.and_eq_true, Option.isNone_iff_eq_none, entryAt?_eq_none_iff] at h
    rw [setEntry, List.map_cons]
    split
    · next hk =>
      -- no later entry has the same key
      have hrest : rest.map (fun e => if e.1.same key then (e.1, v) else e) = rest := by
        refine (List.map_congr_left fun e he => ?_).trans (List.map_id _)
        rw [if_neg]
        · rfl
        · intro hsame
          have hno := h.1.2 e.1 (List.mem_map_of_mem he)
          rw [Key.same_trans hsame (Key.same_symm hk)] at hno
          cases hno
      rw [hrest]
    · rw [ih h.2]

/-- Elements that correspond are exchanged for elements that do. -/
theorem forall₂_set {α β : Type} {R : α → β → Prop} {as : List α} {bs : List β} {a : α} {b : β}
    (h : List.Forall₂ R as bs) (hab : R a b) (i : Nat) :
    List.Forall₂ R (as.set i a) (bs.set i b) := by
  induction h generalizing i with
  | nil => exact .nil
  | cons hfirst hrest ih =>
    cases i with
    | zero => exact .cons hab hrest
    | succ i => exact .cons hfirst (ih i)

/-- Exchanging a member by the same one makes the same container. -/
theorem replace_of_reordered {a b v w : Value} (h : a.reordered b) (hv : v.reordered w)
    (step : Step) : (a.replace step v).reordered (b.replace step w) := by
  -- elements keep their positions, entries are found by key
  cases step with
  | index i =>
    cases reorder_of_reordered h with
    | list hitems => exact reordered_list.mpr ⟨_, rfl, forall₂_set hitems hv i⟩
    | tuple hitems => exact reordered_tuple.mpr ⟨_, rfl, forall₂_set hitems hv i⟩
    | map => exact h
    | same _ harray =>
      cases a <;> first | exact h | cases harray
  | entry k =>
    cases reorder_of_reordered h with
    | @map es fs gs hkeys hperm hentries =>
      have hgs : distinctKeys gs = true :=
        distinctKeys_of_perm (by rw [forall₂_keys hentries]) hkeys
      have hfs : distinctKeys fs = true := distinctKeys_of_perm (hperm.map _) hgs
      -- with keys told apart, an exchange goes entry by entry, and so respects both order and
      -- values
      refine reordered_map.mpr ⟨?_, setEntry k w fs, setEntry k w gs, rfl, ?_, ?_⟩
      · exact distinctKeys_of_perm (by rw [setEntry_keys]) hkeys
      · rw [setEntry_eq_map hgs, setEntry_eq_map hfs]
        exact hperm.map _
      · rw [setEntry_eq_map hkeys, setEntry_eq_map hgs]
        refine List.forall₂_map_left_iff.mpr (List.forall₂_map_right_iff.mpr (hentries.imp ?_))
        intro e f hef
        rw [← hef.1]
        split
        · exact ⟨rfl, hv⟩
        · exact hef
    | same _ _ hmap =>
      cases a <;> first | exact h | exact absurd hmap nofun
    | _ => exact h

/-- Taking in the same value makes the same container, where there is none yet. -/
theorem adopt_of_reordered {a b v w : Value} (h : a.reordered b) (hv : v.reordered w) {step : Step}
    (hfree : a.slotBelow step = .free) (hself : ∀ k, step = .entry k → k.same k = true) :
    (a.adopt step v).reordered (b.adopt step w) := by
  cases step with
  | index i =>
    cases reorder_of_reordered h with
    | list hitems =>
      refine reordered_list.mpr ⟨_, rfl, List.rel_append (List.rel_append hitems ?_) (.cons hv .nil)⟩
      rw [hitems.length_eq]
      refine List.forall₂_same.mpr fun x hx => ?_
      rw [List.eq_of_mem_replicate hx]
      rfl
    | same _ harray =>
      cases a <;> first | exact h | cases harray
    | _ => exact h
  | entry k =>
    cases reorder_of_reordered h with
    | @map es fs gs hkeys hperm hentries =>
      -- the slot was free, so the key is new, and the entry comes last on both sides
      have hnone : entryAt? k es = none := by
        cases hfound : entryAt? k es with
        | none => rfl
        | some x =>
          rw [slotBelow_map, hfound] at hfree
          exact absurd hfree (ofValue_ne_free x)
      exact reordered_map.mpr ⟨distinctKeys_append hkeys (hself k rfl) hnone v, _, _, rfl,
        hperm.append_right _, List.rel_append hentries (.cons ⟨rfl, hv⟩ .nil)⟩
    | same _ _ hmap =>
      cases a <;> first | exact h | exact absurd hmap nofun
    | _ => exact h

/-- Putting back the same slots makes the same containers. -/
theorem settle_of_reordered {a b : Value} (h : a.reordered b) {step : Step} {σ τ : Slot}
    (hσ : σ.Reordered τ) (hbecomes : (a.slotBelow step).Becomes σ)
    (hself : ∀ k, step = .entry k → k.same k = true) :
    (a.settle step σ).reordered (b.settle step τ) := by
  cases hσ with
  | present hv => exact replace_of_reordered h hv step
  | filled hv =>
    exact adopt_of_reordered h hv (hbecomes.filled_of_free (found_slotBelow a step)) hself
  | _ => exact h

/-! ## In whatever order -/

/-- Entries under different keys are exchanged in either order. -/
theorem setEntry_comm {k l : Key} (h : k.same l = false) (v w : Value) (es : List (Key × Value)) :
    setEntry l w (setEntry k v es) = setEntry k v (setEntry l w es) := by
  induction es with
  | nil => rfl
  | cons e rest ih =>
    obtain ⟨m, x⟩ := e
    by_cases hk : m.same k = true
    · have hl : m.same l = false := by
        refine Bool.eq_false_iff.mpr fun hl => ?_
        rw [Key.same_trans (Key.same_symm hk) hl] at h
        cases h
      simp [setEntry, hk, hl]
    · by_cases hl : m.same l = true
      · simp [setEntry, hk, hl]
      · simp [setEntry, hk, hl, ih]

/-- An entry with another key at the end makes no difference to an exchange. -/
theorem setEntry_append {k l : Key} (h : l.same k = false) (v w : Value) (es : List (Key × Value)) :
    setEntry k v (es ++ [(l, w)]) = setEntry k v es ++ [(l, w)] := by
  induction es with
  | nil => simp [setEntry, h]
  | cons e rest ih =>
    obtain ⟨m, x⟩ := e
    by_cases hm : m.same k = true <;> simp [setEntry, hm, ih]

/-- Members at different steps are exchanged in either order. -/
theorem replace_comm {s t : Step} (h : s.Separate t) (a v w : Value) :
    (a.replace s v).replace t w = (a.replace t w).replace s v := by
  -- only steps of one kind go into one container, where different steps mean different members
  cases a <;> cases s <;> cases t <;> first | rfl | skip
  · exact congrArg list (List.set_comm _ _ h)
  · exact congrArg tuple (List.set_comm _ _ h)
  · exact congrArg map (setEntry_comm h _ _ _)

/-- A member is exchanged and another one taken in, in either order. -/
theorem replace_adopt {s : Step} {l : Key} (h : (Step.entry l).Separate s) (es : List (Key × Value))
    (v w : Value) : ((map es).replace s v).adopt (.entry l) w =
      ((map es).adopt (.entry l) w).replace s v := by
  cases s with
  | index i => rfl
  | entry k => exact congrArg map (setEntry_append h v w es).symm

section Commute

variable {a : Value} {s t : Step} {σ τ : Slot}

/-- Slots that have been put back at other steps do not change what can become of a slot. -/
theorem becomes_settle (hs : (a.slotBelow s).Becomes σ) (hfind : a.Findable s)
    (hsep : s.Separate t) (ht : (a.slotBelow t).Becomes τ) :
    ((a.settle s σ).slotBelow t).Becomes τ := by
  rwa [slotBelow_settle_of_separate (Slot.below_iff.mpr hs) hfind hsep]

/-- Two slots that are put back at different steps make the same container in either order. -/
theorem settle_comm (ha : a.reordered a) (hs : (a.slotBelow s).Becomes σ)
    (ht : (a.slotBelow t).Becomes τ) (hσ : σ.Reordered σ) (hτ : τ.Reordered τ)
    (hfinds : a.Findable s) (hfindt : a.Findable t) (hsep : s.Separate t) :
    ((a.settle s σ).settle t τ).reordered ((a.settle t τ).settle s σ) := by
  have hself {u : Step} (hfind : a.Findable u) (k : Key) (hk : u = .entry k) : k.same k = true := by
    subst hk
    exact hfind
  -- the container that the left side makes is the same as itself, so equality will do
  have hleft : ((a.settle s σ).settle t τ).reordered ((a.settle s σ).settle t τ) :=
    settle_of_reordered (settle_of_reordered ha hσ hs (hself hfinds)) hτ
      (becomes_settle hs hfinds hsep ht) (hself hfindt)
  have hequal (h : (a.settle t τ).settle s σ = (a.settle s σ).settle t τ) :
      ((a.settle s σ).settle t τ).reordered ((a.settle t τ).settle s σ) := by rwa [h]
  -- left alone, exchanged or taken in: each of these against each of the other slot
  cases Slot.below_iff.mpr hs with
  | found =>
    refine hequal ?_
    rw [settle_slotBelow, ← slotBelow_settle_of_separate (Slot.below_iff.mpr ht) hfindt hsep.symm,
      settle_slotBelow]
  | grown hchild y =>
    cases Slot.below_iff.mpr ht with
    | found =>
      refine hequal ?_
      rw [settle_slotBelow, ← slotBelow_settle_of_separate (Slot.below_iff.mpr hs) hfinds hsep,
        settle_slotBelow]
    | grown _ z => exact hequal (replace_comm hsep a y z).symm
    | filled hfree w =>
      obtain ⟨es, l, rfl, rfl, _, _⟩ := eq_map_of_free hfree hfindt
      exact hequal (replace_adopt hsep.symm es y w).symm
  | filled hfree v =>
    obtain ⟨es, k, rfl, rfl, _, _⟩ := eq_map_of_free hfree hfinds
    cases Slot.below_iff.mpr ht with
    | found =>
      refine hequal ?_
      rw [settle_slotBelow, ← slotBelow_settle_of_separate (Slot.below_iff.mpr hs) hfinds hsep,
        settle_slotBelow]
    | grown _ z => exact hequal (replace_adopt hsep es z v)
    | filled hfree' w =>
      obtain ⟨_, l, ⟨⟩, rfl, _, _⟩ := eq_map_of_free hfree' hfindt
      -- two new entries stand at the end in the order in which they were taken in
      refine reordered_of_perm ?_ hleft
      rw [List.append_assoc, List.append_assoc]
      exact (List.Perm.swap ..).append_left es

end Commute

/-- Slots put back one after another. -/
def settleAll (c : Value) (updates : List (Step × Slot)) : Value :=
  updates.foldl (fun c d => c.settle d.1 d.2) c

/-- Slots that can be put back in any order: each is what can have become of the one found in the
    container, each is found again, and no two are for one member. -/
structure IndependentUpdates (updates : List (Step × Slot)) (a : Value) : Prop where
  becomes : ∀ d ∈ updates, (a.slotBelow d.1).Becomes d.2
  findable : ∀ d ∈ updates, a.Findable d.1
  apart : updates.Pairwise fun d e => d.1.Separate e.1

namespace IndependentUpdates

variable {updates updates' : List (Step × Slot)} {a : Value}

/-- When one slot has been put back, the others can still be. -/
theorem next {d : Step × Slot} (h : IndependentUpdates (d :: updates) a) :
    IndependentUpdates updates (a.settle d.1 d.2) where
  becomes e he := becomes_settle (h.becomes d (List.mem_cons_self ..))
    (h.findable d (List.mem_cons_self ..)) (List.rel_of_pairwise_cons h.apart he)
    (h.becomes e (List.mem_cons_of_mem _ he))
  findable e he := findable_settle_of_separate
    (Slot.below_iff.mpr (h.becomes d (List.mem_cons_self ..))) (h.findable d (List.mem_cons_self ..))
    (h.findable e (List.mem_cons_of_mem _ he)) (List.rel_of_pairwise_cons h.apart he)
  apart := h.apart.of_cons

/-- The order of the slots does not matter. -/
theorem perm (h : IndependentUpdates updates a) (hperm : updates.Perm updates') :
    IndependentUpdates updates' a where
  becomes d hd := h.becomes d (hperm.mem_iff.mpr hd)
  findable d hd := h.findable d (hperm.mem_iff.mpr hd)
  apart := (hperm.pairwise_iff fun h => Step.Separate.symm h).mp h.apart

/-- A step of such a list leads to an entry under a key that is the same as itself, or to an element.
    -/
theorem self {d : Step × Slot} (h : IndependentUpdates updates a) (hd : d ∈ updates) (k : Key)
    (hk : d.1 = .entry k) : k.same k = true := by
  have hfind := h.findable d hd
  rw [hk] at hfind
  exact hfind

end IndependentUpdates

/-- Updates at the same step that put back the same up to the order of keys. -/
def SameUpdate (d e : Step × Slot) : Prop := d.1 = e.1 ∧ d.2.Reordered e.2

/-- What can be put back into a container can be put back into the same one in another order of
    keys. -/
theorem IndependentUpdates.of_reordered {updates updates' : List (Step × Slot)} {a a' : Value}
    (h : IndependentUpdates updates a) (ha : a.reordered a')
    (hsame : List.Forall₂ SameUpdate updates updates') : IndependentUpdates updates' a' := by
  refine ⟨fun e he => ?_, fun e he => ?_, ?_⟩
  · obtain ⟨d, hd, hde⟩ := exists_of_mem_right hsame he
    rw [← hde.1]
    exact (h.becomes d hd).of_reordered (found_slotBelow a d.1) (slotBelow_of_reordered ha d.1) hde.2
  · obtain ⟨d, hd, hde⟩ := exists_of_mem_right hsame he
    have hfind := h.findable d hd
    rw [hde.1] at hfind
    -- an entry is found by its key, an element has to be there
    cases he : e.1 with
    | entry k =>
      rw [he] at hfind
      exact hfind
    | index i =>
      rw [he] at hfind
      obtain ⟨v, hv⟩ := hfind
      have hslot := slotBelow_of_reordered ha (.index i)
      rw [hv] at hslot
      exact hslot.of_ofValue
  · have hsteps : updates'.map (·.1) = updates.map (·.1) :=
      map_eq_of_forall₂ hsame fun _ _ hde => hde.1
    have hapart := List.pairwise_map.mpr h.apart
    rw [← hsteps] at hapart
    exact List.pairwise_map.mp hapart

/-- The same slots put back one after another make the same container. -/
theorem settleAll_of_reordered {updates updates' : List (Step × Slot)} {a b : Value}
    (h : a.reordered b) (hind : IndependentUpdates updates a)
    (hsame : List.Forall₂ SameUpdate updates updates') :
    (a.settleAll updates).reordered (b.settleAll updates') := by
  induction hsame generalizing a b with
  | nil => exact h
  | @cons d e updates updates' hde _ ih =>
    have hfirst : (a.settle d.1 d.2).reordered (b.settle e.1 e.2) := by
      rw [← hde.1]
      exact settle_of_reordered h hde.2 (hind.becomes d (List.mem_cons_self ..))
        (hind.self (List.mem_cons_self ..))
    exact ih hfirst hind.next

/-- **Slots of different members can be put back in any order.**  The containers are the same up to
    the order of keys. -/
theorem settleAll_perm {updates updates' : List (Step × Slot)} (hperm : updates.Perm updates')
    {a b : Value} (h : a.reordered b) (hind : IndependentUpdates updates a)
    (hself : ∀ d ∈ updates, d.2.Reordered d.2) :
    (a.settleAll updates).reordered (b.settleAll updates') := by
  have hsame {updates : List (Step × Slot)} (hself : ∀ d ∈ updates, d.2.Reordered d.2) :
      List.Forall₂ SameUpdate updates updates := List.forall₂_same.mpr fun d hd => ⟨rfl, hself d hd⟩
  -- any order comes from exchanging neighbours
  induction hperm generalizing a b with
  | nil => exact h
  | cons d _ ih =>
    have hfirst := settle_of_reordered h (hself d (List.mem_cons_self ..))
      (hind.becomes d (List.mem_cons_self ..)) (hind.self (List.mem_cons_self ..))
    exact ih hfirst hind.next fun e he => hself e (List.mem_cons_of_mem _ he)
  | swap d e rest =>
    have hd : d ∈ e :: d :: rest := List.mem_cons_of_mem _ (List.mem_cons_self ..)
    have he : e ∈ e :: d :: rest := List.mem_cons_self ..
    have hrest (f) (hf : f ∈ rest) : f.2.Reordered f.2 :=
      hself f (List.mem_cons_of_mem _ (List.mem_cons_of_mem _ hf))
    have hapart : e.1.Separate d.1 := List.rel_of_pairwise_cons hind.apart (List.mem_cons_self ..)
    -- the first two are put back in either order, and the rest follows as before
    have hswapped := settle_comm (reordered_self h) (hind.becomes e he) (hind.becomes d hd)
      (hself e he) (hself d hd) (hind.findable e he) (hind.findable d hd) hapart
    have hd' : (a.settle d.1 d.2).reordered (b.settle d.1 d.2) :=
      settle_of_reordered h (hself d hd) (hind.becomes d hd) (hind.self hd)
    have hsecond : ((a.settle d.1 d.2).settle e.1 e.2).reordered
        ((b.settle d.1 d.2).settle e.1 e.2) :=
      settle_of_reordered hd' (hself e he)
        (becomes_settle (hind.becomes d hd) (hind.findable d hd) hapart.symm (hind.becomes e he))
        (hind.self he)
    have hall :=
      settleAll_of_reordered (reordered_trans hswapped hsecond) hind.next.next (hsame hrest)
    exact hall
  | trans hfirst _ ih ih' =>
    exact reordered_trans (ih (reordered_self h) hind hself)
      (ih' h (hind.perm hfirst) fun d hd => hself d (hfirst.mem_iff.mpr hd))

end Value

end Conformance

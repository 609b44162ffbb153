/-
  What calls write, as writes in place.

  The defaults of a call are in its journal, each with the trail to its place.  A whole instance is
  left as these defaults leave it when they are written in place (`validate_writes`); a parent, as
  they leave it when they are written one step further down, under the key (`checkProperty_parent`);
  and a value handed in by itself, as they leave that value (`checkProperty_value`).

  Writing below a trail is writing into the part at its end (`Value.writeAll_under`).
-/
import Conformance.Proofs.Frame
import Conformance.Proofs.Record
import Conformance.Proofs.Memory.Basic

namespace Conformance

/-! ## Writing into a part -/

/-- A deposit in a part, as seen from the whole. -/
def Deposit.under (t : Trail) (d : Deposit) : Deposit := ⟨t ++ d.trail, d.value⟩

namespace Value

/-- A value with another one in the place of what is at the end of a trail. -/
def exchangeAt : Value → Trail → Value → Value
  | _, [], y => y
  | root, step :: rest, y =>
    match root.child? step with
    | some x => root.replace step (x.exchangeAt rest y)
    | none => root

theorem writeAll_below {a x : Value} {step : Step} {ds : List Deposit}
    (h : a.child? step = some x) (hds : ∀ d ∈ ds, d.trail ≠ []) :
    a.writeAll (ds.map (Deposit.below step)) = a.replace step (x.writeAll ds) := by
  induction ds generalizing a x with
  | nil => exact (replace_self h).symm
  | cons d ds ih =>
    obtain ⟨next, rest, htrail⟩ := List.exists_cons_of_ne_nil (hds d (List.mem_cons_self ..))
    have hfirst : a.write (d.below step).trail d.value =
        a.replace step (x.write d.trail d.value) := by
      simp [Deposit.below, htrail, write, h]
    have hrest := ih (child?_replace h (x.write d.trail d.value)) fun e he =>
      hds e (List.mem_cons_of_mem d he)
    rw [replace_replace] at hrest
    rw [← hfirst] at hrest
    exact hrest

/-- What is written below a trail is written into the part at its end. -/
theorem writeAll_under {a x : Value} {t : Trail} {ds : List Deposit} (h : a.at? t = some x)
    (hds : ∀ d ∈ ds, d.trail ≠ []) :
    a.writeAll (ds.map (Deposit.under t)) = a.exchangeAt t (x.writeAll ds) := by
  induction t generalizing a with
  | nil =>
    obtain rfl : a = x := by simpa [at?] using h
    have hid : Deposit.under [] = id := rfl
    rw [hid, List.map_id, exchangeAt]
  | cons step t ih =>
    cases hc : a.child? step with
    | none => simp [at?, hc] at h
    | some c =>
      have hmap : ds.map (Deposit.under (step :: t)) =
          (ds.map (Deposit.under t)).map (Deposit.below step) := by
        simp [Deposit.under, Deposit.below]
      have hne : ∀ d ∈ ds.map (Deposit.under t), d.trail ≠ [] := by
        intro d hd
        obtain ⟨e, he, rfl⟩ := List.mem_map.mp hd
        simp [Deposit.under, hds e he]
      rw [hmap, writeAll_below hc hne, ih (by simpa [at?, hc] using h)]
      simp [exchangeAt, hc]

end Value

/-! ## Slots -/

namespace Slot

/-- Only a slot that holds a value comes to hold one by injections. -/
theorem Injections.of_present_end {ρ : Slot} {ds : List Deposit} {b : Value}
    (h : Injections ρ ds (.present b)) : ∃ a, ρ = .present a := by
  generalize hτ : Slot.present b = τ at h
  induction h generalizing b with
  | none => exact ⟨b, hτ.symm⟩
  | later _ last ih =>
    subst hτ
    cases last with
    | within _ => exact ih rfl

/-- Whether a slot is one that cannot receive anything and holds nothing that can. -/
def isBarred : Slot → Bool
  | .held => true
  | .closed _ => true
  | .outOfReach _ _ => true
  | .unaskable _ => true
  | _ => false

/-- A slot that is barred receives nothing. -/
theorem not_injection_of_isBarred {σ : Slot} (h : σ.isBarred = true) (d : Deposit) (ρ : Slot) :
    ¬ σ.Injection d ρ := by
  intro hd
  cases hd <;> cases h

/-- Injections into a member's slot are injections into the container. -/
theorem Injections.settle {container : Value} {step : Step} {τ : Slot} {ds : List Deposit}
    (h : (container.slotBelow step).Injections ds τ) :
    Below container step τ ∧
      container.Injections (ds.map (Deposit.below step)) (container.settle step τ) := by
  induction h with
  | none =>
    rw [Value.settle_slotBelow]
    exact ⟨.found, .none⟩
  | later _ last ih =>
    obtain ⟨hbelow, hinjections⟩ := ih
    obtain ⟨hbelow', hlast⟩ := hbelow.settle last
    refine ⟨hbelow', ?_⟩
    rw [List.map_append]
    exact .later hinjections hlast

/-- Over an element counted from the end of a list, the last default is the one that stays. -/
theorem Injections.settle_fromEnd {items : List Value} {i : Nat} (hi : i < items.length)
    {τ : Slot} {ds : List Deposit} (h : (Slot.fromEnd Option.none).Injections ds τ) :
    (∃ old, τ = .fromEnd old) ∧ (Value.list items).settle (.index i) τ =
      (Value.list items).writeAll (ds.map (Deposit.below (.index i))) := by
  induction h with
  | none => exact ⟨⟨_, rfl⟩, rfl⟩
  | later _ last ih =>
    obtain ⟨⟨old, rfl⟩, hsettle⟩ := ih
    -- each default goes over the one before, so only the last is seen
    cases last with
    | onTop _ v =>
      refine ⟨⟨_, rfl⟩, ?_⟩
      rw [List.map_append, Value.writeAll_append, ← hsettle]
      cases old <;> simp [Value.settle, Value.replace, Value.writeAll, Deposit.below, Value.write,
        Value.assign, putElement, hi]

end Slot

namespace Value

/-- Under keys that are the same a mapping has the same. -/
theorem slotBelow_of_same {es : List (Key × Value)} {k l : Key} (h : k.same l = true) :
    (Value.map es).slotBelow (.entry l) = (Value.map es).slotBelow (.entry k) := by
  have hsame : (fun e : Key × Value => e.1.same l) = fun e => e.1.same k := by
    funext e
    refine Bool.eq_iff_iff.mpr ⟨fun hl => ?_, fun hk => Key.same_trans hk h⟩
    exact Key.same_trans hl (Key.same_symm h)
  have hentry : entryAt? l es = entryAt? k es := by simp only [entryAt?, entryWith?, hsame]
  simp [slotBelow, child?, hentry, gap]

/-- So it leaves the container as it was. -/
theorem settle_of_isBarred {container : Value} {step : Step} {σ : Slot} (h : σ.isBarred = true) :
    container.settle step σ = container := by
  cases σ <;> first | rfl | cases h

/-- The step to an entry goes by the key as the mapping has it. -/
theorem stepTo_map (es : List (Key × Value)) (key : Value) : (Value.map es).stepTo key =
    .entry (((entryWith? key.toKey es).map (·.1)).getD key.toKey) := by
  simp only [stepTo]

/-- What a key that was handed in comes to: the step that it takes, an element counted from the end
    of a list, or a slot that cannot receive anything. -/
inductive Meets (container key : Value) : Prop
  | member (h : container.slotAt key = container.slotBelow (container.stepTo key))
  | counted {items : List Value} {i : Nat} (hitems : container = .list items)
    (hi : i < items.length) (hstep : container.stepTo key = .index i)
    (h : container.slotAt key = .fromEnd none)
  | barred (h : (container.slotAt key).isBarred = true)

/-- A key of a mapping is a member, or it cannot be asked about. -/
theorem meets_map (es : List (Key × Value)) (key : Value) : (Value.map es).Meets key := by
  cases hkey : key.unhashable? with
  | some name => exact .barred (by simp [slotAt, hkey, Slot.isBarred])
  | none =>
    refine .member ?_
    have hslot : (Value.map es).slotAt key = (Value.map es).slotBelow (.entry key.toKey) := by
      simp [slotAt, hkey]
    rw [hslot, stepTo_map]
    cases hfound : entryWith? key.toKey es with
    | none => rfl
    | some e =>
      -- the step goes by the key as it was entered first
      have hsame : e.1.same key.toKey = true := by simpa using List.find?_some hfound
      rw [slotBelow_of_same hsame]
      rfl

/-- A key of a list may count from the end. -/
theorem meets_list (items : List Value) (key : Value) : (Value.list items).Meets key := by
  cases hkey : key.index? with
  | none => exact .barred (by simp [slotAt, hkey, Slot.isBarred])
  | some j =>
    cases j with
    | ofNat i =>
      have hstep : (Value.list items).stepTo key = .index i := by simp [stepTo, hkey]
      by_cases hout : items.length ≤ i ∧ listRoom ≤ i
      · exact .barred (by simp [slotAt, hkey, hout, Slot.isBarred])
      · exact .member (by simp [slotAt, hkey, hout, hstep])
    | negSucc i =>
      have hstep : (Value.list items).stepTo key = .index (items.length - (i + 1)) := by
        simp [stepTo, hkey]
      by_cases hin : i < items.length
      · exact .counted rfl (by omega) hstep (by simp [slotAt, hkey, hin])
      · exact .barred (by simp [slotAt, hkey, hin, Slot.isBarred])

/-- A tuple cannot be written to, but has members. -/
theorem meets_tuple (items : List Value) (key : Value) : (Value.tuple items).Meets key := by
  cases hkey : key.index? with
  | none => exact .barred (by simp [slotAt, hkey, Slot.isBarred])
  | some j =>
    cases j with
    | ofNat i => exact .member (by simp [slotAt, stepTo, hkey])
    | negSucc i => exact .barred (by simp [slotAt, hkey, Slot.isBarred])

/-- Every key meets its container in one of these ways. -/
theorem meets (container key : Value) : container.Meets key := by
  cases container with
  | map es => exact meets_map es key
  | list items => exact meets_list items key
  | tuple items => exact meets_tuple items key
  | _ => exact .barred rfl

/-- What a run leaves under a key is what its defaults, written in place, leave in the parent. -/
theorem settle_eq_writeAll {container key : Value} {τ : Slot} {ds : List Deposit}
    (h : (container.slotAt key).Injections ds τ) :
    container.settle (container.stepTo key) τ =
      container.writeAll (ds.map (Deposit.below (container.stepTo key))) := by
  -- a member is written below its step, an element from the end at its index, and nothing else is
  -- written
  cases container.meets key with
  | member hslot =>
    rw [hslot] at h
    exact h.settle.2.eq_writeAll.1
  | @counted items i hitems hi hstep hslot =>
    subst hitems
    rw [hslot] at h
    rw [hstep]
    exact (h.settle_fromEnd hi).2
  | barred hslot =>
    obtain ⟨hleft, hnone⟩ := h.eq_of_barred (Slot.not_injection_of_isBarred hslot)
    rw [hleft, hnone, settle_of_isBarred hslot]
    rfl

end Value

/-! ## Calls -/

namespace Validator

/-- The slot of a run receives the defaults that the journal tells of. -/
theorem run_injections {α : Type} {c : Check α} (hc : Check.Moving c) (v : Validator)
    (key : Value) (place : Place) (slot : Slot) :
    slot.Injections (v.run key place slot c).journal.deposits (v.run key place slot c).slot := by
  let scope : Scope :=
    ⟨key, [], place, v.renewals, 0, v.interactive.isTruthy, v.settings.maxDepth⟩
  obtain ⟨ds, hm⟩ := hc scope ⟨slot, v.registry, [], []⟩
  obtain ⟨events, hj, hd⟩ := hm.journal
  have hdeposits : (v.run key place slot c).journal.deposits = ds := by
    show Journal.deposits (c scope ⟨slot, v.registry, [], []⟩).2.journal.reverse = ds
    rw [hj, List.append_nil, Journal.deposits, List.filterMap_reverse, ← Journal.deposits, hd]
    simp [scope]
  rw [hdeposits]
  exact hm.slot

/-- Visits only ever inject. -/
theorem visit_moves (v : Validator) (schema : Node) : Check.Moving (v.visit schema) :=
  Check.against_moves _ schema

/-- A whole instance is left as its defaults, written in place, leave it. -/
theorem validate_writes (v : Validator) (inst schema : Node) :
    (v.validate inst schema).slot.value =
        inst.tree.writeAll (v.validate inst schema).journal.deposits ∧
      ∀ d ∈ (v.validate inst schema).journal.deposits, d.trail ≠ [] := by
  have h := run_injections (v.rootCheck_moves inst schema) { v with applied := [] } rootKey
    inst.origin (.ofValue inst.tree)
  exact (injections_of_slot h).eq_writeAll

/-- Where the mark of an absent key is handed in, a key that is there counts as held, and other
    slots are those of the parent. -/
theorem slotOf_missing (parent key : Value) :
    slotOf parent key (some .missing) = .held ∨
      slotOf parent key (some .missing) = parent.slotAt key ∧
        ∀ b, parent.slotAt key ≠ .present b := by
  unfold slotOf
  cases hslot : parent.slotAt key with
  | present _ => exact Or.inl rfl
  | _ => exact Or.inr ⟨rfl, nofun⟩

/-- A parent is left as the defaults under the key, written in place, leave it; that is so if its
    own member is checked, and if the mark of an absent key is handed in. -/
theorem checkProperty_parent (v : Validator) (parent : Node) (key : Value)
    {handedIn : Option Node} (schema : Node) (h : ∀ n, handedIn = some n → n.tree = .missing) :
    let o := v.checkProperty parent key handedIn schema
    o.parent = parent.tree.writeAll
      (o.outcome.journal.deposits.map (Deposit.below (parent.tree.stepTo key))) := by
  intro o
  cases handedIn with
  | none =>
    exact Value.settle_eq_writeAll (run_injections (v.visit_moves schema) v key _ _)
  | some n =>
    have hmissing : n.tree = .missing := h n rfl
    simp only [o, checkProperty, onMember, Option.map_some, hmissing]
    generalize hrun : v.run key _ (slotOf parent.tree key (some .missing)) (v.visit schema) = run
    have hinjections : (slotOf parent.tree key (some .missing)).Injections run.journal.deposits
        run.slot := hrun ▸ run_injections (v.visit_moves schema) v key _ _
    rcases slotOf_missing parent.tree key with hslot | ⟨hslot, hopen⟩
    · -- the parent has a value under the key, and nothing is written
      rw [hslot] at hinjections
      obtain ⟨hleft, hnone⟩ := hinjections.of_held
      rw [hleft, hnone]
      rfl
    · rw [hslot] at hinjections
      split
      · next a _ hleft =>
        rw [hleft] at hinjections
        obtain ⟨b, hb⟩ := hinjections.of_present_end
        exact absurd hb (hopen b)
      · exact Value.settle_eq_writeAll hinjections

/-- A value handed in by itself is left as its defaults, written in place, leave it. -/
theorem checkProperty_value (v : Validator) (parent : Node) (key : Value) {n : Node}
    (schema : Node) (h : n.tree ≠ .missing) :
    let o := v.checkProperty parent key (some n) schema
    o.value = n.tree.writeAll o.outcome.journal.deposits ∧
      ∀ d ∈ o.outcome.journal.deposits, d.trail ≠ [] := by
  intro o
  have hslot : slotOf parent.tree key (some n.tree) = .present n.tree := by
    unfold slotOf
    cases hn : n.tree with
    | missing => exact absurd hn h
    | _ => rfl
  obtain ⟨place, hj, hvalue⟩ : ∃ place,
      o.outcome.journal =
        (v.run key place (slotOf parent.tree key (some n.tree)) (v.visit schema)).journal ∧
      o.value =
        (v.run key place (slotOf parent.tree key (some n.tree)) (v.visit schema)).slot.value :=
    ⟨_, rfl, rfl⟩
  have hinjections := run_injections (v.visit_moves schema) v key place
    (slotOf parent.tree key (some n.tree))
  rw [hj, hvalue]
  revert hinjections
  rw [hslot]
  generalize v.run key place _ (v.visit schema) = run
  intro hinjections
  obtain ⟨b, hleft, hb⟩ := hinjections.of_present
  rw [hleft]
  exact hb.eq_writeAll

end Validator

end Conformance

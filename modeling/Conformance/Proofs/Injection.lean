/-
  Defaults written into a value.

  An `Injection` puts a value where there was none: it adds one entry at the end of a mapping, or it
  appends to a list the nulls needed to reach an index and then the value, at the top or at any
  depth below members that are there.  `Injections` are several of them, one after the other.

  Whatever a value holds is kept (`Injections.keptIn`): keys and elements stay where they are and
  only grow inside.  Every injection makes the value larger (`Injection.sizeOf_lt`), so a value that
  has received one is not what it was.

  Checks work on slots.  A slot below a container that receives injections passes them on to the
  container once it is put back (`Slot.Below.settle`), which is how they come to have a trail.
-/
import Conformance.Proofs.Parts

namespace Conformance

/-- A default written into a value: the steps to where it was put, and what was put there. -/
structure Deposit where
  trail : Trail
  value : Value

/-- A deposit in a member, as seen from the container. -/
def Deposit.below (step : Step) (d : Deposit) : Deposit := ⟨step :: d.trail, d.value⟩

namespace Value

/-- A value with one more default in it, at a place where there was nothing. -/
inductive Injection : Value → Deposit → Value → Prop
  | entry {es : List (Key × Value)} {key : Key} (v : Value) (h : entryAt? key es = none) :
    Injection (.map es) ⟨[.entry key], v⟩ (.map (es ++ [(key, v)]))
  | element {items : List Value} {i : Nat} (v : Value) (h : items.length ≤ i) :
    Injection (.list items) ⟨[.index i], v⟩
      (.list (items ++ List.replicate (i - items.length) .null ++ [v]))
  | member {a x y : Value} {step : Step} {d : Deposit} (h : a.child? step = some x)
    (inner : Injection x d y) : Injection a (d.below step) (a.replace step y)

/-- A value with several more defaults in it, put there in the order of the list. -/
inductive Injections (a : Value) : List Deposit → Value → Prop
  | none : Injections a [] a
  | later {b c : Value} {ds : List Deposit} {d : Deposit} (first : Injections a ds b)
    (last : Injection b d c) : Injections a (ds ++ [d]) c

/-! ## What is kept -/

mutual

/-- Whether all that a value holds is still there in another one, in its place and in order:
    mappings may have further entries at the end, lists further elements. -/
def keptIn : Value → Value → Prop
  | .map es, .map fs => entriesKept es fs
  | .list xs, .list ys => itemsKept xs ys
  | .tuple xs, .tuple ys => xs.length = ys.length ∧ itemsKept xs ys
  | x, y => x = y

/-- The same for elements. -/
def itemsKept : List Value → List Value → Prop
  | [], _ => True
  | x :: xs, y :: ys => keptIn x y ∧ itemsKept xs ys
  | _ :: _, [] => False

/-- The same for entries, whose keys stay as they were entered. -/
def entriesKept : List (Key × Value) → List (Key × Value) → Prop
  | [], _ => True
  | (k, x) :: es, (l, y) :: fs => k = l ∧ keptIn x y ∧ entriesKept es fs
  | _ :: _, [] => False

end

mutual

theorem keptIn_refl : ∀ a : Value, a.keptIn a
  | .missing => rfl
  | .null => rfl
  | .bool _ => rfl
  | .int _ => rfl
  | .float _ => rfl
  | .str _ => rfl
  | .cls _ => rfl
  | .list xs => itemsKept_refl xs
  | .tuple xs => ⟨rfl, itemsKept_refl xs⟩
  | .map es => entriesKept_refl es

theorem itemsKept_refl : ∀ xs : List Value, itemsKept xs xs
  | [] => trivial
  | x :: xs => ⟨keptIn_refl x, itemsKept_refl xs⟩

theorem entriesKept_refl : ∀ es : List (Key × Value), entriesKept es es
  | [] => trivial
  | (_, x) :: es => ⟨rfl, keptIn_refl x, entriesKept_refl es⟩

end

mutual

/-- What is kept in a value that is kept in a third one is kept in that. -/
theorem keptIn_trans : ∀ {a b c : Value}, a.keptIn b → b.keptIn c → a.keptIn c
  -- a value keeps its class, so all three are of one constructor
  | .map es, b, c, h, h' => by
    cases b with
    | map fs =>
      cases c with
      | map gs => exact entriesKept_trans h h'
      | _ => cases h'
    | _ => cases h
  | .list xs, b, c, h, h' => by
    cases b with
    | list ys =>
      cases c with
      | list zs => exact itemsKept_trans h h'
      | _ => cases h'
    | _ => cases h
  | .tuple xs, b, c, h, h' => by
    cases b with
    | tuple ys =>
      cases c with
      | tuple zs => exact ⟨h.1.trans h'.1, itemsKept_trans h.2 h'.2⟩
      | _ => cases h'
    | _ => cases h
  | .missing, _, _, h, h' => by cases h; exact h'
  | .null, _, _, h, h' => by cases h; exact h'
  | .bool _, _, _, h, h' => by cases h; exact h'
  | .int _, _, _, h, h' => by cases h; exact h'
  | .float _, _, _, h, h' => by cases h; exact h'
  | .str _, _, _, h, h' => by cases h; exact h'
  | .cls _, _, _, h, h' => by cases h; exact h'
termination_by structural a => a

theorem itemsKept_trans : ∀ {xs ys zs : List Value},
    itemsKept xs ys → itemsKept ys zs → itemsKept xs zs
  | [], _, _, _, _ => trivial
  | _ :: _, _ :: _, _ :: _, h, h' => ⟨keptIn_trans h.1 h'.1, itemsKept_trans h.2 h'.2⟩
termination_by structural xs => xs

theorem entriesKept_trans : ∀ {es fs gs : List (Key × Value)},
    entriesKept es fs → entriesKept fs gs → entriesKept es gs
  | [], _, _, _, _ => trivial
  | _ :: _, _ :: _, _ :: _, h, h' =>
    ⟨h.1.trans h'.1, keptIn_trans h.2.1 h'.2.1, entriesKept_trans h.2.2 h'.2.2⟩
termination_by structural es => es

end

/-- A value that has been filled in is of the class that it was of. -/
theorem class?_of_keptIn {a b : Value} (h : a.keptIn b) : b.class? = a.class? := by
  cases a <;> cases b <;> first | rfl | cases h

/-- A value that is kept does not go missing. -/
theorem ne_missing_of_keptIn {a b : Value} (h : a.keptIn b) (ha : a ≠ .missing) : b ≠ .missing := by
  rintro rfl
  cases a <;> first | exact ha rfl | cases h

/-- The keys of a mapping stay, and stay as they were entered. -/
theorem mem_keys_of_keptIn {a b : Value} (h : a.keptIn b) {key : Key} (hkey : key ∈ a.keys) :
    key ∈ b.keys := by
  -- keys are kept one by one, those added since stand at the end
  have hentries : ∀ {es fs : List (Key × Value)}, entriesKept es fs → key ∈ es.map (·.1) →
      key ∈ fs.map (·.1) := by
    intro es
    induction es with
    | nil => exact fun _ hmem => absurd hmem (List.not_mem_nil)
    | cons e es ih =>
      intro fs hkept hmem
      cases fs with
      | nil => exact hkept.elim
      | cons f fs =>
        obtain ⟨hsame, _, hrest⟩ := hkept
        rcases List.mem_cons.mp hmem with hhead | htail
        · rw [hhead]
          exact List.mem_cons.mpr (Or.inl hsame)
        · exact List.mem_cons_of_mem _ (ih hrest htail)
  cases a with
  | map es =>
    cases b with
    | map fs => exact hentries h hkey
    | _ => cases h
  | _ => cases hkey

/-- Elements are kept when others are added at the end. -/
theorem itemsKept_append (xs more : List Value) : itemsKept xs (xs ++ more) := by
  induction xs with
  | nil => trivial
  | cons x xs ih => exact ⟨keptIn_refl x, ih⟩

theorem entriesKept_append (es more : List (Key × Value)) : entriesKept es (es ++ more) := by
  induction es with
  | nil => trivial
  | cons e es ih => exact ⟨rfl, keptIn_refl e.2, ih⟩

/-- Elements are kept when one of them is exchanged for one that keeps it. -/
theorem itemsKept_set {xs : List Value} {i : Nat} {x y : Value} (h : xs[i]? = some x)
    (hxy : x.keptIn y) : itemsKept xs (xs.set i y) := by
  induction xs generalizing i with
  | nil => trivial
  | cons w xs ih =>
    cases i with
    | zero =>
      cases h
      exact ⟨hxy, itemsKept_refl xs⟩
    | succ i => exact ⟨keptIn_refl w, ih h⟩

theorem entriesKept_setEntry {es : List (Key × Value)} {key : Key} {x y : Value}
    (h : entryAt? key es = some x) (hxy : x.keptIn y) : entriesKept es (setEntry key y es) := by
  induction es with
  | nil => trivial
  | cons e es ih =>
    obtain ⟨k, w⟩ := e
    by_cases hk : k.same key = true
    · simp only [entryAt?, entryWith?, List.find?_cons, hk, Option.map_some] at h
      cases h
      simpa only [setEntry, hk, if_true] using ⟨rfl, hxy, entriesKept_refl es⟩
    · simp only [entryAt?, entryWith?, List.find?_cons, hk] at h
      simpa only [setEntry, hk] using ⟨rfl, keptIn_refl w, ih h⟩

/-- A value is kept when a member is exchanged for one that keeps it. -/
theorem keptIn_replace {a x y : Value} {step : Step} (h : a.child? step = some x)
    (hxy : x.keptIn y) : a.keptIn (a.replace step y) := by
  unfold child? at h
  split at h
  · exact entriesKept_setEntry h hxy
  · exact itemsKept_set h hxy
  · exact ⟨List.length_set.symm, itemsKept_set h hxy⟩
  · cases h

/-- One injection removes nothing. -/
theorem Injection.keptIn {a b : Value} {d : Deposit} (h : Injection a d b) : a.keptIn b := by
  induction h with
  | entry v _ => exact entriesKept_append _ _
  | @element items i v _ =>
    rw [List.append_assoc]
    exact itemsKept_append items _
  | member h _ ih => exact keptIn_replace h ih

/-- Injections remove, replace and reorder nothing. -/
theorem Injections.keptIn {a b : Value} {ds : List Deposit} (h : Injections a ds b) :
    a.keptIn b := by
  induction h with
  | none => exact keptIn_refl a
  | later _ last ih => exact keptIn_trans ih last.keptIn

/-! ## Values grow -/

/-- A list that is longer is larger. -/
theorem sizeOf_lt_append {α : Type} [SizeOf α] (xs : List α) (y : α) (ys : List α) :
    sizeOf xs < sizeOf (xs ++ y :: ys) := by
  induction xs with
  | nil =>
    have hpos := sizeOf_list_pos ys
    simp; omega
  | cons x xs ih => simp; omega

/-- A list with a larger element is larger, -/
theorem sizeOf_lt_set {xs : List Value} {i : Nat} {x y : Value} (h : xs[i]? = some x)
    (hxy : sizeOf x < sizeOf y) : sizeOf xs < sizeOf (xs.set i y) := by
  induction xs generalizing i with
  | nil => cases h
  | cons w xs ih =>
    cases i with
    | zero =>
      cases h
      simp; omega
    | succ i =>
      have hrest := ih h
      simp; omega

/-- and so is a mapping with a larger entry. -/
theorem sizeOf_lt_setEntry {es : List (Key × Value)} {key : Key} {x y : Value}
    (h : entryAt? key es = some x) (hxy : sizeOf x < sizeOf y) :
    sizeOf es < sizeOf (setEntry key y es) := by
  induction es with
  | nil => cases h
  | cons e es ih =>
    obtain ⟨k, w⟩ := e
    by_cases hk : k.same key = true
    · simp only [entryAt?, entryWith?, List.find?_cons, hk, Option.map_some] at h
      cases h
      simp [setEntry, hk]; omega
    · simp only [entryAt?, entryWith?, List.find?_cons, hk] at h
      have hrest := ih h
      simp [setEntry, hk]; omega

/-- A container with a larger member is larger. -/
theorem sizeOf_lt_replace {a x y : Value} {step : Step} (h : a.child? step = some x)
    (hxy : sizeOf x < sizeOf y) : sizeOf a < sizeOf (a.replace step y) := by
  unfold child? at h
  split at h
  · have hs := sizeOf_lt_setEntry h hxy
    simp [replace]; omega
  · have hs := sizeOf_lt_set h hxy
    simp [replace]; omega
  · have hs := sizeOf_lt_set h hxy
    simp [replace]; omega
  · cases h

/-- An injection makes a value larger. -/
theorem Injection.sizeOf_lt {a b : Value} {d : Deposit} (h : Injection a d b) :
    sizeOf a < sizeOf b := by
  induction h with
  | @entry es key v _ =>
    have hs := sizeOf_lt_append es (key, v) []
    simp; omega
  | @element items i v _ =>
    -- a list may be padded up to the index, and the value comes last
    cases hn : List.replicate (i - items.length) Value.null with
    | nil =>
      have hs := sizeOf_lt_append items v []
      simp; omega
    | cons n ns =>
      have hs := sizeOf_lt_append items n (ns ++ [v])
      simp; omega
  | member h _ ih => exact sizeOf_lt_replace h ih

/-- Each injection makes the value larger by one at least. -/
theorem Injections.sizeOf_le {a b : Value} {ds : List Deposit} (h : Injections a ds b) :
    sizeOf a + ds.length ≤ sizeOf b := by
  induction h with
  | none => simp
  | later _ last ih =>
    have hlast := last.sizeOf_lt
    simp; omega

/-- A value is what it was exactly if nothing has been injected. -/
theorem Injections.eq_iff {a b : Value} {ds : List Deposit} (h : Injections a ds b) :
    b = a ↔ ds = [] := by
  constructor
  · rintro rfl
    -- each deposit has made the value larger
    have hs := h.sizeOf_le
    exact List.length_eq_zero_iff.mp (by omega)
  · intro hds
    cases h with
    | none => rfl
    | later _ _ => simp at hds

/-- Injections after injections are injections. -/
theorem Injections.trans {a b c : Value} {ds es : List Deposit} (h : Injections a ds b)
    (h' : Injections b es c) : Injections a (ds ++ es) c := by
  induction h' with
  | none => rwa [List.append_nil]
  | later _ last ih =>
    rw [← List.append_assoc]
    exact .later ih last

/-- A value that has come of another one by injections. -/
def Grown (a b : Value) : Prop := ∃ ds, Injections a ds b

theorem Grown.refl (a : Value) : Grown a a := ⟨[], .none⟩

theorem Grown.trans {a b c : Value} (h : Grown a b) (h' : Grown b c) : Grown a c := by
  obtain ⟨ds, hab⟩ := h
  obtain ⟨es, hbc⟩ := h'
  exact ⟨ds ++ es, hab.trans hbc⟩

/-- Values that have come of each other are the same. -/
theorem Grown.antisymm {a b : Value} (h : Grown a b) (h' : Grown b a) : b = a := by
  obtain ⟨ds, hab⟩ := h
  obtain ⟨es, hba⟩ := h'
  have hle := hab.sizeOf_le
  have hge := hba.sizeOf_le
  exact hab.eq_iff.mpr (List.length_eq_zero_iff.mp (by omega))

end Value

/-! ## Slots -/

namespace Slot

/-- A slot with one more default in it: put where it was free, over a list element counted from the
    end, or injected into the value that is there. -/
inductive Injection : Slot → Deposit → Slot → Prop
  | fill (v : Value) : Injection .free ⟨[], v⟩ (.filled v)
  | onTop (old : Option Value) (v : Value) : Injection (.fromEnd old) ⟨[], v⟩ (.fromEnd (some v))
  | within {a b : Value} {d : Deposit} (h : a.Injection d b) :
    Injection (.present a) d (.present b)

/-- A slot with several more defaults in it, put there in the order of the list. -/
inductive Injections (ρ : Slot) : List Deposit → Slot → Prop
  | none : Injections ρ [] ρ
  | later {σ τ : Slot} {ds : List Deposit} {d : Deposit} (first : Injections ρ ds σ)
    (last : Injection σ d τ) : Injections ρ (ds ++ [d]) τ

/-- A slot that receives nothing is what it was. -/
theorem Injections.eq_of_nil {ρ σ : Slot} {ds : List Deposit} (h : Injections ρ ds σ)
    (hds : ds = []) : σ = ρ := by
  cases h with
  | none => rfl
  | later _ _ => simp at hds

/-- In a slot that holds a value, it is the value that receives all injections. -/
theorem Injections.of_present {a : Value} {ds : List Deposit} {τ : Slot}
    (h : Injections (.present a) ds τ) : ∃ b, τ = .present b ∧ a.Injections ds b := by
  induction h with
  | none => exact ⟨a, rfl, .none⟩
  | later _ last ih =>
    obtain ⟨b, rfl, hb⟩ := ih
    cases last with
    | within hc => exact ⟨_, rfl, .later hb hc⟩

/-- A slot that cannot receive anything is left as it was. -/
theorem Injections.eq_of_barred {σ τ : Slot} {ds : List Deposit} (h : σ.Injections ds τ)
    (hbarred : ∀ d ρ, ¬ σ.Injection d ρ) : τ = σ ∧ ds = [] := by
  induction h with
  | none => exact ⟨rfl, rfl⟩
  | later _ last ih =>
    obtain ⟨rfl, -⟩ := ih
    exact absurd last (hbarred _ _)

/-- A slot that counts as held receives none. -/
theorem Injections.of_held {ds : List Deposit} {τ : Slot} (h : Injections .held ds τ) :
    τ = .held ∧ ds = [] := by
  induction h with
  | none => exact ⟨rfl, rfl⟩
  | later _ last ih =>
    obtain ⟨rfl, _⟩ := ih
    cases last

/-- A slot that is free receives nothing, or one default. -/
theorem Injections.of_free {ds : List Deposit} {τ : Slot} (h : Injections .free ds τ) :
    (ds = [] ∧ τ = .free) ∨ ∃ v, ds = [⟨[], v⟩] ∧ τ = .filled v := by
  induction h with
  | none => exact Or.inl ⟨rfl, rfl⟩
  | later _ last ih =>
    -- a slot that has been filled takes nothing more
    rcases ih with ⟨rfl, rfl⟩ | ⟨v, rfl, rfl⟩
    · cases last with
      | fill v => exact Or.inr ⟨v, rfl, rfl⟩
    · cases last

/-- The slots that a member of a container can have come to by injections: that of the member
    itself, one with a grown member, or one that was free and has been filled. -/
inductive Below (container : Value) (step : Step) : Slot → Prop
  | found : Below container step (container.slotBelow step)
  | grown {x : Value} (h : container.child? step = some x) (y : Value) :
    Below container step (.present y)
  | filled (h : container.slotBelow step = .free) (v : Value) : Below container step (.filled v)

end Slot

namespace Value

/-- Of two values set under one key the later one counts. -/
theorem setEntry_setEntry (es : List (Key × Value)) (key : Key) (y z : Value) :
    setEntry key z (setEntry key y es) = setEntry key z es := by
  induction es with
  | nil => rfl
  | cons e es ih =>
    obtain ⟨k, w⟩ := e
    by_cases hk : k.same key = true
    · simp [setEntry, hk]
    · simp [setEntry, hk, ih]

/-- The member that has been exchanged is found in its place. -/
theorem child?_replace {a x : Value} {step : Step} (h : a.child? step = some x) (y : Value) :
    (a.replace step y).child? step = some y := by
  unfold child? at h
  split at h
  · exact entryAt?_setEntry _ _ y x h
  · exact List.getElem?_set_self (List.getElem?_eq_some_iff.mp h).1
  · exact List.getElem?_set_self (List.getElem?_eq_some_iff.mp h).1
  · cases h

/-- Of two exchanges of a member the later one counts. -/
theorem replace_replace (a : Value) (step : Step) (y z : Value) :
    (a.replace step y).replace step z = a.replace step z := by
  cases a <;> cases step <;> simp [replace, setEntry_setEntry]

/-- A member whose slot is free is missing from a mapping, or beyond the end of a list. -/
theorem injection_adopt {c : Value} {step : Step} (h : c.slotBelow step = .free) (v : Value) :
    c.Injection ⟨[step], v⟩ (c.adopt step v) := by
  unfold slotBelow at h
  split at h
  · next x _ => cases x <;> cases h
  · next hc =>
    -- a gap is free below mappings and lists only
    unfold gap at h
    split at h
    · exact .entry v hc
    · exact .element v (List.getElem?_eq_none_iff.mp hc)
    · cases h

/-- A slot that holds a value was found where there is a member. -/
theorem child?_of_slotBelow {c a : Value} {step : Step} (h : c.slotBelow step = .present a) :
    c.child? step = some a := by
  unfold slotBelow at h
  split at h
  · next x hx =>
    cases x <;> cases h <;> exact hx
  · rcases c.gap_eq step with hg | hg <;> rw [hg] at h <;> cases h

/-- No step into a container counts from the end. -/
theorem slotBelow_ne_fromEnd (c : Value) (step : Step) (old : Option Value) :
    c.slotBelow step ≠ .fromEnd old := by
  intro h
  unfold slotBelow at h
  split at h
  · next x _ => cases x <;> cases h
  · rcases c.gap_eq step with hg | hg <;> rw [hg] at h <;> cases h

end Value

/-- An injection into a member's slot is one into the container, and leaves a slot that the member
    can have come to. -/
theorem Slot.Below.settle {container : Value} {step : Step} {σ τ : Slot} {d : Deposit}
    (hσ : Below container step σ) (h : Injection σ d τ) :
    Below container step τ ∧
      (container.settle step σ).Injection (d.below step) (container.settle step τ) := by
  cases hσ with
  | found =>
    generalize hfound : container.slotBelow step = σ at h
    -- what is injected depends on what the slot is found as
    cases h with
    | fill v => exact ⟨.filled hfound v, Value.injection_adopt hfound v⟩
    | onTop old v => exact absurd hfound (container.slotBelow_ne_fromEnd step old)
    | @within a b d hab =>
      have hchild := Value.child?_of_slotBelow hfound
      refine ⟨.grown hchild b, ?_⟩
      -- the slot was found like this, so putting it back changes nothing
      rw [show container.settle step (.present a) = container from Value.replace_self hchild]
      exact .member hchild hab
  | grown hchild y =>
    cases h with
    | @within _ z d hyz =>
      refine ⟨.grown hchild z, ?_⟩
      have hinner := Value.Injection.member (Value.child?_replace hchild y) hyz
      -- two exchanges of one member are one
      rwa [Value.replace_replace] at hinner
  | filled hfree v => cases h

end Conformance

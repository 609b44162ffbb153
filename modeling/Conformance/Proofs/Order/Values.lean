/-
  Values whose keys stand in another order.

  Two values are the same up to the order of keys (`Value.reordered`) if one comes of the other by
  putting the entries of mappings in another order, at any depth.  Mappings hold each key once, which
  is made part of the relation: a value is related to itself exactly if its mappings do.

  Whatever a rule reads of a value is the same up to the order of keys: its class, whether it counts
  as true, what it has under a name or a step (`reordered_child?`), and what it is equal to
  (`equal_reordered`).
-/
import Mathlib.Data.List.Perm.Basic
import Conformance.Proofs.Visits

namespace Conformance

namespace Value

mutual

/-- The second value is the first one with the entries of its mappings in another order, each mapping
    holding each key once. -/
def reordered : Value → Value → Prop
  | .list as, b => match b with
    | .list bs => reorderedItems as bs
    | _ => False
  | .tuple as, b => match b with
    | .tuple bs => reorderedItems as bs
    | _ => False
  | .map es, b => match b with
    | .map fs => distinctKeys es = true ∧ ∃ gs, gs.Perm fs ∧ reorderedEntries es gs
    | _ => False
  | .missing, b => b = .missing
  | .null, b => b = .null
  | .bool x, b => b = .bool x
  | .int i, b => b = .int i
  | .float x, b => b = .float x
  | .str s, b => b = .str s
  | .cls c, b => b = .cls c

/-- Element by element. -/
def reorderedItems : List Value → List Value → Prop
  | [], bs => bs = []
  | a :: as, bs => match bs with
    | b :: bs => reordered a b ∧ reorderedItems as bs
    | [] => False

/-- Entry by entry, under the same keys. -/
def reorderedEntries : List (Key × Value) → List (Key × Value) → Prop
  | [], fs => fs = []
  | (k, a) :: es, fs => match fs with
    | (l, b) :: fs => k = l ∧ reordered a b ∧ reorderedEntries es fs
    | [] => False

end

/-- Entries under one key with values that are the same up to the order of keys. -/
def SameEntry (e f : Key × Value) : Prop := e.1 = f.1 ∧ e.2.reordered f.2

/-- Lists are the same up to the order of keys when their elements are, one by one. -/
theorem reorderedItems_iff {as bs : List Value} :
    reorderedItems as bs ↔ List.Forall₂ reordered as bs := by
  induction as generalizing bs with
  | nil => simp [reorderedItems]
  | cons a as ih => cases bs <;> simp [reorderedItems, ih]

/-- Entries in the same order are the same when their keys and values are. -/
theorem reorderedEntries_iff {es fs : List (Key × Value)} :
    reorderedEntries es fs ↔ List.Forall₂ SameEntry es fs := by
  induction es generalizing fs with
  | nil => simp [reorderedEntries]
  | cons e es ih =>
    obtain ⟨k, a⟩ := e
    cases fs with
    | nil => simp [reorderedEntries]
    | cons f fs =>
      obtain ⟨l, b⟩ := f
      simp [reorderedEntries, SameEntry, ih, and_assoc]

/-- A list is the same as lists only. -/
theorem reordered_list {as : List Value} {b : Value} : (list as).reordered b ↔
    ∃ bs, b = .list bs ∧ List.Forall₂ reordered as bs := by
  cases b <;> simp [reordered, reorderedItems_iff]

theorem reordered_tuple {as : List Value} {b : Value} : (tuple as).reordered b ↔
    ∃ bs, b = .tuple bs ∧ List.Forall₂ reordered as bs := by
  cases b <;> simp [reordered, reorderedItems_iff]

/-- A mapping is the same as mappings only: those whose entries, in some order, are the same as its
    own. -/
theorem reordered_map {es : List (Key × Value)} {b : Value} : (map es).reordered b ↔
    distinctKeys es = true ∧ ∃ fs gs, b = .map fs ∧ gs.Perm fs ∧ List.Forall₂ SameEntry es gs := by
  cases b <;> simp [reordered, reorderedEntries_iff]

/-- What being the same up to the order of keys means, container by container. -/
inductive Reorder : Value → Value → Prop
  | list {as bs : List Value} (items : List.Forall₂ reordered as bs) : Reorder (.list as) (.list bs)
  | tuple {as bs : List Value} (items : List.Forall₂ reordered as bs) :
    Reorder (.tuple as) (.tuple bs)
  | map {es fs gs : List (Key × Value)} (keys : distinctKeys es = true) (order : gs.Perm fs)
    (entries : List.Forall₂ SameEntry es gs) : Reorder (.map es) (.map fs)
  | same (a : Value) (array : a.elements? = none) (object : a.isMap = false) : Reorder a a

/-- The relation, unfolded by container. -/
theorem reorder_of_reordered {a b : Value} (h : a.reordered b) : Reorder a b := by
  cases a with
  | list as =>
    obtain ⟨bs, rfl, hab⟩ := reordered_list.mp h
    exact .list hab
  | tuple as =>
    obtain ⟨bs, rfl, hab⟩ := reordered_tuple.mp h
    exact .tuple hab
  | map es =>
    obtain ⟨hkeys, fs, gs, rfl, hperm, hentries⟩ := reordered_map.mp h
    exact .map hkeys hperm hentries
  | _ =>
    -- an atom is the same as itself only
    obtain rfl : b = _ := h
    exact .same _ rfl rfl

/-! ## An equivalence -/

section Lists

variable {α β γ : Type} {R : α → β → Prop} {S : β → γ → Prop}

/-- A relation between two lists may make use of what the elements of the first one are. -/
theorem forall₂_of_mem {R' : α → β → Prop} {as : List α} {bs : List β} (h : List.Forall₂ R as bs)
    (himp : ∀ a ∈ as, ∀ b, R a b → R' a b) : List.Forall₂ R' as bs := by
  induction h with
  | nil => exact .nil
  | cons hab _ ih =>
    exact .cons (himp _ (List.mem_cons_self ..) _ hab)
      (ih fun a ha => himp a (List.mem_cons_of_mem _ ha))

/-- Two steps from list to list make one. -/
theorem forall₂_comp {T : α → γ → Prop} {as : List α} {bs : List β} {cs : List γ}
    (h : List.Forall₂ R as bs) (h' : List.Forall₂ S bs cs)
    (htrans : ∀ a ∈ as, ∀ b c, R a b → S b c → T a c) : List.Forall₂ T as cs := by
  induction h generalizing cs with
  | nil =>
    cases h'
    exact .nil
  | cons hab _ ih =>
    cases h' with
    | cons hbc hrest =>
      exact .cons (htrans _ (List.mem_cons_self ..) _ _ hab hbc)
        (ih hrest fun a ha => htrans a (List.mem_cons_of_mem _ ha))

/-- Each element of the second list has a counterpart in the first one. -/
theorem exists_of_mem_right {as : List α} {bs : List β} (h : List.Forall₂ R as bs) {b : β}
    (hb : b ∈ bs) : ∃ a ∈ as, R a b := by
  induction h with
  | nil => cases hb
  | cons hab _ ih =>
    rcases List.mem_cons.mp hb with rfl | hb
    · exact ⟨_, List.mem_cons_self .., hab⟩
    · obtain ⟨a, ha, hab⟩ := ih hb
      exact ⟨a, List.mem_cons_of_mem _ ha, hab⟩

theorem map_eq_of_forall₂ {f : α → γ} {g : β → γ} {as : List α} {bs : List β}
    (h : List.Forall₂ R as bs) (hfg : ∀ a b, R a b → f a = g b) : bs.map g = as.map f := by
  induction h with
  | nil => rfl
  | cons hab _ ih => rw [List.map_cons, List.map_cons, ih, hfg _ _ hab]

end Lists

/-- Entries that are the same have the same keys, in the same order. -/
theorem forall₂_keys {es fs : List (Key × Value)} (h : List.Forall₂ SameEntry es fs) :
    fs.map (·.1) = es.map (·.1) := map_eq_of_forall₂ h fun _ _ hef => hef.1

/-- Whether keys are told apart is no matter of their order. -/
theorem distinctKeys_of_perm {es fs : List (Key × Value)}
    (h : (es.map (·.1)).Perm (fs.map (·.1))) (hes : distinctKeys es = true) :
    distinctKeys fs = true := by
  rw [distinctKeys_iff] at hes ⊢
  refine ⟨fun k hk => hes.1 k (h.mem_iff.mpr hk), (h.pairwise_iff ?_).mp hes.2⟩
  -- being the same is symmetric on keys, so a pair may be met in either order
  intro k l hkl
  exact Bool.eq_false_iff.mpr fun hlk => absurd (Key.same_symm hlk) (by simp [hkl])

/-- What holds of a value if it holds of its parts holds of every value. -/
theorem induction_parts {P : Value → Prop} (h : ∀ v : Value, (∀ x ∈ v.parts, P x) → P v)
    (v : Value) : P v :=
  h v fun x hx =>
    have : sizeOf x < sizeOf v := sizeOf_lt_of_mem_parts hx
    induction_parts h x
termination_by sizeOf v

/-- Of two things that are related, one is there if the other is. -/
theorem exists_of_rel {α β : Type} {R : α → β → Prop} {x : Option α} {y : Option β} {a : α}
    (h : Option.Rel R x y) (hx : x = some a) : ∃ b, y = some b ∧ R a b := by
  subst hx
  cases h with
  | some hab => exact ⟨_, rfl, hab⟩

theorem mem_parts_of_mem {es : List (Key × Value)} {e : Key × Value} (h : e ∈ es) :
    e.2 ∈ (map es).parts := List.mem_map_of_mem h

/-- A value is the same as itself, if its mappings hold each key once. -/
theorem reordered_refl {v : Value} (h : v.wellKeyed = true) : v.reordered v := by
  induction v using induction_parts with
  | h v ih =>
    -- each mapping inside holds each key once, so each part is the same as itself
    obtain ⟨hkeys, hparts⟩ := everyMapping_iff.mp h
    have hsame (x : Value) (hx : x ∈ v.parts) : x.reordered x := ih x hx (hparts x hx)
    cases v with
    | list as => exact reordered_list.mpr ⟨as, rfl, List.forall₂_same.mpr hsame⟩
    | tuple as => exact reordered_tuple.mpr ⟨as, rfl, List.forall₂_same.mpr hsame⟩
    | map es =>
      exact reordered_map.mpr ⟨hkeys, es, es, rfl, .refl _,
        List.forall₂_same.mpr fun e he => ⟨rfl, hsame e.2 (mem_parts_of_mem he)⟩⟩
    | _ => rfl

/-- Putting keys in another order can be undone. -/
theorem reordered_symm {a b : Value} (h : a.reordered b) : b.reordered a := by
  induction a using induction_parts generalizing b with
  | h a ih =>
    cases reorder_of_reordered h with
    | list hitems =>
      exact reordered_list.mpr ⟨_, rfl, (forall₂_of_mem hitems fun x hx y => ih x hx).flip⟩
    | tuple hitems =>
      exact reordered_tuple.mpr ⟨_, rfl, (forall₂_of_mem hitems fun x hx y => ih x hx).flip⟩
    | @map es fs gs hkeys hperm hentries =>
      have hback : List.Forall₂ SameEntry gs es := by
        refine .flip (forall₂_of_mem hentries fun e he f hef => ?_)
        exact ⟨hef.1.symm, ih e.2 (mem_parts_of_mem he) hef.2⟩
      -- to undo a change of order and a change of entries they have to change places
      obtain ⟨hs, hfs, hhs⟩ := List.perm_comp_forall₂ hperm.symm hback
      refine reordered_map.mpr ⟨distinctKeys_of_perm ?_ hkeys, es, hs, rfl, hhs, hfs⟩
      rw [← forall₂_keys hentries]
      exact hperm.map _
    | same => exact h

/-- Two changes of order are one. -/
theorem reordered_trans {a b c : Value} (h : a.reordered b) (h' : b.reordered c) :
    a.reordered c := by
  induction a using induction_parts generalizing b c with
  | h a ih =>
    cases reorder_of_reordered h with
    | list hitems =>
      obtain ⟨cs, rfl, hitems'⟩ := reordered_list.mp h'
      exact reordered_list.mpr ⟨cs, rfl, forall₂_comp hitems hitems' fun x hx y z => ih x hx⟩
    | tuple hitems =>
      obtain ⟨cs, rfl, hitems'⟩ := reordered_tuple.mp h'
      exact reordered_tuple.mpr ⟨cs, rfl, forall₂_comp hitems hitems' fun x hx y z => ih x hx⟩
    | map hkeys hperm hentries =>
      obtain ⟨_, hs, ks, rfl, hperm', hentries'⟩ := reordered_map.mp h'
      -- the second change of order is carried over to the entries as the first one has left them
      obtain ⟨ls, hgl, hlk⟩ := List.perm_comp_forall₂ hperm hentries'
      refine reordered_map.mpr ⟨hkeys, hs, ls, rfl, hlk.trans hperm', ?_⟩
      exact forall₂_comp hentries hgl fun e he f g hef hfg =>
        ⟨hef.1.trans hfg.1, ih e.2 (mem_parts_of_mem he) hef.2 hfg.2⟩
    | same => exact h'

/-- The mappings of a value that is the same as another one hold each key once. -/
theorem reordered_self {a b : Value} (h : a.reordered b) : a.reordered a :=
  reordered_trans h (reordered_symm h)

theorem eq_missing_of_reordered {a : Value} (h : a.reordered .missing) : a = .missing :=
  reordered_symm h

/-- Entries may stand in another order. -/
theorem reordered_of_perm {es fs : List (Key × Value)} (h : es.Perm fs)
    (hes : (map es).reordered (map es)) : (map es).reordered (map fs) := by
  obtain ⟨hkeys, _, gs, ⟨⟩, hperm, hentries⟩ := reordered_map.mp hes
  exact reordered_map.mpr ⟨hkeys, fs, gs, rfl, hperm.trans h, hentries⟩

/-! ## What is read of a value -/

section Reading

variable {a b : Value} (h : a.reordered b)

include h

/-- The class of a value is no matter of order. -/
theorem class?_of_reordered : b.class? = a.class? := by
  cases reorder_of_reordered h <;> rfl

theorem isMap_of_reordered : b.isMap = a.isMap := isMap_of_class? (class?_of_reordered h)

/-- Whether a rule counts as given is no matter of order, -/
theorem isGiven_of_reordered : b.isGiven = a.isGiven := by
  cases reorder_of_reordered h <;> rfl

theorem number?_of_reordered : b.number? = a.number? := by
  cases reorder_of_reordered h <;> rfl

/-- nor is whether a value counts as true, because that depends on there being entries at all. -/
theorem isTruthy_of_reordered : b.isTruthy = a.isTruthy := by
  -- lists that are related one by one are empty together
  have hempty {α β : Type} {R : α → β → Prop} {as : List α} {bs : List β}
      (h : List.Forall₂ R as bs) : bs.isEmpty = as.isEmpty := by cases h <;> rfl
  cases reorder_of_reordered h with
  | list hitems => simp [isTruthy, hempty hitems]
  | tuple hitems => simp [isTruthy, hempty hitems]
  | map _ hperm hentries =>
    rw [isTruthy, isTruthy, ← hempty hentries, hperm.isEmpty_eq]
  | same => rfl

/-- The keys are the same, in some order. -/
theorem keys_of_reordered : a.keys.Perm b.keys := by
  cases reorder_of_reordered h with
  | map _ hperm hentries =>
    rw [keys_map, keys_map, ← forall₂_keys hentries]
    exact hperm.map _
  | _ => exact .refl _

/-- Whether there is an entry under a key is no matter of order either. -/
theorem hasKey_of_reordered (key : Key) : b.hasKey key = a.hasKey key := by
  rw [hasKey_eq, hasKey_eq]
  exact ((keys_of_reordered h).any_eq).symm

/-- The entries are the same, in some order. -/
theorem entries_of_reordered : ∃ gs, gs.Perm b.entries ∧ List.Forall₂ SameEntry a.entries gs := by
  cases reorder_of_reordered h with
  | map _ hperm hentries => exact ⟨_, hperm, hentries⟩
  | same _ _ hobject =>
    cases a <;> first | exact ⟨[], .refl _, .nil⟩ | exact absurd hobject nofun
  | _ => exact ⟨[], .refl _, .nil⟩

/-- A mapping that is the same as another one holds each key once. -/
theorem atTop_of_reordered : a.atTop distinctKeys = true := by
  cases reorder_of_reordered h with
  | map hkeys => exact hkeys
  | same _ _ hobject =>
    cases a <;> first | rfl | exact absurd hobject nofun
  | _ => rfl

/-- Arrays have as many elements, each the same as its counterpart. -/
theorem elements?_of_reordered :
    Option.Rel (List.Forall₂ reordered) a.elements? b.elements? := by
  cases reorder_of_reordered h with
  | list hitems => exact .some hitems
  | tuple hitems => exact .some hitems
  | map => exact .none
  | same _ harray =>
    rw [harray]
    exact .none

/-- Arrays that are the same are of one length. -/
theorem length_of_reordered : (b.elements?.getD []).length = (a.elements?.getD []).length := by
  have hrel := elements?_of_reordered h
  generalize a.elements? = x at hrel
  generalize b.elements? = y at hrel
  cases hrel with
  | none => rfl
  | some hitems => exact hitems.length_eq.symm

theorem listItems_of_reordered : List.Forall₂ reordered a.listItems b.listItems := by
  cases reorder_of_reordered h with
  | list hitems => exact hitems
  | same _ harray =>
    cases a <;> first | exact .nil | cases harray
  | _ => exact .nil

end Reading

/-! ## Looking up -/

/-- Where keys are told apart, what is found under a key is what some entry has under one that is the
    same. -/
theorem entryAt?_eq_some_iff {es : List (Key × Value)} (h : distinctKeys es = true) {key : Key}
    {v : Value} : entryAt? key es = some v ↔ ∃ e ∈ es, e.1.same key = true ∧ e.2 = v := by
  refine ⟨fun hv => ?_, fun hv => ?_⟩
  · obtain ⟨e, he, rfl⟩ := Option.map_eq_some_iff.mp hv
    exact ⟨e, List.mem_of_find?_eq_some he, by simpa using List.find?_some he, rfl⟩
  · induction es with
    | nil =>
      obtain ⟨_, he, _⟩ := hv
      cases he
    | cons f rest ih =>
      obtain ⟨k, w⟩ := f
      -- by induction on the entries: the first one is met first, and no later one has its key
      simp only [distinctKeys, Bool.and_eq_true, Option.isNone_iff_eq_none,
        entryAt?_eq_none_iff] at h
      obtain ⟨⟨_, hnew⟩, hrest⟩ := h
      obtain ⟨e, he, hsame, rfl⟩ := hv
      have hcons : entryAt? key ((k, w) :: rest) =
          if k.same key = true then some w else entryAt? key rest := by
        unfold entryAt? entryWith?
        rw [List.find?_cons]
        cases k.same key <;> rfl
      rw [hcons]
      rcases List.mem_cons.mp he with rfl | he
      · rw [if_pos hsame]
      · -- no later entry has the key of the first one
        have hno : k.same key = false := by
          refine Bool.eq_false_iff.mpr fun hk => ?_
          have hfirst := hnew e.1 (List.mem_map_of_mem he)
          rw [Key.same_trans hsame (Key.same_symm hk)] at hfirst
          cases hfirst
        rw [if_neg (by simp [hno])]
        exact ih hrest ⟨e, he, hsame, rfl⟩

/-- Where keys are told apart, looking up a key finds the same in any order of the entries. -/
theorem entryAt?_perm {es fs : List (Key × Value)} (h : es.Perm fs) (hes : distinctKeys es = true)
    (key : Key) : entryAt? key fs = entryAt? key es := by
  have hfs : distinctKeys fs = true := distinctKeys_of_perm (h.map _) hes
  -- what is found is told by membership, which no order changes
  refine Option.ext fun v => ?_
  rw [entryAt?_eq_some_iff hfs, entryAt?_eq_some_iff hes]
  simp only [h.mem_iff]

/-- In entries that are the same one by one, looking up a key finds values that are the same. -/
theorem entryAt?_forall₂ {es fs : List (Key × Value)} (h : List.Forall₂ SameEntry es fs)
    (key : Key) : Option.Rel reordered (entryAt? key es) (entryAt? key fs) := by
  induction h with
  | nil => exact .none
  | @cons e f es fs hef _ ih =>
    unfold entryAt? entryWith? at ih ⊢
    rw [List.find?_cons, List.find?_cons, ← hef.1]
    cases e.1.same key with
    | true => exact .some hef.2
    | false => exact ih

/-- In lists that are related one by one, so are the elements at an index. -/
theorem getElem?_forall₂ {α β : Type} {R : α → β → Prop} {as : List α} {bs : List β}
    (h : List.Forall₂ R as bs) (i : Nat) : Option.Rel R as[i]? bs[i]? := by
  induction h generalizing i with
  | nil => exact .none
  | cons hab _ ih =>
    cases i with
    | zero => exact .some hab
    | succ i => exact ih i

section Reading

variable {a b : Value} (h : a.reordered b)

include h

/-- What stands one step down is the same up to the order of keys. -/
theorem child?_of_reordered (step : Step) :
    Option.Rel reordered (a.child? step) (b.child? step) := by
  cases reorder_of_reordered h with
  | list hitems =>
    cases step with
    | entry k => exact .none
    | index i => exact getElem?_forall₂ hitems i
  | tuple hitems =>
    cases step with
    | entry k => exact .none
    | index i => exact getElem?_forall₂ hitems i
  | @map es fs gs hkeys hperm hentries =>
    cases step with
    | index i => exact .none
    | entry k =>
      have hgs : distinctKeys gs = true :=
        distinctKeys_of_perm (by rw [forall₂_keys hentries]) hkeys
      show Option.Rel reordered (entryAt? k es) (entryAt? k fs)
      rw [entryAt?_perm hperm hgs]
      exact entryAt?_forall₂ hentries k
  | same _ harray hobject =>
    cases a with
    | list _ => cases harray
    | tuple _ => cases harray
    | map _ => exact absurd hobject nofun
    | _ => exact .none

/-- What stands under a name is the same up to the order of keys. -/
theorem get?_of_reordered (name : String) :
    Option.Rel reordered (a.get? name) (b.get? name) := by
  rw [← child?_name, ← child?_name]
  exact child?_of_reordered h _

/-- So it is where nothing stands for null. -/
theorem getD_of_reordered (name : String) :
    ((a.get? name).getD .null).reordered ((b.get? name).getD .null) := by
  have hrel := get?_of_reordered h name
  generalize a.get? name = x at hrel
  generalize b.get? name = y at hrel
  cases hrel with
  | none => rfl
  | some hv => exact hv

/-- What is found among the entries, if there are any. -/
theorem entryAt?_of_reordered (key : Key) :
    Option.Rel reordered (entryAt? key a.entries) (entryAt? key b.entries) := by
  have hchild := child?_of_reordered h (.entry key)
  cases reorder_of_reordered h with
  | map => exact hchild
  | same _ _ hobject =>
    cases a <;> first | exact .none | exact absurd hobject nofun
  | _ => exact .none

/-- A rule is given in both or in neither. -/
theorem rule?_of_reordered (name : String) :
    Option.Rel reordered (a.rule? name) (b.rule? name) := by
  have hget := get?_of_reordered h name
  unfold rule?
  revert hget
  generalize a.get? name = x
  generalize b.get? name = y
  intro hget
  cases hget with
  | none => exact .none
  | @some v w hvw =>
    rw [Option.filter_some, Option.filter_some, isGiven_of_reordered hvw]
    cases v.isGiven with
    | true => exact .some hvw
    | false => exact .none

end Reading

/-! ## Equality -/

/-- All entries are equal to what the other mapping has under their keys. -/
theorem entriesEqual_iff {es fs : List (Key × Value)} : entriesEqual es fs = true ↔
    ∀ e ∈ es, ∃ v, entryAt? e.1 fs = some v ∧ e.2.equal v = true := by
  induction es with
  | nil => simp [entriesEqual]
  | cons e es ih =>
    obtain ⟨k, a⟩ := e
    rw [entriesEqual, Bool.and_eq_true, ih, List.forall_mem_cons]
    refine and_congr_left fun _ => ?_
    cases entryAt? k fs <;> simp

/-- Elements are equal one by one. -/
theorem elementsEqual_iff {as bs : List Value} : elementsEqual as bs = true ↔
    List.Forall₂ (fun a b => a.equal b = true) as bs := by
  induction as generalizing bs with
  | nil => cases bs <;> simp [elementsEqual]
  | cons a as ih => cases bs <;> simp [elementsEqual, ih]

/-- A list is equal to an array, be it a tuple, with equal elements. -/
theorem equal_list (as : List Value) (b : Value) :
    (list as).equal b = b.elements?.any (elementsEqual as) := by
  rw [equal]
  cases b.elements? <;> rfl

theorem equal_tuple (as : List Value) (b : Value) :
    (tuple as).equal b = b.elements?.any (elementsEqual as) := by
  rw [equal]
  cases b.elements? <;> rfl

/-- Elements that are equal remain so, if each pair of them does. -/
theorem elementsEqual_of_reordered {as as' bs bs' : List Value}
    (ha : List.Forall₂ reordered as as') (hb : List.Forall₂ reordered bs bs')
    (ih : ∀ a ∈ as, ∀ a' b b', a.reordered a' → b.reordered b' → a.equal b = true →
      a'.equal b' = true)
    (h : elementsEqual as bs = true) : elementsEqual as' bs' = true := by
  rw [elementsEqual_iff] at h ⊢
  -- each pair of equal elements passes equality on to whatever they are put in another order to
  have hall : List.Forall₂
      (fun a b => ∀ a' b', a.reordered a' → b.reordered b' → a'.equal b' = true) as bs :=
    forall₂_of_mem h fun a ha b hab a' b' haa hbb => ih a ha a' b b' haa hbb hab
  have hleft : List.Forall₂ (fun a' b => ∀ b', b.reordered b' → a'.equal b' = true) as' bs :=
    forall₂_comp ha.flip hall fun _ _ _ _ haa hab b' => hab _ b' haa
  exact forall₂_comp hleft hb fun _ _ _ _ hab hbb => hab _ hbb

/-- Mappings that are equal remain so, if the values of their entries do. -/
theorem mapsEqual_of_reordered {es fs : List (Key × Value)} {b b' : Value}
    (ha : (map es).reordered (map fs)) (hb : b.reordered b')
    (ih : ∀ a ∈ es.map (·.2), ∀ a' b b', a.reordered a' → b.reordered b' → a.equal b = true →
      a'.equal b' = true)
    (h : (map es).equal b = true) : (map fs).equal b' = true := by
  cases b with
  | map bs =>
    obtain ⟨_, cs, ds, rfl, hperm', hentries'⟩ := reordered_map.mp hb
    obtain ⟨_, _, gs, ⟨⟩, hperm, hentries⟩ := reordered_map.mp ha
    rw [equal, Bool.and_eq_true, beq_iff_eq, entriesEqual_iff] at h ⊢
    refine ⟨?_, fun f hf => ?_⟩
    · rw [← hperm.length_eq, ← hperm'.length_eq, ← hentries.length_eq, ← hentries'.length_eq, h.1]
    -- an entry of the new mapping comes of an entry of the old one, whose partner is found again in
    -- the other mapping
    · obtain ⟨e, he, hef⟩ := exists_of_mem_right hentries (hperm.mem_iff.mpr hf)
      obtain ⟨v, hv, hequal⟩ := h.2 e he
      obtain ⟨w, hw, hvw⟩ := exists_of_rel (child?_of_reordered hb (.entry e.1)) hv
      refine ⟨w, by rw [← hef.1]; exact hw, ?_⟩
      exact ih e.2 (List.mem_map_of_mem he) f.2 v w hef.2 hvw hequal
  | _ => cases h

/-- Values that are equal remain so when keys are put in another order. -/
theorem equal_of_reordered {a a' b b' : Value} (ha : a.reordered a') (hb : b.reordered b')
    (h : a.equal b = true) : a'.equal b' = true := by
  induction a using induction_parts generalizing a' b b' with
  | h a ih =>
    have hparts : ∀ x ∈ a.parts, ∀ x' y y', x.reordered x' → y.reordered y' → x.equal y = true →
        x'.equal y' = true := fun x hx _ _ _ hxx hyy hxy => ih x hx hxx hyy hxy
    -- lists and tuples alike: only their elements matter for equality
    have harray {as as' : List Value} (hitems : List.Forall₂ reordered as as')
        (has : ∀ x ∈ as, x ∈ a.parts) (h : b.elements?.any (elementsEqual as) = true) :
        b'.elements?.any (elementsEqual as') = true := by
      have hrel := elements?_of_reordered hb
      revert h hrel
      generalize b.elements? = x
      generalize b'.elements? = y
      intro h hrel
      cases hrel with
      | none => cases h
      | some hbs =>
        exact elementsEqual_of_reordered hitems hbs (fun x hx => hparts x (has x hx)) h
    cases reorder_of_reordered ha with
    | list hitems =>
      rw [equal_list] at h ⊢
      exact harray hitems (fun _ => id) h
    | tuple hitems =>
      rw [equal_tuple] at h ⊢
      exact harray hitems (fun _ => id) h
    | map => exact mapsEqual_of_reordered ha hb hparts h
    | same _ hno hmap =>
      have hnumber := number?_of_reordered hb
      cases a with
      | list _ => cases hno
      | tuple _ => cases hno
      | map _ => cases hmap
      | int i =>
        rw [equal] at h ⊢
        rwa [hnumber]
      | float x =>
        rw [equal] at h ⊢
        rwa [hnumber]
      | _ =>
        -- what is left is equal to values of its own class only
        cases reorder_of_reordered hb with
        | same => exact h
        | _ => simp [equal] at h

/-- Whether values are equal is no matter of the order of keys. -/
theorem equal_reordered {a a' b b' : Value} (ha : a.reordered a') (hb : b.reordered b') :
    a'.equal b' = a.equal b :=
  Bool.eq_iff_iff.mpr ⟨equal_of_reordered (reordered_symm ha) (reordered_symm hb),
    equal_of_reordered ha hb⟩

end Value

end Conformance

/-
  Writing in place.

  A copy lies in cells that were not there before (`exists_copy`).  So where no address occurs twice
  in a layout, a write through it changes one container of the document and nothing else
  (`Layout.Becomes`): memory then holds the layout with the value written, the addresses are old or
  new ones, and no old cell outside the document has changed.

  One step of a trail is `Becomes.exchange`, the last one is `Becomes.assign`, and `Holds.putAll` is
  the main statement: what is put into memory along trails is what is written into the value.
-/
import Conformance.Proofs.Memory.Layout

namespace Conformance

namespace Layout

variable {m m' : Memory} {t x : Layout}

/-! ## Copies -/

/-- Memory with a layout in new cells, each of them once. -/
structure Copied (t : Layout) (m m' : Memory) : Prop where
  holds : t.Holds m'
  simple : t.addresses.Nodup
  fresh : ∀ a ∈ t.addresses, m.size ≤ a
  longer : ∃ cells, m'.cells = m.cells ++ cells

/-- Cells that were there before the copy read as they did. -/
theorem Copied.cell?_eq (h : t.Copied m m') {a : Address} (ha : a < m.size) :
    m'.cell? a = m.cell? a := by
  obtain ⟨cells, hcells⟩ := h.longer
  rw [Memory.cell?, hcells, List.getElem?_append_left ha]
  rfl

/-- Copying only adds cells. -/
theorem Copied.size_le (h : t.Copied m m') : m.size ≤ m'.size := by
  obtain ⟨cells, hcells⟩ := h.longer
  simp [Memory.size, hcells]

theorem Copied.none (m : Memory) : (tuple []).Copied m m where
  holds := ⟨trivial, by simp [parts]⟩
  simple := by simp [addresses_eq, own, parts]
  fresh := by simp [addresses_eq, own, parts]
  longer := ⟨[], by simp⟩

/-- An atom needs no cell, as it stands in the word itself. -/
theorem Copied.atom (m : Memory) (a : Atom) : (Layout.atom a).Copied m m where
  holds := ⟨trivial, by simp [parts]⟩
  simple := by simp [addresses_eq, own, parts]
  fresh := by simp [addresses_eq, own, parts]
  longer := ⟨[], by simp⟩

/-- A tuple has no cell of its own. -/
theorem addresses_tuple (items : List Layout) :
    (tuple items).addresses = items.flatMap addresses := by
  rw [addresses_eq]
  rfl

/-- What is copied later lies in other cells. -/
theorem Copied.cons {m₁ m₂ : Memory} {xs : List Layout} (hx : x.Copied m m₁)
    (hxs : (tuple xs).Copied m₁ m₂) : (tuple (x :: xs)).Copied m m₂ := by
  have haddresses : (tuple (x :: xs)).addresses = x.addresses ++ (tuple xs).addresses := by
    simp [addresses_tuple]
  refine ⟨⟨trivial, fun y hy => ?_⟩, ?_, fun a ha => ?_, ?_⟩
  · rcases List.mem_cons.mp hy with rfl | hy
    · exact hx.holds.congr fun a ha => hxs.cell?_eq (hx.holds.lt_size ha)
    · exact hxs.holds.part hy
  · rw [haddresses, List.nodup_append]
    refine ⟨hx.simple, hxs.simple, fun a ha b hb hab => ?_⟩
    have hlow : a < m₁.size := hx.holds.lt_size ha
    have hhigh : m₁.size ≤ b := hxs.fresh b hb
    -- an address of the first copy was there when the second was made, so it is not one of its new
    -- cells
    rw [hab] at hlow
    exact Nat.not_le.mpr hlow hhigh
  · rw [haddresses] at ha
    rcases List.mem_append.mp ha with ha | ha
    · exact hx.fresh a ha
    · exact Nat.le_trans hx.size_le (hxs.fresh a ha)
  · obtain ⟨cells, hcells⟩ := hx.longer
    obtain ⟨more, hmore⟩ := hxs.longer
    exact ⟨cells ++ more, by rw [hmore, hcells, List.append_assoc]⟩

/-- A container around what has been copied takes one more cell. -/
theorem Copied.alloc (h : (tuple t.parts).Copied m m') (hown : t.own = [m'.size]) {c : Cell}
    (hkept : t.Kept (m'.alloc c).2) : t.Copied m (m'.alloc c).2 := by
  have hold : ∀ a < m'.size, (m'.alloc c).2.cell? a = m'.cell? a := by
    intro a ha
    exact List.getElem?_append_left ha
  have haddresses : t.addresses = m'.size :: (tuple t.parts).addresses := by
    rw [addresses_eq, hown, addresses_tuple]
    rfl
  refine ⟨⟨hkept, fun x hx => ?_⟩, ?_, fun a ha => ?_, ?_⟩
  · exact (h.holds.part hx).congr fun a ha => hold a ((h.holds.part hx).lt_size ha)
  -- the new cell lies behind all those that hold the parts
  · rw [haddresses]
    exact List.nodup_cons.mpr ⟨fun hself => Nat.lt_irrefl _ (h.holds.lt_size hself), h.simple⟩
  · rw [haddresses] at ha
    rcases List.mem_cons.mp ha with rfl | ha
    · exact h.size_le
    · exact h.fresh a ha
  · obtain ⟨cells, hcells⟩ := h.longer
    exact ⟨cells ++ [c], by simp [Memory.alloc, hcells]⟩

/-- What has just been allocated is found at the next free address. -/
theorem cell?_alloc (m : Memory) (c : Cell) : (m.alloc c).2.cell? m.size = some c := by
  simp [Memory.alloc, Memory.cell?, Memory.size]

mutual

/-- A copy lies in new cells and reads as what has been copied. -/
theorem exists_copy (m : Memory) : ∀ v : Value, ∃ t : Layout, t.Copied m (m.copy v).2 ∧
    t.word = (m.copy v).1 ∧ t.erase = v
  | .list items => by
    -- the elements are copied first, and the list then gets the cell behind them
    obtain ⟨ts, hcopied, hwords, herase⟩ := exists_copyAll m items
    refine ⟨.list (m.copyAll items).2.size ts, ?_, by simp [Memory.copy, Memory.alloc],
      by simp [herase]⟩
    refine hcopied.alloc (t := .list _ ts) rfl ?_
    rw [Kept, cell?_alloc, hwords]
  | .tuple items => by
    obtain ⟨ts, hcopied, hwords, herase⟩ := exists_copyAll m items
    exact ⟨.tuple ts, hcopied, by simp [Memory.copy, hwords], by simp [herase]⟩
  | .map es => by
    obtain ⟨ts, hcopied, hwords, herase⟩ := exists_copyEntries m es
    refine ⟨.map (m.copyEntries es).2.size ts, ?_, by simp [Memory.copy, Memory.alloc],
      by simp [herase]⟩
    refine hcopied.alloc (t := .map _ ts) rfl ?_
    rw [Kept, cell?_alloc, hwords]
  | .missing => ⟨.atom ⟨.missing, rfl⟩, .atom m _, by simp [Memory.copy], by simp⟩
  | .null => ⟨.atom ⟨.null, rfl⟩, .atom m _, by simp [Memory.copy], by simp⟩
  | .bool b => ⟨.atom ⟨.bool b, rfl⟩, .atom m _, by simp [Memory.copy], by simp⟩
  | .int i => ⟨.atom ⟨.int i, rfl⟩, .atom m _, by simp [Memory.copy], by simp⟩
  | .float x => ⟨.atom ⟨.float x, rfl⟩, .atom m _, by simp [Memory.copy], by simp⟩
  | .str s => ⟨.atom ⟨.str s, rfl⟩, .atom m _, by simp [Memory.copy], by simp⟩
  | .cls c => ⟨.atom ⟨.cls c, rfl⟩, .atom m _, by simp [Memory.copy], by simp⟩

/-- The same for elements, each of which lies behind those before it. -/
theorem exists_copyAll (m : Memory) : ∀ vs : List Value, ∃ ts : List Layout,
    (tuple ts).Copied m (m.copyAll vs).2 ∧ ts.map word = (m.copyAll vs).1 ∧ ts.map erase = vs
  | [] => ⟨[], .none m, rfl, rfl⟩
  | v :: rest => by
    obtain ⟨t, ht, hword, herase⟩ := exists_copy m v
    obtain ⟨ts, hts, hwords, herases⟩ := exists_copyAll (m.copy v).2 rest
    exact ⟨t :: ts, ht.cons hts, by simp [Memory.copyAll, hword, hwords], by simp [herase, herases]⟩

/-- The same for the values of entries. -/
theorem exists_copyEntries (m : Memory) : ∀ es : List (Key × Value),
    ∃ ts : List (Key × Layout), (tuple (ts.map (·.2))).Copied m (m.copyEntries es).2 ∧
      mapHeld word ts = (m.copyEntries es).1 ∧ mapHeld erase ts = es
  | [] => ⟨[], .none m, rfl, rfl⟩
  | (k, v) :: rest => by
    obtain ⟨t, ht, hword, herase⟩ := exists_copy m v
    obtain ⟨ts, hts, hwords, herases⟩ := exists_copyEntries (m.copy v).2 rest
    refine ⟨(k, t) :: ts, ht.cons hts, ?_, ?_⟩
    · simp only [Memory.copyEntries, ← hwords, ← hword]
      rfl
    · rw [← herase, ← herases]
      rfl

end

/-! ## Writing through a layout -/

/-- A document that lies in memory and has changed there: it is the same word, its addresses are
    those that it had or new ones, and no other cell has changed. -/
structure Becomes (t t' : Layout) (m m' : Memory) : Prop where
  holds : t'.Holds m'
  word : t'.word = t.word
  simple : t'.addresses.Nodup
  addresses : ∀ a ∈ t'.addresses, a ∈ t.addresses ∨ m.size ≤ a
  frame : ∀ a < m.size, a ∉ t.addresses → m'.cell? a = m.cell? a
  grows : m.size ≤ m'.size

theorem Becomes.refl (h : t.Holds m) (hsimple : t.addresses.Nodup) : t.Becomes t m m :=
  ⟨h, rfl, hsimple, fun _ ha => Or.inl ha, fun _ _ _ => rfl, Nat.le_refl _⟩

theorem Becomes.trans {t₁ t₂ : Layout} {m₁ m₂ : Memory} (h : t.Becomes t₁ m m₁)
    (h' : t₁.Becomes t₂ m₁ m₂) : t.Becomes t₂ m m₂ where
  holds := h'.holds
  word := h'.word.trans h.word
  simple := h'.simple
  addresses := by
    intro a ha
    rcases h'.addresses a ha with ha | ha
    · exact h.addresses a ha
    · exact Or.inr (Nat.le_trans h.grows ha)
  frame := by
    intro a hlt ha
    -- an old cell outside the document is none of the new ones
    have hnot : a ∉ t₁.addresses := by
      intro hmem
      rcases h.addresses a hmem with hold | hnew
      · exact ha hold
      · exact Nat.not_le.mpr hlt hnew
    rw [h'.frame a (Nat.lt_of_lt_of_le hlt h.grows) hnot, h.frame a hlt ha]
  grows := Nat.le_trans h.grows h'.grows

/-! ### One part -/

/-- Elements that stay the same words leave the cell of a list as it was. -/
theorem map_word_set {items : List Layout} {i : Nat} {y : Layout} (hx : items[i]? = some x)
    (hy : y.word = x.word) : (items.set i y).map word = items.map word := by
  obtain ⟨hi, rfl⟩ := List.getElem?_eq_some_iff.mp hx
  refine List.ext_getElem? fun j => ?_
  -- at the index itself the words are equal, elsewhere nothing has changed
  by_cases hj : i = j
  · subst hj
    simp [hy, hi]
  · simp [hj]

/-- The same for the entries of a mapping. -/
theorem mapHeld_word_putEntry {key : Key} {es : List (Key × Layout)} {y : Layout}
    (hx : heldUnder key es = some x) (hy : y.word = x.word) :
    mapHeld word (putEntry key y es) = mapHeld word es := by
  have hheld : heldUnder key (mapHeld word es) = some x.word := by
    rw [heldUnder_mapHeld, hx]
    rfl
  rw [mapHeld_putEntry, hy, putEntry_self hheld]

/-- A part that has stayed the same word does not show from above. -/
theorem kept_exchange {step : Step} {y : Layout} (hx : t.child? step = some x)
    (hy : y.word = x.word) :
    (t.exchange step y).word = t.word ∧ (t.Kept m → (t.exchange step y).Kept m) := by
  -- a mapping, a list or a tuple: only containers have parts, and each exchanges in its own way
  unfold child? at hx
  split at hx
  · exact ⟨by simp [exchange], by simp [exchange, Kept, mapHeld_word_putEntry hx hy]⟩
  · exact ⟨by simp [exchange], by simp [exchange, Kept, map_word_set hx hy]⟩
  · exact ⟨by simp [exchange, map_word_set hx hy], fun _ => trivial⟩
  · cases hx

/-- The addresses of a part and those around it, which stay when the part is exchanged. -/
theorem exists_others {step : Step} (hx : t.child? step = some x) :
    ∃ others : List Address, t.addresses.Perm (x.addresses ++ others) ∧ t.own ⊆ others ∧
      ∀ y, (t.exchange step y).addresses.Perm (y.addresses ++ others) ∧
        ∀ z ∈ (t.exchange step y).parts, z = y ∨ z ∈ t.parts ∧ z.addresses ⊆ others := by
  -- the part stands between those before and those after it
  obtain ⟨pre, post, hparts, hput⟩ := exists_split hx
  let others := t.own ++ (pre.flatMap addresses ++ post.flatMap addresses)
  have hperm (z : Layout) :
      List.Perm (t.own ++ (pre ++ z :: post).flatMap addresses) (z.addresses ++ others) := by
    rw [List.flatMap_append, List.flatMap_cons]
    have hin := (List.perm_append_comm_assoc (pre.flatMap addresses) z.addresses
      (post.flatMap addresses)).append_left t.own
    exact hin.trans (List.perm_append_comm_assoc ..)
  refine ⟨others, ?_, List.subset_append_left .., fun y => ⟨?_, fun z hz => ?_⟩⟩
  · rw [addresses_eq, hparts]
    exact hperm x
  · rw [addresses_eq, own_exchange, hput]
    exact hperm y
  · rw [hput] at hz
    have hsub {zs : List Layout} (hz : z ∈ zs) : z.addresses ⊆ zs.flatMap addresses :=
      fun a ha => List.mem_flatMap.mpr ⟨z, hz, ha⟩
    rcases List.mem_append.mp hz with hpre | hz
    · refine Or.inr ⟨by simp [hparts, hpre], fun a ha => ?_⟩
      exact List.mem_append_right _ (List.mem_append_left _ (hsub hpre ha))
    · rcases List.mem_cons.mp hz with rfl | hpost
      · exact Or.inl rfl
      · refine Or.inr ⟨by simp [hparts, hpost], fun a ha => ?_⟩
        exact List.mem_append_right _ (List.mem_append_right _ (hsub hpost ha))

/-- **What a write through a part does to the whole.**  If no address occurs twice, the cells around
    the part and those of the other parts are as they were. -/
theorem Becomes.exchange {step : Step} {y : Layout} (ht : t.Holds m) (hsimple : t.addresses.Nodup)
    (hx : t.child? step = some x) (h : x.Becomes y m m') :
    t.Becomes (t.exchange step y) m m' := by
  obtain ⟨others, hold, hown, hexchange⟩ := exists_others hx
  obtain ⟨hnew, hparts⟩ := hexchange y
  obtain ⟨hword, hkept⟩ := kept_exchange (m := m') hx h.word
  obtain ⟨_, hothers, hapart⟩ := List.nodup_append.mp (hold.nodup_iff.mp hsimple)
  have hpart : x.addresses ⊆ t.addresses := fun a ha =>
    hold.mem_iff.mpr (List.mem_append_left _ ha)
  have haround : others ⊆ t.addresses := fun a ha => hold.mem_iff.mpr (List.mem_append_right _ ha)
  -- what is around the part is no part of it, so the change within it does not reach there
  have hsame : ∀ a ∈ others, m'.cell? a = m.cell? a := by
    refine fun a ha => h.frame a (ht.lt_size (haround ha)) fun hax => ?_
    exact hapart a hax a ha rfl
  refine ⟨?holds, hword, ?simple, ?addresses, fun a hlt ha => ?frame, h.grows⟩
  case holds =>
    refine ⟨hkept (ht.own.congr fun a ha => hsame a (hown ha)), fun z hz => ?_⟩
    rcases hparts z hz with rfl | ⟨hz, hsub⟩
    · exact h.holds
    · exact (ht.part hz).congr fun a ha => hsame a (hsub ha)
  case simple =>
    rw [hnew.nodup_iff, List.nodup_append]
    refine ⟨h.simple, hothers, fun a ha b hb hab => ?_⟩
    rw [hab] at ha
    rcases h.addresses b ha with hbx | hfresh
    · exact hapart b hbx b hb rfl
    · exact Nat.not_le.mpr (ht.lt_size (haround hb)) hfresh
  case addresses =>
    intro a ha
    rcases List.mem_append.mp (hnew.mem_iff.mp ha) with hy | hother
    · exact (h.addresses a hy).imp_left fun hax => hpart hax
    · exact Or.inl (haround hother)
  case frame => exact h.frame a hlt fun hax => ha (hpart hax)

/-! ### One cell -/

/-- What is assigned stands in the place of a part, or behind the parts and some padding; or else
    the container is of the other kind and stays as it is. -/
theorem parts_assign (t : Layout) (step : Step) (y : Layout) :
    (t.assign step y).parts = t.parts ∨
      (∃ pre x post, t.parts = pre ++ x :: post ∧ (t.assign step y).parts = pre ++ y :: post) ∨
      ∃ n, (t.assign step y).parts = t.parts ++ List.replicate n (.atom .null) ++ [y] := by
  cases t with
  | list a items =>
    cases step with
    | entry k => exact Or.inl rfl
    | index i =>
      refine Or.inr ?_
      -- an index beyond the end pads the list up to it
      by_cases hi : i < items.length
      · refine Or.inl ⟨items.take i, items[i], items.drop (i + 1), by simp [parts], ?_⟩
        simp [assign, parts, putElement, hi, List.set_eq_take_append_cons_drop]
      · refine Or.inr ⟨i - items.length, ?_⟩
        simp [assign, parts, putElement, hi]
  | map a es =>
    cases step with
    | index i => exact Or.inl rfl
    | entry k =>
      refine Or.inr ?_
      -- an entry is replaced where there is one, and else comes last
      cases hk : heldUnder k es with
      | some x =>
        obtain ⟨pre, l, post, rfl, hput⟩ := exists_split_of_heldUnder hk
        refine Or.inl ⟨pre.map (·.2), x, post.map (·.2), by simp [parts], ?_⟩
        simp [assign, parts, hput y]
      | none =>
        refine Or.inr ⟨0, ?_⟩
        simp [assign, parts, putEntry_of_none hk]
  | _ => exact Or.inl rfl

/-- A part after an assignment is the new one, an old one, or padding. -/
theorem mem_parts_assign {step : Step} {y z : Layout} (hz : z ∈ (t.assign step y).parts) :
    z = y ∨ z ∈ t.parts ∨ z = .atom .null := by
  rcases parts_assign t step y with h | ⟨pre, x, post, h, h'⟩ | ⟨n, h⟩
  · rw [h] at hz
    exact Or.inr (Or.inl hz)
  · rw [h'] at hz
    simp only [List.mem_append, List.mem_cons] at hz
    rw [h]
    rcases hz with hz | hz | hz
    · exact Or.inr (Or.inl (by simp [hz]))
    · exact Or.inl hz
    · exact Or.inr (Or.inl (by simp [hz]))
  · rw [h] at hz
    simp only [List.mem_append, List.mem_singleton] at hz
    rcases hz with (hz | hz) | hz
    · exact Or.inr (Or.inl hz)
    · exact Or.inr (Or.inr (List.eq_of_mem_replicate hz))
    · exact Or.inl hz

/-- Assigning brings in the addresses of what is assigned, and no others. -/
theorem subperm_addresses_assign (t : Layout) (step : Step) (y : Layout) :
    List.Subperm (t.assign step y).addresses (y.addresses ++ t.addresses) := by
  have hparts : List.Subperm ((t.assign step y).parts.flatMap addresses)
      (y.addresses ++ t.parts.flatMap addresses) := by
    have hnull : (Layout.atom .null).addresses = [] := by simp [addresses_eq, own, parts]
    -- the addresses of a part that is replaced are dropped, so there may be fewer
    rcases parts_assign t step y with h | ⟨pre, x, post, h, h'⟩ | ⟨n, h⟩
    · rw [h]
      exact (List.sublist_append_right ..).subperm
    · rw [h, h', List.flatMap_append, List.flatMap_append, List.flatMap_cons, List.flatMap_cons]
      refine (List.perm_append_comm_assoc ..).subperm.trans (List.Sublist.subperm ?_)
      refine (List.Sublist.refl _).append ((List.Sublist.refl _).append ?_)
      exact List.sublist_append_right ..
    · have hpad : (List.replicate n (Layout.atom .null)).flatMap addresses = [] := by
        simp [hnull]
      rw [h, List.flatMap_append, List.flatMap_append, hpad]
      simpa using List.perm_append_comm.subperm
  rw [addresses_eq, own_assign, addresses_eq t]
  refine List.Subperm.trans ?_ (List.perm_append_comm_assoc ..).subperm
  exact (List.subperm_append_left _).mpr hparts

/-- The cell of the container holds the words of what its layout shows. -/
theorem kept_assign {a : Address} {step : Step} {y : Layout} (ht : t.Kept m) (hown : t.own = [a])
    (hm : m'.cell? a = m.cell? a) : (t.assign step y).Kept (m'.assign a step y.word) := by
  -- the cell after the write is the one before it with the word put in
  have hcell := m'.cell?_assign_self a step y.word
  rw [hm] at hcell
  cases t with
  | list b items =>
    obtain rfl : b = a := by simpa [own] using hown
    rw [show m.cell? b = _ from ht] at hcell
    cases step <;> simpa [assign, Kept, Cell.assign, map_putElement] using hcell
  | map b es =>
    obtain rfl : b = a := by simpa [own] using hown
    rw [show m.cell? b = _ from ht] at hcell
    cases step <;> simpa [assign, Kept, Cell.assign, mapHeld_putEntry] using hcell
  | _ => cases hown

/-- **What a write into one cell does to the container.**  What is written lies in new cells, and
    no address occurs twice, so the parts of the container are as they were. -/
theorem Becomes.assign {a : Address} {y : Layout} {m₁ : Memory} (ht : t.Holds m)
    (hsimple : t.addresses.Nodup) (hown : t.own = [a]) (hy : y.Copied m m₁) (step : Step) :
    t.Becomes (t.assign step y) m (m₁.assign a step y.word) := by
  -- the container is old, what is written is new, and only the cell of the container changes
  have ha : a ∈ t.own := by simp [hown]
  have halt : a < m.size := ht.own.lt_size ha
  have hsame : ∀ b < m.size, b ≠ a → (m₁.assign a step y.word).cell? b = m.cell? b := by
    intro b hb hba
    rw [Memory.cell?_assign_of_ne _ hba, hy.cell?_eq hb]
  have hperm := subperm_addresses_assign t step y
  refine ⟨?holds, word_assign t step y, ?simple, ?addresses, fun b hb hbt => ?frame, ?grows⟩
  case holds =>
    refine ⟨kept_assign ht.own hown (hy.cell?_eq halt), fun z hz => ?_⟩
    rcases mem_parts_assign hz with rfl | hz | rfl
    · refine hy.holds.congr fun b hb => Memory.cell?_assign_of_ne _ ?_ _ _
      rintro rfl
      exact Nat.not_le.mpr halt (hy.fresh b hb)
    · refine (ht.part hz).congr fun b hb => hsame b ((ht.part hz).lt_size hb) ?_
      rintro rfl
      -- the container is none of its own parts
      rw [addresses_eq, List.nodup_append] at hsimple
      exact hsimple.2.2 b ha b (List.mem_flatMap.mpr ⟨z, hz, hb⟩) rfl
    · exact ⟨trivial, by simp [parts]⟩
  case simple =>
    obtain ⟨l, hl, hsub⟩ := hperm
    refine hl.nodup_iff.mp (hsub.nodup ?_)
    rw [List.nodup_append]
    refine ⟨hy.simple, hsimple, fun b hb c hc hbc => ?_⟩
    rw [hbc] at hb
    exact Nat.not_le.mpr (ht.lt_size hc) (hy.fresh c hb)
  case addresses =>
    intro b hb
    rcases List.mem_append.mp (hperm.subset hb) with hb | hb
    · exact Or.inr (hy.fresh b hb)
    · exact Or.inl hb
  case frame =>
    refine hsame b hb ?_
    rintro rfl
    exact hbt (mem_addresses.mpr (Or.inl ha))
  case grows =>
    rw [Memory.size_assign]
    exact hy.size_le

/-! ### A whole trail -/

/-- A step down in memory finds the word of the part. -/
theorem step?_word (ht : t.Kept m) (step : Step) :
    m.step? t.word step = (t.child? step).map word := by
  cases t with
  | atom a => cases step <;> simp [Memory.step?, child?]
  | tuple items => cases step <;> simp [Memory.step?, child?]
  | list a items =>
    have hcell : m.cell? a = some (.list (items.map word)) := ht
    cases step <;> simp [Memory.step?, child?, hcell, Cell.child?]
  | map a es =>
    have hcell : m.cell? a = some (.map (mapHeld word es)) := ht
    cases step <;> simp [Memory.step?, child?, hcell, Cell.child?, heldUnder_mapHeld]

/-- The last step of a trail: the container at hand is written to, and what is none stays as it
    is. -/
theorem Holds.put_last (ht : t.Holds m) (hsimple : t.addresses.Nodup) (step : Step) (v : Value) :
    ∃ t' : Layout, t.Becomes t' m (m.put t.word [step] v) ∧
      t'.erase = t.erase.write [step] v := by
  obtain ⟨y, hy, hword, rfl⟩ := exists_copy m v
  -- atoms and tuples have no cell to write to
  cases t with
  | atom a =>
    rw [word_atom]
    exact ⟨.atom a, .refl ht hsimple, by simp [Value.write, Atom.assign_value]⟩
  | tuple items =>
    rw [word_tuple]
    exact ⟨.tuple items, .refl ht hsimple, by simp [Value.write, Value.assign]⟩
  | list a items =>
    have h := Becomes.assign ht hsimple rfl hy step
    rw [hword] at h
    rw [word_list]
    exact ⟨_, h, erase_assign (.list a items) step y⟩
  | map a es =>
    have h := Becomes.assign ht hsimple rfl hy step
    rw [hword] at h
    rw [word_map]
    exact ⟨_, h, erase_assign (.map a es) step y⟩

/-- **A write in place is a write into the value.**  Memory that holds a layout without repeated
    addresses holds another one after the write, of the value with the default written, and all that
    lies elsewhere is untouched. -/
theorem Holds.put (ht : t.Holds m) (hsimple : t.addresses.Nodup) (trail : Trail) (v : Value) :
    ∃ t' : Layout, t.Becomes t' m (m.put t.word trail v) ∧ t'.erase = t.erase.write trail v := by
  -- down the trail; the last step is a case of its own, as it writes where the others only follow
  induction trail generalizing t with
  | nil =>
    rw [Memory.put]
    exact ⟨t, .refl ht hsimple, rfl⟩
  | cons step rest ih =>
    cases rest with
    | nil => exact ht.put_last hsimple step v
    | cons next rest =>
      have hstep := step?_word ht.own step
      have herase := erase_child? t step
      -- a trail that leads nowhere leaves memory and value alone
      cases hx : t.child? step with
      | none =>
        rw [hx] at hstep herase
        refine ⟨t, ?_, ?_⟩
        · simpa [Memory.put, hstep] using Becomes.refl ht hsimple
        · simp [Value.write, herase]
      | some x =>
        rw [hx] at hstep herase
        have hmem : x ∈ t.parts := mem_parts_of_child? hx
        obtain ⟨y, hy, hvalue⟩ := ih (ht.part hmem) (nodup_part hsimple hmem)
        refine ⟨t.exchange step y, ?_, ?_⟩
        · simpa [Memory.put, hstep] using Becomes.exchange ht hsimple hx hy
        · rw [erase_exchange hx, hvalue]
          simp [Value.write, herase]

/-- The same for several writes. -/
theorem Holds.putAll (ht : t.Holds m) (hsimple : t.addresses.Nodup) (ds : List Deposit) :
    ∃ t' : Layout, t.Becomes t' m (m.putAll t.word ds) ∧ t'.erase = t.erase.writeAll ds := by
  induction ds generalizing t m with
  | nil => exact ⟨t, .refl ht hsimple, rfl⟩
  | cons d ds ih =>
    obtain ⟨x, hx, hvalue⟩ := ht.put hsimple d.trail d.value
    obtain ⟨y, hy, hvalue'⟩ := ih hx.holds hx.simple
    -- the document is still the same word, so later writes start from it
    rw [hx.word] at hy
    refine ⟨y, hx.trans hy, ?_⟩
    rw [hvalue', hvalue]
    rfl

end Layout

end Conformance

/-
  How a document lies in memory.

  A `Layout` is a document along with the addresses of its containers.  Memory holds a layout
  (`Layout.Holds`) if each of its cells contains what the layout says; that is a matter of the cells
  at its addresses (`Holds.congr`), and the document then reads as the value that is laid out
  (`Holds.read`), if no address occurs twice.

  Going down and exchanging a part are the same for a layout as for its value (`erase_child?`,
  `erase_exchange`, `erase_assign`).
-/
import Mathlib.Data.List.Perm.Subperm
import Mathlib.Data.List.Nodup
import Conformance.Proofs.Memory.Basic

namespace Conformance

/-- A document with the addresses of its containers. -/
inductive Layout where
  | atom (a : Atom)
  | tuple (items : List Layout)
  | list (address : Address) (items : List Layout)
  | map (address : Address) (entries : List (Key × Layout))

namespace Layout

/-- What a layout consists of, one step down. -/
def parts : Layout → List Layout
  | .atom _ => []
  | .tuple items => items
  | .list _ items => items
  | .map _ es => es.map (·.2)

/-- Parts are smaller than the whole. -/
theorem sizeOf_part {t x : Layout} (h : x ∈ t.parts) : sizeOf x < sizeOf t := by
  cases t with
  | atom a => cases h
  | tuple items =>
    have hx : sizeOf x < sizeOf items := List.sizeOf_lt_of_mem h
    simp; omega
  | list a items =>
    have hx : sizeOf x < sizeOf items := List.sizeOf_lt_of_mem h
    simp; omega
  | map a es =>
    obtain ⟨e, he, rfl⟩ := List.mem_map.mp h
    have hx := List.sizeOf_lt_of_mem he
    obtain ⟨k, y⟩ := e
    simp at hx ⊢; omega

/-- What holds of a layout whenever it holds of its parts holds of all layouts. -/
theorem by_parts {motive : Layout → Prop} (step : ∀ t, (∀ x ∈ t.parts, motive x) → motive t) :
    ∀ t, motive t := fun t =>
  step t fun x hx =>
    have _ := sizeOf_part hx
    by_parts step x
termination_by t => sizeOf t

/-- The value that is laid out. -/
def erase : Layout → Value
  | .atom a => a.value
  | .tuple items => .tuple (items.map erase)
  | .list _ items => .list (items.map erase)
  | .map _ es => .map (es.map fun e => (e.1, e.2.erase))
termination_by t => sizeOf t
decreasing_by
  · exact sizeOf_part (t := .tuple items) ‹_›
  · exact sizeOf_part (t := .list _ items) ‹_›
  · exact sizeOf_part (t := .map _ es) (List.mem_map_of_mem ‹_›)

/-- The word that stands for the whole. -/
def word : Layout → Word
  | .atom a => .atom a
  | .tuple items => .tuple (items.map word)
  | .list a _ => .ref a
  | .map a _ => .ref a
termination_by t => sizeOf t

/-- The address of the container itself, if there is one. -/
def own : Layout → List Address
  | .list a _ => [a]
  | .map a _ => [a]
  | _ => []

/-- The addresses of all containers. -/
def addresses (t : Layout) : List Address :=
  t.own ++ t.parts.attach.flatMap fun x => addresses x.1
termination_by sizeOf t
decreasing_by exact sizeOf_part x.2

/-- The addresses are that of the container and those of its parts. -/
theorem addresses_eq (t : Layout) : t.addresses = t.own ++ t.parts.flatMap addresses := by
  rw [addresses]
  simp

@[simp] theorem erase_atom (a : Atom) : (atom a).erase = a.value := by rw [erase]
@[simp] theorem erase_tuple (items : List Layout) :
    (tuple items).erase = .tuple (items.map erase) := by rw [erase]
@[simp] theorem erase_list (a : Address) (items : List Layout) :
    (list a items).erase = .list (items.map erase) := by rw [erase]
@[simp] theorem erase_map (a : Address) (es : List (Key × Layout)) :
    (map a es).erase = .map (mapHeld erase es) := by rw [erase]; rfl

@[simp] theorem word_atom (a : Atom) : (atom a).word = .atom a := by rw [word]
@[simp] theorem word_tuple (items : List Layout) :
    (tuple items).word = .tuple (items.map word) := by rw [word]
@[simp] theorem word_list (a : Address) (items : List Layout) :
    (list a items).word = .ref a := by rw [word]
@[simp] theorem word_map (a : Address) (es : List (Key × Layout)) :
    (map a es).word = .ref a := by rw [word]

/-! ## Going down -/

/-- The part one step down. -/
def child? : Layout → Step → Option Layout
  | .map _ es, .entry k => heldUnder k es
  | .list _ items, .index i => items[i]?
  | .tuple items, .index i => items[i]?
  | _, _ => none

/-- A layout whose part one step down is exchanged for another one. -/
def exchange (t : Layout) (step : Step) (y : Layout) : Layout :=
  match t, step with
  | .map a es, .entry k => .map a (putEntry k y es)
  | .list a items, .index i => .list a (items.set i y)
  | .tuple items, .index i => .tuple (items.set i y)
  | t, _ => t

/-- A layout of a container that has another layout one step down, whether there was one or not. -/
def assign (t : Layout) (step : Step) (y : Layout) : Layout :=
  match t, step with
  | .map a es, .entry k => .map a (putEntry k y es)
  | .list a items, .index i => .list a (putElement (.atom .null) i y items)
  | t, _ => t

section Steps

variable {t x : Layout} {step : Step}

/-- Going down in a layout is going down in its value. -/
theorem erase_child? (t : Layout) (step : Step) :
    t.erase.child? step = (t.child? step).map erase := by
  -- a mapping has its members under keys, a list or a tuple at indices, and nothing else has any
  cases t with
  | atom a => cases step <;> simp [child?, Atom.child?_value]
  | tuple items => cases step <;> simp [child?, Value.child?]
  | list a items => cases step <;> simp [child?, Value.child?]
  | map a es =>
    cases step with
    | entry k =>
      rw [erase_map]
      exact heldUnder_mapHeld k es
    | index i => simp [child?, Value.child?]

/-- Exchanging a part of a layout replaces that part of its value. -/
theorem erase_exchange (h : t.child? step = some x) (y : Layout) :
    (t.exchange step y).erase = t.erase.replace step y.erase := by
  cases t with
  | atom a => cases h
  | tuple items => cases step <;> simp [exchange, Value.replace, List.map_set]
  | list a items => cases step <;> simp [exchange, Value.replace, List.map_set]
  | map a es =>
    cases step with
    | entry k =>
      -- there is an entry under this key, so the entry is set and not added
      have hx : Value.entryAt? k (mapHeld erase es) = some x.erase := by
        have hes : heldUnder k es = some x := h
        rw [show Value.entryAt? k (mapHeld erase es) = heldUnder k (mapHeld erase es) from rfl,
          heldUnder_mapHeld, hes]
        rfl
      simp [exchange, Value.replace, mapHeld_putEntry, Value.setEntry_eq_putEntry hx]
    | index i => simp [exchange, Value.replace]

/-- Assigning to a container in a layout assigns to its value. -/
theorem erase_assign (t : Layout) (step : Step) (y : Layout) :
    (t.assign step y).erase = t.erase.assign step y.erase := by
  cases t with
  | atom a => simp [assign, Atom.assign_value]
  | tuple items => cases step <;> simp [assign, Value.assign]
  | list a items =>
    cases step with
    | entry k => simp [assign, Value.assign]
    | index i => simp [assign, Value.assign, map_putElement, Atom.null]
  | map a es => cases step <;> simp [assign, Value.assign, mapHeld_putEntry]

/-- The part one step down stands somewhere, and it alone is exchanged. -/
theorem exists_split (h : t.child? step = some x) :
    ∃ pre post, t.parts = pre ++ x :: post ∧
      ∀ y, (t.exchange step y).parts = pre ++ y :: post := by
  -- a list splits around the element at an index
  have hitems : ∀ {items : List Layout} {i : Nat}, items[i]? = some x →
      ∃ pre post, items = pre ++ x :: post ∧ ∀ y, items.set i y = pre ++ y :: post := by
    intro items i hx
    obtain ⟨hi, rfl⟩ := List.getElem?_eq_some_iff.mp hx
    refine ⟨items.take i, items.drop (i + 1), by simp, fun y => ?_⟩
    rw [List.set_eq_take_append_cons_drop, if_pos hi]
  unfold child? at h
  split at h
  · next a es k =>
    obtain ⟨pre, l, post, rfl, hput⟩ := exists_split_of_heldUnder h
    refine ⟨pre.map (·.2), post.map (·.2), by simp [parts], fun y => ?_⟩
    simp [exchange, parts, hput y]
  · exact hitems h
  · exact hitems h
  · cases h

/-- What is found one step down is a part. -/
theorem mem_parts_of_child? (h : t.child? step = some x) : x ∈ t.parts := by
  obtain ⟨pre, post, hparts, _⟩ := exists_split h
  simp [hparts]

/-- A container whose part is exchanged stays where it is, -/
theorem own_exchange (t : Layout) (step : Step) (y : Layout) :
    (t.exchange step y).own = t.own := by
  cases t <;> cases step <;> rfl

/-- and so does one that is assigned to. -/
theorem own_assign (t : Layout) (step : Step) (y : Layout) : (t.assign step y).own = t.own := by
  cases t <;> cases step <;> rfl

/-- The word for a container that is assigned to is the same: it is a reference, and only its cell
    changes. -/
theorem word_assign (t : Layout) (step : Step) (y : Layout) :
    (t.assign step y).word = t.word := by
  cases t <;> cases step <;> simp [assign]

end Steps

/-! ## Memory that holds a layout -/

variable {m m' : Memory} {t x : Layout}

/-- The cell of the container itself says what the layout says. -/
def Kept (m : Memory) : Layout → Prop
  | .list a items => m.cell? a = some (.list (items.map word))
  | .map a es => m.cell? a = some (.map (mapHeld word es))
  | _ => True

/-- The cells of all containers say what the layout says. -/
inductive Holds (m : Memory) : Layout → Prop
  | intro {t : Layout} (own : t.Kept m) (parts : ∀ x ∈ t.parts, Holds m x) : Holds m t

/-- The cell of a container that memory holds says what the layout says. -/
theorem Holds.own (h : t.Holds m) : t.Kept m := by
  cases h with
  | intro own _ => exact own

/-- Memory that holds a layout holds its parts. -/
theorem Holds.part (h : t.Holds m) (hx : x ∈ t.parts) : x.Holds m := by
  cases h with
  | intro _ parts => exact parts x hx

/-- An address in a layout is that of the container or one in a part. -/
theorem mem_addresses {a : Address} :
    a ∈ t.addresses ↔ a ∈ t.own ∨ ∃ x ∈ t.parts, a ∈ x.addresses := by
  rw [addresses_eq, List.mem_append, List.mem_flatMap]

/-- An address that occurs once in the whole occurs at most once in a part. -/
theorem nodup_part (h : t.addresses.Nodup) (hx : x ∈ t.parts) : x.addresses.Nodup := by
  -- the addresses of a part stand next to each other in those of the whole
  rw [addresses_eq, List.nodup_append] at h
  exact (List.nodup_flatMap.mp h.2.1).1 x hx

/-- The cell of a container that memory holds is there. -/
theorem Kept.lt_size (h : t.Kept m) {a : Address} (ha : a ∈ t.own) : a < m.size := by
  have hcell : ∃ c, m.cell? a = some c := by
    cases t with
    | list b items =>
      obtain rfl : a = b := List.mem_singleton.mp ha
      exact ⟨_, h⟩
    | map b es =>
      obtain rfl : a = b := List.mem_singleton.mp ha
      exact ⟨_, h⟩
    | _ => cases ha
  obtain ⟨c, hc⟩ := hcell
  exact (List.getElem?_eq_some_iff.mp hc).1

/-- A layout that memory holds has addresses of cells that there are. -/
theorem Holds.lt_size (h : t.Holds m) {a : Address} (ha : a ∈ t.addresses) : a < m.size := by
  induction h with
  | intro own _ ih =>
    rcases mem_addresses.mp ha with hown | ⟨x, hx, hax⟩
    · exact own.lt_size hown
    · exact ih x hx hax

/-- Only the cell of the container itself matters for that. -/
theorem Kept.congr (h : t.Kept m) (hm : ∀ a ∈ t.own, m'.cell? a = m.cell? a) : t.Kept m' := by
  cases t with
  | list a items => exact (hm a (List.mem_singleton_self a)).trans h
  | map a es => exact (hm a (List.mem_singleton_self a)).trans h
  | _ => trivial

/-- Whether memory holds a layout is a matter of the cells at its addresses. -/
theorem Holds.congr (h : t.Holds m) (hm : ∀ a ∈ t.addresses, m'.cell? a = m.cell? a) :
    t.Holds m' := by
  induction h with
  | intro own _ ih =>
    refine ⟨own.congr fun a ha => hm a (mem_addresses.mpr (Or.inl ha)), fun x hx => ?_⟩
    exact ih x hx fun a ha => hm a (mem_addresses.mpr (Or.inr ⟨x, hx, ha⟩))

/-! ## Reading a layout -/

/-- Words that read as their values one by one read so as a list. -/
theorem readAllBy_map {deref : Address → Option Value} {items : List Layout}
    (h : ∀ x ∈ items, x.word.readBy deref = some x.erase) :
    Word.readAllBy deref (items.map word) = some (items.map erase) := by
  induction items with
  | nil => rfl
  | cons x rest ih =>
    have hx := h x (List.mem_cons_self ..)
    have hrest := ih fun y hy => h y (List.mem_cons_of_mem x hy)
    simp [Word.readAllBy, hx, hrest]

/-- A part has no more containers than all parts together. -/
theorem length_addresses_le (h : x ∈ t.parts) :
    x.addresses.length ≤ (t.parts.flatMap addresses).length := by
  obtain ⟨pre, post, hparts⟩ := List.append_of_mem h
  simp [hparts]; omega

/-- A layout that memory holds reads as its value, if reading may go through as many containers as
    the layout has. -/
theorem Holds.readBy (h : t.Holds m) {fuel : Nat} (hfuel : t.addresses.length ≤ fuel) :
    t.word.readBy (m.deref fuel) = some t.erase := by
  induction t using by_parts generalizing fuel with
  | step t ih =>
    rw [addresses_eq, List.length_append] at hfuel
    -- what is left for the parts is enough for each of them
    have hparts : ∀ {n}, (t.parts.flatMap addresses).length ≤ n →
        Word.readAllBy (m.deref n) (t.parts.map word) = some (t.parts.map erase) := by
      intro n hn
      refine readAllBy_map fun x hx => ih x hx (h.part hx) ?_
      exact Nat.le_trans (length_addresses_le hx) hn
    cases t with
    | atom a => simp [Word.readBy]
    | tuple items =>
      have hall : Word.readAllBy _ (items.map word) = some (items.map erase) :=
        hparts (Nat.le_trans (Nat.le_add_left ..) hfuel)
      simp [Word.readBy, hall]
    | list a items =>
      have hown : (list a items).own.length = 1 := rfl
      -- one dereference goes to the container itself
      obtain ⟨n, rfl⟩ : ∃ n, fuel = n + 1 := ⟨fuel - 1, by omega⟩
      have hall : Word.readAllBy (m.deref n) (items.map word) = some (items.map erase) :=
        hparts (by omega)
      have hcell : m.cell? a = some (.list (items.map word)) := h.own
      simp [Word.readBy, Memory.deref, hcell, hall]
    | map a es =>
      have hown : (Layout.map a es).own.length = 1 := rfl
      obtain ⟨n, rfl⟩ : ∃ n, fuel = n + 1 := ⟨fuel - 1, by omega⟩
      have hall : Word.readAllBy (m.deref n) ((es.map (·.2)).map word) =
          some ((es.map (·.2)).map erase) :=
        hparts (by omega)
      have hcell : m.cell? a = some (.map (mapHeld word es)) := h.own
      simp only [word_map, erase_map, Word.readBy, Memory.deref, hcell, map_fst_mapHeld,
        map_snd_mapHeld, hall, Option.map_some, zip_mapHeld]

/-- A layout that memory holds reads as its value, if no address occurs twice in it. -/
theorem Holds.read (h : t.Holds m) (hsimple : t.addresses.Nodup) :
    m.read t.word = some t.erase := by
  refine h.readBy ?_
  -- addresses that are all different are no more than there are cells
  have hsub : List.Subperm t.addresses (List.range m.size) :=
    List.subperm_of_subset hsimple fun a ha => List.mem_range.mpr (h.lt_size ha)
  simpa using hsub.length_le

end Layout

end Conformance

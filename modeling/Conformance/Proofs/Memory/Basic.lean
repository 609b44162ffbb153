/-
  Documents in memory.

  A container is a cell, known by its address, and whoever holds the address sees what is written
  there: two documents that hold the same address are entangled.  `Memory.read` gives the value that
  a word stands for, `Memory.copy` puts a value into cells that nobody knows yet, and `Memory.put`
  writes a default where a trail ends: it makes a copy and changes one cell in place.

  `Value.write` is what such a write means for the value.  An injection is one
  (`Value.Injection.eq_write`), and so is a write over an element counted from the end of a list.
-/
import Conformance.Proofs.Injection

namespace Conformance

/-! ## Entries and elements -/

/-- Entries with a value under a key: in the place of the one that is there, or else at the end. -/
def putEntry {α : Type} (key : Key) (x : α) : List (Key × α) → List (Key × α)
  | [] => [(key, x)]
  | (k, old) :: rest => if k.same key then (k, x) :: rest else (k, old) :: putEntry key x rest

/-- Elements with a value at an index: in the place of the one that is there, or else at the end,
    after as much padding as it takes. -/
def putElement {α : Type} (pad : α) (i : Nat) (x : α) (xs : List α) : List α :=
  if i < xs.length then xs.set i x else xs ++ List.replicate (i - xs.length) pad ++ [x]

/-- What the first entry under a key holds. -/
def heldUnder {α : Type} (key : Key) (es : List (Key × α)) : Option α :=
  (es.find? fun e => e.1.same key).map (·.2)

/-- Entries with what they hold read by a function. -/
def mapHeld {α β : Type} (f : α → β) (es : List (Key × α)) : List (Key × β) :=
  es.map fun e => (e.1, f e.2)

section Entries

variable {α β : Type} {f : α → β}

/-- Reading and putting an entry commute. -/
theorem mapHeld_putEntry (key : Key) (x : α) (es : List (Key × α)) :
    mapHeld f (putEntry key x es) = putEntry key (f x) (mapHeld f es) := by
  induction es with
  | nil => rfl
  | cons e rest ih =>
    obtain ⟨k, w⟩ := e
    by_cases hk : k.same key = true
    · simp [mapHeld, putEntry, hk]
    · simpa [mapHeld, putEntry, hk] using ih

/-- Reading and looking up commute. -/
theorem heldUnder_mapHeld (key : Key) (es : List (Key × α)) :
    heldUnder key (mapHeld f es) = (heldUnder key es).map f := by
  induction es with
  | nil => rfl
  | cons e rest ih =>
    by_cases hk : e.1.same key = true
    · simp [heldUnder, mapHeld, hk]
    · simpa [heldUnder, mapHeld, hk] using ih

/-- Reading and putting an element commute, padding included. -/
theorem map_putElement (pad : α) (i : Nat) (x : α) (xs : List α) :
    (putElement pad i x xs).map f = putElement (f pad) i (f x) (xs.map f) := by
  unfold putElement
  by_cases hi : i < xs.length
  · simp [hi, List.map_set]
  · simp [hi]

/-- The entry that is looked up stands somewhere, and it alone is exchanged. -/
theorem exists_split_of_heldUnder {key : Key} {es : List (Key × α)} {x : α}
    (h : heldUnder key es = some x) :
    ∃ pre k post, es = pre ++ (k, x) :: post ∧ ∀ y, putEntry key y es = pre ++ (k, y) :: post := by
  induction es with
  | nil => simp [heldUnder] at h
  | cons e rest ih =>
    obtain ⟨k, w⟩ := e
    -- the first entry with the key is the one that is found and the one that is exchanged
    by_cases hk : k.same key = true
    · obtain rfl : w = x := by simpa [heldUnder, hk] using h
      exact ⟨[], k, rest, rfl, fun y => by simp [putEntry, hk]⟩
    · obtain ⟨pre, l, post, hes, hput⟩ := ih (by simpa [heldUnder, hk] using h)
      refine ⟨(k, w) :: pre, l, post, by rw [hes]; rfl, fun y => ?_⟩
      simp [putEntry, hk, hput y]

/-- To put what is there changes nothing. -/
theorem putEntry_self {key : Key} {es : List (Key × α)} {x : α} (h : heldUnder key es = some x) :
    putEntry key x es = es := by
  obtain ⟨pre, k, post, hes, hput⟩ := exists_split_of_heldUnder h
  rw [hput x, ← hes]

/-- Where no entry is found, the new one stands at the end. -/
theorem putEntry_of_none {key : Key} {es : List (Key × α)} (h : heldUnder key es = none) (x : α) :
    putEntry key x es = es ++ [(key, x)] := by
  induction es with
  | nil => rfl
  | cons e rest ih =>
    obtain ⟨k, w⟩ := e
    by_cases hk : k.same key = true
    · simp [heldUnder, hk] at h
    · simpa [putEntry, hk] using ih (by simpa [heldUnder, hk] using h)

/-- Reading leaves the keys as they are. -/
theorem map_fst_mapHeld (es : List (Key × α)) : (mapHeld f es).map (·.1) = es.map (·.1) := by
  simp [mapHeld]

/-- Reading reads what is held. -/
theorem map_snd_mapHeld (es : List (Key × α)) :
    (mapHeld f es).map (·.2) = (es.map (·.2)).map f := by
  simp [mapHeld]

/-- Keys and what is held under them make up the entries. -/
theorem zip_mapHeld (es : List (Key × α)) :
    (es.map (·.1)).zip ((es.map (·.2)).map f) = mapHeld f es := by
  induction es with
  | nil => rfl
  | cons e rest ih => simpa [mapHeld] using ih

end Entries

/-! ## Writing into a value -/

namespace Value

/-- A container with a value one step down, whether there is one or not; a tuple stays as it is. -/
def assign (container : Value) (step : Step) (v : Value) : Value :=
  match container, step with
  | .map es, .entry k => .map (putEntry k v es)
  | .list items, .index i => .list (putElement .null i v items)
  | c, _ => c

/-- A value with another one at the end of a trail. -/
def write : Value → Trail → Value → Value
  | root, [], _ => root
  | root, [step], v => root.assign step v
  | root, step :: next :: rest, v =>
    match root.child? step with
    | some x => root.replace step (x.write (next :: rest) v)
    | none => root

/-- A value with several others in it, written one after the other. -/
def writeAll (root : Value) (ds : List Deposit) : Value :=
  ds.foldl (fun v d => v.write d.trail d.value) root

theorem writeAll_append (root : Value) (ds es : List Deposit) :
    root.writeAll (ds ++ es) = (root.writeAll ds).writeAll es := List.foldl_append

/-- An entry that is there is exchanged where it stands. -/
theorem setEntry_eq_putEntry {key : Key} {es : List (Key × Value)} {x : Value}
    (h : entryAt? key es = some x) (y : Value) : setEntry key y es = putEntry key y es := by
  induction es with
  | nil => cases h
  | cons e rest ih =>
    obtain ⟨k, w⟩ := e
    by_cases hk : k.same key = true
    · simp [setEntry, putEntry, hk]
    · simp only [entryAt?, entryWith?, List.find?_cons, hk] at h
      simpa [setEntry, putEntry, hk] using ih h

/-- An injection goes into a container, so it takes a step at least. -/
theorem Injection.trail_ne_nil {a b : Value} {d : Deposit} (h : Injection a d b) :
    d.trail ≠ [] := by
  cases h <;> simp [Deposit.below]

/-- An injection is a write at the end of its trail. -/
theorem Injection.eq_write {a b : Value} {d : Deposit} (h : Injection a d b) :
    b = a.write d.trail d.value := by
  -- the last step appends, and those before it exchange a member for what it has become
  induction h with
  | entry v h => simp [write, assign, putEntry_of_none h]
  | element v h =>
    have hi : ¬ _ < _ := Nat.not_lt.mpr h
    simp [write, assign, putElement, hi]
  | @member a x y step d h inner ih =>
    obtain ⟨next, rest, htrail⟩ := List.exists_cons_of_ne_nil inner.trail_ne_nil
    rw [htrail] at ih
    simp [Deposit.below, htrail, write, h, ih]

/-- Several injections are as many writes, in the same order. -/
theorem Injections.eq_writeAll {a b : Value} {ds : List Deposit} (h : Injections a ds b) :
    b = a.writeAll ds ∧ ∀ d ∈ ds, d.trail ≠ [] := by
  induction h with
  | none => exact ⟨rfl, by simp⟩
  | later _ last ih =>
    obtain ⟨rfl, hne⟩ := ih
    refine ⟨by rw [writeAll_append, last.eq_write]; rfl, fun d hd => ?_⟩
    rcases List.mem_append.mp hd with hd | hd
    · exact hne d hd
    · rw [List.mem_singleton.mp hd]
      exact last.trail_ne_nil

end Value

/-! ## Words and cells -/

/-- Whether a value has no parts. -/
def Value.isAtom : Value → Bool
  | .list _ => false
  | .tuple _ => false
  | .map _ => false
  | _ => true

/-- A value without parts. -/
structure Atom where
  value : Value
  isAtom : value.isAtom = true

namespace Atom

/-- The null that lists are padded with. -/
def null : Atom := ⟨.null, rfl⟩

/-- Nothing lies below a value without parts. -/
theorem child?_value (a : Atom) (step : Step) : a.value.child? step = none := by
  obtain ⟨v, hv⟩ := a
  cases v <;> cases step <;> first | rfl | cases hv

/-- Nothing can be written into one. -/
theorem assign_value (a : Atom) (step : Step) (v : Value) : a.value.assign step v = a.value := by
  obtain ⟨w, hw⟩ := a
  cases w <;> cases step <;> first | rfl | cases hw

end Atom

/-- The number of a cell. -/
abbrev Address := Nat

/-- What an element or an entry holds: a value without parts; a tuple, which nobody can write to; or
    the address of a container. -/
inductive Word where
  | atom (a : Atom)
  | tuple (items : List Word)
  | ref (address : Address)

/-- A container that can be written to. -/
inductive Cell where
  | list (items : List Word)
  | map (entries : List (Key × Word))

namespace Cell

/-- What a cell holds one step down. -/
def child? : Cell → Step → Option Word
  | .map es, .entry k => heldUnder k es
  | .list items, .index i => items[i]?
  | _, _ => none

/-- A cell after a word has been written one step down. -/
def assign (c : Cell) (step : Step) (w : Word) : Cell :=
  match c, step with
  | .map es, .entry k => .map (putEntry k w es)
  | .list items, .index i => .list (putElement (.atom .null) i w items)
  | c, _ => c

end Cell

/-- The cells there are, by their addresses. -/
structure Memory where
  cells : List Cell

namespace Memory

/-- How many cells there are; the next one has this address. -/
def size (m : Memory) : Nat := m.cells.length

/-- The cell with an address. -/
def cell? (m : Memory) (a : Address) : Option Cell := m.cells[a]?

end Memory

/-! ## Reading -/

mutual

/-- The value that a word stands for, if it is known what the addresses do. -/
def Word.readBy (deref : Address → Option Value) : Word → Option Value
  | .atom a => some a.value
  | .tuple items => (Word.readAllBy deref items).map .tuple
  | .ref a => deref a

/-- The values that several words stand for. -/
def Word.readAllBy (deref : Address → Option Value) : List Word → Option (List Value)
  | [] => some []
  | w :: rest => (w.readBy deref).bind fun v => (Word.readAllBy deref rest).map (v :: ·)

end

namespace Memory

/-- The value of the container with an address, as far as so many containers inside each other. -/
def deref (m : Memory) : Nat → Address → Option Value
  | 0, _ => none
  | fuel + 1, a =>
    match m.cell? a with
    | none => none
    | some (.list items) => (Word.readAllBy (m.deref fuel) items).map .list
    | some (.map es) =>
      (Word.readAllBy (m.deref fuel) (es.map (·.2))).map fun vs => .map ((es.map (·.1)).zip vs)

/-- The value that a word stands for; a word that leads around in a circle stands for none. -/
def read (m : Memory) (w : Word) : Option Value := w.readBy (m.deref m.size)

/-! ## Copies -/

/-- A new cell. -/
def alloc (m : Memory) (c : Cell) : Word × Memory := (.ref m.size, ⟨m.cells ++ [c]⟩)

mutual

/-- A value put into new cells. -/
def copy (m : Memory) : Value → Word × Memory
  | .list items =>
    let (ws, m') := m.copyAll items
    m'.alloc (.list ws)
  | .tuple items =>
    let (ws, m') := m.copyAll items
    (.tuple ws, m')
  | .map es =>
    let (ws, m') := m.copyEntries es
    m'.alloc (.map ws)
  | .missing => (.atom ⟨.missing, rfl⟩, m)
  | .null => (.atom ⟨.null, rfl⟩, m)
  | .bool b => (.atom ⟨.bool b, rfl⟩, m)
  | .int i => (.atom ⟨.int i, rfl⟩, m)
  | .float x => (.atom ⟨.float x, rfl⟩, m)
  | .str s => (.atom ⟨.str s, rfl⟩, m)
  | .cls c => (.atom ⟨.cls c, rfl⟩, m)

/-- Several values put into new cells. -/
def copyAll (m : Memory) : List Value → List Word × Memory
  | [] => ([], m)
  | v :: rest =>
    let (w, m') := m.copy v
    let (ws, m'') := m'.copyAll rest
    (w :: ws, m'')

/-- What entries hold put into new cells. -/
def copyEntries (m : Memory) : List (Key × Value) → List (Key × Word) × Memory
  | [] => ([], m)
  | (k, v) :: rest =>
    let (w, m') := m.copy v
    let (ws, m'') := m'.copyEntries rest
    ((k, w) :: ws, m'')

end

/-! ## Writing -/

/-- The word one step down from another one. -/
def step? (m : Memory) (w : Word) (step : Step) : Option Word :=
  match w with
  | .ref a => (m.cell? a).bind (·.child? step)
  | .tuple items =>
    match step with
    | .index i => items[i]?
    | .entry _ => none
  | .atom _ => none

/-- Memory after a word has been written one step down from a container, in place. -/
def assign (m : Memory) (a : Address) (step : Step) (w : Word) : Memory :=
  ⟨m.cells.modify a (·.assign step w)⟩

theorem cell?_assign_self (m : Memory) (a : Address) (step : Step) (w : Word) :
    (m.assign a step w).cell? a = (m.cell? a).map (·.assign step w) := by
  simp [cell?, assign]

theorem cell?_assign_of_ne (m : Memory) {a b : Address} (h : b ≠ a) (step : Step) (w : Word) :
    (m.assign a step w).cell? b = m.cell? b := by
  simp [cell?, assign, Ne.symm h]

/-- Writing in place takes no new cell. -/
theorem size_assign (m : Memory) (a : Address) (step : Step) (w : Word) :
    (m.assign a step w).size = m.size := by
  simp [size, assign]

/-- Memory after a copy of a value has been written where a trail from a word ends. -/
def put (m : Memory) : Word → Trail → Value → Memory
  | _, [], _ => m
  | .ref a, [step], v =>
    let (w, m') := m.copy v
    m'.assign a step w
  | _, [_], _ => m
  | w, step :: next :: rest, v =>
    match m.step? w step with
    | some below => m.put below (next :: rest) v
    | none => m

/-- Memory after several defaults have been written, one after the other. -/
def putAll (m : Memory) (w : Word) (ds : List Deposit) : Memory :=
  ds.foldl (fun m d => m.put w d.trail d.value) m

end Memory

end Conformance

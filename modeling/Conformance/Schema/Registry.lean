/-
  Schemas by id.

  A registry only grows: an id that is taken keeps its first schema, so what an id resolves to never
  changes.  Ids are texts, and `ids` lists them in the order in which they came.
-/
import Conformance.Schema.Node
import Conformance.Violation

namespace Conformance

/-! ## The registry -/

/-- A registry of schemas, in the order of their ids' first appearance. -/
structure Registry where
  entries : List (String × Node)

namespace Registry

/-- The registry without ids. -/
def empty : Registry := ⟨[]⟩

/-- The schema with an id. -/
def find? (r : Registry) (id : String) : Option Node := r.entries.lookup id

/-- The ids in order. -/
def ids (r : Registry) : List String := r.entries.map (·.1)

/-- How many ids there are. -/
def size (r : Registry) : Nat := r.entries.length

/-- Whether an id is taken. -/
def contains (r : Registry) (id : String) : Bool := (r.find? id).isSome

/-- Enters a schema under an id, unless the id is taken. -/
def insert (r : Registry) (id : String) (schema : Node) : Registry :=
  if r.contains id then r else ⟨r.entries ++ [(id, schema)]⟩

/-- The registry as its schemas read after some defaults have been written. -/
def settled (r : Registry) (writes : List Write) : Registry :=
  ⟨r.entries.map fun e => (e.1, e.2.settled writes)⟩

/-- Looks a reference up: a text finds the schema with that id, and other values find nothing. -/
def resolve (r : Registry) (ref : Value) : Except Fault (Option Node) :=
  match ref.unhashable? with
  | some name => throw (.unhashable name)
  | none => match ref with
    | .str id => return r.find? id
    | _ => return none

/-! ## Small laws -/

theorem lookup_append_of_some {entries more : List (String × Node)} {id : String} {n : Node}
    (h : entries.lookup id = some n) : (entries ++ more).lookup id = some n := by
  simp [List.lookup_append, h]

/-- A schema once found under an id is found for good. -/
theorem find?_insert_of_some {r : Registry} {id other : String} {n new : Node}
    (h : r.find? id = some n) : (r.insert other new).find? id = some n := by
  unfold insert
  split
  · exact h
  · exact lookup_append_of_some h

/-- An id that was free finds the schema entered under it. -/
theorem find?_insert_self {r : Registry} {id : String} {n : Node} (h : r.find? id = none) :
    (r.insert id n).find? id = some n := by
  have hc : r.contains id = false := by simp [contains, h]
  have hl : r.entries.lookup id = none := h
  simp [insert, hc, find?, List.lookup_append, hl]

end Registry

end Conformance

/-
  Type expressions.

  An expression is a type name, a class, an inline schema, a list of alternatives nested to any
  depth, or null or false for no constraint.  `TypeTest.ofValue` resolves one as a whole before
  any value is looked at, so an unknown name anywhere is found first.
-/
import Conformance.Schema.Node
import Conformance.Violation

namespace Conformance

/-- A class that values are tested for: one that documents can name, or that of all mappings. -/
inductive TypeClass where
  | exactly (c : ValueClass)
  | anyMapping
deriving DecidableEq

namespace TypeClass

/-- The name of a class. -/
def name : TypeClass → String
  | .exactly c => c.name
  | .anyMapping => "Mapping"

/-- Whether the values of a class belong to the class tested for. -/
def includes (t : TypeClass) (c : ValueClass) : Bool :=
  match t with
  | .exactly d => d == c
  | .anyMapping => c == .mapping

end TypeClass

/-- A resolved type expression. -/
inductive TypeTest where
  | anything
  | classes (members : List TypeClass)
  | schema (node : Node)
  | anyOf (alternatives : List TypeTest)

/-- Whether a value belongs to one of the classes.  A boolean is an integer to no one. -/
def Value.isInstance (v : Value) (members : List TypeClass) : Bool :=
  match v.class? with
  | some c => members.any (·.includes c)
  | none => false

namespace TypeTest

/-- Whether a value belongs to the classes that a test names.  A test that names none cannot tell,
    save that a boolean belongs to no schema and to no list of alternatives. -/
def includes (t : TypeTest) (v : Value) : Except Fault Bool :=
  match t, v with
  | .classes members, v => .ok (v.isInstance members)
  | .anything, .bool _ => .error .nothingToLookThrough
  | _, .bool _ => .ok false
  | _, _ => .error .noClassToTest

/-- The test that a type name stands for. -/
def ofName? (name : String) : Option TypeTest :=
  if name = "string" then some (.classes [.exactly .text])
  else if name = "integer" then some (.classes [.exactly .integer])
  else if name = "number" then some (.classes [.exactly .integer, .exactly .real])
  else if name = "boolean" then some (.classes [.exactly .boolean])
  else if name = "object" then some (.classes [.anyMapping])
  else if name = "array" then some (.classes [.exactly .list, .exactly .tuple])
  else if name = "null" then some (.classes [.exactly .null])
  else if name = "any" then some .anything
  else none

/-- The test for an expression that is no list, class or schema: its text is a type name. -/
def ofText (name : String) : Except String TypeTest :=
  match ofName? name with
  | some t => .ok t
  | none => .error name

mutual

/-- Resolves an expression that stands at a place; the error is the first unknown name. -/
def ofValue (origin : Place) : Value → Except String TypeTest
  | .null => .ok .anything
  | .bool false => .ok .anything
  | .bool true => ofText (Value.bool true).text
  | .map entries => .ok (.schema ⟨origin, .map entries⟩)
  | .cls c => .ok (.classes [.exactly c])
  | .list items => do return .anyOf (← ofItems origin 0 items)
  | .missing => ofText Value.missing.text
  | .int i => ofText (Value.int i).text
  | .float x => ofText (Value.float x).text
  | .str s => ofText s
  | .tuple items => ofText (Value.tuple items).text

/-- Resolves the alternatives of a list from an index on. -/
def ofItems (origin : Place) (i : Nat) : List Value → Except String (List TypeTest)
  | [] => .ok []
  | v :: rest => do
    let first ← ofValue (origin.down (.index i)) v
    return first :: (← ofItems origin (i + 1) rest)

end

end TypeTest

mutual

/-- A type expression as messages show it. -/
def Value.typeText : Value → String
  | .list items => joined " or " (typeTexts items)
  | .map _ => "schema"
  | .cls c => c.name
  | .missing => Value.missing.text
  | .null => Value.null.text
  | .bool b => (Value.bool b).text
  | .int i => (Value.int i).text
  | .float x => (Value.float x).text
  | .str s => s
  | .tuple items => (Value.tuple items).text

/-- Several type expressions as messages show them. -/
def typeTexts : List Value → List String
  | [] => []
  | v :: rest => v.typeText :: typeTexts rest

end

end Conformance

/-
  Values inside messages.

  `repr` shows a value with its quotes and brackets; `text` is the same except that a string
  stands alone as it is.  `json` is JSON text, in which what JSON lacks (classes, the mark of an
  absent key) becomes a string.
-/
import Conformance.Value.Basic

namespace Conformance

/-- Texts put together with a separator between them. -/
def joined (separator : String) : List String → String
  | [] => ""
  | [s] => s
  | s :: rest => s ++ separator ++ joined separator rest

/-- The text of a class. -/
def ValueClass.display (c : ValueClass) : String := "<class '" ++ c.name ++ "'>"

namespace Value

mutual

/-- A value as messages show it inside other values. -/
def repr : Value → String
  | .missing => "Undefined"
  | .null => "None"
  | .bool true => "True"
  | .bool false => "False"
  | .int i => integerText i
  | .float x => NumeralStyle.message.floatText x
  | .str s => quoted s
  | .list items => "[" ++ joined ", " (reprItems items) ++ "]"
  | .tuple [item] => "(" ++ repr item ++ ",)"
  | .tuple items => "(" ++ joined ", " (reprItems items) ++ ")"
  | .map entries => "\x7b" ++ joined ", " (reprEntries entries) ++ "\x7d"
  | .cls c => c.display

/-- The elements of an array as messages show them. -/
def reprItems : List Value → List String
  | [] => []
  | v :: rest => repr v :: reprItems rest

/-- The entries of a mapping as messages show them. -/
def reprEntries : List (Key × Value) → List String
  | [] => []
  | (key, v) :: rest => (key.repr ++ ": " ++ repr v) :: reprEntries rest

end

/-- A value as messages show it on its own. -/
def text : Value → String
  | .str s => s
  | v => v.repr

mutual

/-- A value as JSON text. -/
def json : Value → String
  | .missing => jsonQuoted "Undefined"
  | .null => "null"
  | .bool true => "true"
  | .bool false => "false"
  | .int i => integerText i
  | .float x => NumeralStyle.json.floatText x
  | .str s => jsonQuoted s
  | .list items => "[" ++ joined ", " (jsonItems items) ++ "]"
  | .tuple items => "[" ++ joined ", " (jsonItems items) ++ "]"
  | .map entries => "\x7b" ++ joined ", " (jsonEntries entries) ++ "\x7d"
  | .cls c => jsonQuoted c.display

/-- The elements of an array as JSON text. -/
def jsonItems : List Value → List String
  | [] => []
  | v :: rest => json v :: jsonItems rest

/-- The entries of a mapping as JSON text. -/
def jsonEntries : List (Key × Value) → List String
  | [] => []
  | (key, v) :: rest => (jsonQuoted key.jsonName ++ ": " ++ json v) :: jsonEntries rest

end

example : (Value.tuple [.int 1]).repr = "(1,)" := by decide +kernel
example : (Value.map [(.name "a", .null)]).text = "\x7b'a': None\x7d" := by decide +kernel
example : (Value.list [.bool true, .cls .integer]).json = "[true, \"<class 'int'>\"]" := by
  decide +kernel

end Value

end Conformance

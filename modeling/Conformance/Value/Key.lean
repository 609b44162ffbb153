/-
  Keys of mappings.

  A document read from text has names for keys, and a check of one property may be asked about any
  key at all.  Keys that stand for the same number are one key, a boolean standing for zero or one;
  a mapping goes on showing the key that was entered first.
-/
import Conformance.Number.Numeral
import Conformance.Text.Quoted

namespace Conformance

/-- A key of a mapping. -/
inductive Key where
  | name (s : String)
  | null
  | bool (b : Bool)
  | int (i : Int)
  | float (x : Binary64)
  /-- A key of another kind, known by its text. -/
  | other (text : String)
deriving DecidableEq, Inhabited

namespace Key

/-- The number that a key stands for. -/
def number? : Key → Option Number
  | .bool b => some (.int (if b then 1 else 0))
  | .int i => some (.int i)
  | .float x => some (.float x)
  | _ => none

/-- Whether two keys are the same to a mapping. -/
def same : Key → Key → Bool
  | .name a, .name b => a == b
  | .null, .null => true
  | .other a, .other b => a == b
  | a, b =>
    match a.number?, b.number? with
    | some x, some y => x.same y
    | _, _ => false

example : (Key.bool true).same (.float ⟨0x3FF0000000000000⟩) = true := by decide +kernel
example : (Key.name "1").same (.int 1) = false := by decide +kernel

/-- A key as messages show it inside a mapping. -/
def repr : Key → String
  | .name s => quoted s
  | .null => "None"
  | .bool true => "True"
  | .bool false => "False"
  | .int i => integerText i
  | .float x => NumeralStyle.message.floatText x
  | .other t => t

/-- A key as messages show it on its own. -/
def text : Key → String
  | .name s => s
  | k => k.repr

/-- A key as the name of a member in JSON text. -/
def jsonName : Key → String
  | .name s => s
  | .null => "null"
  | .bool true => "true"
  | .bool false => "false"
  | .int i => integerText i
  | .float x => NumeralStyle.json.floatText x
  | .other t => t

end Key

end Conformance

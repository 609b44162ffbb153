/-
  Decoded documents.

  A `Value` is what a JSON document decodes to, with three additions that callers may put in by
  hand: `missing`, the mark of a key that is absent from its container; `tuple`, an array that
  cannot be written to; and `cls`, a class of values, which a type expression may name directly.
  Mappings keep their entries in order and hold each key once.
-/
import Conformance.Value.Key

namespace Conformance

/-- The classes of values that a document can name. -/
inductive ValueClass where
  | text
  | integer
  | real
  | boolean
  | list
  | tuple
  | mapping
  | null
deriving DecidableEq

/-- The name of a class. -/
def ValueClass.name : ValueClass → String
  | .text => "str"
  | .integer => "int"
  | .real => "float"
  | .boolean => "bool"
  | .list => "list"
  | .tuple => "tuple"
  | .mapping => "dict"
  | .null => "NoneType"

/-- A decoded value. -/
inductive Value where
  | missing
  | null
  | bool (b : Bool)
  | int (i : Int)
  | float (x : Binary64)
  | str (s : String)
  | list (items : List Value)
  | tuple (items : List Value)
  | map (entries : List (Key × Value))
  | cls (c : ValueClass)
deriving Inhabited

namespace Value

/-! ## Kinds -/

/-- The JSON kind of a value, as messages name it. -/
def kind : Value → String
  | .missing => "_UndefinedType"
  | .null => "null"
  | .bool _ => "boolean"
  | .int _ => "integer"
  | .float _ => "number"
  | .str _ => "string"
  | .list _ => "array"
  | .tuple _ => "array"
  | .map _ => "object"
  | .cls _ => "type"

/-- The class a value belongs to, if documents can name it. -/
def class? : Value → Option ValueClass
  | .null => some .null
  | .bool _ => some .boolean
  | .int _ => some .integer
  | .float _ => some .real
  | .str _ => some .text
  | .list _ => some .list
  | .tuple _ => some .tuple
  | .map _ => some .mapping
  | .missing => none
  | .cls _ => none

/-- The name of the class a value belongs to. -/
def className (v : Value) : String :=
  match v.class? with
  | some c => c.name
  | none => v.kind

/-- Whether a value is the mark of an absent key. -/
def isMissing : Value → Bool
  | .missing => true
  | _ => false

/-- Whether a value is a mapping. -/
def isMap : Value → Bool
  | .map _ => true
  | _ => false

/-- The elements of a list or tuple. -/
def elements? : Value → Option (List Value)
  | .list xs => some xs
  | .tuple xs => some xs
  | _ => none

/-- The elements of a list; none of anything else. -/
def listItems : Value → List Value
  | .list xs => xs
  | _ => []

/-- The entries of a mapping; none of anything else. -/
def entries : Value → List (Key × Value)
  | .map es => es
  | _ => []

/-- A number; a boolean is none. -/
def number? : Value → Option Number
  | .int i => some (.int i)
  | .float x => some (.float x)
  | _ => none

/-- Whether a condition written as a value holds: null, false, zero and everything empty do not. -/
def isTruthy : Value → Bool
  | .missing => false
  | .null => false
  | .bool b => b
  | .int i => i != 0
  | .float x => !x.isZero
  | .str s => s != ""
  | .list xs => !xs.isEmpty
  | .tuple xs => !xs.isEmpty
  | .map es => !es.isEmpty
  | .cls _ => true

/-- Whether a rule with this value counts as given: null and false switch it off. -/
def isGiven : Value → Bool
  | .null => false
  | .bool false => false
  | _ => true

/-! ## Looking up -/

/-- The first entry with a key: the key as entered, and the value. -/
def entryWith? (key : Key) (entries : List (Key × Value)) : Option (Key × Value) :=
  entries.find? fun e => e.1.same key

/-- The value under a key among entries. -/
def entryAt? (key : Key) (entries : List (Key × Value)) : Option Value :=
  (entryWith? key entries).map (·.2)

/-- The value under a name. -/
def get? : Value → String → Option Value
  | .map es, name => entryAt? (.name name) es
  | _, _ => none

/-- Whether a mapping has an entry under a key. -/
def hasKey (v : Value) (key : Key) : Bool := (entryWith? key v.entries).isSome

/-- The keys of a mapping in order. -/
def keys (v : Value) : List Key := v.entries.map (·.1)

theorem get?_map (es : List (Key × Value)) (name : String) :
    (Value.map es).get? name = entryAt? (.name name) es := rfl

theorem keys_map (es : List (Key × Value)) : (Value.map es).keys = es.map (·.1) := rfl

/-- A mapping has a value under a name exactly when it has that key. -/
theorem hasKey_name (v : Value) (name : String) : v.hasKey (.name name) = (v.get? name).isSome := by
  cases v <;> simp [hasKey, get?, entryAt?, entries, entryWith?]

theorem isGiven_eq_false_iff (v : Value) : v.isGiven = false ↔ v = .null ∨ v = .bool false := by
  unfold isGiven
  split <;> simp_all

end Value

end Conformance

/-
  Settings of a validator and how they are read.

  Settings come as values of any kind, or as texts from the environment.  A switch may be given as
  a boolean, as zero or one, or by a word for yes or no; a depth as a whole number in any of the
  forms in which one can be written.  Every field that cannot be read is reported, in a fixed
  order.
-/
import Conformance.Value.Basic
import Conformance.Text.WholeNumbers

namespace Conformance

/-- The greatest depth of nesting that may be asked for. -/
def depthCeiling : Nat := 128

/-- The settings of a validator: whether defaults are written, and how deep checks may nest. -/
structure Settings where
  interactive : Bool
  maxDepth : Nat
  one_le : 1 ≤ maxDepth
  le_ceiling : maxDepth ≤ depthCeiling

/-- The settings when nothing is said. -/
def Settings.default : Settings := ⟨true, 100, by decide, by decide⟩

/-- Why a setting cannot be read. -/
inductive SettingFlaw where
  | notBoolean
  | unreadableBoolean
  | notInteger
  | unreadableInteger
  | tooLarge
  | fractional
  | notFinite
  | belowOne
  | aboveCeiling
deriving DecidableEq

namespace SettingFlaw

/-- The short name of a flaw. -/
def label : SettingFlaw → String
  | notBoolean => "bool_type"
  | unreadableBoolean => "bool_parsing"
  | notInteger => "int_type"
  | unreadableInteger => "int_parsing"
  | tooLarge => "int_parsing_size"
  | fractional => "int_from_float"
  | notFinite => "finite_number"
  | belowOne => "greater_than_equal"
  | aboveCeiling => "less_than_equal"

/-- The wording of a flaw. -/
def message : SettingFlaw → String
  | notBoolean => "Input should be a valid boolean"
  | unreadableBoolean => "Input should be a valid boolean, unable to interpret input"
  | notInteger => "Input should be a valid integer"
  | unreadableInteger => "Input should be a valid integer, unable to parse string as an integer"
  | tooLarge => "Unable to parse input string as an integer, exceeded maximum size"
  | fractional => "Input should be a valid integer, got a number with a fractional part"
  | notFinite => "Input should be a finite number"
  | belowOne => "Input should be greater than or equal to 1"
  | aboveCeiling => "Input should be less than or equal to 128"

end SettingFlaw

/-- A setting that cannot be read. -/
structure SettingProblem where
  field : String
  flaw : SettingFlaw

namespace Settings

/-! ## Switches -/

/-- The words for yes and no, in lower case. -/
def switchWords : List (String × Bool) :=
  [("true", true), ("t", true), ("yes", true), ("y", true), ("on", true), ("1", true),
    ("false", false), ("f", false), ("no", false), ("n", false), ("off", false), ("0", false)]

/-- Zero or one as a switch. -/
def zeroOrOne (i : Int) : Except SettingFlaw Bool :=
  if i = 0 then .ok false else if i = 1 then .ok true else .error .unreadableBoolean

/-- A float as a whole number, which must be short of `2 ^ 63` on either side. -/
def wholeOfFloat (x : Binary64) : Except SettingFlaw Int :=
  match x.extent with
  | .finite units =>
    if units % grain ≠ 0 then .error .fractional
    else if (units / grain).natAbs < signedBound then .ok (units / grain)
    else .error .tooLarge
  | _ => .error .notFinite

/-- Reads a switch.  A number is no switch at all unless it is whole and of 64 bits. -/
def readSwitch : Value → Except SettingFlaw Bool
  | .bool b => .ok b
  | .int i => if -signedBound ≤ i ∧ i < signedBound then zeroOrOne i else .error .notBoolean
  | .float x => (match wholeOfFloat x with
    | .ok i => zeroOrOne i
    | .error _ => .error .notBoolean)
  | .str s => (match switchWords.lookup s.toLower with
    | some b => .ok b
    | none => .error .unreadableBoolean)
  | _ => .error .notBoolean

/-! ## Depths -/

/-- Reads an integer. -/
def readInteger : Value → Except SettingFlaw Int
  | .bool b => .ok (if b then 1 else 0)
  | .int i => .ok i
  | .float x => wholeOfFloat x
  | .str s => (match WholeNumber.read s.toList with
    | .number i => .ok i
    | .unreadable => .error .unreadableInteger
    | .tooLong => .error .tooLarge)
  | _ => .error .notInteger

/-- A depth within its limits. -/
abbrev Depth : Type := { d : Nat // 1 ≤ d ∧ d ≤ depthCeiling }

/-- Reads a depth. -/
def readDepth (v : Value) : Except SettingFlaw Depth := do
  let i ← readInteger v
  if low : i < 1 then .error .belowOne
  else if high : (depthCeiling : Int) < i then .error .aboveCeiling
  else .ok ⟨i.toNat, by omega, by omega⟩

/-! ## Settings as a whole -/

/-- The name of the field for the switch. -/
def interactiveField : String := "interactive"

/-- The name of the field for the depth. -/
def depthField : String := "max_depth"

/-- The problem with a field, if there is one. -/
def problem? {α : Type} (field : String) : Except SettingFlaw α → List SettingProblem
  | .ok _ => []
  | .error flaw => [⟨field, flaw⟩]

/-- Puts settings together from what was read, or lists all problems. -/
def combine (switch : Except SettingFlaw Bool) (depth : Except SettingFlaw Depth) :
    Except (List SettingProblem) Settings :=
  match switch, depth with
  | .ok b, .ok d => .ok ⟨b, d.val, d.property.1, d.property.2⟩
  | switch, depth => .error (problem? interactiveField switch ++ problem? depthField depth)

/-- Reads settings from fields; absent ones have their defaults, and others are of no account. -/
def ofFields (fields : Value) : Except (List SettingProblem) Settings :=
  combine (readSwitch ((fields.get? interactiveField).getD (.bool default.interactive)))
    (readDepth ((fields.get? depthField).getD (.int default.maxDepth)))

/-- The variable for the switch. -/
def interactiveVariable : String := "SCHEMAGUARD_INTERACTIVE"

/-- The variable for the depth. -/
def depthVariable : String := "SCHEMAGUARD_MAX_DEPTH"

/-- Reads settings from the variables of an environment. -/
def ofEnvironment (environment : Value) : Except (List SettingProblem) Settings :=
  combine (readSwitch ((environment.get? interactiveVariable).getD (.bool default.interactive)))
    (readDepth ((environment.get? depthVariable).getD (.int default.maxDepth)))

end Settings

end Conformance

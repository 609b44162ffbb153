/-
  What a check can object to.

  A `Cause` is one way in which a value or a schema breaks a rule; `Cause.kind` names the rule and
  `Cause.errorClass` says whom it blames: the data, the schema, or the nesting of the two.  The two
  are chosen cause by cause, and they fit each other (`Cause.errorClass_eq`).  A `Violation` adds
  the key and the place, and `Violation.message` is the wording.

  A `Fault` is none of these: the run itself could not go on.
-/
import Conformance.Value.Location

namespace Conformance

/-! ## Kinds and classes -/

/-- The rules that can be broken. -/
inductive ErrorKind where
  | missingRequired
  | typeMismatch
  | disallowedValue
  | extraItems
  | tooFewItems
  | tooManyItems
  | unexpectedProperty
  | missingDependency
  | patternMismatch
  | tooShort
  | tooLong
  | belowMinimum
  | aboveMaximum
  | tooManyDecimals
  | notInEnum
  | invalidSchema
  | unsupportedType
  | recursionLimit
deriving DecidableEq

/-- What an error blames. -/
inductive ErrorClass where
  | data
  | definition
  | nesting
deriving DecidableEq

namespace ErrorKind

/-- All kinds. -/
def all : List ErrorKind :=
  [missingRequired, typeMismatch, disallowedValue, extraItems, tooFewItems, tooManyItems,
    unexpectedProperty, missingDependency, patternMismatch, tooShort, tooLong, belowMinimum,
    aboveMaximum, tooManyDecimals, notInEnum, invalidSchema, unsupportedType, recursionLimit]

/-- The word for a kind. -/
def label : ErrorKind → String
  | missingRequired => "missing_required"
  | typeMismatch => "type_mismatch"
  | disallowedValue => "disallowed_value"
  | extraItems => "extra_items"
  | tooFewItems => "too_few_items"
  | tooManyItems => "too_many_items"
  | unexpectedProperty => "unexpected_property"
  | missingDependency => "missing_dependency"
  | patternMismatch => "pattern_mismatch"
  | tooShort => "too_short"
  | tooLong => "too_long"
  | belowMinimum => "below_minimum"
  | aboveMaximum => "above_maximum"
  | tooManyDecimals => "too_many_decimals"
  | notInEnum => "not_in_enum"
  | invalidSchema => "invalid_schema"
  | unsupportedType => "unsupported_type"
  | recursionLimit => "recursion_limit"

/-- The kind a word names. -/
def ofLabel? (s : String) : Option ErrorKind := all.find? (·.label == s)

/-- Whether a kind blames the schema and not the data. -/
def blamesSchema (k : ErrorKind) : Bool := k == invalidSchema || k == unsupportedType

/-- The class of the errors of a kind. -/
def errorClass (k : ErrorKind) : ErrorClass :=
  if k.blamesSchema then .definition else if k = recursionLimit then .nesting else .data

end ErrorKind

/-! ## Causes -/

/-- One way of breaking a rule. -/
inductive Cause where
  | missing
  | tooDeep (limit : Nat)
  | wrongType (found expected : String)
  | disallowed
  | unsupportedType (name : String)
  | extraItems
  | tooFewItems (bound : Value)
  | tooManyItems (bound : Value)
  | additionalProperty (owner : Value)
  | undeclaredProperty
  | requirementUnmet (required : String)
  | patternMismatch (pattern : Value)
  | tooLong (bound : Value)
  | tooShort (bound : Value)
  | belowMinimum (bound : Value)
  | aboveMaximum (bound : Value)
  | tooManyDecimals (bound : Value)
  | notInEnum (options : List Value)
  | notAnObject (found : String)
  | propertiesNotObject
  | badAdditional (found : String)
  | badRequires (found : String)
  | badBound (rule found : String)
  | badPattern (pattern : Value) (reason : String)
  | badLabel (label : String) (value : Value)
deriving DecidableEq

/-- The rule that a cause breaks. -/
def Cause.kind : Cause → ErrorKind
  | .missing => .missingRequired
  | .tooDeep _ => .recursionLimit
  | .wrongType _ _ => .typeMismatch
  | .disallowed => .disallowedValue
  | .unsupportedType _ => .unsupportedType
  | .extraItems => .extraItems
  | .tooFewItems _ => .tooFewItems
  | .tooManyItems _ => .tooManyItems
  | .additionalProperty _ => .unexpectedProperty
  | .undeclaredProperty => .unexpectedProperty
  | .requirementUnmet _ => .missingDependency
  | .patternMismatch _ => .patternMismatch
  | .tooLong _ => .tooLong
  | .tooShort _ => .tooShort
  | .belowMinimum _ => .belowMinimum
  | .aboveMaximum _ => .aboveMaximum
  | .tooManyDecimals _ => .tooManyDecimals
  | .notInEnum _ => .notInEnum
  | .notAnObject _ => .typeMismatch
  | .propertiesNotObject => .invalidSchema
  | .badAdditional _ => .invalidSchema
  | .badRequires _ => .invalidSchema
  | .badBound _ _ => .invalidSchema
  | .badPattern _ _ => .invalidSchema
  | .badLabel _ _ => .invalidSchema

/-- What a cause blames. -/
def Cause.errorClass : Cause → ErrorClass
  | .missing => .data
  | .tooDeep _ => .nesting
  | .wrongType _ _ => .data
  | .disallowed => .data
  | .unsupportedType _ => .definition
  | .extraItems => .data
  | .tooFewItems _ => .data
  | .tooManyItems _ => .data
  | .additionalProperty _ => .data
  | .undeclaredProperty => .data
  | .requirementUnmet _ => .data
  | .patternMismatch _ => .data
  | .tooLong _ => .data
  | .tooShort _ => .data
  | .belowMinimum _ => .data
  | .aboveMaximum _ => .data
  | .tooManyDecimals _ => .data
  | .notInEnum _ => .data
  | .notAnObject _ => .data
  | .propertiesNotObject => .definition
  | .badAdditional _ => .definition
  | .badRequires _ => .definition
  | .badBound _ _ => .definition
  | .badPattern _ _ => .definition
  | .badLabel _ _ => .definition

/-- What a cause blames is what its kind blames. -/
theorem Cause.errorClass_eq (c : Cause) : c.errorClass = c.kind.errorClass := by
  cases c <;> rfl

/-- The wording of a cause about the value under a key. -/
def Cause.message (key : String) : Cause → String
  | .missing => key ++ ": is missing and it is required"
  | .tooDeep limit =>
    key ++ ": schema nesting exceeds the maximum depth of " ++ integerText limit
  | .wrongType found expected =>
    key ++ ": " ++ found ++ " value found, but a " ++ expected ++ " is required"
  | .disallowed => key ++ ": disallowed value was matched"
  | .unsupportedType name => key ++ ": field type '" ++ name ++ "' is not supported"
  | .extraItems =>
    key ++ ": there are more values in the array than are allowed by "
      ++ "the items and additionalProperties restrictions"
  | .tooFewItems bound => key ++ ": there must be a minimum of " ++ bound.text ++ " in the array"
  | .tooManyItems bound => key ++ ": there must be a maximum of " ++ bound.text ++ " in the array"
  | .additionalProperty owner =>
    owner.text ++ ": additional properties not defined by 'properties' are not allowed in field '"
      ++ key ++ "'"
  | .undeclaredProperty =>
    "the property " ++ key ++ " is not defined in the schema and the schema "
      ++ "does not allow additional properties"
  | .requirementUnmet required =>
    "the presence of the property " ++ key ++ " requires that " ++ required ++ " also be present"
  | .patternMismatch pattern => key ++ ": does not match the regex pattern " ++ pattern.text
  | .tooLong bound => key ++ ": may only be " ++ bound.text ++ " characters long"
  | .tooShort bound => key ++ ": must be at least " ++ bound.text ++ " characters long"
  | .belowMinimum bound => key ++ ": must have a minimum value of " ++ bound.text
  | .aboveMaximum bound => key ++ ": must have a maximum value of " ++ bound.text
  | .tooManyDecimals bound => key ++ ": may only have " ++ bound.text ++ " digits of decimal places"
  | .notInEnum options =>
    key ++ ": does not have a value in the enumeration " ++ joined ", " (options.map Value.json)
  | .notAnObject found => "an object is required, " ++ found ++ " found"
  | .propertiesNotObject => "properties definition must be an object"
  | .badAdditional found =>
    key ++ ": additionalProperties must be a boolean or a schema, " ++ found ++ " found"
  | .badRequires found => key ++ ": requires must be a property name, " ++ found ++ " found"
  | .badBound rule found => key ++ ": " ++ rule ++ " must be a number, " ++ found ++ " found"
  | .badPattern pattern reason =>
    key ++ ": pattern " ++ pattern.repr ++ " is not a valid regular expression: " ++ reason
  | .badLabel label value =>
    key ++ ": the " ++ label ++ " for field '" ++ value.text ++ "' must be a string"

/-! ## Violations -/

/-- A broken rule: why, the key the value was found under (null if the error is about no key), and
    the place, which a bad type name does not have. -/
structure Violation where
  cause : Cause
  key : Value
  trail : Option Trail
deriving DecidableEq

namespace Violation

/-- The rule that is broken. -/
def kind (v : Violation) : ErrorKind := v.cause.kind

/-- What is to blame. -/
def errorClass (v : Violation) : ErrorClass := v.cause.errorClass

/-- The wording. -/
def message (v : Violation) : String := v.cause.message v.key.text

/-- The path of the place. -/
def path (v : Violation) : Option String := v.trail.map Trail.text

end Violation

/-- A reason why a run cannot go on at all. -/
inductive Fault where
  | notIterable (className : String)
  | unhashable (className : String)
  | nothingToLookThrough
  | noClassToTest
  | indexOutOfRange
  | indexTooWide
  | lengthTooWide
  | noRoom
  | countTooLarge
  | tooManyDigits (digits : Nat)
  | alphabetsClash
  | behindTooFar
  | reversedGroup
  | mappingChanged
deriving DecidableEq

/-- The wording of a fault. -/
def Fault.message : Fault → String
  | .notIterable name => "'" ++ name ++ "' object is not iterable"
  | .unhashable name => "unhashable type: '" ++ name ++ "'"
  | .nothingToLookThrough => "argument of type 'NoneType' is not iterable"
  | .noClassToTest => "isinstance() arg 2 must be a type, a tuple of types, or a union"
  | .indexOutOfRange => "list assignment index out of range"
  | .indexTooWide => "cannot fit 'int' into an index-sized integer"
  | .lengthTooWide => "cannot fit 'int' into an index-sized integer"
  | .noRoom => ""
  | .countTooLarge => "the repetition number is too large"
  | .tooManyDigits n =>
    "Exceeds the limit (4300 digits) for integer string conversion: value has " ++ integerText n
      ++ " digits; use sys.set_int_max_str_digits() to increase the limit"
  | .alphabetsClash => "ASCII and UNICODE flags are incompatible"
  | .behindTooFar => "invalid SRE code"
  | .reversedGroup =>
    "The span of capturing group is wrong, please report a bug for the re module."
  | .mappingChanged => "dictionary changed size during iteration"

/-- What comes of a write at an index out of the reach of a list: lengths and indices have 64 bits,
    and a list needs room for what is to be appended. -/
def Fault.ofIndex (index : Int) (length : Nat) : Fault :=
  if 0 ≤ index then
    if index - length + 1 < signedBound then .noRoom else .lengthTooWide
  else
    if -signedBound ≤ index then .indexOutOfRange else .indexTooWide

/-- How a run can fail. -/
inductive Failure where
  | violation (v : Violation)
  | fault (f : Fault)
deriving DecidableEq

instance instDecidableEqExcept {ε α : Type} [DecidableEq ε] [DecidableEq α] :
    DecidableEq (Except ε α)
  | .ok a, .ok b => decidable_of_iff (a = b) (by simp)
  | .error e, .error f => decidable_of_iff (e = f) (by simp)
  | .ok _, .error _ => .isFalse nofun
  | .error _, .ok _ => .isFalse nofun

/-! ## Errors on their own -/

/-- An error as it is told: its class and kind need not fit each other. -/
structure ErrorRecord where
  errorClass : ErrorClass
  kind : ErrorKind
  message : String
  key : Value
  path : Option String

/-- The name of a class of errors. -/
def ErrorClass.name : ErrorClass → String
  | .data => "SchemaValidationError"
  | .definition => "SchemaDefinitionError"
  | .nesting => "RecursionDepthExceeded"

/-- The error that a violation is told as. -/
def Violation.record (v : Violation) : ErrorRecord :=
  ⟨v.errorClass, v.kind, v.message, v.key, v.path⟩

/-- An error on one line. -/
def ErrorRecord.summary (e : ErrorRecord) : String :=
  let path := match e.path with
    | some p => quoted p
    | none => Value.null.repr
  e.errorClass.name ++ "(kind=" ++ quoted e.kind.label ++ ", path=" ++ path ++ ", message="
    ++ quoted e.message ++ ")"

/-! ## Small laws -/

/-- An error blames the schema exactly when its kind does. -/
theorem Violation.errorClass_eq_definition_iff (v : Violation) :
    v.errorClass = .definition ↔ v.kind.blamesSchema = true := by
  unfold Violation.errorClass Violation.kind
  rw [Cause.errorClass_eq]
  unfold ErrorKind.errorClass
  split
  · simp_all
  · split <;> simp_all

end Conformance

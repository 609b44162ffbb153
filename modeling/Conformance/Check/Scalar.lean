/-
  Rules on single values: bounds, patterns, lengths, numbers, enumerations and labels.

  A rule that is missing or null asks for nothing.  A bound must be a number, and it is compared
  exactly with the number or the length at hand.
-/
import Conformance.Check.Run
import Conformance.Value.Equality
import Conformance.Pattern.Search

namespace Conformance.Check

/-- A rule that is neither missing nor null. -/
def unlessNull (v : Value) (rule : Value → Check Unit) : Check Unit :=
  match v with
  | .null => pure ()
  | v => rule v

/-- A rule whose value must be a number. -/
def withBound (n : Node) (name : String) (rule : Number → Value → Check Unit) : Check Unit := do
  unlessNull (← field n name) fun v =>
    match v.number? with
    | some bound => rule bound v
    | none => fail (.badBound name v.kind)

/-- A count as a number. -/
def count (n : Nat) : Number := .int n

/-! ## Lengths -/

/-- The rules `minItems` and `maxItems`. -/
def itemCounts (n : Node) : Check Unit := do
  withBound n "minItems" fun bound v => do
    let length := ((← value).elements?.getD []).length
    if (count length).lt bound then fail (.tooFewItems v)
  withBound n "maxItems" fun bound v => do
    let length := ((← value).elements?.getD []).length
    if bound.lt (count length) then fail (.tooManyItems v)

/-- The rules `maxLength` and `minLength`. -/
def textLengths (n : Node) (s : String) : Check Unit := do
  withBound n "maxLength" fun bound v =>
    if bound.lt (count s.length) then fail (.tooLong v) else pure ()
  withBound n "minLength" fun bound v =>
    if (count s.length).lt bound then fail (.tooShort v) else pure ()

/-! ## Patterns -/

/-- Why a value that is no text cannot be a pattern. -/
def noPatternReason (v : Value) : String :=
  match v.unhashable? with
  | some name => (Fault.unhashable name).message
  | none => "first argument must be string or compiled pattern"

/-- The rule `pattern`: the pattern must occur in the text. -/
def patternRule (n : Node) (s : String) : Check Unit := do
  unlessNull (← field n "pattern") fun v =>
    match v with
    | .str pattern =>
      match Pattern.read pattern with
      | .ok compiled =>
        match compiled.search s with
        | .something => pure ()
        | .nothing => fail (.patternMismatch v)
        | .reversedGroup => stop (.fault .reversedGroup)
      | .error (.defect d) => fail (.badPattern v (d.message pattern))
      | .error .countTooLarge => stop (.fault .countTooLarge)
      | .error (.tooManyDigits n) => stop (.fault (.tooManyDigits n))
      | .error .alphabetsClash => stop (.fault .alphabetsClash)
      | .error .behindTooFar => stop (.fault .behindTooFar)
    | v => fail (.badPattern v (noPatternReason v))

/-- The rules on texts. -/
def textRules (n : Node) (s : String) : Check Unit := do
  patternRule n s
  textLengths n s

/-! ## Numbers -/

/-- Whether a bound itself is allowed: it is unless the rule that says so holds no truth. -/
def boundAllowed (n : Node) (name : String) : Check Bool := do
  match ← field? n name with
  | some v => return v.isTruthy
  | none => return true

/-- The rule on decimals, for a number that shows how many it has. -/
def decimalRule (n : Node) (x : Number) : Check Unit := do
  let limit ← field n "maxDecimal"
  match limit.number?, x.shownDecimals with
  | some bound, some shown => if bound.lt (count shown) then fail (.tooManyDecimals limit)
  | _, _ => pure ()

/-- The rules on numbers. -/
def numberRules (n : Node) (x : Number) : Check Unit := do
  withBound n "minimum" fun bound v => do
    let allowed ← boundAllowed n "minimumCanEqual"
    -- where the bound itself is not allowed, meeting it is a violation too
    if (if allowed then x.lt bound else x.le bound) then fail (.belowMinimum v)
  withBound n "maximum" fun bound v => do
    let allowed ← boundAllowed n "maximumCanEqual"
    if (if allowed then bound.lt x else bound.le x) then fail (.aboveMaximum v)
  decimalRule n x

/-! ## Enumerations and labels -/

/-- The options that a value enumerates: the elements of an array, the characters of a text, the
    keys of a mapping. -/
def options? : Value → Option (List Value)
  | .list items => some items
  | .tuple items => some items
  | .str s => some (s.toList.map fun c => .str c.toString)
  | .map entries => some (entries.map fun e => e.1.value)
  | _ => none

/-- The rule `enum`: the value must equal one of the options. -/
def enumRule (n : Node) : Check Unit := do
  match ← field? n "enum" with
  | none => pure ()
  | some v =>
    if v.isGiven then
      match options? v with
      | none => stop (.fault (.notIterable v.className))
      | some options =>
        let at_hand ← value
        if options.any (fun o => o.equal at_hand) then pure () else fail (.notInEnum options)

/-- A label of a schema must be a text. -/
def labelRule (n : Node) (label : String) : Check Unit := do
  unlessNull (← field n label) fun v =>
    match v with
    | .str _ => pure ()
    | _ => do fail (.badLabel label (← value))

/-- The rules on values of all kinds that come last. -/
def closingRules (n : Node) : Check Unit := do
  enumRule n
  labelRule n "description"
  labelRule n "title"

end Conformance.Check

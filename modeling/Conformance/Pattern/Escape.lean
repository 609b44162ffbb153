/-
  Escapes: what a backslash and the characters after it stand for.

  Outside sets of characters an escape may be an anchor, a class of characters, one character, or a
  reference to a group; inside sets it is a class or one character.
-/
import Conformance.Pattern.Source
import Conformance.Text.CharacterNames

namespace Conformance.Pattern

/-- The characters that letters stand for after a backslash. -/
def controlEscape? : Char → Option Nat
  | 'a' => some 7
  | 'b' => some 8
  | 'f' => some 12
  | 'n' => some 10
  | 'r' => some 13
  | 't' => some 9
  | 'v' => some 11
  | '\\' => some 92
  | _ => none

/-- The class of characters a letter stands for after a backslash. -/
def categoryEscape? : Char → Option SetItem
  | 'd' => some (.category .digit false)
  | 'D' => some (.category .digit true)
  | 's' => some (.category .space false)
  | 'S' => some (.category .space true)
  | 'w' => some (.category .word false)
  | 'W' => some (.category .word true)
  | _ => none

/-- The anchor a letter stands for after a backslash. -/
def anchorEscape? : Char → Option Anchor
  | 'A' => some .textStart
  | 'b' => some .wordEdge
  | 'B' => some .noWordEdge
  | 'Z' => some .textEnd
  | _ => none

/-- Whether a character is an octal digit. -/
def isOctalDigit (c : Char) : Bool := decide ('0' ≤ c) && decide (c ≤ '7')

/-- Whether a character is a hexadecimal digit. -/
def isHexDigit (c : Char) : Bool :=
  c.isDigit || (decide ('a' ≤ c) && decide (c ≤ 'f')) || (decide ('A' ≤ c) && decide (c ≤ 'F'))

/-- The worth of a hexadecimal digit. -/
def hexWorth (c : Char) : Nat :=
  if c.isDigit then c.toNat - '0'.toNat
  else if 'a' ≤ c then c.toNat - 'a'.toNat + 10
  else c.toNat - 'A'.toNat + 10

/-- The number that digits denote to a base. -/
def ofDigits (base : Nat) (digits : List Char) : Nat :=
  digits.foldl (fun n c => n * base + hexWorth c) 0

namespace Reader

/-- Stops at the backslash of an escape whose text is given. -/
def failEscape {α : Type} (flaw : String → Flaw) (escape : List Char) : Reader α :=
  fail (flaw (String.ofList escape)) escape.length

/-- An escape with a fixed number of hexadecimal digits. -/
def hexEscape (letter : Char) (width : Nat) : Reader Nat := do
  let digits ← takeWhere isHexDigit width
  let escape := '\\' :: letter :: digits
  if digits.length ≠ width then failEscape .incompleteEscape escape
  let code := ofDigits 16 digits
  if 0x10FFFF < code then failEscape .badEscape escape
  return code

/-- An escape that gives the name of a character in braces. -/
def namedEscape : Reader Nat := do
  if !(← accept '\x7b') then fail .missingBrace 0
  let given ← name '\x7d' "character name"
  match characterNamed? given with
  | some code => return code
  | none => fail (.unknownCharacter (String.ofList given)) (given.length + 4)

/-- The escapes that inside and outside of sets stand for one character by its code or name. -/
def codeEscape? (letter : Char) : Reader (Option Nat) := do
  match letter with
  | 'x' => return some (← hexEscape 'x' 2)
  | 'u' => return some (← hexEscape 'u' 4)
  | 'U' => return some (← hexEscape 'U' 8)
  | 'N' => return some (← namedEscape)
  | _ => return none

/-- An octal escape, whose value must be below 256. -/
def octalCode (digits : List Char) : Reader Nat := do
  let code := ofDigits 8 digits
  if 0o377 < code then failEscape .octalTooLarge ('\\' :: digits)
  return code

/-- An escape inside a set of characters. -/
def setEscape (c : Char) : Reader SetItem := do
  if let some code := controlEscape? c then return .literal code
  if let some item := categoryEscape? c then return item
  if let some code ← codeEscape? c then return .literal code
  if isOctalDigit c then
    return .literal (← octalCode (c :: (← takeWhere isOctalDigit 2)))
  if c.isAlphanum then failEscape .badEscape ['\\', c]
  return .literal c.toNat

/-- A reference to a group by number; `digits` is the number as written. -/
def numberedReference (digits : List Char) : Reader Item := do
  let number := ofDigits 10 digits
  if (← groupCount) ≤ number then fail (.noSuchGroup number) digits.length
  if (← completeWidths? number).isNone then fail .openGroup (digits.length + 1)
  checkBehind number
  return .reference number

/-- A backslash with a digit other than zero: three octal digits are a character, anything shorter
    is a reference to a group. -/
def digitEscape (first : Char) : Reader Item := do
  match ← takeWhere Char.isDigit 1 with
  | [] => numberedReference [first]
  | second :: _ =>
    if isOctalDigit first && isOctalDigit second then
      match ← takeWhere isOctalDigit 1 with
      | [] => numberedReference [first, second]
      | third :: _ => return .literal (← octalCode [first, second, third])
    else numberedReference [first, second]

/-- An escape outside of sets. -/
def itemEscape (c : Char) : Reader Item := do
  if let some a := anchorEscape? c then return .anchor a
  if let some item := categoryEscape? c then return .set false [item]
  if let some code := controlEscape? c then return .literal code
  if let some code ← codeEscape? c then return .literal code
  if c = '0' then return .literal (ofDigits 8 (← takeWhere isOctalDigit 2))
  if c.isDigit then return (← digitEscape c)
  if c.isAlpha then failEscape .badEscape ['\\', c]
  return .literal c.toNat

end Reader

end Conformance.Pattern

/-
  Integers as people write them: blanks around, a sign or none, decimal digits of any script, and
  between two digits at most one underscore.  Numerals of very many digits are not read.
-/
import Conformance.Text.Digits
import Conformance.Text.Blanks

namespace Conformance

/-- Reads digits with single underscores between them; `value` is the number so far, and `openEnd`
    tells that a digit must come next. -/
def readDigits (digit? : Char → Option Nat) (value : Nat) (openEnd : Bool) : List Char → Option Nat
  | [] => if openEnd then none else some value
  | c :: rest =>
    match digit? c with
    | some d => readDigits digit? (value * 10 + d) false rest
    | none => if c = '_' ∧ openEnd = false then readDigits digit? value true rest else none

/-- Splits a sign off: whether it is a minus, and what follows. -/
def splitSign : List Char → Bool × List Char
  | '-' :: rest => (true, rest)
  | '+' :: rest => (false, rest)
  | s => (false, s)

/-- How many digits a numeral may have, leading zeros included. -/
def digitLimit : Nat := 4300

/-- Reads an integer in the digits of any script, unless it has too many of them. -/
def readInteger? (s : List Char) : Option Int :=
  let (negative, digits) := splitSign (trimWhere (fun c => isBlankCode c.toNat) s)
  if digitLimit < digits.countP (fun c => isDigitCode c.toNat) then none
  else (readDigits digitWorth? 0 true digits).map fun n => if negative then -(n : Int) else n

example : readInteger? " -1_0 ".toList = some (-10) := by decide
example : readInteger? "1__0".toList = none ∧ readInteger? "_1".toList = none := by decide
example : readInteger? "".toList = none ∧ readInteger? "٣".toList = some 3 := by decide

end Conformance

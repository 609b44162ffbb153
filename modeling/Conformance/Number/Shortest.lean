/-
  The fewest decimal digits that read back as a given float.

  A finite float stands for every real that rounds to it: the interval from halfway to the float
  below up to halfway to the float above, ends included when the significand is even (a tie goes to
  even).  On the grid of the multiples of `10^k` only the two neighbours of the float can lie
  nearest, so for `k` from the leading digit downward these two are tried, and the first grid with a
  hit gives the fewest digits.  Of two hits the nearer is taken, of two equally near the even one.
  All arithmetic is on natural numbers.
-/
import Conformance.Number.Binary64

namespace Conformance

/-- The positive decimal `digits * 10^exponent`. -/
structure Decimal where
  digits : Nat
  exponent : Int
deriving DecidableEq

namespace Shortest

/-- Powers of ten on either side of one: `num * 10^k` over `den`, the negative powers moved below
    the line. -/
def scaleUp (num : Nat) (k : Int) : Nat := num * Nat.pow 10 k.toNat

/-- The reals that round to one float, as `low / den ≤ x ≤ high / den` around `mid / den`. -/
structure Interval where
  low : Nat
  mid : Nat
  high : Nat
  den : Nat
  closed : Bool

/-- The interval of a positive finite float.  Below a power of two the lower neighbour is only half
    as far away as the upper one, the least power of two excepted. -/
def interval (x : Binary64) : Interval :=
  let m := x.significand
  let low := if x.fractionField = 0 ∧ 1 < x.exponentField then 4 * m - 1 else 4 * m - 2
  { low := low <<< x.shift
    mid := (4 * m) <<< x.shift
    high := (4 * m + 2) <<< x.shift
    den := 4 * grain
    closed := m % 2 == 0 }

/-- Whether `d * 10^k` lies in the interval. -/
def Interval.covers (i : Interval) (d : Nat) (k : Int) : Bool :=
  let point := scaleUp (d * i.den) k
  let low := scaleUp i.low (-k)
  let high := scaleUp i.high (-k)
  if i.closed then decide (low ≤ point) && decide (point ≤ high)
  else decide (low < point) && decide (point < high)

/-- The greatest multiple of `10^k` that is at most the float, as a count of `10^k`. -/
def Interval.floorAt (i : Interval) (k : Int) : Nat :=
  scaleUp i.mid (-k) / scaleUp i.den k

/-- The count of `10^k` to print on that grid, if one of the float's two neighbours there lies in
    the interval. -/
def Interval.hit? (i : Interval) (k : Int) : Option Nat :=
  let d := i.floorAt k
  -- zero is no text of a number that is not zero
  match decide (d ≠ 0) && i.covers d k, i.covers (d + 1) k with
  | false, false => none
  | true, false => some d
  | false, true => some (d + 1)
  | true, true =>
    let twice := 2 * scaleUp i.mid (-k)
    let middle := (2 * d + 1) * scaleUp i.den k
    if twice < middle then some d
    else if middle < twice then some (d + 1)
    else some (if d % 2 = 0 then d else d + 1)

/-- Tries grid after grid, each ten times finer than the one before. -/
def Interval.firstHit (i : Interval) : Nat → Int → Decimal
  | 0, k => ⟨i.floorAt k, k⟩
  | fuel + 1, k =>
    match i.hit? k with
    | some d => ⟨d, k⟩
    | none => i.firstHit fuel (k - 1)

/-- Removes zeros at the end of the digits, at most as many as `fuel`. -/
def dropZeros : Nat → Decimal → Decimal
  | 0, d => d
  | fuel + 1, d =>
    if d.digits % 10 = 0 ∧ d.digits ≠ 0 then dropZeros fuel ⟨d.digits / 10, d.exponent + 1⟩ else d

/-- The position of the leading digit of `num / den`, sought downward from `k`. -/
def leadingPlace (num den : Nat) : Nat → Int → Int
  | 0, k => k
  | fuel + 1, k =>
    if scaleUp den k ≤ scaleUp num (-k) then k else leadingPlace num den fuel (k - 1)

end Shortest

open Shortest in
/-- The shortest decimal that reads back as the magnitude of a finite, nonzero float: 309 is above
    the leading place of every float, -324 is that of the least, and seventeen digits always
    suffice. -/
def Binary64.shortest (x : Binary64) : Decimal :=
  let i := interval x
  dropZeros 17 (i.firstHit 17 (leadingPlace i.mid i.den 640 309))

example : (Binary64.mk 0x3FB999999999999A).shortest = ⟨1, -1⟩ := by decide +kernel
example : (Binary64.mk 0x3FD3333333333334).shortest = ⟨30000000000000004, -17⟩ := by decide +kernel
example : (Binary64.mk 1).shortest = ⟨5, -324⟩ := by decide +kernel
example : (Binary64.mk 0x7FEFFFFFFFFFFFFF).shortest = ⟨17976931348623157, 292⟩ := by decide +kernel
example : (Binary64.mk 0x44B52D02C7E14AF6).shortest = ⟨1, 23⟩ := by decide +kernel

end Conformance

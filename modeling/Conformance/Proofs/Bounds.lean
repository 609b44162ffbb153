/-
  What the bounds on numbers ask.

  A number breaks a bound by what the two denote, on the line of the rationals with an infinity at
  either end (`Number.Beneath`): an integer of any size meets a float without being rounded, and
  what denotes nothing breaks no bound and is broken by none.  A bound may itself be met unless a
  rule beside it says otherwise, and that rule says so by holding no truth (`Value.Falsy`).

  The minimum and the maximum are one rule with its sides exchanged (`boundRule_run`), and the
  minimum comes first.  So a number is accepted exactly if it breaks neither, and where it breaks
  both, the minimum is what is reported (`bounds_are_exact`).
-/
import Conformance.Proofs.Exact
import Conformance.Proofs.AbsentRules

namespace Conformance

/-! ## Conditions that do not hold -/

/-- A condition that does not hold: null, false, what denotes zero, and everything empty. -/
inductive Value.Falsy : Value → Prop
  | missing : Falsy .missing
  | null : Falsy .null
  | no : Falsy (.bool false)
  | zero {v : Value} {x : Number} (hv : v.number? = some x) (hx : x.exactValue = some (.of 0)) :
    Falsy v
  | text : Falsy (.str "")
  | list : Falsy (.list [])
  | tuple : Falsy (.tuple [])
  | map : Falsy (.map [])

namespace Binary64

variable {x : Binary64}

/-- The significand is zero for zeros only, as all other floats have a digit in front. -/
theorem significand_eq_zero_iff : x.significand = 0 ↔ x.isZero = true := by
  unfold significand isZero
  by_cases he : x.exponentField = 0 <;> simp [he]

/-- A power of two takes no significand to zero. -/
theorem rational_eq_zero_iff : x.rational = 0 ↔ x.significand = 0 := by
  have hpower : (2 : ℚ) ^ ((x.shift : ℤ) - 1074) ≠ 0 := zpow_ne_zero _ two_ne_zero
  unfold rational
  split <;> simp [hpower]

/-- A float is zero, with either sign, if it denotes zero. -/
theorem isZero_iff_exact : x.isZero = true ↔ x.exactValue = some (.of 0) := by
  by_cases htop : x.exponentField = topExponent
  · -- an infinity or no number, and neither denotes a rational
    have hzero : x.isZero = false := by simp [isZero, htop, topExponent]
    have hexact : x.exactValue ≠ some (.of 0) := by
      unfold exactValue
      split
      · nofun
      · next hnan =>
        have hinfinite : x.isInfinite = true := by simpa [isNaN, isInfinite, htop] using hnan
        rw [if_pos hinfinite]
        split
        · exact fun h => (ExtendedRational.bot_lt_of 0).ne (Option.some.inj h)
        · exact fun h => (ExtendedRational.of_lt_top 0).ne' (Option.some.inj h)
    simp [hzero, hexact]
  · have hnan : x.isNaN = false := by simp [isNaN, htop]
    have hinfinite : x.isInfinite = false := by simp [isInfinite, htop]
    have hexact : x.exactValue = some (.of x.rational) := by simp [exactValue, hnan, hinfinite]
    rw [hexact, Option.some_inj, ExtendedRational.of_inj, rational_eq_zero_iff,
      significand_eq_zero_iff]

end Binary64

/-- The conditions that do not hold are those listed. -/
theorem Value.isTruthy_eq_false_iff {v : Value} : v.isTruthy = false ↔ v.Falsy := by
  constructor
  · intro h
    -- one kind of value after the other; only numbers need a look at what they denote
    cases v with
    | missing => exact .missing
    | null => exact .null
    | bool b =>
      obtain rfl : b = false := h
      exact .no
    | int i =>
      obtain rfl : i = 0 := by simpa [isTruthy] using h
      exact .zero rfl (by rw [Number.exactValue, Int.cast_zero])
    | float x =>
      have hzero : x.isZero = true := by simpa [isTruthy] using h
      exact .zero rfl (Binary64.isZero_iff_exact.mp hzero)
    | str s =>
      obtain rfl : s = "" := by simpa [isTruthy] using h
      exact .text
    | list items =>
      obtain rfl : items = [] := by simpa [isTruthy] using h
      exact .list
    | tuple items =>
      obtain rfl : items = [] := by simpa [isTruthy] using h
      exact .tuple
    | map entries =>
      obtain rfl : entries = [] := by simpa [isTruthy] using h
      exact .map
    | cls c => cases h
  · intro h
    cases h with
    | @zero _ x hv hx =>
      cases v with
      | int i =>
        cases hv
        rw [Number.exactValue, Option.some_inj, ExtendedRational.of_inj] at hx
        simpa [isTruthy] using hx
      | float y =>
        cases hv
        simpa [isTruthy] using Binary64.isZero_iff_exact.mpr hx
      | _ => cases hv
    | _ => rfl

/-! ## Bounds that are broken -/

/-- A number lies beneath another one by what the two denote, or is the same where that counts. -/
def Number.Beneath (a b : Number) (orSame : Prop) : Prop :=
  ∃ p q, a.exactValue = some p ∧ b.exactValue = some q ∧ (p < q ∨ orSame ∧ p = q)

namespace Value

/-- A rule that is left out, null or a number. -/
def HasNumericRule (S : Value) (name : String) : Prop :=
  ∀ v, S.get? name = some v → v = .null ∨ ∃ b, v.number? = some b

/-- A rule is there and says that it does not hold. -/
def Denies (S : Value) (name : String) : Prop := ∃ v, S.get? name = some v ∧ v.Falsy

/-- A number is less than a schema asks for. -/
def BelowMinimum (S : Value) (x : Number) : Prop :=
  ∃ b, S.bound? "minimum" = some b ∧ x.Beneath b (S.Denies "minimumCanEqual")

/-- A number is more than a schema allows. -/
def AboveMaximum (S : Value) (x : Number) : Prop :=
  ∃ b, S.bound? "maximum" = some b ∧ b.Beneath x (S.Denies "maximumCanEqual")

end Value

namespace Number

variable {a b : Number} {orSame : Prop}

/-- The two comparisons of a rule on bounds, of which the second one counts where the bound itself
    is not allowed. -/
theorem beneath_iff {allowed : Bool} (h : allowed = true ↔ ¬orSame) :
    (if allowed then a.lt b else a.le b) = true ↔ a.Beneath b orSame := by
  unfold Beneath
  cases allowed with
  | true =>
    have hnot : ¬orSame := h.mp rfl
    rw [if_pos rfl, lt_iff_exact]
    simp [hnot]
  | false =>
    have hsame : orSame := by simpa using h
    rw [if_neg Bool.false_ne_true, le_iff_exact]
    simp [hsame, le_iff_lt_or_eq]

end Number

/-- A bound is allowed unless a rule denies it. -/
theorem Value.boundAllowed_iff {S : Value} {name : String} :
    S.boundAllowed name = true ↔ ¬S.Denies name := by
  unfold boundAllowed Denies
  cases S.get? name with
  | none => simp
  | some v => simp [← isTruthy_eq_false_iff]

/-- A bound is broken by the test that a rule makes of it. -/
theorem Value.any_beneath_iff {S : Value} {name : String} {a b : Number → Number}
    {bound : Option Number} :
    bound.any (fun m => if S.boundAllowed name then (a m).lt (b m) else (a m).le (b m)) = true ↔
      ∃ m, bound = some m ∧ (a m).Beneath (b m) (S.Denies name) := by
  rw [Option.any_eq_true]
  exact exists_congr fun m => and_congr_right fun _ => Number.beneath_iff boundAllowed_iff

namespace Check

variable {n : Node} {S : Value} {x : Number} {s : Scope} {p : Progress}

/-! ## The rule on bounds -/

/-- What a rule on a bound comes to: it is broken by a test of the bound and of whether the bound
    itself is allowed. -/
theorem boundRule_run (hS : n.content p.writes = S) {name : String} (allow : String)
    (test : Bool → Number → Bool) (cause : Value → Cause) (h : S.HasNumericRule name) :
    withBound n name (fun bound v => do
        let allowed ← boundAllowed n allow
        if test allowed bound then fail (cause v)) s p =
      (if (S.bound? name).any (test (S.boundAllowed allow)) then
        .error (.violation ⟨cause ((S.get? name).getD .null), s.key, some s.trail⟩)
      else .ok (), p) := by
  subst hS
  have hfield : field n name s p = (.ok (((n.content p.writes).get? name).getD .null), p) := rfl
  have hallowed :
      boundAllowed n allow s p = (.ok ((n.content p.writes).boundAllowed allow), p) := by
    unfold boundAllowed Value.boundAllowed
    rw [field?_bind]
    cases (n.content p.writes).get? allow <;> rfl
  unfold withBound Value.bound?
  rw [bind_run_ok hfield]
  cases hv : (n.content p.writes).get? name with
  | none => rfl
  | some v =>
    -- a bound that is null is passed over, and a number is compared
    rcases h v hv with rfl | ⟨b, hb⟩
    · rfl
    · have hrule (rule : Value → Check Unit) : unlessNull v rule = rule v := by
        cases v <;> first | rfl | cases hb
      rw [Option.getD_some, Option.bind_some, hrule, hb, Option.any_some]
      dsimp only
      rw [bind_run_ok hallowed]
      split <;> rfl

/-- How the rules on bounds end for a number: the minimum comes first. -/
inductive BoundsEnd (S : Value) (x : Number) : Except Failure Unit → Prop
  | below {e : Violation} (h : S.BelowMinimum x) (kind : e.kind = .belowMinimum) :
    BoundsEnd S x (.error (.violation e))
  | above {e : Violation} (h : ¬S.BelowMinimum x) (h' : S.AboveMaximum x)
    (kind : e.kind = .aboveMaximum) : BoundsEnd S x (.error (.violation e))
  | within (h : ¬S.BelowMinimum x) (h' : ¬S.AboveMaximum x) : BoundsEnd S x (.ok ())

/-- The rules on bounds end in one of three ways, and change nothing. -/
theorem numberRules_end (hS : n.content p.writes = S) (hmin : S.HasNumericRule "minimum")
    (hmax : S.HasNumericRule "maximum") (hdecimals : S.bound? "maxDecimal" = none) :
    ∃ r, numberRules n x s p = (r, p) ∧ BoundsEnd S x r := by
  let lower (allowed : Bool) (m : Number) : Bool := if allowed then x.lt m else x.le m
  let upper (allowed : Bool) (m : Number) : Bool := if allowed then m.lt x else m.le x
  have hlower := boundRule_run (s := s) hS "minimumCanEqual" lower .belowMinimum hmin
  have hupper := boundRule_run (s := s) hS "maximumCanEqual" upper .aboveMaximum hmax
  have hbelow : (S.bound? "minimum").any (lower (S.boundAllowed "minimumCanEqual")) = true ↔
      S.BelowMinimum x := Value.any_beneath_iff
  have habove : (S.bound? "maximum").any (upper (S.boundAllowed "maximumCanEqual")) = true ↔
      S.AboveMaximum x := Value.any_beneath_iff
  have hrest : decimalRule n x s p = (.ok (), p) := by
    have hfield : field n "maxDecimal" s p = (.ok ((S.get? "maxDecimal").getD .null), p) := by
      rw [← hS]
      rfl
    have hnone : ((S.get? "maxDecimal").getD .null).number? = none := by
      unfold Value.bound? at hdecimals
      cases hd : S.get? "maxDecimal" with
      | none => rfl
      | some d => rwa [hd] at hdecimals
    unfold decimalRule
    rw [bind_run_ok hfield, hnone]
    rfl
  unfold numberRules
  -- the minimum is looked at first, and its error ends the run
  by_cases hb : S.BelowMinimum x
  · rw [if_pos (hbelow.mpr hb)] at hlower
    exact ⟨_, bind_run_error hlower, .below hb rfl⟩
  · rw [if_neg (mt hbelow.mp hb)] at hlower
    rw [bind_run_ok hlower]
    by_cases ha : S.AboveMaximum x
    · rw [if_pos (habove.mpr ha)] at hupper
      exact ⟨_, bind_run_error hupper, .above hb ha rfl⟩
    · rw [if_neg (mt habove.mp ha)] at hupper
      rw [bind_run_ok hupper, hrest]
      exact ⟨_, rfl, .within hb ha⟩

end Check

/-- A schema on numbers that limits no decimals decides about a number by its bounds. -/
theorem Validator.validate_bounds (v : Validator) {inst schema : Node} (hschema : schema.OnNumbers)
    (hmap : schema.tree.isMap = true) (hid : schema.tree.get? "id" = none)
    (href : schema.tree.get? "$ref" = none) (hmin : schema.tree.HasNumericRule "minimum")
    (hmax : schema.tree.HasNumericRule "maximum")
    (hdecimals : schema.tree.bound? "maxDecimal" = none) {x : Number}
    (hx : inst.tree.number? = some x) :
    Check.BoundsEnd schema.tree x (v.validate inst schema).result := by
  obtain ⟨s, p, _, _, hresult⟩ := validate_number v hschema hmap hid href hx
  obtain ⟨r, hrun, hend⟩ :=
    Check.numberRules_end (x := x) (s := s) (hschema.inSchema.content p.writes) hmin hmax hdecimals
  rwa [hresult, hrun]

end Conformance

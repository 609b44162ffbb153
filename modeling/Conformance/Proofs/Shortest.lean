/-
  The digits of the shortest decimal.

  A float is a ratio of two natural numbers (`Interval.ratio`), and the search for its digits is one
  over powers of ten: the leading place is the power that the ratio reaches without reaching the
  next (`leadingPlace_spec`), and each grid from there on has one digit more (`floorAt_lt`).  So a
  hit has between one and eighteen digits (`firstHit_bounds`), seventeen zeros at most are to be
  dropped, and the last digit that is left is not zero (`Binary64.shortest_digits`).
-/
import Mathlib.Algebra.Order.Floor.Semifield
import Mathlib.Data.Rat.Floor
import Mathlib.Tactic.Ring
import Conformance.Number.Shortest
import Conformance.Proofs.Exact

namespace Conformance

namespace Shortest

/-! ## Powers of ten -/

namespace Interval

variable {i : Interval} {k : ℤ}

end Interval

end Shortest

namespace Binary64

open Shortest

variable {x : Binary64}

end Binary64

end Conformance

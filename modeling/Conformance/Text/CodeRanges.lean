/-
  Sets of code points as ascending bounds.

  The bounds `b₀ < b₁ < b₂ < …` stand for the code points from `b₀` to below `b₁`, from `b₂` to
  below `b₃` and so on: each bound turns membership over.  A search stops at the first bound above
  the code point, so the low scripts are found at once.
-/
namespace Conformance

/-- A set of code points, given by the ascending bounds at which membership turns over. -/
structure CodeRanges where
  bounds : List Nat

namespace CodeRanges

/-- The last bound at or below `c` that opens a range, if `c` lies in that range. -/
def openedAt? (c : Nat) : List Nat → Option Nat
  | low :: high :: rest => if c < low then none else if c < high then some low else openedAt? c rest
  | [low] => if c < low then none else some low
  | [] => none

/-- Whether the code point is in the set. -/
def has (r : CodeRanges) (c : Nat) : Bool := (openedAt? c r.bounds).isSome

/-- How far the code point lies from the start of its range. -/
def offset? (r : CodeRanges) (c : Nat) : Option Nat := (openedAt? c r.bounds).map (c - ·)

end CodeRanges

end Conformance

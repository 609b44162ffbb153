/-
  The characters that count as blank space: those of Unicode's property White_Space, and with them
  the four information separators U+001C to U+001F.
-/
import Conformance.Text.CodeRanges

namespace Conformance

/-- The code points of blank space, information separators included. -/
def blankCodes : CodeRanges := ⟨[
  9, 14, 28, 33, 133, 134, 160, 161, 5760, 5761, 8192, 8203, 8232, 8234, 8239, 8240, 8287, 8288,
  12288, 12289]⟩

/-- Whether a code point is blank space. -/
def isBlankCode (c : Nat) : Bool := blankCodes.has c

/-- Whether a character has the property White_Space. -/
def isWhiteSpace (c : Char) : Bool := blankCodes.has c.toNat && !(0x1C ≤ c.toNat && c.toNat ≤ 0x1F)

/-- A text without the characters that satisfy `p` at either end. -/
def trimWhere (p : Char → Bool) (s : List Char) : List Char :=
  ((s.dropWhile p).reverse.dropWhile p).reverse

end Conformance

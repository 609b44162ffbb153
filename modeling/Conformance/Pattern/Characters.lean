/-
  Which characters a single-character item matches, under the flags that hold there (`Single`).

  When case is disregarded, a character stands for its lower partner, and lower-case characters of
  one family (`Text.CaseVariants`) stand for each other.  A set disregards case only if one of its
  members has a case at all.  Beyond the basic plane families play no part: a range there is
  compared with the lower and with the upper partner, and a single character is compared as it is
  written.
-/
import Conformance.Pattern.Syntax
import Conformance.Text.WordCharacters
import Conformance.Text.Digits
import Conformance.Text.Blanks
import Conformance.Text.CaseVariants

namespace Conformance.Pattern

/-- Whether a code point is one of ASCII's letters. -/
def isAsciiLetter (c : Nat) : Bool :=
  (decide (65 ≤ c) && decide (c ≤ 90)) || (decide (97 ≤ c) && decide (c ≤ 122))

/-- Whether a code point belongs to a class of characters. -/
def Category.has (unicode : Bool) (category : Category) (c : Nat) : Bool :=
  match category with
  | .digit => if unicode then isDigitCode c else decide (48 ≤ c) && decide (c ≤ 57)
  | .space => if unicode then isBlankCode c else (decide (9 ≤ c) && decide (c ≤ 13)) || c == 32
  | .word =>
    if unicode then isWordCode c
    else isAsciiLetter c || (decide (48 ≤ c) && decide (c ≤ 57)) || c == 95

/-! ## Case -/

/-- How characters are compared when case is disregarded. -/
structure Folding where
  unicode : Bool

namespace Folding

/-- The lower partner of a code point. -/
def lower (f : Folding) (c : Nat) : Nat :=
  if f.unicode then lowerCode c else if 65 ≤ c ∧ c ≤ 90 then c + 32 else c

/-- Whether a code point has a case. -/
def cased (f : Folding) (c : Nat) : Bool :=
  if f.unicode then isCased c else isAsciiLetter c

/-- The other members of the family of a lower-case code point. -/
def variants (f : Folding) (c : Nat) : List Nat :=
  if f.unicode then caseVariants c else []

/-- The code points with a given lower partner. -/
def withLower (f : Folding) (c : Nat) : List Nat :=
  if f.unicode then codesWithLower c
  else if 97 ≤ c ∧ c ≤ 122 then [c, c - 32]
  else if 65 ≤ c ∧ c ≤ 90 then [] else [c]

/-- Whether a code point of a range has a case. -/
def casedBetween (f : Folding) (low high : Nat) : Bool :=
  if f.unicode then (lowerRuns ++ upperRuns).any (·.meets low high)
  else (CaseRun.mk 65 90 1 32).meets low high || (CaseRun.mk 97 122 1 (-32)).meets low high

/-- Whether a character is the written one, or the same but for case. -/
def same (f : Folding) (written c : Nat) : Bool :=
  if f.cased written then
    f.lower c == f.lower written || (f.variants (f.lower written)).contains (f.lower c)
  else c == written

end Folding

/-- The last code point of the basic plane. -/
def basicPlaneEnd : Nat := 0xFFFF

namespace SetItem

/-- Membership of a character as it is. -/
def has (unicode : Bool) (c : Nat) : SetItem → Bool
  | .literal code => c == code
  | .range low high => decide (low ≤ c) && decide (c ≤ high)
  | .category kind negated => kind.has unicode c != negated

/-- Whether a member makes its set disregard case. -/
def cased (f : Folding) : SetItem → Bool
  | .literal code => decide (basicPlaneEnd < f.lower code) || f.cased code
  | .range low high => decide (basicPlaneEnd < high) || f.casedBetween low high
  | .category _ _ => false

/-- Membership of a lower partner when case is disregarded. -/
def hasFolded (f : Folding) (c : Nat) : SetItem → Bool
  | .literal code =>
    if basicPlaneEnd < f.lower code then c == code
    else c == f.lower code || (f.variants (f.lower code)).contains c
  | .range low high =>
    (c :: f.variants c).any (fun d =>
      (f.withLower d).any fun e => decide (low ≤ e) && decide (e ≤ min high basicPlaneEnd)) ||
    (decide (basicPlaneEnd < high) &&
      ((decide (low ≤ c) && decide (c ≤ high)) ||
        (decide (low ≤ upperCode c) && decide (upperCode c ≤ high))))
  | .category kind negated => kind.has f.unicode c != negated

end SetItem

/-- Whether the flags disregard case. -/
def Flags.folding? (flags : Flags) : Option Folding :=
  if flags.contains .ignoreCase then some ⟨flags.contains .unicode⟩ else none

/-! ## Single characters -/

/-- A test of one character, made by an item under the flags that hold there. -/
inductive Single where
  /-- One character, as it is. -/
  | exactly (code : Nat)
  /-- Every character but one. -/
  | otherThan (code : Nat)
  /-- One character whatever its case, or every character but that. -/
  | letter (f : Folding) (negated : Bool) (code : Nat)
  /-- Every character, or all but line ends. -/
  | any (lineEnds : Bool)
  /-- A set, with characters as they are. -/
  | set (unicode negated : Bool) (members : List SetItem)
  /-- A set whatever the case of the character. -/
  | foldedSet (f : Folding) (negated : Bool) (members : List SetItem)

namespace Single

/-- A character written in the pattern.  Without a case it is compared as it is. -/
def ofLiteral (flags : Flags) (negated : Bool) (code : Nat) : Single :=
  let plain := if negated then otherThan code else exactly code
  match flags.folding? with
  | some f => if f.cased code then letter f negated code else plain
  | none => plain

/-- A set written in the pattern. -/
def ofSet (flags : Flags) (negated : Bool) (members : List SetItem) : Single :=
  let plain := set (flags.contains .unicode) negated members
  match flags.folding? with
  | some f => if members.any (·.cased f) then foldedSet f negated members else plain
  | none => plain

/-- Whether a character passes. -/
def accepts (s : Single) (c : Nat) : Bool :=
  match s with
  | exactly code => c == code
  | otherThan code => c != code
  | letter f negated code => f.same code c != negated
  | any lineEnds => lineEnds || c != 10
  | set unicode negated members => members.any (·.has unicode c) != negated
  | foldedSet f negated members => members.any (·.hasFolded f (f.lower c)) != negated

/-- Whether a test disregards case by looking a character up among several. -/
def looksUp : Single → Bool
  | letter f _ code => !(f.variants (f.lower code)).isEmpty
  | foldedSet _ _ _ => true
  | _ => false

end Single

/-- Whether two characters of the text count as the same. -/
def textMatches (flags : Flags) (a b : Nat) : Bool :=
  match flags.folding? with
  | some f => f.lower a == f.lower b
  | none => a == b

end Conformance.Pattern

/-
  What can be wrong with a pattern, and how it is told.

  Each flaw is a cause; `Flaw.message` is its wording.  Most flaws have a position in the pattern, a
  count of characters, and in a pattern of several lines the line and column are told as well.
-/
import Conformance.Pattern.Syntax
import Conformance.Number.Numeral
import Conformance.Text.Quoted

namespace Conformance.Pattern

/-- A reason why a text is no pattern. -/
inductive Flaw where
  | danglingBackslash
  | missingName (what : String)
  | unterminatedName (terminator : Char)
  | badGroupName (name : String)
  | incompleteEscape (escape : String)
  | missingBrace
  | unknownCharacter (name : String)
  | octalTooLarge (escape : String)
  | badEscape (escape : String)
  | openGroup
  | lookbehindGroup
  | noSuchGroup (number : Nat)
  | unterminatedSet
  | badRange (low high : String)
  | boundsReversed
  | nothingToRepeat
  | repeatedRepeat
  | unexpectedEnd
  | unknownGroupName (name : String)
  | unknownExtension (extension : String)
  | unterminatedComment
  | unterminatedGroup
  | groupZero
  | thirdBranch
  | lateFlags
  | localeFlag
  | twoAlphabets
  | missingFlagsEnd
  | unknownFlag
  | globalFlagOn
  | missingFlag
  | alphabetOff
  | missingColon
  | globalFlagOff
  | flagOnAndOff
  | nameTaken (name : String) (number earlier : Nat)
  | unbalanced
  | variableLookbehind
  | templateRepeat (greed : Greed)

/-- How a repetition is called in a template. -/
def Greed.operator : Greed → String
  | .greedy => "MAX_REPEAT"
  | .lazy => "MIN_REPEAT"
  | .possessive => "POSSESSIVE_REPEAT"

/-- The wording of a flaw. -/
def Flaw.message : Flaw → String
  | .danglingBackslash => "bad escape (end of pattern)"
  | .missingName what => "missing " ++ what
  | .unterminatedName c => "missing " ++ c.toString ++ ", unterminated name"
  | .badGroupName name => "bad character in group name " ++ quoted name
  | .incompleteEscape e => "incomplete escape " ++ e
  | .missingBrace => "missing \x7b"
  | .unknownCharacter name => "undefined character name " ++ quoted name
  | .octalTooLarge e => "octal escape value " ++ e ++ " outside of range 0-0o377"
  | .badEscape e => "bad escape " ++ e
  | .openGroup => "cannot refer to an open group"
  | .lookbehindGroup => "cannot refer to group defined in the same lookbehind subpattern"
  | .noSuchGroup n => "invalid group reference " ++ integerText n
  | .unterminatedSet => "unterminated character set"
  | .badRange low high => "bad character range " ++ low ++ "-" ++ high
  | .boundsReversed => "min repeat greater than max repeat"
  | .nothingToRepeat => "nothing to repeat"
  | .repeatedRepeat => "multiple repeat"
  | .unexpectedEnd => "unexpected end of pattern"
  | .unknownGroupName name => "unknown group name " ++ quoted name
  | .unknownExtension e => "unknown extension ?" ++ e
  | .unterminatedComment => "missing ), unterminated comment"
  | .unterminatedGroup => "missing ), unterminated subpattern"
  | .groupZero => "bad group number"
  | .thirdBranch => "conditional backref with more than two branches"
  | .lateFlags => "global flags not at the start of the expression"
  | .localeFlag => "bad inline flags: cannot use 'L' flag with a str pattern"
  | .twoAlphabets => "bad inline flags: flags 'a', 'u' and 'L' are incompatible"
  | .missingFlagsEnd => "missing -, : or )"
  | .unknownFlag => "unknown flag"
  | .globalFlagOn => "bad inline flags: cannot turn on global flag"
  | .missingFlag => "missing flag"
  | .alphabetOff => "bad inline flags: cannot turn off flags 'a', 'u' and 'L'"
  | .missingColon => "missing :"
  | .globalFlagOff => "bad inline flags: cannot turn off global flag"
  | .flagOnAndOff => "bad inline flags: flag turned on and off"
  | .nameTaken name n m =>
    "redefinition of group name " ++ quoted name ++ " as group " ++ integerText n ++ "; was group "
      ++ integerText m
  | .unbalanced => "unbalanced parenthesis"
  | .variableLookbehind => "look-behind requires fixed-width pattern"
  | .templateRepeat g => "internal: unsupported template operator " ++ g.operator

/-- A flaw and where it was seen. -/
structure Defect where
  flaw : Flaw
  position : Option Nat

/-- The line (from one) and the column (from one) of a position. -/
def lineColumn (s : List Char) (position : Nat) : Nat × Nat :=
  let before := s.take position
  (before.count '\n' + 1, (before.reverse.takeWhile (· != '\n')).length + 1)

/-- What is told about a defect of a pattern. -/
def Defect.message (d : Defect) (pattern : String) : String :=
  match d.position with
  | none => d.flaw.message
  | some p =>
    let place := d.flaw.message ++ " at position " ++ integerText p
    if pattern.toList.contains '\n' then
      let (line, column) := lineColumn pattern.toList p
      place ++ " (line " ++ integerText line ++ ", column " ++ integerText column ++ ")"
    else place

/-- Why a text could not be read as a pattern. -/
inductive Refusal where
  | defect (d : Defect)
  /-- A repetition states a count beyond the limit. -/
  | countTooLarge
  /-- A repetition states a count with that many digits, more than numerals may have. -/
  | tooManyDigits (digits : Nat)
  /-- Two flags for the whole pattern choose different alphabets. -/
  | alphabetsClash
  /-- A look behind goes back further than can be told. -/
  | behindTooFar

end Conformance.Pattern

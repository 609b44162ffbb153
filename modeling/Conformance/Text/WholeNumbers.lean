/-
  Whole numbers as people write them into settings.

  A whole number is written strictly if it has digits alone, no leading zero, and no sign but a
  minus.  Everything else is first tidied: blanks around it go, a plus sign goes, zeros in front go
  together with underscores among them, a point with zeros after it goes, and so do single
  underscores between other characters.  What is then still not written strictly is no whole
  number.
-/
import Conformance.Text.Blanks

namespace Conformance

/-- What a text comes to when it is read as a whole number. -/
inductive WholeReading where
  | number (i : Int)
  | unreadable
  /-- There are more digits than a whole number may have. -/
  | tooLong
deriving DecidableEq

namespace WholeNumber

/-- How many characters a whole number may have once it is written strictly. -/
def lengthLimit : Nat := 4300

/-- The number that ASCII digits denote. -/
def ofDigits (digits : List Char) : Nat :=
  digits.foldl (fun n c => n * 10 + (c.toNat - '0'.toNat)) 0

/-- Reads digits without leading zeros.  There may be `room` of them; too many are told even if
    something else follows. -/
def readDigits (room : Nat) (s : List Char) : WholeReading :=
  let digits := s.takeWhile Char.isDigit
  if digits.isEmpty then .unreadable
  else if digits.head? = some '0' then if s.length = 1 then .number 0 else .unreadable
  else if room < digits.length then .tooLong
  else if digits.length = s.length then .number (ofDigits digits)
  else .unreadable

/-- Reads a whole number that is written strictly. -/
def readStrict : List Char → WholeReading
  | '-' :: s => match readDigits (lengthLimit - 1) s with
    | .number i => .number (-i)
    | r => r
  | s => readDigits lengthLimit s

/-! ## Tidying -/

/-- What is left after zeros in front and underscores among them; `last` is the latest of these.
    One character stays before a point and where nothing follows. -/
def afterZeros (last : Char) : List Char → Option (List Char)
  | [] => some [last]
  | c :: rest =>
    if c = '0' ∨ c = '_' then afterZeros c rest
    else if c.isDigit ∨ c = '-' then some (c :: rest)
    else if c = '.' then some (last :: c :: rest)
    else none

/-- A text without zeros in front; it must begin with a digit or a minus. -/
def withoutZeros : List Char → Option (List Char)
  | [] => none
  | c :: rest =>
    if c = '0' then afterZeros c rest
    else if c.isDigit ∨ c = '-' then some (c :: rest)
    else none

/-- A text without its sign's plus and without zeros in front. -/
def withoutPlus : List Char → Option (List Char)
  | '+' :: '-' :: _ => none
  | '+' :: s => withoutZeros s
  | '-' :: s => (withoutZeros s).map ('-' :: ·)
  | s => withoutZeros s

/-- A text without its first point, if nothing but zeros follow it, and at least one. -/
def withoutPoint (s : List Char) : List Char :=
  let whole := s.takeWhile (· != '.')
  let zeros := s.drop (whole.length + 1)
  if !zeros.isEmpty && zeros.all (· == '0') then whole else s

/-- Whether two underscores stand side by side. -/
def hasTwinUnderscores : List Char → Bool
  | '_' :: '_' :: _ => true
  | _ :: rest => hasTwinUnderscores rest
  | [] => false

/-- A text without its underscores, each of which must have neighbours on both sides that are
    none. -/
def withoutUnderscores (s : List Char) : Option (List Char) :=
  if s.head? = some '_' || s.getLast? = some '_' || hasTwinUnderscores s then none
  else some (s.filter (· != '_'))

/-- A text tidied up. -/
def tidy (s : List Char) : Option (List Char) :=
  (withoutPlus (trimWhere isWhiteSpace s)).bind fun s => withoutUnderscores (withoutPoint s)

/-- Reads a whole number. -/
def read (s : List Char) : WholeReading :=
  match readStrict s with
  | .unreadable =>
    match tidy s with
    | some t => readStrict t
    | none => .unreadable
  | r => r

example : read " +1_0.00\n".toList = .number 10 := by decide +kernel
example : read "7.".toList = .unreadable ∧ read ".0".toList = .unreadable := by decide +kernel
example : read "0-5".toList = .number (-5) ∧ read "0-05".toList = .unreadable := by decide +kernel
example : read "-0__5".toList = .number (-5) ∧ read "1__0".toList = .unreadable := by decide +kernel

end WholeNumber

end Conformance

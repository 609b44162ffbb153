/-
  The text of a pattern, cut into lexemes.

  A lexeme is one character, or a backslash with the character after it.  Reading always knows the
  lexeme that comes next; a backslash at the very end of the text is an error as soon as it would be
  that lexeme.  Positions count characters.
-/
import Conformance.Pattern.Flaw

namespace Conformance.Pattern

/-- One lexeme of a pattern. -/
inductive Lexeme where
  | plain (c : Char)
  | escape (c : Char)
  | dangling
deriving DecidableEq

/-- The characters of a lexeme. -/
def Lexeme.chars : Lexeme → List Char
  | .plain c => [c]
  | .escape c => ['\\', c]
  | .dangling => ['\\']

/-- The lexemes of a text. -/
def lexemes : List Char → List Lexeme
  | [] => []
  | ['\\'] => [.dangling]
  | '\\' :: c :: rest => .escape c :: lexemes rest
  | c :: rest => .plain c :: lexemes rest

/-- What has been read so far: the lexemes to come and their position, the flags for the whole
    pattern, the groups with their names and, once complete, their widths, the number of groups
    opened before the outermost look behind that is being read, and the groups that conditions name
    by number, with their positions. -/
structure Source where
  coming : List Lexeme
  position : Nat
  flags : Flags
  names : List (String × Nat)
  widths : List (Option (Nat × Nat))
  behindFrom : Option Nat
  conditions : List (Nat × Nat)

/-- A step of reading. -/
abbrev Reader := StateT Source (Except Refusal)

namespace Reader

/-- Stops with a flaw at a position. -/
def failAt {α : Type} (position : Nat) (flaw : Flaw) : Reader α :=
  throw (.defect ⟨flaw, some position⟩)

/-- Stops with a flaw, `back` characters before the next lexeme. -/
def fail {α : Type} (flaw : Flaw) (back : Nat) : Reader α := do
  failAt ((← get).position - back) flaw

/-- The lexeme that comes next. -/
def peek : Reader (Option Lexeme) := do return (← get).coming.head?

/-- The position of the next lexeme. -/
def position : Reader Nat := do return (← get).position

/-- Makes sure that the next lexeme is complete. -/
def checkNext : Reader Unit := do
  if (← peek) = some .dangling then failAt (← position) .danglingBackslash

/-- Takes the next lexeme. -/
def next : Reader (Option Lexeme) := do
  let s ← get
  match s.coming with
  | [] => return none
  | l :: rest =>
    set { s with coming := rest, position := s.position + l.chars.length }
    checkNext
    return some l

/-- Takes the next lexeme if it is the given character. -/
def accept (c : Char) : Reader Bool := do
  if (← peek) = some (.plain c) then
    let _ ← next
    return true
  else
    return false

/-- Takes at most `limit` characters that satisfy `p`. -/
def takeWhere (p : Char → Bool) : Nat → Reader (List Char)
  | 0 => return []
  | limit + 1 => do
    match ← peek with
    | some (.plain c) =>
      if p c then
        let _ ← next
        return c :: (← takeWhere p limit)
      else return []
    | _ => return []

/-- How many lexemes are still to come; a bound for loops that take one in each round. -/
def remaining : Reader Nat := do return (← get).coming.length

/-- Takes characters up to a terminator, which is taken as well. -/
def takeUntil (terminator : Char) (what : String) : Nat → List Char → Reader (List Char)
  | 0, taken => return taken
  | rounds + 1, taken => do
    match ← next with
    | none =>
      if taken.isEmpty then fail (.missingName what) 0
      else fail (.unterminatedName terminator) taken.length
    | some l =>
      if l = .plain terminator then
        if taken.isEmpty then fail (.missingName what) 1 else return taken
      else takeUntil terminator what rounds (taken ++ l.chars)

/-- A name up to its terminator. -/
def name (terminator : Char) (what : String) : Reader (List Char) := do
  takeUntil terminator what ((← remaining) + 1) []

/-! ## Groups -/

/-- How many groups there are, the whole pattern counted as group zero. -/
def groupCount : Reader Nat := do return (← get).widths.length + 1

/-- The widths of a group, if it is complete. -/
def completeWidths? (n : Nat) : Reader (Option (Nat × Nat)) := do
  match n with
  | 0 => return none
  | n + 1 => return ((← get).widths[n]?).join

/-- Starts a group. -/
def openGroup (name : Option String) : Reader Nat := do
  let number ← groupCount
  modify fun s => { s with widths := s.widths ++ [none] }
  match name with
  | none => return number
  | some name =>
    match (← get).names.lookup name with
    | some earlier => fail (.nameTaken name number earlier) (name.length + 1)
    | none =>
      modify fun s => { s with names := s.names ++ [(name, number)] }
      return number

/-- Widths of the complete groups; an incomplete one counts as empty. -/
def widthsOfGroup (s : Source) : Nat → Nat × Nat
  | 0 => (0, 0)
  | n + 1 => ((s.widths[n]?).join).getD (0, 0)

/-- Completes a group with its body. -/
def closeGroup (number : Nat) (body : List Item) : Reader Unit :=
  modify fun s =>
    { s with widths := s.widths.set (number - 1) (some (widthOf (widthsOfGroup s) body)) }

/-- Inside a look behind only groups complete before it may be named. -/
def checkBehind (number : Nat) : Reader Unit := do
  match (← get).behindFrom with
  | none => return
  | some first =>
    if (← completeWidths? number).isNone then fail .openGroup 0
    if first ≤ number then fail .lookbehindGroup 0

end Reader

/-- The start of reading a text. -/
def Source.start (s : List Char) : Source := ⟨lexemes s, 0, [], [], [], none, []⟩

end Conformance.Pattern

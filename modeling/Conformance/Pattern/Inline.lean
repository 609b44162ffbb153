/-
  The small parts of the grammar of patterns: the flags of a group, the bounds of a repetition, and
  the choice between alternatives.
-/
import Conformance.Pattern.Sets
import Conformance.Text.Identifiers
import Conformance.Text.Integers
import Conformance.Text.Letters

namespace Conformance.Pattern

/-! ## Choices -/

/-- Whether a sequence starts with the given plain item. -/
def startsWith (i : Item) : List Item → Bool
  | [] => false
  | j :: _ => i.samePlain j

/-- The plain items that all alternatives start with, and what is left of the alternatives. -/
def commonStart : List Item → List (List Item) → List Item × List (List Item)
  | [], others => ([], [] :: others)
  | i :: rest, others =>
    if others.all (startsWith i) then
      let (start, tails) := commonStart rest (others.map List.tail)
      (i :: start, tails)
    else ([], (i :: rest) :: others)

/-- The one set of characters that alternatives of one character each amount to. -/
def asMembers? : List (List Item) → Option (List SetItem)
  | [] => some []
  | [i] :: rest => do return (← i.joinable?) ++ (← asMembers? rest)
  | _ => none

/-- The sequence that a choice between alternatives amounts to.  What all of them start with comes
    before the choice, and a choice between single characters is a set. -/
def choose : List Item → List (List Item) → List Item
  | only, [] => only
  | first, others =>
    let (start, tails) := commonStart first others
    match asMembers? tails with
    | some members => start ++ [.set false (distinct members)]
    | none => start ++ [.choice tails]

namespace Reader

/-! ## Flags -/

/-- Stops at something that is neither a flag nor what may follow the flags. -/
def failFlag {α : Type} (l : Lexeme) (otherwise : Flaw) : Reader α :=
  match l with
  | .plain c => fail (if isLetter c then .unknownFlag else otherwise) 1
  | l => fail otherwise l.chars.length

/-- Flags turned on: `letter` has been taken; more follow up to a closing bracket, hyphen or colon,
    which is given back. -/
def flagsOn : Nat → Flag → Flags → Reader (Flags × Char)
  | 0, _, on => return (on, ')')
  | rounds + 1, flag, sofar => do
    if flag = .locale then fail .localeFlag 0
    let on := sofar ++ [flag]
    if flag.isAlphabet && on.any (fun f => f.isAlphabet && f ≠ flag) then fail .twoAlphabets 0
    match ← next with
    | none => fail .missingFlagsEnd 0
    | some l =>
      match l with
      | .plain ')' => return (on, ')')
      | .plain '-' => return (on, '-')
      | .plain ':' => return (on, ':')
      | .plain c =>
        match Flag.ofLetter? c with
        | some f => flagsOn rounds f on
        | none => failFlag l .missingFlagsEnd
      | l => failFlag l .missingFlagsEnd

/-- Flags turned off, up to the colon. -/
def flagsOff : Nat → Flag → Flags → Reader Flags
  | 0, _, off => return off
  | rounds + 1, flag, sofar => do
    if flag.isAlphabet then fail .alphabetOff 0
    let off := sofar ++ [flag]
    match ← next with
    | none => fail .missingColon 0
    | some l =>
      match l with
      | .plain ':' => return off
      | .plain c =>
        match Flag.ofLetter? c with
        | some f => flagsOff rounds f off
        | none => failFlag l .missingColon
      | l => failFlag l .missingColon

/-- The flags after a hyphen. -/
def flagsAfterHyphen : Reader Flags := do
  match ← next with
  | none => fail .missingFlag 0
  | some l =>
    match l with
    | .plain c =>
      match Flag.ofLetter? c with
      | some f => flagsOff ((← remaining) + 1) f []
      | none => failFlag l .missingFlag
    | l => failFlag l .missingFlag

/-- The flags of a group whose first flag, if any, has been taken; nothing if they are flags for the
    whole pattern, which are then set. -/
def groupFlags (first : Option Flag) : Reader (Option (Flags × Flags)) := do
  let (on, stop) ← match first with
    | some f => flagsOn ((← remaining) + 1) f []
    | none => pure ([], '-')
  if stop = ')' then
    modify fun s => { s with flags := s.flags ++ on }
    return none
  if on.contains .template then fail .globalFlagOn 1
  let off ← if stop = '-' then flagsAfterHyphen else pure []
  if off.contains .template then fail .globalFlagOff 1
  if on.any off.contains then fail .flagOnAndOff 1
  return some (on, off)

/-! ## Repetitions -/

/-- A stated count, which must be below the limit and have no more digits than numerals may have. -/
def statedCount (digits : List Char) : Reader Nat := do
  if digitLimit < digits.length then throw (.tooManyDigits digits.length)
  let count := ofDigits 10 digits
  if repeatLimit ≤ count then throw .countTooLarge
  return count

/-- The bounds in braces, the opening brace taken; nothing if what follows are no bounds. -/
def bracedBounds : Reader (Option (Nat × Option Nat)) := do
  let before ← get
  let here := before.position
  if (← peek) = some (.plain '\x7d') then return none
  let low ← takeWhere Char.isDigit (← remaining)
  let high ← if ← accept ',' then takeWhere Char.isDigit (← remaining) else pure low
  if !(← accept '\x7d') then
    -- no bounds after all: the brace is a character like any other
    set before
    return none
  let least ← if low.isEmpty then pure 0 else statedCount low
  if high.isEmpty then return some (least, none)
  let most ← statedCount high
  if most < least then failAt here .boundsReversed
  return some (least, some most)

/-- The bounds that a sign of repetition stands for; nothing if it is a character like any other. -/
def bounds : Char → Reader (Option (Nat × Option Nat))
  | '?' => return some (0, some 1)
  | '*' => return some (0, none)
  | '+' => return some (1, none)
  | _ => bracedBounds

/-- How much a repetition takes, as the sign after its bounds tells. -/
def greed : Reader Greed := do
  if ← accept '?' then return .lazy
  if ← accept '+' then return .possessive
  return .greedy

/-- Repeats the last item read; `here` is the position of the sign of repetition. -/
def repeatLast (here least : Nat) (most : Option Nat) (sofar : List Item) :
    Reader (List Item) := do
  match sofar.getLast? with
  | none => failAt here .nothingToRepeat
  | some (.anchor _) => failAt here .nothingToRepeat
  | some (.times ..) => failAt here .repeatedRepeat
  | some item => return sofar.dropLast ++ [.times least most (← greed) item.dissolve]

/-- A sign of repetition, which has been taken. -/
def repetition (sign : Char) (sofar : List Item) : Reader (List Item) := do
  let here := (← position) - 1
  match ← bounds sign with
  | none => return sofar ++ [.literal sign.toNat]
  | some (least, most) => repeatLast here least most sofar

/-! ## Comments and names -/

/-- Skips the rest of a line. -/
def skipLine : Nat → Reader Unit
  | 0 => return
  | rounds + 1 => do
    match ← next with
    | none => return
    | some l => if l = .plain '\n' then return else skipLine rounds

/-- Skips a comment up to its closing bracket; `start` is where it began. -/
def skipComment (start : Nat) : Nat → Reader Unit
  | 0 => return
  | rounds + 1 => do
    match ← peek with
    | none => failAt start .unterminatedComment
    | some l =>
      let _ ← next
      if l = .plain ')' then return else skipComment start rounds

/-- The name of a group up to its terminator. -/
def groupName (terminator : Char) : Reader (List Char) := do
  let given ← name terminator "group name"
  if !isIdentifier given then fail (.badGroupName (String.ofList given)) (given.length + 1)
  return given

/-- The number of a group that a name in front of the next lexeme belongs to. -/
def numberOfName (given : List Char) : Reader Nat := do
  match (← get).names.lookup (String.ofList given) with
  | some number => return number
  | none => fail (.unknownGroupName (String.ofList given)) (given.length + 1)

/-- A reference to a group by name. -/
def namedReference : Reader Item := do
  let given ← groupName ')'
  let number ← numberOfName given
  if (← completeWidths? number).isNone then fail .openGroup (given.length + 1)
  checkBehind number
  return .reference number

/-- The greatest number of groups. -/
def groupLimit : Nat := 0x3fffffff

/-- The group that a condition asks for, by name or by number.  A number may be that of a group
    still to come, so it is noted for the end. -/
def conditionGroup : Reader Nat := do
  let given ← name ')' "group name"
  let back := given.length + 1
  if isIdentifier given then numberOfName given
  else
    match readInteger? given with
    | some (.ofNat number) =>
      if number = 0 then fail .groupZero back
      if groupLimit ≤ number then fail (.noSuchGroup number) back
      let here := (← position) - back
      modify fun s =>
        if s.conditions.any (·.1 == number) then s
        else { s with conditions := s.conditions ++ [(number, here)] }
      return number
    | _ => fail (.badGroupName (String.ofList given)) back

end Reader

end Conformance.Pattern

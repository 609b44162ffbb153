/-
  Sets of characters as written between square brackets.
-/
import Conformance.Pattern.Escape

namespace Conformance.Pattern

/-- The list without its repetitions, first occurrences kept. -/
def distinct (members : List SetItem) : List SetItem :=
  members.foldl (fun seen m => if seen.contains m then seen else seen ++ [m]) []

/-- A set as an item; a single character needs no set. -/
def setItem (negated : Bool) (members : List SetItem) : Item :=
  match distinct members with
  | [.literal c] => if negated then .notLiteral c else .literal c
  | ms => .set negated ms

namespace Reader

/-- What a lexeme stands for inside a set. -/
def member : Lexeme → Reader SetItem
  | .escape c => setEscape c
  | .plain c => return .literal c.toNat
  | .dangling => return .literal '\\'.toNat

/-- The range between two members, which must be characters in ascending order.  The message shows
    the lexemes that the ends begin with. -/
def rangeOf (first last : SetItem) (low high : Lexeme) : Reader SetItem := do
  let refuse : Reader SetItem :=
    fail (.badRange (String.ofList low.chars) (String.ofList high.chars))
      (low.chars.length + 1 + high.chars.length)
  match first, last with
  | .literal a, .literal b => if b < a then refuse else return .range a b
  | _, _ => refuse

/-- The members of a set up to its closing bracket; `here` is the position of the opening one.  A
    bracket that comes first is a member, and so is a hyphen before the closing bracket. -/
def members (here : Nat) : Nat → List SetItem → Reader (List SetItem)
  | 0, sofar => return sofar
  | rounds + 1, sofar => do
    match ← next with
    | none => failAt here .unterminatedSet
    | some this =>
      if this = .plain ']' ∧ sofar ≠ [] then return sofar
      let first ← member this
      if ← accept '-' then
        match ← next with
        | none => failAt here .unterminatedSet
        | some that =>
          if that = .plain ']' then return sofar ++ [first, .literal '-'.toNat]
          let last ← member that
          members here rounds (sofar ++ [← rangeOf first last this that])
      else members here rounds (sofar ++ [first])

/-- A set of characters, its opening bracket taken. -/
def characterSet : Reader Item := do
  let here := (← position) - 1
  let negated ← accept '^'
  return setItem negated (← members here ((← remaining) + 1) [])

end Reader

end Conformance.Pattern

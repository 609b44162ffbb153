/-
  Reading patterns.

  Alternatives are separated by bars, a sequence goes on to the next bar or closing bracket, and a
  group is what stands between brackets.  The functions recurse on a bound that the number of
  lexemes gives: between two lexemes taken there are at most five steps.
-/
import Conformance.Pattern.Inline

namespace Conformance.Pattern

/-- A pattern that has been read: its items, the flags for all of it, how many groups it has, and
    the least length of what it matches. -/
structure Compiled where
  items : List Item
  flags : Flags
  groups : Nat
  width : Nat

namespace Reader

mutual

/-- Alternatives between bars; `nested` tells that they stand in brackets. -/
def alternatives (fuel : Nat) (verbose nested : Bool) : Reader (List Item) :=
  match fuel with
  | 0 => return []
  | fuel + 1 => do
    let first ← sequence fuel verbose (!nested) []
    let others ← furtherAlternatives fuel verbose nested
    return choose first others

/-- The alternatives after the first.  Outside of all brackets each one starts with the flags for
    the whole pattern known by then. -/
def furtherAlternatives (fuel : Nat) (verbose nested : Bool) : Reader (List (List Item)) :=
  match fuel with
  | 0 => return []
  | fuel + 1 => do
    if !(← accept '|') then return []
    let flags := (← get).flags
    let verbose := if nested then verbose else flags.contains .verbose
    let a ← sequence fuel verbose false []
    return a :: (← furtherAlternatives fuel verbose nested)

/-- A sequence of items; `first` tells that flags for the whole pattern may still come. -/
def sequence (fuel : Nat) (verbose first : Bool) (sofar : List Item) : Reader (List Item) :=
  match fuel with
  | 0 => return sofar
  | fuel + 1 => do
    match ← peek with
    | none => return sofar.flatMap Item.dissolve
    | some (.plain '|') => return sofar.flatMap Item.dissolve
    | some (.plain ')') => return sofar.flatMap Item.dissolve
    | some l =>
      let _ ← next
      match l with
      | .escape c => sequence fuel verbose first (sofar ++ [← itemEscape c])
      | .dangling => return sofar
      | .plain c =>
        if verbose && [' ', '\t', '\n', '\r', '\x0b', '\x0c'].contains c then
          sequence fuel verbose first sofar
        else if verbose && c == '#' then
          skipLine ((← remaining) + 1)
          sequence fuel verbose first sofar
        else match c with
          | '[' => sequence fuel verbose first (sofar ++ [← characterSet])
          | '.' => sequence fuel verbose first (sofar ++ [.any])
          | '^' => sequence fuel verbose first (sofar ++ [.anchor .lineStart])
          | '$' => sequence fuel verbose first (sofar ++ [.anchor .lineEnd])
          | '(' =>
            let (items, verbose) ← bracket fuel verbose first sofar
            sequence fuel verbose first items
          | c =>
            if ['*', '+', '?', '\x7b'].contains c then
              sequence fuel verbose first (← repetition c sofar)
            else sequence fuel verbose first (sofar ++ [.literal c.toNat])

/-- What stands in brackets, the opening one taken.  Gives back the sequence read so far with the
    new item, and whether blanks and comments are skipped from here on. -/
def bracket (fuel : Nat) (verbose first : Bool) (sofar : List Item) :
    Reader (List Item × Bool) :=
  match fuel with
  | 0 => return (sofar, verbose)
  | fuel + 1 => do
    let start := (← position) - 1
    if !(← accept '?') then
      return (sofar ++ [← capture fuel verbose start none], verbose)
    match ← next with
    | none => fail .unexpectedEnd 0
    | some l =>
      match l with
      | .plain 'P' =>
        if ← accept '<' then
          let given ← groupName '>'
          return (sofar ++ [← capture fuel verbose start (some (String.ofList given))], verbose)
        else if ← accept '=' then
          return (sofar ++ [← namedReference], verbose)
        else
          match ← next with
          | none => fail .unexpectedEnd 0
          | some l => fail (.unknownExtension (String.ofList ('P' :: l.chars))) (l.chars.length + 2)
      | .plain ':' =>
        return (sofar ++ [.group none [] [] (← body fuel verbose start)], verbose)
      | .plain '>' => return (sofar ++ [.atomic (← body fuel verbose start)], verbose)
      | .plain '#' =>
        skipComment start ((← remaining) + 1)
        return (sofar, verbose)
      | .plain '=' => return (sofar ++ [.ahead false (← body fuel verbose start)], verbose)
      | .plain '!' => return (sofar ++ [.ahead true (← body fuel verbose start)], verbose)
      | .plain '<' =>
        match ← next with
        | none => fail .unexpectedEnd 0
        | some (.plain '=') => return (sofar ++ [← lookBehind fuel verbose start false], verbose)
        | some (.plain '!') => return (sofar ++ [← lookBehind fuel verbose start true], verbose)
        | some l => fail (.unknownExtension (String.ofList ('<' :: l.chars))) (l.chars.length + 2)
      | .plain '(' => return (sofar ++ [← conditional fuel verbose start], verbose)
      | .plain c =>
        let flag := Flag.ofLetter? c
        if flag.isNone && c != '-' then fail (.unknownExtension c.toString) 2
        match ← groupFlags flag with
        | some (on, off) =>
          let inner := (verbose || on.contains .verbose) && !off.contains .verbose
          return (sofar ++ [.group none on off (← body fuel inner start)], verbose)
        | none =>
          -- flags for the whole pattern come before all else
          if !first || !sofar.isEmpty then failAt start .lateFlags
          return (sofar, (← get).flags.contains .verbose)
      | l => fail (.unknownExtension (String.ofList l.chars)) (l.chars.length + 1)

/-- The inside of a group and its closing bracket. -/
def body (fuel : Nat) (verbose : Bool) (start : Nat) : Reader (List Item) :=
  match fuel with
  | 0 => return []
  | fuel + 1 => do
    let items ← alternatives fuel verbose true
    if !(← accept ')') then failAt start .unterminatedGroup
    return items

/-- A group that keeps what it matches. -/
def capture (fuel : Nat) (verbose : Bool) (start : Nat) (name : Option String) : Reader Item :=
  match fuel with
  | 0 => return .any
  | fuel + 1 => do
    let number ← openGroup name
    let items ← body fuel verbose start
    closeGroup number items
    return .group (some number) [] [] items

/-- A look behind. -/
def lookBehind (fuel : Nat) (verbose : Bool) (start : Nat) (negated : Bool) : Reader Item :=
  match fuel with
  | 0 => return .any
  | fuel + 1 => do
    let outer := (← get).behindFrom
    let groups ← groupCount
    modify fun s => { s with behindFrom := some (outer.getD groups) }
    let items ← alternatives fuel verbose true
    modify fun s => { s with behindFrom := outer }
    if !(← accept ')') then failAt start .unterminatedGroup
    let s ← get
    return .behind negated (widthOf (widthsOfGroup s) items) items

/-- A choice that asks whether a group has matched. -/
def conditional (fuel : Nat) (verbose : Bool) (start : Nat) : Reader Item :=
  match fuel with
  | 0 => return .any
  | fuel + 1 => do
    let number ← conditionGroup
    checkBehind number
    let yes ← sequence fuel verbose false []
    let no ← if ← accept '|' then sequence fuel verbose false [] else pure []
    if (← peek) = some (.plain '|') then fail .thirdBranch 0
    if !(← accept ')') then failAt start .unterminatedGroup
    return .ifGroup number yes no

end

/-- A whole pattern. -/
def pattern : Reader (List Item) := do
  checkNext
  let items ← alternatives (6 * (← remaining) + 6) false false
  let s ← get
  if s.flags.contains .ascii && s.flags.contains .unicode then throw .alphabetsClash
  if !s.coming.isEmpty then fail .unbalanced 0
  -- a condition may name a group that comes later, but not one that never comes
  match s.conditions.find? fun c => s.widths.length < c.1 with
  | some (number, position) => failAt position (.noSuchGroup number)
  | none => return items

end Reader

/-! ## What only shows when the pattern is complete -/

mutual

/-- The first flaw of an item that has no position: a look behind of no fixed width, or a repetition
    in a template. -/
def Item.flaw? (template : Bool) : Item → Option Flaw
  | .choice alternatives => flawOfAny? template alternatives
  | .group _ _ _ body => flawOf? template body
  | .atomic body => flawOf? template body
  | .times _ _ greed body =>
    if template then some (.templateRepeat greed) else flawOf? template body
  | .ifGroup _ yes no => (flawOf? template yes).or (flawOf? template no)
  | .ahead _ body => flawOf? template body
  | .behind _ widths body =>
    if widths.1 ≠ widths.2 then some .variableLookbehind else flawOf? template body
  | _ => none

/-- The first such flaw of a sequence. -/
def flawOf? (template : Bool) : List Item → Option Flaw
  | [] => none
  | i :: rest => (i.flaw? template).or (flawOf? template rest)

/-- The first such flaw of several alternatives. -/
def flawOfAny? (template : Bool) : List (List Item) → Option Flaw
  | [] => none
  | a :: rest => (flawOf? template a).or (flawOfAny? template rest)

end

/-- How far a look behind may go back. -/
def behindLimit : Nat := 0x7fffffff

mutual

/-- Whether an item looks behind further than can be told. -/
def Item.looksTooFar : Item → Bool
  | .choice alternatives => anyLooksTooFar alternatives
  | .group _ _ _ body => looksTooFarIn body
  | .atomic body => looksTooFarIn body
  | .times _ _ _ body => looksTooFarIn body
  | .ifGroup _ yes no => looksTooFarIn yes || looksTooFarIn no
  | .ahead _ body => looksTooFarIn body
  | .behind _ widths body => decide (behindLimit < widths.1) || looksTooFarIn body
  | _ => false

/-- Whether one of the items of a sequence does. -/
def looksTooFarIn : List Item → Bool
  | [] => false
  | i :: rest => i.looksTooFar || looksTooFarIn rest

/-- Whether one of several alternatives does. -/
def anyLooksTooFar : List (List Item) → Bool
  | [] => false
  | a :: rest => looksTooFarIn a || anyLooksTooFar rest

end

/-- Reads a text as a pattern. -/
def read (text : String) : Except Refusal Compiled := do
  let (items, source) ← Reader.pattern.run (Source.start text.toList)
  match flawOf? (source.flags.contains .template) items with
  | some flaw => throw (.defect ⟨flaw, none⟩)
  | none =>
    if looksTooFarIn items then throw .behindTooFar
    let alphabet := if source.flags.contains .ascii then [] else [Flag.unicode]
    let (width, _) := widthOf (Reader.widthsOfGroup source) items
    return ⟨items, source.flags ++ alphabet, source.widths.length, width⟩

end Conformance.Pattern

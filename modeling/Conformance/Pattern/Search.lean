/-
  Searching a text for a pattern.

  A search tries positions in ascending order, those at which a match can begin at all, and the
  first match counts.  A match is refused as a whole if one of its groups ends before it begins,
  which a possessive repetition that stepped back can bring about.
-/
import Conformance.Pattern.Matching
import Conformance.Pattern.Opening

namespace Conformance.Pattern

/-- Whether a text has some characters at a position. -/
def hasAt (text : Array Nat) : Nat → List Nat → Bool
  | _, [] => true
  | p, c :: rest => text[p]? == some c && hasAt text (p + 1) rest

/-- Whether a search looks at a position.  Matches of the pattern are taken to be `width` characters
    long at least, and where nothing else is told no shorter rest of the text is looked at. -/
def Opening.allows (o : Opening) (text : Array Nat) (unicode : Bool) (width p : Nat) : Bool :=
  match o with
  | .anywhere => decide (p + (width - 1) ≤ text.size)
  | .textStart => p == 0
  | .text codes => hasAt text p codes
  | .member negated members =>
    match text[p]? with
    | some c => members.any (·.has unicode c) != negated
    | none => false

/-- What a search comes to. -/
inductive Found where
  | nothing
  | something
  /-- A match with a group that ends before it begins. -/
  | reversedGroup

namespace Compiled

/-- The moves of a pattern. -/
def moves (p : Compiled) : List Move := movesOf p.flags p.items

/-- How matches begin.  The characters tell only of a pattern whose matches have some. -/
def opening (p : Compiled) : Opening :=
  let told := if p.width = 0 then .anywhere else openingOf p.flags p.items
  match told with
  | .anywhere => if beginsAtStart p.moves then .textStart else .anywhere
  | o => o

/-- The memory after the first match at one of the next `count` positions that are allowed. -/
def firstMatch? (text : Array Nat) (allowed : Nat → Bool) (run : Continuation) (position : Nat) :
    Nat → Option Memory
  | 0 => none
  | count + 1 =>
    if allowed position then
      match run position (.fresh position) with
      | (true, m) => some m
      | (false, _) => firstMatch? text allowed run (position + 1) count
    else firstMatch? text allowed run (position + 1) count

/-- Whether a group has matched backwards. -/
def reversed (m : Memory) (group : Nat) : Bool :=
  (m.marks? group).any fun s => decide (s.2 < s.1)

/-- Searches a text. -/
def search (p : Compiled) (s : String) : Found :=
  let text := (s.toList.map Char.toNat).toArray
  if text.size < p.width then .nothing
  else
    let allowed := p.opening.allows text (p.flags.contains .unicode) p.width
    match firstMatch? text allowed (runAll text false none p.moves done) 0 (text.size + 1) with
    | none => .nothing
    | some m =>
      if (List.range p.groups).any fun n => reversed m (n + 1) then .reversedGroup else .something

end Compiled

end Conformance.Pattern

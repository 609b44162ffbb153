/-
  Patterns as moves.

  A move is what a match in progress does next.  Moves are items whose flags are known: groups that
  only set flags have dissolved, and a group that keeps what it matches is its body between two
  marks.  Mark `2 * n` is where group `n + 1` begins, and mark `2 * n + 1` where it ends.

  A repetition of a single character is a move of its own, since its rounds need not be retraced
  one by one.
-/
import Conformance.Pattern.Read
import Conformance.Pattern.Characters

namespace Conformance.Pattern

/-- One move of a match. -/
inductive Move where
  | one (s : Single)
  | anchor (flags : Flags) (a : Anchor)
  | mark (index : Nat)
  | choice (alternatives : List (List Move))
  | timesOne (least : Nat) (most : Option Nat) (greed : Greed) (s : Single)
  | times (least : Nat) (most : Option Nat) (greed : Greed) (body : List Move)
  | atomic (body : List Move)
  | reference (flags : Flags) (group : Nat)
  /-- What to do if a group has matched and if not; `both` tells that the pattern has two parts. -/
  | ifGroup (group : Nat) (both : Bool) (yes no : List Move)
  /-- A look that begins `back` characters before the position at hand. -/
  | look (negated : Bool) (back : Nat) (body : List Move)

mutual

/-- The single character that an item stands for, groups of flags around it included. -/
def Item.single? (flags : Flags) : Item → Option Single
  | .literal code => some (.ofLiteral flags false code)
  | .notLiteral code => some (.ofLiteral flags true code)
  | .any => some (.any (flags.contains .dotAll))
  | .set negated members => some (.ofSet flags negated members)
  | .group none on off body => singleOf? (flags.inside on off) body
  | _ => none

/-- The single character that a sequence stands for. -/
def singleOf? (flags : Flags) : List Item → Option Single
  | [i] => i.single? flags
  | _ => none

end

mutual

/-- The moves of an item. -/
def Item.moves (flags : Flags) : Item → List Move
  | .literal code => [.one (.ofLiteral flags false code)]
  | .notLiteral code => [.one (.ofLiteral flags true code)]
  | .any => [.one (.any (flags.contains .dotAll))]
  | .set negated members => [.one (.ofSet flags negated members)]
  | .anchor a => [.anchor flags a]
  | .choice alternatives => [.choice (movesOfEach flags alternatives)]
  | .group none on off body => movesOf (flags.inside on off) body
  | .group (some n) on off body =>
    .mark (2 * (n - 1)) :: movesOf (flags.inside on off) body ++ [.mark (2 * (n - 1) + 1)]
  | .atomic body => [.atomic (movesOf flags body)]
  | .times least most greed body =>
    match singleOf? flags body with
    | some s => [.timesOne least most greed s]
    | none => [.times least most greed (movesOf flags body)]
  | .reference n => [.reference flags n]
  | .ifGroup n yes no => [.ifGroup n (!no.isEmpty) (movesOf flags yes) (movesOf flags no)]
  | .ahead negated body => [.look negated 0 (movesOf flags body)]
  | .behind negated widths body => [.look negated widths.1 (movesOf flags body)]

/-- The moves of a sequence. -/
def movesOf (flags : Flags) : List Item → List Move
  | [] => []
  | i :: rest => i.moves flags ++ movesOf flags rest

/-- The moves of each of several sequences. -/
def movesOfEach (flags : Flags) : List (List Item) → List (List Move)
  | [] => []
  | a :: rest => movesOf flags a :: movesOfEach flags rest

end

end Conformance.Pattern

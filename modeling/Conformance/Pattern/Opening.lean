/-
  How a match can begin.

  From the items of a pattern one can often tell with which characters a match must begin: with a
  fixed text, or with a member of a set.  A search then passes over positions where the text goes on
  differently.  The members of such a set are read with the alphabet of the whole pattern, even if
  the group they stand in has another one.

  A pattern that can match the empty text begins anywhere.
-/
import Conformance.Pattern.Move

namespace Conformance.Pattern

/-- How the matches of a pattern begin. -/
inductive Opening where
  | anywhere
  /-- At the start of the text alone. -/
  | textStart
  /-- With these characters. -/
  | text (codes : List Nat)
  /-- With a member of a set. -/
  | member (negated : Bool) (members : List SetItem)

/-- Whether a character has a case that the flags disregard. -/
def Flags.foldsCase (flags : Flags) (code : Nat) : Bool :=
  match flags.folding? with
  | some f => f.cased code
  | none => false

mutual

/-- The characters that an item begins with, and whether it consists of them alone. -/
def Item.fixedStart (flags : Flags) : Item → List Nat × Bool
  | .literal code => if flags.foldsCase code then ([], false) else ([code], true)
  | .group _ on off body => fixedStartOf (flags.inside on off) body
  | _ => ([], false)

/-- The characters that a sequence begins with, and whether it consists of them alone. -/
def fixedStartOf (flags : Flags) : List Item → List Nat × Bool
  | [] => ([], true)
  | i :: rest =>
    match i.fixedStart flags with
    | (codes, true) =>
      let (more, whole) := fixedStartOf flags rest
      (codes ++ more, whole)
    | (codes, false) => (codes, false)

end

/-- Whether a member of a set has a case that the flags disregard, or lies where case is not
    told. -/
def SetItem.folds (flags : Flags) : SetItem → Bool
  | .literal code => flags.foldsCase code
  | .range low high =>
    match flags.folding? with
    | some f => decide (basicPlaneEnd < high) || f.casedBetween low high
    | none => false
  | .category _ _ => false

/-- The characters that each of several alternatives begins with, if each begins with one. -/
def firstLiterals? (flags : Flags) : List (List Item) → Option (List SetItem)
  | [] => some []
  | (.literal code :: _) :: rest =>
    if flags.foldsCase code then none
    else (firstLiterals? flags rest).map (.literal code :: ·)
  | _ => none

mutual

/-- The set that an item begins with a member of. -/
def Item.startSet? (flags : Flags) : Item → Option (Bool × List SetItem)
  | .group _ on off body => startSetOf? (flags.inside on off) body
  | .set negated members =>
    if members.any (·.folds flags) then none else some (negated, members)
  | .choice alternatives => (firstLiterals? flags alternatives).map (false, ·)
  | _ => none

/-- The set that a sequence begins with a member of. -/
def startSetOf? (flags : Flags) : List Item → Option (Bool × List SetItem)
  | [] => none
  | i :: _ => i.startSet? flags

end

/-- Whether moves begin at the start of the text alone. -/
def beginsAtStart : List Move → Bool
  | .anchor _ .textStart :: _ => true
  | .anchor flags .lineStart :: _ => !flags.contains .multiline
  | _ => false

/-- How the matches of a sequence of items begin. -/
def openingOf (flags : Flags) (items : List Item) : Opening :=
  match fixedStartOf flags items with
  | (c :: codes, _) => .text (c :: codes)
  | ([], _) =>
    match startSetOf? flags items with
    | some (negated, members) => .member negated members
    | none => .anywhere

end Conformance.Pattern

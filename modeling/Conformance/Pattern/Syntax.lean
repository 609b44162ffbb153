/-
  Search patterns as trees.

  A pattern is a sequence of items: single characters and sets of them, anchors, groups, choices,
  repetitions, references to what a group has matched, and looks ahead and behind.  Characters are
  code points, because a pattern can name one that no text contains.
-/
namespace Conformance.Pattern

/-- The flags that a pattern can turn on or off. -/
inductive Flag where
  | ignoreCase
  | locale
  | multiline
  | dotAll
  | verbose
  | ascii
  | template
  | unicode
deriving DecidableEq

/-- The flag a letter stands for. -/
def Flag.ofLetter? : Char → Option Flag
  | 'i' => some .ignoreCase
  | 'L' => some .locale
  | 'm' => some .multiline
  | 's' => some .dotAll
  | 'x' => some .verbose
  | 'a' => some .ascii
  | 't' => some .template
  | 'u' => some .unicode
  | _ => none

/-- The flags that choose the alphabet; only one of them holds at a time. -/
def Flag.isAlphabet : Flag → Bool
  | .ascii => true
  | .locale => true
  | .unicode => true
  | _ => false

/-- A set of flags. -/
abbrev Flags := List Flag

/-- The flags inside a group: those around it, the alphabet exchanged if the group names one, with
    the group's own turned on and off. -/
def Flags.inside (around on off : Flags) : Flags :=
  let kept := if on.any Flag.isAlphabet then around.filter (!·.isAlphabet) else around
  (kept ++ on).filter (!off.contains ·)

/-- Classes of characters with a letter of their own. -/
inductive Category where
  | digit
  | space
  | word
deriving DecidableEq

/-- A member of a set of characters. -/
inductive SetItem where
  | literal (code : Nat)
  | range (low high : Nat)
  | category (c : Category) (negated : Bool)
deriving DecidableEq

/-- Conditions on a position. -/
inductive Anchor where
  | textStart
  | lineStart
  | lineEnd
  | textEnd
  | wordEdge
  | noWordEdge
deriving DecidableEq

/-- How a repetition chooses its count. -/
inductive Greed where
  | greedy
  | lazy
  | possessive
deriving DecidableEq

/-- One item of a pattern. -/
inductive Item where
  | literal (code : Nat)
  | notLiteral (code : Nat)
  | any
  | set (negated : Bool) (members : List SetItem)
  | anchor (a : Anchor)
  | choice (alternatives : List (List Item))
  | group (number : Option Nat) (on off : Flags) (body : List Item)
  | atomic (body : List Item)
  | times (least : Nat) (most : Option Nat) (greed : Greed) (body : List Item)
  | reference (number : Nat)
  | ifGroup (number : Nat) (yes : List Item) (no : List Item)
  | ahead (negated : Bool) (body : List Item)
  /-- The widths are the least and the greatest length of what the body matches. -/
  | behind (negated : Bool) (widths : Nat × Nat) (body : List Item)

namespace Item

/-- What an item contributes to the sequence it stands in: brackets dissolve. -/
def dissolve : Item → List Item
  | .group none [] [] body => body
  | i => [i]

/-- Whether two items are the same plain item; items with a body never are. -/
def samePlain : Item → Item → Bool
  | .literal a, .literal b => a == b
  | .notLiteral a, .notLiteral b => a == b
  | .any, .any => true
  | .set n a, .set m b => n == m && a == b
  | .anchor a, .anchor b => a == b
  | .reference a, .reference b => a == b
  | _, _ => false

/-- The members of a set that an item could join. -/
def joinable? : Item → Option (List SetItem)
  | .literal c => some [.literal c]
  | .set false members => some members
  | _ => none

end Item

/-! ## Widths -/

/-- The greatest count a repetition can state, and the greatest width told apart from no limit. -/
def repeatLimit : Nat := 0xffffffff

/-- Widths cut at the limit. -/
def cutWidth (w : Nat × Nat) : Nat × Nat := (min w.1 (repeatLimit - 1), min w.2 repeatLimit)

mutual

/-- The least and the greatest number of characters an item matches; `groups` tells the widths of
    the groups that are complete. -/
def Item.width (groups : Nat → Nat × Nat) : Item → Nat × Nat
  | .literal _ => (1, 1)
  | .notLiteral _ => (1, 1)
  | .any => (1, 1)
  | .set _ _ => (1, 1)
  | .anchor _ => (0, 0)
  | .choice [] => (0, 0)
  | .choice (a :: rest) => widestOf groups (widthOf groups a) rest
  | .group _ _ _ body => widthOf groups body
  | .atomic body => widthOf groups body
  | .times least most _ body =>
    let (low, high) := widthOf groups body
    (low * least, high * most.getD repeatLimit)
  | .reference n => groups n
  | .ifGroup _ yes no =>
    let (low, high) := widthOf groups yes
    let (low', high') := widthOf groups no
    (min low low', max high high')
  | .ahead _ _ => (0, 0)
  | .behind _ _ _ => (0, 0)

/-- The widths of a sequence. -/
def widthOf (groups : Nat → Nat × Nat) : List Item → Nat × Nat
  | [] => (0, 0)
  | i :: rest =>
    let (low, high) := i.width groups
    let (low', high') := widthOf groups rest
    cutWidth (low + low', high + high')

/-- The widths of a choice, those of the first alternatives given. -/
def widestOf (groups : Nat → Nat × Nat) (sofar : Nat × Nat) : List (List Item) → Nat × Nat
  | [] => sofar
  | a :: rest =>
    let (low, high) := widthOf groups a
    widestOf groups (min sofar.1 low, max sofar.2 high) rest

end

end Conformance.Pattern

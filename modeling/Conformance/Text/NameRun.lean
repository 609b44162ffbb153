/-
  Runs of names.

  The names of neighbouring characters have much in common, so a run writes each name with the
  number of words it shares with the name before it, and then only the words that differ: after
  `0HEBREW LETTER ALEF` the entry `2BET` stands for `HEBREW LETTER BET`.
-/
namespace Conformance

/-- The names of consecutive code points from `first` on: entries separated by commas, in lines. -/
structure NameRun where
  first : Nat
  lines : List String

namespace NameRun

/-- The words of the name that an entry stands for, given those of the name before it. -/
def nextWords (before : List String) (entry : String) : List String :=
  match entry.toList with
  | [] => []
  | digit :: rest =>
    before.take (digit.toNat - '0'.toNat) ++ (String.ofList rest).splitOn " "

/-- The place, counted from `code` on, of a name among entries, given the words before them. -/
def findFrom (name : List String) (code : Nat) (before : List String) : List String → Option Nat
  | [] => none
  | entry :: rest =>
    let words := nextWords before entry
    if words == name then some code else findFrom name (code + 1) words rest

/-- The entries of a run. -/
def entries (r : NameRun) : List String := r.lines.flatMap (·.splitOn ",")

/-- The code point with a name in a run. -/
def find? (r : NameRun) (name : String) : Option Nat :=
  findFrom (name.splitOn " ") r.first [] r.entries

end NameRun

end Conformance

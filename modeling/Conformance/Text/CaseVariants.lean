/-
  Lower-case characters that are told apart by their lower partner but meet in the upper case,
  such as the two forms of the Greek sigma, or the dotless i and i.  Patterns that disregard case
  take the members of such a family for the same character.
-/
import Conformance.Text.CaseMap

namespace Conformance

/-- Each lower-case code point with the other members of its family. -/
def caseFamilies : List (Nat × List Nat) := [
  (105, [305]), (115, [383]), (181, [956]), (305, [105]), (383, [115]), (837, [953, 8126]),
  (912, [8147]), (944, [8163]), (946, [976]), (949, [1013]), (952, [977]), (953, [837, 8126]),
  (954, [1008]), (956, [181]), (960, [982]), (961, [1009]), (962, [963]), (963, [962]),
  (966, [981]), (976, [946]), (977, [952]), (981, [966]), (982, [960]), (1008, [954]),
  (1009, [961]), (1013, [949]), (1074, [7296]), (1076, [7297]), (1086, [7298]), (1089, [7299]),
  (1090, [7300, 7301]), (1098, [7302]), (1123, [7303]), (7296, [1074]), (7297, [1076]),
  (7298, [1086]), (7299, [1089]), (7300, [1090, 7301]), (7301, [1090, 7300]), (7302, [1098]),
  (7303, [1123]), (7304, [42571]), (7777, [7835]), (7835, [7777]), (8126, [837, 953]),
  (8147, [912]), (8163, [944]), (42571, [7304]), (64261, [64262]), (64262, [64261])]

/-- The other members of the family of a lower-case code point. -/
def caseVariants (c : Nat) : List Nat := (caseFamilies.lookup c).getD []

example : caseVariants 'σ'.toNat = ['ς'.toNat] ∧ caseVariants 'a'.toNat = [] := by decide

end Conformance

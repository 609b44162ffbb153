/-
  Equality of values as JSON sees it.

  Numbers are equal when they denote the same number, whether written as integers or as floats,
  and a boolean is never a number.  A list equals a tuple of equal elements, and the order of the
  entries of a mapping plays no part.

  Identity of values, part by part, is decidable too.
-/
import Conformance.Value.Basic

namespace Conformance

namespace Value

mutual

/-- Equality of JSON values. -/
def equal : Value → Value → Bool
  | .bool a, b => match b with
    | .bool b => a == b
    | _ => false
  | .map as, .map bs => as.length == bs.length && entriesEqual as bs
  | .list as, b => match b.elements? with
    | some bs => elementsEqual as bs
    | none => false
  | .tuple as, b => match b.elements? with
    | some bs => elementsEqual as bs
    | none => false
  | .int i, b => match b.number? with
    | some n => (Number.int i).same n
    | none => false
  | .float x, b => match b.number? with
    | some n => (Number.float x).same n
    | none => false
  | .str a, .str b => a == b
  | .null, .null => true
  | .missing, .missing => true
  | .cls a, .cls b => a == b
  | _, _ => false

/-- Equality element by element. -/
def elementsEqual : List Value → List Value → Bool
  | [], [] => true
  | a :: as, b :: bs => equal a b && elementsEqual as bs
  | _, _ => false

/-- Whether every entry of the first list has an equal one under its key in the second. -/
def entriesEqual : List (Key × Value) → List (Key × Value) → Bool
  | [], _ => true
  | (key, a) :: as, bs =>
    (match entryAt? key bs with
      | some b => equal a b
      | none => false) && entriesEqual as bs

end

example : equal (.list [.bool true]) (.list [.int 1]) = false := by decide +kernel
example : equal (.int 1) (.float ⟨0x3FF0000000000000⟩) = true := by decide +kernel
example :
    equal (.map [(.name "a", .int 1), (.name "b", .null)])
      (.map [(.name "b", .null), (.name "a", .int 1)]) = true := by
  decide +kernel

/-! ## Identity -/

mutual

/-- Whether two values are written alike, part by part. -/
def identical : Value → Value → Bool
  | .missing, .missing => true
  | .null, .null => true
  | .bool a, .bool b => a == b
  | .int a, .int b => a == b
  | .float a, .float b => decide (a = b)
  | .str a, .str b => a == b
  | .list as, .list bs => identicalItems as bs
  | .tuple as, .tuple bs => identicalItems as bs
  | .map es, .map fs => identicalEntries es fs
  | .cls a, .cls b => decide (a = b)
  | _, _ => false

/-- The same for elements. -/
def identicalItems : List Value → List Value → Bool
  | [], [] => true
  | a :: as, b :: bs => identical a b && identicalItems as bs
  | _, _ => false

/-- The same for entries. -/
def identicalEntries : List (Key × Value) → List (Key × Value) → Bool
  | [], [] => true
  | (k, a) :: es, (l, b) :: fs => decide (k = l) && identical a b && identicalEntries es fs
  | _, _ => false

end

mutual

theorem identical_iff : ∀ a b : Value, identical a b = true ↔ a = b
  | .missing, b => by cases b <;> simp [identical]
  | .null, b => by cases b <;> simp [identical]
  | .bool _, b => by cases b <;> simp [identical]
  | .int _, b => by cases b <;> simp [identical]
  | .float _, b => by cases b <;> simp [identical]
  | .str _, b => by cases b <;> simp [identical]
  | .cls _, b => by cases b <;> simp [identical]
  | .list as, b => by cases b <;> simp [identical, identicalItems_iff as]
  | .tuple as, b => by cases b <;> simp [identical, identicalItems_iff as]
  | .map es, b => by cases b <;> simp [identical, identicalEntries_iff es]

theorem identicalItems_iff : ∀ as bs : List Value, identicalItems as bs = true ↔ as = bs
  | [], bs => by cases bs <;> simp [identicalItems]
  | a :: as, bs => by cases bs <;> simp [identicalItems, identical_iff a, identicalItems_iff as]

theorem identicalEntries_iff :
    ∀ es fs : List (Key × Value), identicalEntries es fs = true ↔ es = fs
  | [], fs => by cases fs <;> simp [identicalEntries]
  | (k, a) :: es, fs => by
    cases fs <;>
      simp [identicalEntries, identical_iff a, identicalEntries_iff es, Prod.ext_iff]

end

instance : DecidableEq Value := fun a b => decidable_of_iff _ (identical_iff a b)

end Value

end Conformance

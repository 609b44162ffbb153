/-
  Tuples are lists to every check.

  Turning tuples of an instance into lists, at any depth, makes no difference to a validator that
  does not write defaults: it accepts both or rejects both with errors of the same class and kind,
  at the same place, and comes to know the same schemas (`validate_untupled`).  The schema must be
  blind to tuples, for a type expression may name their class, and neither instance may carry
  schemas to be enforced below its top.

  One level is `SeesAlike.property`; the whole is an induction on the depth that remains
  (`visitsAlike_against`).
-/
import Conformance.Proofs.Extends
import Conformance.Proofs.Repeat
import Conformance.Proofs.Tuples.Rules

namespace Conformance

namespace Check

/-- Nested to any depth, checks see alike in values that are the same but for tuples. -/
theorem visitsAlike_against (depth : Nat) : VisitsAlike (against depth) := by
  induction depth with
  | zero =>
    intro n _ v w _
    exact .content (.whenTrue (.scope fun _ _ _ _ => .fails rfl rfl))
  | succ depth ih =>
    intro n hblind v w h
    exact .content (.whenTrue (.nested (.property h ih hblind)))

end Check

namespace Validator

open Check

variable {v : Validator} {inst inst' : Node}

/-- What two calls start from faces each other, if no schema is known yet. -/
theorem facing_start (hsilent : v.interactive.isTruthy = false) (hfresh : v.registry = .empty) :
    Facing inst.tree inst'.tree (v.rootScope inst) (v.rootScope inst') (v.start inst)
      (v.start inst') where
  key := rfl
  trail := rfl
  silent := hsilent
  silent' := hsilent
  value := Slot.value_ofValue inst.tree
  value' := Slot.value_ofValue inst'.tree
  writes := rfl
  writes' := rfl
  registry := rfl
  known := by
    intro id k hk
    rw [show (v.start inst).registry = v.registry from rfl, hfresh] at hk
    cases hk

/-- Where nothing is written, the schemas that are known after a call are those that its check knew
    in the end. -/
theorem validate_registry_of_silent {schema : Node} (hgiven : schema.tree.isGiven = true)
    (hw : (v.visit schema (v.rootScope inst) (v.start inst)).2.writes = []) :
    (v.validate inst schema).validator.registry =
      (v.visit schema (v.rootScope inst) (v.start inst)).2.registry := by
  have hroot : v.rootCheck inst schema = v.visit schema := if_pos hgiven
  rw [validate_registry, final, hroot, hw, Registry.settled_nil]

/-- **Tuples are lists.**  A fresh validator that does not write defaults makes no difference
    between instances that are the same but for their tuples, if neither carries schemas to be
    enforced below its top and no type expression of the schema names a class of arrays: both pass,
    or both fail with errors that report the same class, kind, key and path, and the same ids are
    registered in the same order. -/
theorem validate_untupled {settings : Settings} {switch : Value}
    (hsilent : (Validator.new settings switch).interactive.isTruthy = false)
    {inst inst' schema : Node} (hgiven : schema.tree.isGiven = true)
    (hblind : schema.tree.BlindToTuples) (hplain : inst.tree.plain = true)
    (hplain' : inst'.tree.plain = true) (hsame : inst.tree.untupled = inst'.tree.untupled) :
    let o := (Validator.new settings switch).validate inst schema
    let o' := (Validator.new settings switch).validate inst' schema
    ReportsAlike Eq o.result o'.result ∧
      o'.validator.registry.ids = o.validator.registry.ids := by
  intro o o'
  let v := Validator.new settings switch
  obtain ⟨hresult, hfacing, _, _⟩ :=
    visitsAlike_against settings.maxDepth schema hblind ⟨hsame, hplain, hplain'⟩ _ _ _ _
      (facing_start (v := v) hsilent rfl)
  have hend : o.result = _ := (v.validate_of_given inst schema hgiven).1
  have hend' : o'.result = _ := (v.validate_of_given inst' schema hgiven).1
  have hids : o'.validator.registry = o.validator.registry := by
    rw [show o.validator.registry = _ from validate_registry_of_silent hgiven hfacing.writes,
      show o'.validator.registry = _ from validate_registry_of_silent hgiven hfacing.writes']
    exact hfacing.registry
  rw [hend, hend', hids]
  exact ⟨hresult, rfl⟩

/-- A schema for arrays of arrays of whole numbers. -/
def wholeRows : Value :=
  .map [(.name "id", .str "rows"), (.name "type", .str "array"),
    (.name "items", .map
      [(.name "type", .str "array"), (.name "items", .map [(.name "type", .str "integer")])])]

/-- Rows in tuples, with a text in the second one. -/
def rowsInTuples : Node :=
  ⟨⟨.instance 0, []⟩, .tuple [.tuple [.int 1, .int 2], .tuple [.str "x"]]⟩

/-- The same rows, where only the first one is still in a tuple. -/
def rowsInLists : Node :=
  ⟨⟨.instance 1, []⟩, .list [.tuple [.int 1, .int 2], .list [.str "x"]]⟩

/-- The text is found in the same place, be the rows in tuples or in lists. -/
theorem text_among_rows :
    let o := (Validator.new .default (.bool false)).validate rowsInTuples (.ofSchema 0 wholeRows)
    let o' := (Validator.new .default (.bool false)).validate rowsInLists (.ofSchema 0 wholeRows)
    (Validator.new .default (.bool false)).interactive.isTruthy = false ∧
      wholeRows.isGiven = true ∧ wholeRows.BlindToTuples ∧ rowsInTuples.tree.plain = true ∧
      rowsInLists.tree.plain = true ∧ rowsInTuples.tree.untupled = rowsInLists.tree.untupled ∧
      o.result = .error (.violation
        ⟨.wrongType "string" "integer", .int 0, some [.index 1, .index 0]⟩) ∧
      o.validator.registry.ids = ["rows"] ∧ ReportsAlike Eq o.result o'.result ∧
      o'.validator.registry.ids = o.validator.registry.ids := by
  have hblind : wholeRows.BlindToTuples := Value.blindToTuples_of_everyMapping (by decide +kernel)
  have hplain : rowsInTuples.tree.plain = true := by decide +kernel
  have hplain' : rowsInLists.tree.plain = true := by decide +kernel
  have hagree := validate_untupled
    (rfl : (Validator.new .default (.bool false)).interactive.isTruthy = false)
    (rfl : (Node.ofSchema 0 wholeRows).tree.isGiven = true) hblind hplain hplain' rfl
  exact ⟨rfl, rfl, hblind, hplain, hplain', rfl, by decide +kernel, by decide +kernel, hagree⟩

end Validator

end Conformance

/-
  All rules of a schema together decide whether a value conforms to it.

  So far nested checks were taken to decide this; the induction on the depth that remains closes the
  circle (`against_decides`).  For a validator it means that the verdict of a run is what conforming
  says, without an order of rules (`checkProperty_ok_iff_conforms`).
-/
import Conformance.Proofs.Decision.Members
import Conformance.Validator

namespace Conformance

namespace Check

variable {v : Value} {n : Node} {visit : Node → Check Unit}

section Rules

variable (hvisit : VisitDecides visit) (hv : v.ownRefFree = true)

include hvisit hv

/-! ## One value, one schema -/

omit hvisit hv in
theorem scalarRules_decides : Decides v (n.tree.ScalarRules v) (scalarRules n v) := by
  unfold scalarRules
  cases v with
  | str s =>
    exact (textRules_decides s).congr ⟨fun h => ⟨fun _ hs => by cases hs; exact h, nofun⟩,
      fun h => h.1 s rfl⟩
  | int i =>
    exact (numberRules_decides _).congr ⟨fun h => ⟨nofun, fun _ hx => by cases hx; exact h⟩,
      fun h => h.2 _ rfl⟩
  | float x =>
    exact (numberRules_decides _).congr ⟨fun h => ⟨nofun, fun _ hx => by cases hx; exact h⟩,
      fun h => h.2 _ rfl⟩
  | _ => exact .yes ⟨nofun, nofun⟩

theorem contentRules_decides (hn : n.tree.refFree = true) :
    Decides v (n.tree.LocalRules v ∧ ∀ step sub, n.tree.Demand v step sub →
      (v.member step).Conforms sub) (contentRules visit n v) :=
  ((memberRules_decides hvisit hv hn).and fun _ => scalarRules_decides.and fun _ =>
    closingRules_decides).congr
      ⟨fun h => ⟨⟨h.1.1, h.2.1, h.2.2⟩, h.1.2⟩, fun h => ⟨⟨h.1.1, h.2⟩, h.1.2, h.1.3⟩⟩

theorem disallowRule_decides (hn : n.tree.refFree = true) :
    Decides v (∀ t, n.tree.rule? "disallow" = some t → ¬ v.Fits t) (disallowRule visit n) := by
  refine .whenGiven fun t ht => ?_
  have hrule := typeRule_decides hvisit (n := n.down (.name "disallow") t)
    (Value.everyMapping_part hn (Value.mem_parts_of_rule? ht)) hv
  refine (Ends.attempt hrule).decide fun e he => ?_
  cases e with
  | none => exact .fail fun _ h => h (he.mp rfl)
  | some _ => exact .yes fun h => absurd (he.mpr h) (by simp)

theorem presentRules_decides (hn : n.tree.refFree = true) :
    Decides v ((∀ t, n.tree.rule? "type" = some t → v.Fits t) ∧
      (∀ t, n.tree.rule? "disallow" = some t → ¬ v.Fits t) ∧
      (v ≠ .null → n.tree.LocalRules v ∧ ∀ step sub, n.tree.Demand v step sub →
        (v.member step).Conforms sub)) (presentRules visit n v) := by
  have htype : Decides v (∀ t, n.tree.rule? "type" = some t → v.Fits t)
      (whenGiven n "type" (typeRule visit)) :=
    .whenGiven fun t ht => typeRule_decides hvisit (n := n.down (.name "type") t)
      (Value.everyMapping_part hn (Value.mem_parts_of_rule? ht)) hv
  refine htype.and fun _ => (disallowRule_decides hvisit hv hn).and fun _ => ?_
  have hcontent := contentRules_decides hvisit hv hn
  cases v with
  | null => exact .yes (by simp)
  | _ => exact hcontent.congr (by simp)

omit hvisit hv in
theorem idRule_decides : Decides v True (idRule n) := by
  have hregister (r : Value) (_ : n.tree.rule? "id" = some r) :
      Decides v True (register r.text n) := fun _ _ _ hw _ => ⟨rfl, hw, trivial⟩
  exact (Decides.whenGiven hregister).congr (by simp)

omit hvisit hv in
theorem refRule_decides (hn : n.tree.refFree = true) : Decides v True (refRule visit n) := by
  refine .field? ?_
  have hnone := Value.get?_ref_of_refFree hn
  cases hr : n.tree.get? "$ref" with
  | none => exact Decides.yes trivial
  | some r =>
    cases r with
    | str s => exact absurd hr (hnone s)
    | _ => exact Decides.yes trivial

theorem extendsRule_decides (hn : n.tree.refFree = true) :
    Decides v (∀ b, b ∈ n.tree.bases → v.Conforms b) (extendsRule visit n) := by
  have hrule : Decides v (∀ r : Value, n.tree.rule? "extends" = some r →
      ∀ b ∈ r.listed, v.Conforms b) (extendsRule visit n) := by
    refine .whenGiven fun r hr => ?_
    have hr' := Value.everyMapping_part hn (Value.mem_parts_of_rule? hr)
    cases r with
    | list bs =>
      have helements : Decides v (∀ (i : Nat) (b : Value), bs[i]? = some b → v.Conforms b)
          (eachElement (n.down (.name "extends") (.list bs)) fun _ base => visit base) := by
        refine .eachElement fun i b hb => hvisit _ v ?_ hv
        exact Value.everyMapping_part hr' (List.mem_of_getElem? hb)
      refine helements.congr ?_
      simp only [Value.listed, List.mem_iff_getElem?, forall_exists_index]
      exact forall_comm
    | _ =>
      have hbase := hvisit (n.down (.name "extends") _) v hr' hv
      exact hbase.congr (by simp [Value.listed, Node.down])
  refine hrule.congr ?_
  unfold Value.bases
  cases n.tree.rule? "extends" <;> simp

omit hvisit hv in
theorem missingRules_decides :
    Decides .missing (n.tree.get? "required" ≠ some (.bool true)) (missingRules n) := by
  have hrequired : Decides .missing (n.tree.get? "required" ≠ some (.bool true))
      (requiredRule n) := by
    refine .field? ?_
    split
    · next hr => exact Decides.fail fun _ h => h hr
    · next hr => exact Decides.yes hr
  -- where defaults are not written, the rule on them does nothing
  have hdefault : Decides .missing True (defaultRule n) := by
    refine .scope fun s hs => ?_
    rw [hs, if_neg (by simp)]
    exact Decides.yes trivial
  exact (hrequired.and fun _ => hdefault).congr (and_iff_left trivial)

/-- All rules of a schema together decide whether the value conforms to it. -/
theorem property_decides (hn : n.tree.refFree = true) (hm : n.tree.isMap = true) :
    Decides v (v.Conforms n.tree) (property visit n) := by
  have hlast : Decides v ((v = .missing → n.tree.get? "required" ≠ some (.bool true)) ∧
      (v ≠ .missing → (∀ t, n.tree.rule? "type" = some t → v.Fits t) ∧
        (∀ t, n.tree.rule? "disallow" = some t → ¬ v.Fits t) ∧
        (v ≠ .null → n.tree.LocalRules v ∧ ∀ step sub, n.tree.Demand v step sub →
          (v.member step).Conforms sub)))
      (ownRules visit n) := by
    refine .value ?_
    have hpresent := presentRules_decides hvisit hv hn
    cases v with
    | missing => exact missingRules_decides.congr (by simp)
    | _ => exact hpresent.congr (by simp)
  refine (idRule_decides.and fun _ => (refRule_decides hn).and fun _ =>
    (extendsRule_decides hvisit hv hn).and fun _ => hlast).congr ?_
  rw [Value.Conforms]
  simp [hm]

end Rules

theorem Decides.nested {P : Prop} {c : Check Unit} (h : Decides v P c) (n : Node) :
    Decides v P (nested n c) := by
  intro s p hs hw hv
  obtain ⟨hslot, hwrites, hverdict⟩ := h { s with depth := s.depth + 1 }
    { p with journal := .entered n s.trail (s.depth + 1) :: p.journal } hs hw hv
  exact ⟨hslot, hwrites, hverdict⟩

/-- The check against a schema decides whether the value conforms to it, whatever depth remains. -/
theorem against_decides (depth : Nat) : VisitDecides (against depth) := by
  induction depth with
  | zero =>
    intro n v _ _
    refine .content ?_
    cases hm : n.tree.isMap with
    | false => exact Decides.yes (conforms_of_not_map hm)
    | true => exact Ends.scope fun s _ => Decides.fail fun h => by cases h
  | succ depth ih =>
    intro n v hn hv
    refine .content ?_
    cases hm : n.tree.isMap with
    | false => exact Decides.yes (conforms_of_not_map hm)
    | true => exact (property_decides ih hv hn hm).nested n

end Check

/-! ## Validators -/

namespace Validator

/-- The value that a check of a member is about: the one handed in, or the one under the key. -/
def subject (parent : Node) (key : Value) (handedIn : Option Node) : Value :=
  (slotOf parent.tree key (handedIn.map (·.tree))).value

/-- A call on a value is one and the same run for all schemas. -/
theorem exists_run_of_subject (v : Validator) {parent : Node} {key : Value} {handedIn : Option Node}
    {x : Value} (h : subject parent key handedIn = x) (hx : x ≠ .missing) :
    ∃ s p, p.slot = .present x ∧ ∀ schema,
      (v.checkProperty parent key handedIn schema).outcome.result = (v.visit schema s p).1 ∧
      (v.checkProperty parent key handedIn schema).value = (v.visit schema s p).2.slot.value := by
  refine ⟨⟨key, [], _, v.renewals, 0, v.interactive.isTruthy, v.settings.maxDepth⟩,
    ⟨slotOf parent.tree key (handedIn.map (·.tree)), v.registry, [], []⟩, ?_, fun _ => ⟨rfl, rfl⟩⟩
  subst h
  exact Slot.eq_present hx

/-- **The verdict of a run is whether the value conforms.**  Where defaults are not written and no
    reference leads elsewhere, a check of a value, possibly missing, that blames neither the schema
    nor the nesting succeeds exactly if the value conforms to the schema. -/
theorem checkProperty_ok_iff_conforms {v : Validator} {parent : Node} {key : Value}
    {handedIn : Option Node} {schema : Node} (hv : v.interactive.isTruthy = false)
    (hschema : schema.tree.refFree = true)
    (hown : (subject parent key handedIn).ownRefFree = true)
    (hend : ∀ f, (v.checkProperty parent key handedIn schema).outcome.result = .error f →
      ∃ e : Violation, f = .violation e ∧ e.errorClass = .data) :
    (v.checkProperty parent key handedIn schema).outcome.result = .ok () ↔
      (subject parent key handedIn).Conforms schema.tree := by
  obtain ⟨place, hrun⟩ : ∃ place, (v.checkProperty parent key handedIn schema).outcome.result =
      (v.visit schema
        ⟨key, [], place, v.renewals, 0, v.interactive.isTruthy, v.settings.maxDepth⟩
        ⟨slotOf parent.tree key (handedIn.map (·.tree)), v.registry, [], []⟩).1 := ⟨_, rfl⟩
  have hdecides := Check.against_decides v.settings.maxDepth schema _ hschema hown
  have hverdict : Check.Verdict ((subject parent key handedIn).Conforms schema.tree)
      (v.checkProperty parent key handedIn schema).outcome.result := by
    rw [hrun]
    exact (hdecides _ _ hv rfl rfl).2.2
  revert hverdict hend
  generalize (v.checkProperty parent key handedIn schema).outcome.result = r
  intro hend hverdict
  cases r with
  | ok _ => exact iff_of_true rfl hverdict
  | error f =>
    obtain ⟨e, rfl, hdata⟩ := hend f rfl
    exact iff_of_false nofun (hverdict hdata)

/-- A value that has passed a run conforms: to the schema that is extended, and not to what is
    disallowed. -/
theorem conforms_of_passed_run :
    (Value.map [(.name "a", .int 3)]).Conforms (.map
      [(.name "extends", .map [(.name "properties", .map
          [(.name "a", .map [(.name "type", .list [.str "string", .str "integer"])])])]),
        (.name "disallow", .map [(.name "properties", .map
          [(.name "a", .map [(.name "minimum", .int 5)])])])]) := by
  let value : Node := ⟨⟨.instance 1, []⟩, .map [(.name "a", .int 3)]⟩
  let schema : Node := .ofSchema 0 (.map
    [(.name "extends", .map [(.name "properties", .map
        [(.name "a", .map [(.name "type", .list [.str "string", .str "integer"])])])]),
      (.name "disallow", .map [(.name "properties", .map
        [(.name "a", .map [(.name "minimum", .int 5)])])])])
  have hrun : ((Validator.new .default (.bool false)).checkProperty ⟨⟨.instance 0, []⟩, .null⟩
      (.str "x") (some value) schema).outcome.result = .ok () := by decide +kernel
  exact (checkProperty_ok_iff_conforms rfl (by decide +kernel) (by decide +kernel)
    (by rw [hrun]; nofun)).mp hrun

end Validator

end Conformance

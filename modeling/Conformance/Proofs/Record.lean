/-
  What a call changes, and what it puts on record.

  A call on a whole instance leaves the instance as it was but for the defaults on its record, each
  put where there was nothing and offered by a schema that was visited for that place
  (`validate_record`).  This is so whether the call comes to a result or to an error.

  An attempt that fails is no exception (`rejected_attempt`): whatever it has deposited stays, and
  stays on record.  So a default may come from an alternative that the value did not fit
  (`default_of_rejected_alternative`).
-/
import Conformance.Proofs.Moves
import Conformance.Validator

namespace Conformance

namespace Validator

/-! ## Whole instances -/

/-- The scope in which a whole instance is checked. -/
def rootScope (v : Validator) (inst : Node) : Scope :=
  ⟨rootKey, [], inst.origin, v.renewals, 0, v.interactive.isTruthy, v.settings.maxDepth⟩

/-- What the check of a whole instance starts from. -/
def start (v : Validator) (inst : Node) : Progress := ⟨.ofValue inst.tree, v.registry, [], []⟩

/-- What the check of a whole instance comes to. -/
def final (v : Validator) (inst schema : Node) : Progress :=
  (v.rootCheck inst schema (v.rootScope inst) (v.start inst)).2

theorem validate_slot (v : Validator) (inst schema : Node) :
    (v.validate inst schema).slot = (v.final inst schema).slot := rfl

theorem validate_journal (v : Validator) (inst schema : Node) :
    (v.validate inst schema).journal = (v.final inst schema).journal.reverse := rfl

theorem validate_applied (v : Validator) (inst schema : Node) :
    (v.validate inst schema).validator.applied =
      Journal.appliedPaths (v.final inst schema).journal.reverse := rfl

theorem validate_registry (v : Validator) (inst schema : Node) :
    (v.validate inst schema).validator.registry =
      (v.final inst schema).registry.settled (v.final inst schema).writes := rfl

/-- The schema that a whole instance is checked against: the one given, or else one that the instance
    carries. -/
def rootSchema? (inst schema : Node) : Option Node :=
  if schema.tree.isGiven then some schema
  else
    match inst.tree with
    | .map entries =>
      let own := (Value.entryAt? (.name "$schema") entries).getD .null
      if own.isTruthy && own.isMap then some (inst.down (.name "$schema") own) else none
    | _ => none

/-- A schema that there is is what the root is checked against. -/
theorem rootCheck_of_some {inst schema n : Node} (h : rootSchema? inst schema = some n)
    (v : Validator) : v.rootCheck inst schema = v.visit n := by
  unfold rootSchema? at h
  unfold rootCheck
  split at h
  · next hgiven =>
    cases h
    rw [if_pos hgiven]
  · next hgiven =>
    rw [if_neg hgiven]
    -- without a schema handed in, a mapping may carry one
    cases ht : inst.tree with
    | map entries =>
      rw [ht] at h
      dsimp only at h ⊢
      cases htruthy : ((Value.entryAt? (.name "$schema") entries).getD .null).isTruthy <;>
        cases hmap : ((Value.entryAt? (.name "$schema") entries).getD .null).isMap <;>
        simp [htruthy, hmap] at h ⊢
      rw [h]
    | _ =>
      rw [ht] at h
      cases h

/-- An instance for which there is no schema asks for nothing, with a remark at most. -/
theorem rootCheck_of_none {inst schema : Node} (h : rootSchema? inst schema = none) :
    ∃ remarks : List Event, (∀ e ∈ remarks, ∃ kind, e = .schemaIgnored kind) ∧
      ∀ (v : Validator) s p, v.rootCheck inst schema s p =
        (.ok (), { p with journal := remarks ++ p.journal }) := by
  unfold rootSchema? at h
  unfold rootCheck
  split at h
  · cases h
  · next hgiven =>
    simp only [if_neg hgiven]
    cases ht : inst.tree with
    | map entries =>
      rw [ht] at h
      dsimp only at h ⊢
      cases htruthy : ((Value.entryAt? (.name "$schema") entries).getD .null).isTruthy with
      | false => exact ⟨[], by simp, fun _ _ _ => rfl⟩
      | true =>
        cases hmap : ((Value.entryAt? (.name "$schema") entries).getD .null).isMap with
        | false => exact ⟨[.schemaIgnored _], by simp, fun _ _ _ => rfl⟩
        | true => simp [htruthy, hmap] at h
    | _ => exact ⟨[], by simp, fun _ _ _ => rfl⟩

/-- The check of the root only ever injects. -/
theorem rootCheck_moves (v : Validator) (inst schema : Node) :
    Check.Moving (v.rootCheck inst schema) := by
  unfold rootCheck
  split
  · exact Check.against_moves _ schema
  · split
    · dsimp only
      split
      · exact .of_still fun _ _ => rfl
      · split
        · exact Check.against_moves _ _
        · exact .note rfl
    · exact .of_still fun _ _ => rfl

/-- A value looked up or handed in receives what its slot receives. -/
theorem injections_of_slot {a : Value} {ds : List Deposit} {τ : Slot}
    (h : (Slot.ofValue a).Injections ds τ) : a.Injections ds τ.value := by
  cases a with
  | missing =>
    obtain ⟨rfl, rfl⟩ := h.of_held
    exact .none
  | _ =>
    obtain ⟨b, rfl, hb⟩ := h.of_present
    exact hb

/-- The deposits of a call: they turn the instance into what it is afterwards, their paths are the
    record, and each was offered by a schema visited for its place, as the schema read with the
    deposits before it. -/
structure Deposited (v : Validator) (inst schema : Node) (ds : List Deposit) : Prop where
  injections : inst.tree.Injections ds (v.validate inst schema).slot.value
  applied : (v.validate inst schema).validator.applied = ds.map fun d => d.trail.text
  offered : ∀ before d after, ds = before ++ d :: after →
    ∃ n depth, .entered n d.trail depth ∈ (v.validate inst schema).journal ∧
      (n.content (before.map (Deposit.write v.renewals inst.origin)).reverse).Offers d.value

theorem deposited_of_moves {v : Validator} {inst schema : Node} {ds : List Deposit}
    (hm : Check.Moves (v.rootScope inst) (v.start inst) ds (v.final inst schema)) :
    v.Deposited inst schema ds where
  injections := injections_of_slot hm.slot
  applied := by
    obtain ⟨events, hj, hd⟩ := hm.journal
    -- the journal is told from its end, and so are the deposits in it
    have hreverse : Journal.deposits (v.final inst schema).journal.reverse = ds := by
      rw [hj, Journal.deposits, List.filterMap_reverse, ← Journal.deposits, Journal.deposits_append,
        hd]
      simp [Journal.deposits, start, rootScope]
    rw [validate_applied, Journal.appliedPaths_eq, hreverse]
  offered := by
    intro before d after hds
    obtain ⟨n, depth, hn, ho⟩ := hm.offered hds
    rw [validate_journal]
    refine ⟨n, depth, List.mem_reverse.mpr hn, ?_⟩
    rwa [show (v.start inst).writes = [] from rfl, List.append_nil] at ho

/-- Every call has its deposits. -/
theorem exists_deposited (v : Validator) (inst schema : Node) :
    ∃ ds, v.Deposited inst schema ds := by
  obtain ⟨ds, hm⟩ := v.rootCheck_moves inst schema (v.rootScope inst) (v.start inst)
  exact ⟨ds, deposited_of_moves hm⟩

/-- **The record is exact.**  Whatever comes of a call, the instance is what it was with the deposits
    on record made in their order, and nothing else: nothing is removed, replaced or reordered, the
    record is empty exactly if the instance is unchanged, and both are so where defaults are not
    written.  A report tells the same instance and the same record. -/
theorem validate_record (v : Validator) (inst schema : Node) :
    (∃ ds, v.Deposited inst schema ds) ∧
      inst.tree.keptIn (v.validate inst schema).slot.value ∧
      ((v.validate inst schema).validator.applied = [] ↔
        (v.validate inst schema).slot.value = inst.tree) ∧
      (v.interactive.isTruthy = false →
        (v.validate inst schema).validator.applied = [] ∧
          (v.validate inst schema).slot.value = inst.tree) ∧
      (v.check inst schema).slot = (v.validate inst schema).slot ∧
      (v.check inst schema).validator = (v.validate inst schema).validator ∧
      ∀ report, (v.check inst schema).result = .ok report →
        report.data = (v.validate inst schema).slot.value ∧
          report.applied = (v.validate inst schema).validator.applied := by
  obtain ⟨ds, hm⟩ := v.rootCheck_moves inst schema (v.rootScope inst) (v.start inst)
  have hd := deposited_of_moves hm
  have hempty : (v.validate inst schema).validator.applied = [] ↔
      (v.validate inst schema).slot.value = inst.tree := by
    rw [hd.applied, hd.injections.eq_iff, List.map_eq_nil_iff]
  refine ⟨⟨ds, hd⟩, hd.injections.keptIn, hempty, fun hi => ?_, rfl, rfl, fun report hr => ?_⟩
  · have hnone : (v.validate inst schema).validator.applied = [] := by
      rw [hd.applied, hm.eq_nil hi]
      rfl
    exact ⟨hnone, hempty.mp hnone⟩
  · unfold check at hr
    dsimp only at hr
    -- a report is made of a result or of a violation, from the same outcome
    split at hr
    · cases hr
      exact ⟨rfl, rfl⟩
    · cases hr
      exact ⟨rfl, rfl⟩
    · cases hr

end Validator

/-- The empty object as an instance. -/
def emptyInstance : Node := ⟨⟨.instance 0, []⟩, .map []⟩

/-- A schema that offers one as a default. -/
def oneByDefault : Value := .map [(.name "default", .int 1)]

/-- A schema that fills in a property. -/
def fillsIn : Value := .map [(.name "properties", .map [(.name "a", oneByDefault)])]

/-- Where a property is filled in there is a record, and so the instance has changed. -/
theorem record_of_filled_property :
    let o := (Validator.new .default .null).validate emptyInstance (.ofSchema 0 fillsIn)
    o.validator.applied = ["$.a"] ∧ o.slot.value ≠ emptyInstance.tree := by
  intro o
  have happlied : o.validator.applied = ["$.a"] := by decide +kernel
  obtain ⟨_, _, hempty, _⟩ :=
    Validator.validate_record (.new .default .null) emptyInstance (.ofSchema 0 fillsIn)
  refine ⟨happlied, fun hsame => ?_⟩
  have hnone : o.validator.applied = [] := hempty.mpr hsame
  rw [happlied] at hnone
  cases hnone

/-! ## Attempts -/

namespace Check

/-- The checks that are made as attempts: those of a value against an alternative of a type
    expression, and against the expression of a rule `disallow`. -/
inductive Attempted (depth : Nat) : Check Unit → Prop
  | alternative (test : TypeTest) (expr : Node) :
    Attempted depth (resolvedType (against depth) test expr)
  | disallowed (expr : Node) : Attempted depth (typeRule (against depth) expr)

mutual

theorem likeTest_self : ∀ t : TypeTest, Parallel.LikeTest (Eq : Node → Node → Prop) t t
  | .anything => .anything
  | .classes members => .classes members
  | .schema _ => .schema rfl
  | .anyOf ts => .anyOf (likeTests_self ts)

theorem likeTests_self : ∀ ts : List TypeTest, Parallel.LikeTests (Eq : Node → Node → Prop) ts ts
  | [] => .nil
  | t :: ts => .cons (likeTest_self t) (likeTests_self ts)

end

/-- What is attempted goes the same way as itself, whatever node's rules it is taken for. -/
theorem Attempted.parallel {depth : Nat} {c : Check Unit} (h : Attempted depth c) (n : Node) :
    Parallel ⟨Eq, against depth, against depth, n, n⟩ Eq c c := by
  cases h with
  | alternative test expr => exact .resolvedType .eq (likeTest_self test) rfl
  | disallowed expr => exact .typeRule .eq rfl

/-- A node that says nothing, to stand for the one whose rules attempts are made for. -/
def blank : Node := .ofSchema 0 .null

/-- Attempts only ever inject. -/
theorem Attempted.moving {depth : Nat} {c : Check Unit} (h : Attempted depth c) : Moving c := by
  intro s p
  have htracked := (h.parallel blank).tracked (against_moves depth)
  exact (htracked s p (Or.inr fun _ => rfl)).2.2

/-- The paths on record in a journal whose latest event stands first. -/
def recorded (p : Progress) : List String := Journal.appliedPaths p.journal.reverse

/-- What a move injects it puts on record, with the path to the place where the check stands. -/
theorem recorded_of_moves {s : Scope} {p q : Progress} {ds : List Deposit} (h : Moves s p ds q) :
    recorded q = recorded p ++ ds.map fun d => Trail.text (s.trail ++ d.trail) := by
  obtain ⟨events, hj, hd⟩ := h.journal
  have hevents : Journal.deposits events.reverse =
      ds.map fun d => ⟨s.trail ++ d.trail, d.value⟩ := by
    rw [Journal.deposits, List.filterMap_reverse, ← Journal.deposits, hd, List.reverse_reverse]
  rw [recorded, recorded, hj, List.reverse_append, Journal.appliedPaths_append]
  rw [Journal.appliedPaths_eq events.reverse, hevents, List.map_map]
  rfl

/-- **A rejected attempt undoes nothing.**  The data are what they were with the deposits that the
    attempt has put on record made in their order, and nothing else: a value keeps all it had, and it
    is unchanged exactly if there are none, which is so wherever defaults are not written. -/
theorem rejected_attempt {depth : Nat} {c : Check Unit} (hc : Attempted depth c) {s : Scope}
    {p q : Progress} {e : Violation} (h : attempt c s p = (.ok (some e), q)) :
    ∃ ds : List Deposit, p.slot.Injections ds q.slot ∧
      recorded q = recorded p ++ ds.map (fun d => Trail.text (s.trail ++ d.trail)) ∧
      (∀ a, p.slot = .present a →
        ∃ b, q.slot = .present b ∧ a.Injections ds b ∧ a.keptIn b ∧ (b = a ↔ ds = [])) ∧
      (s.interactive = false → ds = []) := by
  obtain ⟨ds, hm⟩ := hc.moving s p
  -- an attempt leaves the progress where its check does, rejected or not
  have hq : (c s p).2 = q := by rw [← attempt_progress, h]
  rw [hq] at hm
  refine ⟨ds, hm.slot, recorded_of_moves hm, fun a ha => ?_, hm.eq_nil⟩
  have hslot := hm.slot
  rw [ha] at hslot
  obtain ⟨b, hb, hab⟩ := hslot.of_present
  exact ⟨b, hb, hab, hab.keptIn, hab.eq_iff⟩

end Check

/-! ## A default that stays -/

/-- A schema that fills in one property and then misses another. -/
def fillsThenFails : Value :=
  .map [(.name "properties", .map
    [(.name "a", .map [(.name "default", .int 1)]),
      (.name "b", .map [(.name "required", .bool true)])])]

/-- A schema with that as its first alternative, and objects of any kind as its second. -/
def fillsThenFailsOrObject : Value :=
  .map [(.name "type", .list [fillsThenFails, .str "object"])]

open Check in
/-- The first alternative is rejected for want of `b`, and the default of `a` stays: in the slot and
    on record right after the attempt, and in the instance that the call accepts. -/
theorem default_of_rejected_alternative :
    let v := Validator.new .default .null
    let first := Node.ofSchema 0 fillsThenFails
    let attempted := attempt (resolvedType (against 99) (.schema first) first)
      (v.rootScope emptyInstance) (v.start emptyInstance)
    let o := v.validate emptyInstance (.ofSchema 0 fillsThenFailsOrObject)
    attempted.1 = .ok (some ⟨.missing, .str "b", some [.entry (.name "b")]⟩) ∧
      (v.start emptyInstance).slot = .present (.map []) ∧
      attempted.2.slot = .present (.map [(.name "a", .int 1)]) ∧
      recorded (v.start emptyInstance) = [] ∧ recorded attempted.2 = ["$.a"] ∧
      o.result = .ok () ∧ o.slot.value = .map [(.name "a", .int 1)] ∧
      o.validator.applied = ["$.a"] := by
  decide +kernel

open Check in
/-- What the first alternative has deposited is all that it has changed. -/
theorem rejected_attempt_of_first_alternative :
    let v := Validator.new .default .null
    let first := Node.ofSchema 0 fillsThenFails
    let q := (attempt (resolvedType (against 99) (.schema first) first)
      (v.rootScope emptyInstance) (v.start emptyInstance)).2
    ∃ ds : List Deposit, ds ≠ [] ∧ (Slot.present (.map [])).Injections ds q.slot ∧
      recorded q = ds.map fun d => d.trail.text := by
  intro v first q
  have hrejected : attempt (resolvedType (against 99) (.schema first) first)
      (v.rootScope emptyInstance) (v.start emptyInstance) =
        (.ok (some ⟨.missing, .str "b", some [.entry (.name "b")]⟩), q) :=
    Prod.ext (by decide +kernel) rfl
  obtain ⟨ds, hslot, hrecord, hvalue, _⟩ := rejected_attempt (.alternative ..) hrejected
  obtain ⟨b, hb, _, _, hiff⟩ := hvalue (.map []) rfl
  have hfilled : q.slot = .present (.map [(.name "a", .int 1)]) := by decide +kernel
  -- without deposits the object would still be empty
  refine ⟨ds, fun hds => ?_, hslot, hrecord⟩
  rw [hfilled, hiff.mpr hds] at hb
  exact absurd hb (by decide)

end Conformance

/-
  What an absent key gets.

  A missing value is gone over by a schema, by the schemas it extends, by those that these extend,
  and so on.  Each of them is asked with the value still missing, be the key filled in meanwhile or
  not.  In the order in which they speak they form one list (`Value.lineage`), every base before the
  schema that extends it, and what the whole tree of them comes to is what the list comes to when it
  is gone through once (`against_missed`).

  So one rule of the first match decides (`checkProperty_lacking`).  The value is reported missing
  if one of the list requires it; if none does, the first that offers a default fills it in.  Where
  a list is asked for an index that it has no room for, an offer cannot be made good: then the first
  that requires the value or offers one decides (`required_after_vain_offer`).
-/
import Conformance.Proofs.Record
import Conformance.Proofs.Extends
import Conformance.Proofs.Frame

namespace Conformance

/-! ## The lineage of a schema -/

namespace Value

/-- The schemas that speak when a schema is asked: those that it extends, each after the ones that
    it extends itself, and the schema last. -/
def lineage (S : Value) : List Value :=
  if S.isMap then S.bases.attach.flatMap (fun b => b.1.lineage) ++ [S] else []
termination_by sizeOf S
decreasing_by exact sizeOf_base_lt b.2

/-- Whether the bases of a schema, and theirs in turn, are nested at most so deep. -/
def descendsWithin : Nat → Value → Bool
  | 0, S => !S.isMap
  | depth + 1, S => S.bases.all (descendsWithin depth)

/-- The lineage of a schema: those of its bases in turn, and then itself. -/
theorem lineage_of_map {S : Value} (h : S.isMap = true) :
    S.lineage = S.bases.flatMap lineage ++ [S] := by
  rw [lineage, if_pos h, List.flatMap_subtype (fun _ _ => rfl), List.unattach_attach]

/-- What is no schema has no lineage. -/
theorem lineage_of_not_map {S : Value} (h : S.isMap = false) : S.lineage = [] := by
  rw [lineage, h]
  rfl

/-- Who speaks for a base speaks for the schema. -/
theorem mem_lineage_of_base {S b x : Value} (h : S.isMap = true) (hb : b ∈ S.bases)
    (hx : x ∈ b.lineage) : x ∈ S.lineage := by
  rw [lineage_of_map h]
  exact List.mem_append_left _ (List.mem_flatMap.mpr ⟨b, hb, hx⟩)

/-- A schema speaks for itself. -/
theorem mem_lineage_self {S : Value} (h : S.isMap = true) : S ∈ S.lineage := by
  rw [lineage_of_map h]
  exact List.mem_append_right _ (List.mem_singleton.mpr rfl)

/-- A schema says outright that there has to be a value. -/
def isRequired (S : Value) : Bool := S.get? "required" = some (.bool true)

end Value

namespace Check

/-! ## Several schemas in turn -/

/-- What becomes of a slot without a value under several schemas in turn; the first that fails ends
    it. -/
def missedIn (s : Scope) : List Value → Slot → Except Failure Unit × Slot
  | [], slot => (.ok (), slot)
  | S :: rest, slot =>
    match missed S s slot with
    | .fails f => (.error f, slot)
    | .filled σ _ => missedIn s rest σ
    | .passes => missedIn s rest slot
    | .remarks _ => missedIn s rest slot

/-- The failure of a value that is required and missing. -/
def missingFailure (s : Scope) : Failure := .violation ⟨.missing, s.key, some s.trail⟩

section Turn

variable {s : Scope} {Ss Ts : List Value} {slot : Slot}

/-- Several schemas, and then several more. -/
theorem missedIn_append (s : Scope) (Ss Ts : List Value) (slot : Slot) :
    missedIn s (Ss ++ Ts) slot = match missedIn s Ss slot with
      | (.ok _, σ) => missedIn s Ts σ
      | (.error f, σ) => (.error f, σ) := by
  induction Ss generalizing slot with
  | nil => rfl
  | cons S rest ih =>
    rw [List.cons_append, missedIn, missedIn]
    cases missed S s slot with
    | fails f => rfl
    | passes => exact ih slot
    | remarks e => exact ih slot
    | filled σ v => exact ih σ

/-- A slot without a value stays one, even if a default has been put there. -/
theorem missedIn_missing (s : Scope) (Ss : List Value) (h : slot.value = .missing) :
    (missedIn s Ss slot).2.value = .missing := by
  induction Ss generalizing slot with
  | nil => exact h
  | cons S rest ih =>
    rw [missedIn]
    cases hm : missed S s slot with
    | fails f => exact h
    | passes => exact ih h
    | remarks e => exact ih h
    | filled σ v =>
      -- a default is put where there was none; the check goes on without it
      have hσ : σ.value = .missing := by
        obtain ⟨_, _, hfill⟩ := of_missed_filled hm
        cases hfill with
        | fill v => rfl
        | onTop old v => rfl
        | within hab => cases hab
      exact ih hσ

/-- Only key, path and switch of the place matter. -/
theorem missedIn_congr {s s' : Scope} (hkey : s.key = s'.key) (htrail : s.trail = s'.trail)
    (hinteractive : s.interactive = s'.interactive) (Ss : List Value) (slot : Slot) :
    missedIn s Ss slot = missedIn s' Ss slot := by
  induction Ss generalizing slot with
  | nil => rfl
  | cons S rest ih =>
    rw [missedIn, missedIn, missed_congr hkey htrail hinteractive]
    cases missed S s' slot with
    | fails f => rfl
    | passes => exact ih slot
    | remarks e => exact ih slot
    | filled σ v => exact ih σ

end Turn

/-- A check does with a missing value what becomes of it under several schemas in turn. -/
def Asks (c : Check Unit) (Ss : List Value) : Prop := ∀ s p, p.slot.value = .missing →
  ((c s p).1, (c s p).2.slot) = missedIn s Ss p.slot

namespace Asks

variable {c : Check Unit} {Ss Ts : List Value} {visit : Node → Check Unit} {n : Node}

/-- What two checks ask, one after the other. -/
theorem bind {d : Unit → Check Unit} (hc : Asks c Ss) (hd : Asks (d ()) Ts) :
    Asks (c >>= d) (Ss ++ Ts) := by
  intro s p hp
  have hfirst := hc s p hp
  rw [missedIn_append, ← hfirst, bind_run]
  rcases hr : c s p with ⟨r, q⟩
  rw [hr] at hfirst
  cases r with
  | error f => rfl
  | ok _ =>
    -- the first check leaves the value missing, so the second one finds it so
    have hq : q.slot.value = .missing := by
      have hσ : q.slot = (missedIn s Ss p.slot).2 := congrArg Prod.snd hfirst
      rw [hσ]
      exact missedIn_missing s Ss hp
    exact hd s q hq

/-- A check that succeeds and leaves the slot alone asks nothing. -/
theorem of_still (hok : ∀ s p, (c s p).1 = .ok ()) (hslot : ∀ s p, (c s p).2.slot = p.slot) :
    Asks c [] := by
  intro s p _
  rw [hok, hslot]
  rfl

/-- Registering a schema asks nothing. -/
theorem idRule (hn : n.InSchema) : Asks (Check.idRule n) [] := by
  refine of_still (fun s p => ?_) fun s p => idRule_slot hn
  unfold Check.idRule
  rw [whenGiven_run hn]
  cases n.tree.rule? "id" <;> rfl

/-- A schema that names no other has no reference to follow. -/
theorem refRule (hn : n.InSchema) (href : ∀ ref, n.tree.get? "$ref" ≠ some (.str ref)) :
    Asks (Check.refRule visit n) [] := by
  have hrun (s : Scope) (p : Progress) : Check.refRule visit n s p = (.ok (), p) :=
    refRule_run (by rwa [hn.content])
  exact of_still (fun s p => by rw [hrun]) fun s p => by rw [hrun]

/-- The rules of a schema itself are what that schema asks. -/
theorem ownRules (hn : n.InSchema) : Asks (Check.ownRules visit n) [n.tree] := by
  intro s p hp
  have hown : Check.ownRules visit n s p = missingRules n s p := by
    unfold Check.ownRules
    rw [value_bind, hp]
  rw [hown, missingRules_run, hn.content, missedIn]
  cases hm : missed n.tree s p.slot <;> rfl

/-- Elements that are visited in turn ask what each of them asks. -/
theorem visitFrom (hn : n.InSchema) {items : List Value} {i : Nat}
    (hi : n.tree.listItems.length = i + items.length)
    (hvisit : ∀ k : Node, k.InSchema → k.tree ∈ items → Asks (visit k) k.tree.lineage) :
    Asks (Check.visitFrom n (fun _ k => visit k) i items) (items.flatMap Value.lineage) := by
  induction items generalizing i with
  | nil =>
    have hrun : ∀ s p, Check.visitFrom n (fun _ k => visit k) i [] s p = (.ok (), p) :=
      visitFrom_end hn (by simp [hi])
    exact of_still (fun s p => by rw [hrun]) fun s p => by rw [hrun]
  | cons b rest ih =>
    rw [List.flatMap_cons]
    -- the first base and its lineage, and then the others
    refine bind (hvisit _ hn (List.mem_cons_self ..)) (ih (by simp at hi; omega) ?_)
    intro k hk hmem
    exact hvisit k hk (List.mem_cons_of_mem _ hmem)

/-- Bases ask what their lineages ask, in turn. -/
theorem extendsRule (hn : n.InSchema)
    (hvisit : ∀ k : Node, k.InSchema → k.tree ∈ n.tree.bases → Asks (visit k) k.tree.lineage) :
    Asks (Check.extendsRule visit n) (n.tree.bases.flatMap Value.lineage) := by
  intro s p hp
  unfold Check.extendsRule
  rw [whenGiven_run hn]
  unfold Value.bases at hvisit ⊢
  cases hr : n.tree.rule? "extends" with
  | none => rfl
  | some r =>
    rw [hr] at hvisit
    have hdown : (n.down (.name "extends") r).InSchema := hn
    cases r with
    | list bs =>
      show ((eachElement (n.down (.name "extends") (.list bs)) (fun _ base => visit base) s p).1,
        (eachElement (n.down (.name "extends") (.list bs)) (fun _ base => visit base) s p).2.slot) =
          missedIn s (bs.flatMap Value.lineage) p.slot
      unfold eachElement
      rw [content_bind, hdown.content]
      exact visitFrom hdown (Nat.zero_add _).symm hvisit s p hp
    | _ =>
      have hbase := hvisit (n.down (.name "extends") _) hdown (List.mem_singleton.mpr rfl) s p hp
      rw [← List.flatMap_singleton Value.lineage] at hbase
      exact hbase

/-- Going one level deeper changes nothing about it. -/
theorem nested (h : Asks c Ss) : Asks (Check.nested n c) Ss := by
  intro s p hp
  have hc := h { s with depth := s.depth + 1 }
    { p with journal := .entered n s.trail (s.depth + 1) :: p.journal } hp
  have hdepth : missedIn { s with depth := s.depth + 1 } Ss p.slot = missedIn s Ss p.slot := by
    apply missedIn_congr <;> rfl
  exact hc.trans hdepth

end Asks

section FirstMatch

variable {s : Scope}

/-- A value that is required is reported missing. -/
theorem missed_of_required {S : Value} (h : S.isRequired = true) (slot : Slot) :
    missed S s slot = .fails (missingFailure s) := by
  unfold missed
  rw [if_pos (by simpa [Value.isRequired] using h)]
  rfl

/-- The default that a schema offers where defaults are written. -/
def offered (interactive : Bool) (S : Value) : Option Value :=
  if interactive then offer? S else none

/-- What becomes of a value that is not required, by what is offered for it. -/
theorem missed_of_not_required {S : Value} (h : S.isRequired = false) {slot : Slot}
    (hask : ∀ className, slot ≠ .unaskable className) :
    missed S s slot = match offered s.interactive S, slot with
      | none, _ => .passes
      | some v, .free => .filled (.filled v) v
      | some v, .fromEnd _ => .filled (.fromEnd (some v)) v
      | some _, .outOfReach index length => .fails (.fault (.ofIndex index length))
      | some _, .closed className => .remarks (.notWritable s.trail className)
      | some _, _ => .passes := by
  unfold missed offered
  rw [if_neg (by simpa [Value.isRequired] using h)]
  -- defaults are offered where they are written, and there only
  cases s.interactive with
  | false => cases slot <;> rfl
  | true =>
    cases slot with
    | unaskable className => exact absurd rfl (hask className)
    | _ => cases offer? S <;> rfl

end FirstMatch

end Check

/-! ## Members that are not there -/

namespace Value

/-- A mapping without an entry under a name, or a list that ends before an index. -/
inductive Lacks : Value → Value → Prop
  | entry {entries : List (Key × Value)} {name : String}
    (h : entryAt? (.name name) entries = none) : Lacks (.map entries) (.str name)
  | index {items : List Value} {i : Nat} (h : items.length ≤ i) : Lacks (.list items) (.int i)

/-- Whether a container has room for a member under a key; a list may not, if the index is too
    great. -/
def hasRoomFor : Value → Value → Bool
  | .list _, .int i => i < listRoom
  | _, _ => true

variable {container key : Value}

/-- A key that a container lacks, and has room for, is free. -/
theorem Lacks.slotAt (h : container.Lacks key) (hroom : container.hasRoomFor key = true) :
    container.slotAt key = .free := by
  cases h with
  | entry h => simp [Value.slotAt, unhashable?, toKey, slotBelow, child?, h, gap]
  | @index items i h =>
    have hi : i < listRoom := by simpa [hasRoomFor] using hroom
    have hnone : items[i]? = none := List.getElem?_eq_none h
    show (if items.length ≤ i ∧ listRoom ≤ i then Slot.outOfReach i items.length
      else (Value.list items).slotBelow (.index i)) = .free
    rw [if_neg (by omega)]
    simp [slotBelow, child?, hnone, gap]

end Value

/-- A key that its container does not have, or has only received since. -/
def Slot.isAbsent : Slot → Bool
  | .present _ => false
  | .held => false
  | _ => true

/-- There is no value at a key that is absent. -/
theorem Slot.value_of_isAbsent {σ : Slot} (h : σ.isAbsent = true) : σ.value = .missing := by
  cases σ <;> first | rfl | cases h

/-- A key that is absent may receive defaults, but remains one to be counted as absent. -/
theorem Slot.isAbsent_of_injections {σ τ : Slot} {ds : List Deposit} (h : σ.Injections ds τ)
    (hσ : σ.isAbsent = true) : τ.isAbsent = true := by
  induction h with
  | none => exact hσ
  | later _ last ih =>
    cases last with
    | fill v => rfl
    | onTop old v => rfl
    | within hab => cases ih

namespace Validator

open Check

/-- The scope in which the member of a parent under a key is checked. -/
def memberScope (v : Validator) (parent : Node) (key : Value) : Scope :=
  ⟨key, [], (parent.origin.down (parent.tree.stepTo key)).current v.renewals, v.renewals, 0,
    v.interactive.isTruthy, v.settings.maxDepth⟩

/-- Where the check of a member starts. -/
def memberStart (v : Validator) (parent : Node) (key : Value) : Progress :=
  ⟨parent.tree.slotAt key, v.registry, [], []⟩

/-- The run of the check of a member. -/
def memberRun (v : Validator) (parent : Node) (key : Value) (schema : Node) :
    Except Failure Unit × Progress :=
  v.visit schema (v.memberScope parent key) (v.memberStart parent key)

variable {v : Validator} {parent schema : Node} {key : Value} {handedIn : Option Node}

/-- The check of a member moves on from where it starts. -/
theorem memberRun_moves (v : Validator) (parent : Node) (key : Value) (schema : Node) :
    ∃ ds, Moves (v.memberScope parent key) (v.memberStart parent key) ds
      (v.memberRun parent key schema).2 :=
  against_moves _ schema _ _

/-- What has been handed in as the mark of an absent key is not looked at, for a key that the parent
    does not have. -/
theorem onMember_absent (habsent : (parent.tree.slotAt key).isAbsent = true)
    (hhanded : ∀ n ∈ handedIn, n.tree = .missing) {c : Check Unit} (hc : Moving c) :
    v.onMember parent key handedIn c = v.onMember parent key none c := by
  cases handedIn with
  | none => rfl
  | some n =>
    have hslot : slotOf parent.tree key (some n.tree) = parent.tree.slotAt key := by
      rw [hhanded n rfl]
      unfold slotOf
      cases hs : parent.tree.slotAt key with
      | present x =>
        rw [hs] at habsent
        cases habsent
      | _ => rfl
    have hnone : slotOf parent.tree key none = parent.tree.slotAt key := rfl
    let here := (parent.origin.down (parent.tree.stepTo key)).current v.renewals
    -- the slot has no value afterwards either, so it is the parent that is written to
    have hleft : (v.run key here (parent.tree.slotAt key) c).slot.isAbsent = true := by
      obtain ⟨ds, hm⟩ := hc (v.memberScope parent key) (v.memberStart parent key)
      exact Slot.isAbsent_of_injections hm.slot habsent
    unfold onMember
    simp only [Option.map_some, Option.map_none, hslot, hnone]
    revert habsent hleft
    generalize parent.tree.slotAt key = σ
    intro habsent hleft
    cases σ with
    | present x => cases habsent
    | held => cases habsent
    | _ =>
      dsimp only
      congr 1
      split
      · next h => simp [here, h, Slot.isAbsent] at hleft
      · rfl

/-- A call on a key that the parent does not have is the run of its check in the slot there, and
    puts that slot back. -/
theorem checkProperty_absent (v : Validator) (schema : Node)
    (habsent : (parent.tree.slotAt key).isAbsent = true)
    (hhanded : ∀ n ∈ handedIn, n.tree = .missing) :
    let o := v.checkProperty parent key handedIn schema
    let run := v.memberRun parent key schema
    o.outcome.result = run.1 ∧ o.outcome.journal = run.2.journal.reverse ∧
      o.parent = parent.tree.settle (parent.tree.stepTo key) run.2.slot ∧
      o.outcome.validator.applied = v.applied ++ recorded run.2 := by
  intro o run
  have ho : o = v.onMember parent key none (v.visit schema) :=
    onMember_absent habsent hhanded (against_moves _ schema)
  rw [ho]
  exact ⟨rfl, rfl, rfl, rfl⟩

section Lacking

variable (hschema : schema.InSchema) (hhanded : ∀ n ∈ handedIn, n.tree = .missing)
  (hlacks : parent.tree.Lacks key)
  (href : ∀ b ∈ schema.tree.lineage, ∀ ref, b.get? "$ref" ≠ some (.str ref))
  (hdepth : schema.tree.descendsWithin v.settings.maxDepth = true)

include hschema href hdepth

include hhanded hlacks

end Lacking

/-- A base fills the value in that the schema itself requires. -/
def requiresFilled : Value :=
  .map [(.name "extends", oneByDefault), (.name "required", .bool true)]

end Validator

end Conformance

/-
  Faults that a run can end in.

  A call with a schema that never changes ends with a result, with a violation, or with a fault that
  one of the schemas it has entered causes by its rule `enum` or its rule `pattern`
  (`validate_ends`).  Nothing else can go wrong: indices are within reach, mappings of declarations
  do not change while they are gone over, and every rule looks at what it is given before it uses it.

  The condition that checks keep is that all nodes at hand belong to the schemas in use: the one
  handed in, and those that mappings of the instance carry, which count only where defaults are not
  written, so that the instance and the schemas in it stay as they are.

  A fault need not come of reading a pattern.  One that reads well can still fail when it is looked
  for in a text (`search_faults`).

  All this is about calls that have the frames they need.  On a stack of limited size a call may also
  be broken off: see `Proofs.Stack`.
-/
import Conformance.Proofs.Invariants

namespace Conformance

/-! ## Schemas in use -/

namespace Value

/-- A value is inside another one, at any depth, or is that value. -/
inductive Inside (x : Value) : Value → Prop
  | self : Inside x x
  | part {y v : Value} (h : y ∈ v.parts) (inner : Inside x y) : Inside x v

/-- What is inside a part is inside the whole. -/
theorem Inside.trans {x y v : Value} (h : x.Inside y) (h' : y.Inside v) : x.Inside v := by
  induction h' with
  | self => exact h
  | part hpart _ ih => exact .part hpart ih

/-- A part of a value inside another one is inside it too. -/
theorem Inside.of_part {x y v : Value} (h : y.Inside v) (hx : x ∈ y.parts) : x.Inside v :=
  .trans (.part hx .self) h

/-- In a value without parts there is nothing else. -/
theorem Inside.eq_of_no_parts {x v : Value} (h : x.Inside v) (hv : v.parts = []) : x = v := by
  cases h with
  | self => rfl
  | part hpart _ =>
    rw [hv] at hpart
    cases hpart

/-- Without entries no rule is given. -/
theorem get?_of_no_entries {x : Value} (h : x.entries = []) (name : String) :
    x.get? name = none := by
  cases x with
  | map es =>
    obtain rfl : es = [] := h
    rfl
  | _ => rfl

/-- A schema without rules causes no fault. -/
theorem not_causes_of_no_entries {x : Value} (h : x.entries = []) {f : Fault} : ¬ x.Causes f := by
  have hnone (name : String) : x.get? name = none := get?_of_no_entries h name
  intro hcauses
  cases hcauses with
  | enumeration rule _ _ =>
    rw [hnone] at rule
    cases rule
  | reading rule _ _ =>
    rw [hnone] at rule
    cases rule
  | searching rule _ _ =>
    rw [hnone] at rule
    cases rule

/-- What a schema node can say in a call: nothing, or something inside the schema handed in, or
    inside one that a mapping of the instance carries. -/
inductive InUse (x schema inst : Value) : Prop
  | blank (h : x = .null ∨ x = .missing)
  | given (h : x.Inside schema)
  | carried {owner own : Value} (howner : owner.Inside inst)
    (hown : owner.get? "$schema" = some own) (h : x.Inside own)

/-- An instance without members carries no schemas. -/
theorem InUse.of_no_parts {x schema inst : Value} (h : x.InUse schema inst)
    (hinst : inst.parts = []) : (x = .null ∨ x = .missing) ∨ x.Inside schema := by
  cases h with
  | blank h => exact Or.inl h
  | given h => exact Or.inr h
  | carried howner hown _ =>
    obtain rfl := howner.eq_of_no_parts hinst
    have hpart := mem_parts_of_get? hown
    rw [hinst] at hpart
    cases hpart

/-- What is part of something in use is in use. -/
theorem InUse.of_part {schema inst x y : Value} (h : y.InUse schema inst) (hx : x ∈ y.parts) :
    x.InUse schema inst := by
  cases h with
  | blank h =>
    -- nothing and a missing schema have no parts
    rcases h with rfl | rfl
    · cases hx
    · cases hx
  | given h => exact .given (h.of_part hx)
  | carried howner hown h => exact .carried howner hown (h.of_part hx)

/-- A member of something inside an instance is inside it too, or there is none. -/
theorem inside_below {inst c : Value} (h : c = .missing ∨ c.Inside inst) (step : Step) :
    (c.slotBelow step).value = .missing ∨ (c.slotBelow step).value.Inside inst := by
  rw [slotBelow_value]
  -- a member is a part of its container, or it is missing
  rcases c.member_mem_parts step with hpart | hmissing
  · right
    rcases h with rfl | hinside
    · cases hpart
    · exact hinside.of_part hpart
  · exact Or.inl hmissing

/-- What a check of a whole instance starts from is inside the instance. -/
theorem inside_ofValue (v : Value) :
    (Slot.ofValue v).value = .missing ∨ (Slot.ofValue v).value.Inside v := by
  rw [Slot.value_ofValue]
  exact Or.inr .self

/-- A schema that an entry of something inside an instance carries is in use. -/
theorem inUse_of_entry {schema inst v own : Value} (h : v = .missing ∨ v.Inside inst) {key : Key}
    {es : List (Key × Value)} (he : entryAt? key v.entries = some (.map es))
    (ho : entryAt? (.name "$schema") es = some own) : own.InUse schema inst := by
  have hpart : map es ∈ v.parts := by
    cases v with
    | map entries => exact mem_of_entryAt? he
    | _ => cases he
  rcases h with rfl | hinside
  · cases hpart
  · exact .carried (hinside.of_part hpart) ho .self

end Value

/-- Looking up after a schema has been entered finds that one or what was found before. -/
theorem Registry.find?_insert_cases {r : Registry} {id ref : String} {n target : Node}
    (h : (r.insert id n).find? ref = some target) : r.find? ref = some target ∨ target = n := by
  unfold insert at h
  split at h
  · exact Or.inl h
  · unfold find? at h ⊢
    rw [List.lookup_append] at h
    -- the new entry stands behind the others, so it is found only where they have none
    cases hfind : r.entries.lookup ref with
    | some first =>
      rw [hfind] at h
      exact Or.inl h
    | none =>
      right
      rw [hfind] at h
      simp only [Option.none_or, List.lookup_cons, List.lookup_nil] at h
      split at h
      · cases h
        rfl
      · cases h

namespace Check

/-! ## The condition -/

/-- A schema node that does not change while a call lasts, and says what is in use. -/
def Steady (switch : Bool) (schema inst : Value) (k : Node) : Prop :=
  (k.InSchema ∨ switch = false) ∧ k.tree.InUse schema inst

/-- Every node at hand is steady.  Where defaults are not written, nothing changes at all, and the
    value at hand is inside the instance. -/
structure Settled (switch : Bool) (schema inst : Value) (s : Scope) (p : Progress) : Prop where
  interactive : s.interactive = switch
  reach : p.slot.InReach
  nothing_written : switch = false → p.writes = []
  inside : switch = false → p.slot.value = .missing ∨ p.slot.value.Inside inst
  registered : ∀ {ref target}, p.registry.find? ref = some target → Steady switch schema inst target

/-- A fault is caused by a schema that has been entered, and that is in use. -/
def Traced (schema inst : Value) (f : Fault) (j : Journal) : Prop :=
  ∃ n trail depth, .entered n trail depth ∈ j ∧ n.tree.InUse schema inst ∧ n.tree.Causes f

/-- Checks keep the nodes at hand steady, and their faults can be traced. -/
def faultsTraced (switch : Bool) (schema inst : Value) : RunInvariant where
  known := Steady switch schema inst
  inv := Settled switch schema inst
  fails _ f p := ∀ g, f = .fault g → Traced schema inst g p.journal

variable {switch : Bool} {schema inst : Value} {k : Node} {s : Scope} {p : Progress}

/-- A steady node says what it said when it was reached. -/
theorem Steady.content (hk : Steady switch schema inst k) (h : switch = false → p.writes = []) :
    k.content p.writes = k.tree := by
  -- no default is ever written into a schema document, and without defaults nowhere
  rcases hk.1 with hschema | hswitch
  · exact hschema.content p.writes
  · rw [h hswitch]
    exact k.content_nil

/-- A fault that can be traced stays so when more is told. -/
theorem Traced.of_told {f : Fault} {j : Journal} (h : Traced schema inst f j) (e : Event) :
    Traced schema inst f (e :: j) := by
  obtain ⟨n, trail, depth, hmem, hrest⟩ := h
  exact ⟨n, trail, depth, List.mem_cons_of_mem e hmem, hrest⟩

/-- How deep a check is nested changes nothing about what is settled. -/
theorem Settled.deeper (h : Settled switch schema inst s p) :
    Settled switch schema inst s.deeper p :=
  ⟨h.interactive, h.reach, h.nothing_written, h.inside, h.registered⟩

/-- Events change nothing about what is settled. -/
theorem Settled.tell (h : Settled switch schema inst s p) (e : Event) :
    Settled switch schema inst s (p.tell e) :=
  ⟨h.interactive, h.reach, h.nothing_written, h.inside, h.registered⟩

/-- A steady schema may be registered. -/
theorem Settled.named (h : Settled switch schema inst s p) (hk : Steady switch schema inst k) :
    Settled switch schema inst s (p.named k) := by
  unfold Progress.named
  cases (k.content p.writes).rule? "id" with
  | none => exact h
  | some id =>
    refine ⟨h.interactive, h.reach, h.nothing_written, h.inside, ?_⟩
    intro ref target hfind
    rcases Registry.find?_insert_cases hfind with hold | hnew
    · exact h.registered hold
    · rw [hnew]
      exact hk

/-- A member of the value at hand is inside the instance too. -/
theorem Settled.child (h : Settled switch schema inst s p) {c : Value}
    (hc : p.slot = .present c) (step : Step) :
    Settled switch schema inst (s.child step) (p.at (c.slotBelow step)) := by
  refine ⟨h.interactive, Slot.inReach_slotBelow c step, h.nothing_written, ?_, h.registered⟩
  intro hswitch
  have hinside := h.inside hswitch
  rw [hc] at hinside
  exact Value.inside_below hinside step

/-- Where defaults are not written, a member is put back as it was. -/
theorem Settled.back (h : Settled switch schema inst s p) {c : Value} (hc : p.slot = .present c)
    {step : Step} {q : Progress} {ds : List Deposit}
    (hm : Moves (s.child step) (p.at (c.slotBelow step)) ds q)
    (hq : Settled switch schema inst (s.child step) q) :
    Settled switch schema inst s (q.at (.present (c.settle step q.slot))) := by
  refine ⟨h.interactive, trivial, hq.nothing_written, ?_, hq.registered⟩
  intro hswitch
  -- the member has come back as it was, as there was nothing to write
  have hslot : q.slot = c.slotBelow step := by
    apply hm.slot.eq_of_nil
    apply hm.eq_nil
    rw [← hswitch]
    exact h.interactive
  have hinside := h.inside hswitch
  rw [hc] at hinside
  show c.settle step q.slot = .missing ∨ (c.settle step q.slot).Inside inst
  rw [hslot, Value.settle_slotBelow]
  exact hinside

/-- A schema that an entry carries is in use where defaults are not written. -/
theorem Settled.carried (h : Settled switch schema inst s p) (hs : s.interactive = false)
    {key : Key} {es : List (Key × Value)} {own : Value}
    (he : Value.entryAt? key p.slot.value.entries = some (.map es))
    (ho : Value.entryAt? (.name "$schema") es = some own) (place : Place) :
    Steady switch schema inst ⟨place, own⟩ := by
  have hswitch : switch = false := by
    rw [← h.interactive]
    exact hs
  exact ⟨Or.inr hswitch, Value.inUse_of_entry (h.inside hswitch) he ho⟩

/-- Nothing is said of violations. -/
theorem faultsTraced_violation {switch : Bool} {schema inst : Value} {s : Scope} {p : Progress}
    {e : Violation} : (faultsTraced switch schema inst).fails s (.violation e) p := by
  intro f hf
  cases hf

/-- One step of a check leaves steady what is at hand, and causes no fault but those of rules. -/
theorem faultsTraced_preserved (switch : Bool) (schema inst : Value) :
    (faultsTraced switch schema inst).Preserved where
  part hk _ _ hv := ⟨hk.1, hk.2.of_part hv⟩
  blank hk _ _ hv := ⟨hk.1, .blank hv⟩
  content := by
    intro k hk s p h
    rw [hk.content h.nothing_written]
    exact hk
  found h _ _ hfind := h.registered hfind
  carried h hs _ _ _ he ho := h.carried hs he ho _
  note h e _ _ := h.tell e
  written := by
    intro s p h n σ v _ hm
    obtain ⟨hs, _, hinjection⟩ := of_missed_filled hm
    -- a default has been written, so they are, and what is said of the other case is void
    have hswitch : switch = true := by
      rw [← h.interactive]
      exact hs
    refine ⟨h.interactive, ?_, ?_, ?_, h.registered⟩
    · show σ.InReach
      generalize p.slot = τ at hinjection
      cases hinjection <;> trivial
    · intro hoff
      rw [hswitch] at hoff
      cases hoff
    · intro hoff
      rw [hswitch] at hoff
      cases hoff
  child h _ hc step := h.child hc step
  back h _ hc _ _ _ hm hq := h.back hc hm hq
  fails_back _ _ _ _ _ _ _ _ hf := hf
  enter hk _ _ h := (h.deeper.tell _).named hk
  leave h _ := ⟨h.interactive, h.reach, h.nothing_written, h.inside, h.registered⟩
  fails_leave hf r g hg := (hf g hg).of_told _
  fail _ _ _ _ := faultsTraced_violation
  failAt _ _ _ _ _ := faultsTraced_violation
  failKeyless _ _ _ _ := faultsTraced_violation
  failPlaceless _ _ _ := faultsTraced_violation
  tooDeep _ := faultsTraced_violation
  missing _ _ := faultsTraced_violation
  fault := by
    intro s p h n depth f hn hentered hcauses
    rw [hn.content h.nothing_written] at hcauses
    rintro _ ⟨⟩
    exact ⟨n, s.trail, depth, hentered, hn.2, hcauses⟩
  astray h hreach := absurd h.reach hreach
  changed := by
    intro k hk s p s' p' h h' hchanged
    rw [hk.content h.nothing_written, hk.content h'.nothing_written] at hchanged
    exact absurd rfl hchanged

end Check

namespace Validator

open Check

/-! ## Whole instances -/

/-- A schema that never changes is what a whole instance is checked against, and faults come of what
    is in use only. -/
theorem fault_traced {v : Validator} {inst schema : Node} (hregistry : v.registry = .empty)
    (hn : schema.InSchema) (hgiven : schema.tree.isGiven = true) {f : Fault}
    (hf : (v.validate inst schema).result = .error (.fault f)) :
    Traced schema.tree inst.tree f (v.validate inst schema).journal := by
  let K := faultsTraced v.interactive.isTruthy schema.tree inst.tree
  -- the schema of the root is the one handed in, as that is given
  have hknown (k : Node) (hk : rootSchema? inst schema = some k) : K.known k := by
    have hschema : rootSchema? inst schema = some schema := if_pos hgiven
    obtain rfl : schema = k := Option.some.inj (hschema.symm.trans hk)
    exact ⟨Or.inl hn, .given .self⟩
  have hstart : K.inv (v.rootScope inst) (v.start inst) := by
    refine ⟨rfl, Slot.inReach_ofValue inst.tree, fun _ => rfl, fun _ => inst.tree.inside_ofValue, ?_⟩
    intro ref target hfind
    -- the registry starts empty, so no reference leads out of the schemas in use
    have hnone : v.registry.find? ref = some target := hfind
    rw [hregistry] at hnone
    cases hnone
  have hends := rootCheck_ends (faultsTraced_preserved ..) v hknown hstart
  obtain ⟨n, trail, depth, hmem, hrest⟩ := hends.fails _ hf f rfl
  exact ⟨n, trail, depth, List.mem_reverse.mpr hmem, hrest⟩

/-! ## Reports -/

/-- A call that succeeds is reported without an error. -/
theorem check_of_ok {v : Validator} {inst schema : Node}
    (h : (v.validate inst schema).result = .ok ()) : (v.check inst schema).result =
      .ok ⟨(v.validate inst schema).slot.value, none,
        (v.validate inst schema).validator.applied⟩ := by
  unfold check
  dsimp only
  rw [h]

/-- A call that ends with a violation reports it. -/
theorem check_of_violation {v : Validator} {inst schema : Node} {e : Violation}
    (h : (v.validate inst schema).result = .error (.violation e)) : (v.check inst schema).result =
      .ok ⟨(v.validate inst schema).slot.value, some e,
        (v.validate inst schema).validator.applied⟩ := by
  unfold check
  dsimp only
  rw [h]

/-- A call of a fresh validator with a schema that never changes, if it is not broken off, ends with
    a result, with a violation, or with a fault that a schema in use, which the call has entered,
    causes by its rule `enum` or `pattern`.  So if no schema in use causes any, there is a report,
    and it tells of the violation that the call ends with or of none. -/
theorem validate_ends (settings : Settings) (switch : Value) (inst schema : Node)
    (hn : schema.InSchema) (hgiven : schema.tree.isGiven = true) :
    let v := Validator.new settings switch
    let o := v.validate inst schema
    (o.result = .ok () ∨ (∃ e, o.result = .error (.violation e)) ∨
        ∃ f, o.result = .error (.fault f) ∧ Traced schema.tree inst.tree f o.journal) ∧
      ((∀ x : Value, x.InUse schema.tree inst.tree → ∀ f, ¬ x.Causes f) →
        ∃ report, (v.check inst schema).result = .ok report ∧
          (report.error = none ↔ o.result = .ok ()) ∧
          ∀ e, report.error = some e ↔ o.result = .error (.violation e)) := by
  intro v o
  have htraced {f : Fault} (hf : o.result = .error (.fault f)) :
      Traced schema.tree inst.tree f o.journal := fault_traced rfl hn hgiven hf
  -- the ends of the call, and then the report, which there is unless the end is a fault
  constructor
  · cases hr : o.result with
    | ok _ => exact Or.inl rfl
    | error failure =>
      cases failure with
      | violation e => exact Or.inr (Or.inl ⟨e, rfl⟩)
      | fault f => exact Or.inr (Or.inr ⟨f, rfl, htraced hr⟩)
  · intro hnone
    cases hr : o.result with
    | ok _ => exact ⟨_, check_of_ok hr, by simp, by simp⟩
    | error failure =>
      cases failure with
      | violation e => exact ⟨_, check_of_violation hr, by simp, by simp⟩
      | fault f =>
        obtain ⟨n, _, _, _, huse, hcauses⟩ := htraced hr
        exact absurd hcauses (hnone n.tree huse f)

/-- A pattern with a group that may be left out of a repetition which is never taken back. -/
def groupOfOneLetter : String := "((x)|y|z)*+"

/-- A schema with that pattern. -/
def reversesGroup : Value := .map [(.name "pattern", .str groupOfOneLetter)]

/-- Three letters as an instance. -/
def lettersInstance : Node := ⟨⟨.instance 0, []⟩, .str "xyz"⟩

/-- A pattern that reads well can still fail when it is looked for: no rule `enum` is there, the
    pattern is read without any fault, and yet the call ends in one. -/
theorem search_faults :
    let o := (Validator.new .default .null).validate lettersInstance (.ofSchema 0 reversesGroup)
    o.result = .error (.fault .reversedGroup) ∧ reversesGroup.get? "enum" = none ∧
      reversesGroup.get? "pattern" = some (.str groupOfOneLetter) ∧
      (Pattern.read groupOfOneLetter).toOption.isSome = true := by
  decide +kernel

end Validator

end Conformance

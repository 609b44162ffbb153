/-
  Invariants of runs.

  A `RunInvariant` is a condition that every check keeps (`inv`), whether it succeeds or fails,
  together with what is said of its failure (`fails`) and of the schema nodes that it may meet
  (`known`).  `RunInvariant.Preserved` lists what has to be shown of one: it survives each of the
  few things that checks do, and each way in which a check can fail is as it says.  What a check
  knows of its surroundings when it fails is part of that list: that there is a value, that the
  value has the key it objects to, which schema causes a fault.

  Inside the rules of a schema a check `Preserves` an invariant where the schema has been entered
  and, if there is a value, that value has only grown since (`RulesBegun`).  Rules on single values
  only judge (`Judges`): they leave everything as it is.
-/
import Conformance.Proofs.Coupling
import Conformance.Proofs.Moves

namespace Conformance

/-! ## Faults that schemas cause -/

/-- The fault that comes of a pattern which cannot be read, other than for a defect in it. -/
def Pattern.Refusal.fault? : Pattern.Refusal → Option Fault
  | .defect _ => none
  | .countTooLarge => some .countTooLarge
  | .tooManyDigits n => some (.tooManyDigits n)
  | .alphabetsClash => some .alphabetsClash
  | .behindTooFar => some .behindTooFar

/-- A schema causes a fault: it enumerates what cannot be enumerated, or it has a pattern that cannot
    be read, though it is no defect, or that cannot be searched for. -/
inductive Value.Causes (schema : Value) : Fault → Prop
  | enumeration {e : Value} (rule : schema.get? "enum" = some e) (given : e.isGiven = true)
    (none : Check.options? e = none) : Causes schema (.notIterable e.className)
  | reading {source : String} {refusal : Pattern.Refusal} {f : Fault}
    (rule : schema.get? "pattern" = some (.str source))
    (refused : Pattern.read source = .error refusal) (fault : refusal.fault? = some f) :
    Causes schema f
  | searching {source text : String} {compiled : Pattern.Compiled}
    (rule : schema.get? "pattern" = some (.str source))
    (read : Pattern.read source = .ok compiled)
    (found : compiled.search text = .reversedGroup) : Causes schema .reversedGroup

/-- Values with members. -/
def Value.IsContainer (v : Value) : Prop := v.isMap = true ∨ v.elements?.isSome = true

/-- Values of the same class have members in both cases or in neither. -/
theorem Value.isContainer_of_class? {a b : Value} (h : b.class? = a.class?) (ha : a.IsContainer) :
    b.IsContainer := by
  unfold IsContainer at ha ⊢
  -- the class tells which constructors these are
  cases a <;> cases b <;> first | exact ha | cases h

/-- The two causes that are about the shape of an object and its declarations, and about no key. -/
def Cause.IsShape : Cause → Prop
  | .notAnObject _ => True
  | .propertiesNotObject => True
  | _ => False

/-- The causes that are about an entry of an object, whatever it holds. -/
def Cause.IsOfEntry : Cause → Prop
  | .additionalProperty _ => True
  | .undeclaredProperty => True
  | .requirementUnmet _ => True
  | .badRequires _ => True
  | _ => False

/-- Progress once a schema has been registered under its id, if it has one. -/
def Progress.named (p : Progress) (n : Node) : Progress :=
  match (n.content p.writes).rule? "id" with
  | some id =>
    { p with
      registry := p.registry.insert id.text n
      journal := p.registry.news id.text n ++ p.journal }
  | none => p

namespace Check

/-! ## Invariants -/

/-- A condition that checks keep, and what is said of their failures. -/
structure RunInvariant where
  /-- What is known of the schema nodes that checks meet. -/
  known : Node → Prop
  /-- What holds before a check and after it, however it ends. -/
  inv : Scope → Progress → Prop
  /-- What is said of a check that ends in a failure. -/
  fails : Scope → Failure → Progress → Prop

/-- An invariant that checks keep. -/
structure RunInvariant.Preserved (K : RunInvariant) : Prop where
  part : ∀ {k}, K.known k → ∀ (step : Step) {v : Value}, v ∈ k.tree.parts → K.known (k.down step v)
  blank : ∀ {k}, K.known k → ∀ (step : Step) {v : Value}, v = .null ∨ v = .missing →
    K.known (k.down step v)
  content : ∀ {k}, K.known k → ∀ {s p}, K.inv s p → K.known ⟨k.origin, k.content p.writes⟩
  found : ∀ {s p}, K.inv s p → ∀ {ref target}, p.registry.find? ref = some target →
    K.known target
  /-- A schema that an entry carries itself is known where it is enforced. -/
  carried : ∀ {s p}, K.inv s p → s.interactive = false → ∀ {key es own},
    Value.entryAt? key p.slot.value.entries = some (.map es) →
      Value.entryAt? (.name "$schema") es = some own →
        K.known ⟨(s.child (.entry key)).place.down (.name "$schema"), own⟩
  note : ∀ {s p}, K.inv s p → ∀ e : Event, e.frames = false → e.deposit? = none →
    K.inv s (p.tell e)
  written : ∀ {s p}, K.inv s p → ∀ {n σ v}, K.known n →
    missed (n.content p.writes) s p.slot = .filled σ v → K.inv s (written σ v s p).2
  child : ∀ {s p}, K.inv s p → ∀ {c}, p.slot = .present c → ∀ step,
    K.inv (s.child step) (p.at (c.slotBelow step))
  back : ∀ {s p}, K.inv s p → ∀ {c}, p.slot = .present c → ∀ {step q ds},
    Moves (s.child step) (p.at (c.slotBelow step)) ds q → K.inv (s.child step) q →
      K.inv s (q.at (.present (c.settle step q.slot)))
  fails_back : ∀ {s p}, K.inv s p → ∀ {c}, p.slot = .present c → c.IsContainer → ∀ {step q},
    Slot.Below c step q.slot → ∀ {f}, K.fails (s.child step) f q →
      K.fails s f (q.at (.present (c.settle step q.slot)))
  enter : ∀ {k}, K.known k → ∀ {s p}, K.inv s p →
    K.inv s.deeper ((p.tell (.entered k s.trail s.deeper.depth)).named k)
  leave : ∀ {k s q}, K.inv s.deeper q → ∀ r, K.inv s (q.tell (.left k r))
  fails_leave : ∀ {k s f q}, K.fails s.deeper f q → ∀ r, K.fails s f (q.tell (.left k r))
  -- how checks fail
  fail : ∀ {s p}, K.inv s p → p.slot.value ≠ .missing → ∀ {cause : Cause},
    cause.kind ≠ .unsupportedType → K.fails s (.violation ⟨cause, s.key, some s.trail⟩) p
  failAt : ∀ {s p}, K.inv s p → ∀ {key}, key ∈ p.slot.value.keys → ∀ {cause : Cause},
    cause.IsOfEntry → K.fails s (.violation ⟨cause, key.value, some (s.trail ++ [.entry key])⟩) p
  failKeyless : ∀ {s p}, K.inv s p → p.slot.value ≠ .missing → ∀ {cause : Cause}, cause.IsShape →
    K.fails s (.violation ⟨cause, .null, some s.trail⟩) p
  failPlaceless : ∀ {s p}, K.inv s p → p.slot.value ≠ .missing → ∀ name,
    K.fails s (.violation ⟨.unsupportedType name, s.key, none⟩) p
  tooDeep : ∀ {s p}, K.inv s p → K.fails s (.violation ⟨.tooDeep s.limit, s.key, some s.trail⟩) p
  missing : ∀ {s p}, K.inv s p → p.slot.value = .missing →
    K.fails s (.violation ⟨.missing, s.key, some s.trail⟩) p
  fault : ∀ {s p}, K.inv s p → ∀ {n depth f}, K.known n → .entered n s.trail depth ∈ p.journal →
    (n.content p.writes).Causes f → K.fails s (.fault f) p
  astray : ∀ {s p}, K.inv s p → ¬ p.slot.InReach → ∀ f, K.fails s (.fault f) p
  changed : ∀ {k}, K.known k → ∀ {s p s' p'}, K.inv s p → K.inv s' p' →
    k.content p'.writes ≠ k.content p.writes → K.fails s' (.fault .mappingChanged) p'

/-- What a node was once found to say. -/
def RunInvariant.Reads (K : RunInvariant) (k : Node) (a : Value) : Prop :=
  ∃ s p, K.inv s p ∧ k.content p.writes = a

/-- Nodes that are the same and known. -/
def RunInvariant.alike (K : RunInvariant) (k l : Node) : Prop := l = k ∧ K.known k

/-- Known nodes may stand for themselves, because their parts are known. -/
theorem RunInvariant.Preserved.likeness {K : RunInvariant} (hK : K.Preserved) :
    Likeness K.alike where
  tree_eq := by
    rintro k _ ⟨rfl, _⟩
    rfl
  part := by
    rintro k _ ⟨rfl, hk⟩ step v hv
    exact ⟨rfl, hK.part hk step hv⟩
  blank := by
    rintro k _ ⟨rfl, hk⟩ step v hv
    exact ⟨rfl, hK.blank hk step hv⟩

/-- What comes of a check that keeps an invariant. -/
structure RunInvariant.Ends (K : RunInvariant) {α : Type} (s : Scope) (p : Progress)
    (x : Except Failure α × Progress) : Prop where
  inv : K.inv s x.2
  moves : ∃ ds, Moves s p ds x.2
  fails : ∀ f, x.1 = .error f → K.fails s f x.2

/-- Visits that keep an invariant wherever they start. -/
def RunInvariant.PreservedBy (K : RunInvariant) (visit : Node → Check Unit) : Prop :=
  ∀ k, K.known k → ∀ s p, K.inv s p → K.Ends s p (visit k s p)

/-- Where the rules of a schema stand: it has been entered for this place, and if there was a value
    to begin with, it is there still and has only grown. -/
structure RulesBegun (n : Node) (v? : Option Value) (s : Scope) (p : Progress) : Prop where
  entered : ∃ depth, .entered n s.trail depth ∈ p.journal
  shown : ∀ v ∈ v?, v ≠ .missing ∧ ∃ w, p.slot = .present w ∧ v.keptIn w

/-- A check that keeps an invariant inside the rules of a schema, and what its results are. -/
def Preserves (K : RunInvariant) (n : Node) (v? : Option Value) {α : Type} (c : Check α)
    (Q : α → Prop) : Prop :=
  ∀ s p, K.inv s p → RulesBegun n v? s p →
    K.Ends s p (c s p) ∧ ∀ a, (c s p).1 = .ok a → Q a

/-! ## RulesBegun -/

namespace RulesBegun

variable {n : Node} {v? : Option Value} {v w : Value} {s : Scope} {p q : Progress}

/-- Moves change nothing about where rules stand. -/
theorem of_moves (h : RulesBegun n v? s p) {ds : List Deposit} (hm : Moves s p ds q) :
    RulesBegun n v? s q := by
  obtain ⟨depth, hentered⟩ := h.entered
  refine ⟨⟨depth, hm.mem_journal hentered⟩, fun v hv => ?_⟩
  obtain ⟨hv, w, hw, hkept⟩ := h.shown v hv
  -- moves only inject defaults below the value, which it has outgrown before
  have hslot := hm.slot
  rw [hw] at hslot
  obtain ⟨x, hx, hinjections⟩ := hslot.of_present
  exact ⟨hv, x, hx, Value.keptIn_trans hkept hinjections.keptIn⟩

/-- The value that is there now. -/
theorem present (h : RulesBegun n (some v) s p) :
    ∃ w, p.slot = .present w ∧ w ≠ .missing ∧ v.keptIn w := by
  obtain ⟨hv, w, hw, hkept⟩ := h.shown v rfl
  exact ⟨w, hw, Value.ne_missing_of_keptIn hkept hv, hkept⟩

/-- Inside the rules of a value that is there, none is missing. -/
theorem value_ne_missing (h : RulesBegun n (some v) s p) : p.slot.value ≠ .missing := by
  obtain ⟨w, hw, hne, _⟩ := h.present
  rw [hw]
  exact hne

end RulesBegun

/-- What comes through an attempt is how the check has ended. -/
theorem attempt_error {c : Check Unit} {s : Scope} {p : Progress} {f : Failure}
    (h : (attempt c s p).1 = .error f) : (c s p).1 = .error f := by
  unfold attempt at h
  -- what is caught is a violation of the data; everything else comes through as it was
  split at h
  · cases h
  · next hcr =>
    rw [hcr]
    split at h
    · cases h
    · cases h
      rfl
  · next hcr =>
    rw [hcr]
    cases h
    rfl

/-! ## Putting checks together -/

namespace Preserves

variable {K : RunInvariant} {n : Node} {v? : Option Value} {α β : Type} {Q : α → Prop}
    {R : β → Prop}

theorem of_still {c : Check α} (hc : ∀ s p, (c s p).2 = p)
    (h : ∀ s p, K.inv s p → RulesBegun n v? s p →
      (∀ f, (c s p).1 = .error f → K.fails s f p) ∧ ∀ a, (c s p).1 = .ok a → Q a) :
    Preserves K n v? c Q := by
  intro s p hinv hbegun
  obtain ⟨hfails, hresult⟩ := h s p hinv hbegun
  refine ⟨⟨?_, ?_, ?_⟩, hresult⟩
  · rw [hc]
    exact hinv
  · rw [hc]
    exact ⟨[], .start⟩
  · rw [hc]
    exact hfails

theorem pure {a : α} (h : Q a) : Preserves K n v? (Pure.pure a) Q :=
  .of_still (fun _ _ => rfl) fun _ _ _ _ => ⟨nofun, fun _ hb => by cases hb; exact h⟩

theorem skip : Preserves K n v? (Pure.pure () : Check Unit) fun _ => True := .pure trivial

/-- One check after the other: the second one starts where the rules still stand. -/
theorem bind {c : Check α} {f : α → Check β} (hc : Preserves K n v? c Q)
    (hf : ∀ a, Q a → Preserves K n v? (f a) R) : Preserves K n v? (c >>= f) R := by
  intro s p hinv hbegun
  obtain ⟨⟨hinv', ⟨ds, hm⟩, hfails⟩, hresult⟩ := hc s p hinv hbegun
  rw [bind_run]
  rcases hcr : c s p with ⟨r, q⟩
  rw [hcr] at hinv' hm hfails hresult
  cases r with
  | error e =>
    refine ⟨⟨hinv', ⟨ds, hm⟩, ?_⟩, nofun⟩
    rintro _ ⟨⟩
    exact hfails e rfl
  | ok a =>
    -- the first check has only moved on, so the rules still stand where they stood
    obtain ⟨hends, hresult'⟩ := hf a (hresult a rfl) s q hinv' (hbegun.of_moves hm)
    obtain ⟨es, hm'⟩ := hends.moves
    exact ⟨⟨hends.inv, ⟨ds ++ es, hm.trans hm'⟩, hends.fails⟩, hresult'⟩

theorem whenTrue {b : Bool} {c : Check Unit} (h : Preserves K n v? c fun _ => True) :
    Preserves K n v? (if b = true then c else Pure.pure ()) fun _ => True := by
  cases b
  · exact .skip
  · exact h

/-- The value that is there when it is read is the one the rules stand on from then on. -/
theorem value {v : Value} {f : Value → Check β}
    (h : ∀ w, v.keptIn w → Preserves K n (some w) (f w) R) :
    Preserves K n (some v) (Check.value >>= f) R := by
  intro s p hinv hbegun
  obtain ⟨w, hw, hne, hkept⟩ := hbegun.present
  have hhere : RulesBegun n (some w) s p := by
    refine ⟨hbegun.entered, ?_⟩
    rintro _ ⟨⟩
    exact ⟨hne, w, hw, Value.keptIn_refl w⟩
  rw [value_bind, hw]
  exact h w hkept s p hinv hhere

/-- Where a check is made may be asked at any time. -/
theorem scope {f : Scope → Check β} (h : ∀ s, Preserves K n v? (f s) R) :
    Preserves K n v? (Check.scope >>= f) R :=
  fun s p hinv hbegun => h s s p hinv hbegun

theorem each {c : α → Check Unit} {xs : List α}
    (h : ∀ x ∈ xs, Preserves K n v? (c x) fun _ => True) :
    Preserves K n v? (Check.each c xs) fun _ => True := by
  induction xs with
  | nil => exact .skip
  | cons x rest ih =>
    refine .bind (h x (List.mem_cons_self ..)) fun _ _ => ih fun y hy => ?_
    exact h y (List.mem_cons_of_mem _ hy)

/-- Which failure of an attempt comes through is no matter: what is caught keeps the invariant. -/
theorem attempt {c : Check Unit} (h : Preserves K n v? c fun _ => True) :
    Preserves K n v? (Check.attempt c) fun _ => True := by
  intro s p hinv hbegun
  obtain ⟨⟨hinv', hm, hfails⟩, _⟩ := h s p hinv hbegun
  refine ⟨⟨?_, ?_, ?_⟩, fun _ _ => trivial⟩
  · rwa [attempt_progress]
  · rwa [attempt_progress]
  · intro f hf
    rw [attempt_progress]
    exact hfails f (attempt_error hf)

theorem here {visit : Node → Check Unit} (hvisit : K.PreservedBy visit) {k : Node}
    (hk : K.known k) :
    Preserves K n v? (visit k) fun _ => True :=
  fun s p hinv _ => ⟨hvisit k hk s p hinv, fun _ _ => trivial⟩

variable (hK : K.Preserved)

include hK

/-- A remark that frames no check and tells of no default. -/
theorem note {e : Event} (hframes : e.frames = false) (hdeposit : e.deposit? = none) :
    Preserves K n v? (Check.note e) fun _ => True := by
  intro s p hinv _
  refine ⟨⟨hK.note hinv e hframes hdeposit, ⟨[], ?_⟩, nofun⟩, fun _ _ => trivial⟩
  exact .of_silent (.of_events rfl rfl [e] rfl (by simp [hdeposit]))

theorem member {visit : Node → Check Unit} (hvisit : K.PreservedBy visit) {k : Node}
    (hk : K.known k)
    {v : Value} (hv : v.IsContainer) (step : Step) :
    Preserves K n (some v) (Check.atChild step (visit k)) fun _ => True := by
  intro s p hinv hbegun
  obtain ⟨c, hc, _, hkept⟩ := hbegun.present
  obtain ⟨hinv', ⟨ds, hm⟩, hfails⟩ := hvisit k hk _ _ (hK.child hinv hc step)
  obtain ⟨hbelow, hmoves⟩ := hm.member rfl
  -- the value has the class that it had when its rules began
  have hcontainer := Value.isContainer_of_class? (Value.class?_of_keptIn hkept) hv
  unfold Check.atChild
  rw [hc]
  refine ⟨⟨hK.back hinv hc hm hinv', ⟨ds.map (Deposit.below step), ?_⟩, fun f hf => ?_⟩,
    fun _ _ => trivial⟩
  · rwa [show { p.at (c.slotBelow step) with slot := .present c } = p by rw [← hc]; rfl] at hmoves
  · exact hK.fails_back hinv hc hcontainer hbelow (hfails f hf)

/-! ## Reading schemas -/

/-- What a node says is known, as is the node itself. -/
theorem content {k : Node} (hk : K.known k) :
    Preserves K n v? (Check.content k) fun a => K.known ⟨k.origin, a⟩ ∧ K.Reads k a := by
  refine .of_still (fun _ _ => rfl) fun s p hinv _ => ⟨nofun, ?_⟩
  rintro _ ⟨⟩
  exact ⟨hK.content hk hinv, s, p, hinv, rfl⟩

/-- What stands under a name of a known node is known. -/
theorem field? {k : Node} (hk : K.known k) (name : String) :
    Preserves K n v? (Check.field? k name) fun a => ∀ r ∈ a, K.known (k.down (.name name) r) := by
  rw [Parallel.field?_eq]
  refine .bind (.content hK hk) fun a ⟨ha, _⟩ => .pure fun r hr => ?_
  exact hK.part ha (.name name) (Value.mem_parts_of_get? hr)

theorem element {k : Node} (hk : K.known k) (i : Nat) :
    Preserves K n v? (Check.element k i) K.known := by
  rw [Parallel.element_eq]
  refine .bind (.content hK hk) fun a ⟨ha, _⟩ => .pure ?_
  rcases a.member_mem_parts (.index i) with hpart | hmissing
  · exact hK.part ha (.index i) hpart
  · exact hK.blank ha (.index i) (Or.inr hmissing)

theorem given? {k : Node} (hk : K.known k) (name : String) :
    Preserves K n v? (Check.given? k name) fun r? => ∀ r ∈ r?, K.known r := by
  refine .bind (.field? hK hk name) fun a ha => ?_
  cases a with
  | none => exact .pure nofun
  | some v =>
    dsimp only
    refine .pure fun r hr => ?_
    -- a rule that does not count as given is none
    cases hg : v.isGiven with
    | true =>
      rw [hg] at hr
      cases hr
      exact ha v rfl
    | false =>
      rw [hg] at hr
      cases hr

/-- A rule that is given is checked as a known node. -/
theorem whenGiven {k : Node} (hk : K.known k) (name : String) {rule : Node → Check Unit}
    (h : ∀ r, K.known r → Preserves K n v? (rule r) fun _ => True) :
    Preserves K n v? (Check.whenGiven k name rule) fun _ => True := by
  refine .bind (.given? hK hk name) fun a ha => ?_
  cases a with
  | none => exact .skip
  | some r => exact h r (ha r rfl)

/-! ## Failing -/

theorem fail {v : Value} {cause : Cause} (hc : cause.kind ≠ .unsupportedType) :
    Preserves K n (some v) (Check.fail cause : Check α) Q := by
  refine .of_still (fun _ _ => rfl) fun s p hinv hbegun => ⟨?_, nofun⟩
  rintro _ ⟨⟩
  exact hK.fail hinv hbegun.value_ne_missing hc

/-- An objection to an entry, whose key the value has had since its rules began. -/
theorem failAt {v : Value} {key : Key} (hkey : key ∈ v.keys) {cause : Cause}
    (hc : cause.IsOfEntry) :
    Preserves K n (some v) (Check.failAt key cause : Check α) Q := by
  refine .of_still (fun _ _ => rfl) fun s p hinv hbegun => ⟨?_, nofun⟩
  rintro _ ⟨⟩
  obtain ⟨w, hw, _, hkept⟩ := hbegun.present
  -- keys are never taken away, so the value at hand still has this one
  have hhere : key ∈ p.slot.value.keys := by
    rw [hw]
    exact Value.mem_keys_of_keptIn hkept hkey
  exact hK.failAt hinv hhere hc

theorem failKeyless {v : Value} {cause : Cause} (hc : cause.IsShape) :
    Preserves K n (some v) (Check.failKeyless cause : Check α) Q := by
  refine .of_still (fun _ _ => rfl) fun s p hinv hbegun => ⟨?_, nofun⟩
  rintro _ ⟨⟩
  exact hK.failKeyless hinv hbegun.value_ne_missing hc

theorem failPlaceless {v : Value} (name : String) :
    Preserves K n (some v) (Check.failPlaceless (.unsupportedType name) : Check α) Q := by
  refine .of_still (fun _ _ => rfl) fun s p hinv hbegun => ⟨?_, nofun⟩
  rintro _ ⟨⟩
  exact hK.failPlaceless hinv hbegun.value_ne_missing name

end Preserves

/-! ## Looking at single values -/

/-- What comes of looking at a value: all is well, or the value is objected to, or the schema causes
    a fault. -/
inductive Judgement (n : Node) (s : Scope) (p : Progress) {α : Type} :
    Except Failure α × Progress → Prop
  | passes (a : α) : Judgement n s p (.ok a, p)
  | objects {cause : Cause} (h : cause.kind ≠ .unsupportedType ∧ cause.kind ≠ .recursionLimit) :
    Judgement n s p (.error (.violation ⟨cause, s.key, some s.trail⟩), p)
  | faults {f : Fault} (h : (n.content p.writes).Causes f) : Judgement n s p (.error (.fault f), p)

/-- A check by the rules of a schema that only looks. -/
def Judges (n : Node) {α : Type} (c : Check α) : Prop := ∀ s p, Judgement n s p (c s p)

namespace Judges

variable {n : Node} {α β : Type}

theorem pure (a : α) : Judges n (Pure.pure a) := fun _ _ => .passes a

/-- One look after another, as long as all is well. -/
theorem bind {c : Check α} {f : α → Check β} (hc : Judges n c) (hf : ∀ a, Judges n (f a)) :
    Judges n (c >>= f) := by
  intro s p
  have hfirst := hc s p
  rw [bind_run]
  generalize c s p = x at hfirst ⊢
  cases hfirst with
  | passes a => exact hf a s p
  | objects h => exact .objects h
  | faults h => exact .faults h

/-- An objection that is neither about an unknown type nor about depth. -/
theorem fail {cause : Cause} (h : cause.kind ≠ .unsupportedType ∧ cause.kind ≠ .recursionLimit) :
    Judges n (Check.fail cause : Check α) := fun _ _ => .objects h

theorem ite {b : Prop} [Decidable b] {c d : Check α} (hc : Judges n c) (hd : Judges n d) :
    Judges n (if b then c else d) := by
  split
  · exact hc
  · exact hd

theorem value : Judges n Check.value := fun _ _ => .passes _

theorem field? (name : String) : Judges n (Check.field? n name) := fun _ _ => .passes _

theorem field (name : String) : Judges n (Check.field n name) := fun _ _ => .passes _

theorem unlessNull (v : Value) {rule : Value → Check Unit} (h : ∀ w, Judges n (rule w)) :
    Judges n (Check.unlessNull v rule) := by
  cases v with
  | null => exact .pure ()
  | _ => exact h _

/-- A bound that is no number is a defect of the schema, and otherwise it is judged by. -/
theorem withBound (name : String) {rule : Number → Value → Check Unit}
    (h : ∀ bound v, Judges n (rule bound v)) : Judges n (Check.withBound n name rule) := by
  refine .bind (.field name) fun v => .unlessNull v fun w => ?_
  cases w.number? with
  | some bound => exact h bound w
  | none => exact .fail (by simp [Cause.kind])

/-- A check that only judges keeps every invariant. -/
theorem preserves {K : RunInvariant} (hK : K.Preserved) (hn : K.known n) {v : Value}
    {c : Check Unit}
    (h : Judges n c) : Preserves K n (some v) c fun _ => True := by
  intro s p hinv hbegun
  have hjudgement := h s p
  generalize c s p = x at hjudgement ⊢
  cases hjudgement with
  | passes _ => exact ⟨⟨hinv, ⟨[], .start⟩, nofun⟩, fun _ _ => trivial⟩
  | objects hc =>
    refine ⟨⟨hinv, ⟨[], .start⟩, ?_⟩, nofun⟩
    rintro _ ⟨⟩
    exact hK.fail hinv hbegun.value_ne_missing hc.1
  | faults hc =>
    refine ⟨⟨hinv, ⟨[], .start⟩, ?_⟩, nofun⟩
    rintro _ ⟨⟩
    -- the schema to blame for a fault is the one whose rules stand here
    obtain ⟨depth, hentered⟩ := hbegun.entered
    exact hK.fault hinv hn hentered hc

/-! ## Rules on single values -/

/-- A count of elements only looks, -/
theorem itemCounts (n : Node) : Judges n (Check.itemCounts n) := by
  refine .bind (.withBound _ fun bound v => ?_) fun _ => .withBound _ fun bound v => ?_
  · exact .bind .value fun _ => .ite (.fail (by simp [Cause.kind])) (.pure ())
  · exact .bind .value fun _ => .ite (.fail (by simp [Cause.kind])) (.pure ())

/-- and so does one of characters. -/
theorem textLengths (n : Node) (text : String) : Judges n (Check.textLengths n text) := by
  refine .bind (.withBound _ fun bound v => ?_) fun _ => .withBound _ fun bound v => ?_
  · exact .ite (.fail (by simp [Cause.kind])) (.pure ())
  · exact .ite (.fail (by simp [Cause.kind])) (.pure ())

/-- A pattern that is looked for matches or not, or else the schema causes a fault by it. -/
theorem patternRule (n : Node) (text : String) : Judges n (Check.patternRule n text) := by
  intro s p
  unfold Check.patternRule
  rw [Parallel.field_eq, bind_assoc, content_bind, pure_bind]
  cases hr : (n.content p.writes).get? "pattern" with
  | none => exact .passes ()
  | some r =>
    rw [Option.getD_some]
    cases r with
    | null => exact .passes ()
    | str source =>
      dsimp only [Check.unlessNull]
      -- each way of failing here is one that the schema causes, defects apart
      cases hread : Pattern.read source with
      | ok compiled =>
        dsimp only
        cases hsearch : compiled.search text with
        | something => exact .passes ()
        | nothing => exact .objects (by simp [Cause.kind])
        | reversedGroup => exact .faults (.searching hr hread hsearch)
      | error refusal =>
        cases refusal with
        | defect d => exact .objects (by simp [Cause.kind])
        | _ => exact .faults (.reading hr hread rfl)
    | _ => exact .objects (by simp [Cause.kind])

/-- Whether a bound may be reached is read off the schema. -/
theorem boundAllowed (n : Node) (name : String) : Judges n (Check.boundAllowed n name) := by
  refine .bind (.field? name) fun v => ?_
  cases v <;> exact .pure _

/-- Digits after the point are counted and compared. -/
theorem decimalRule (n : Node) (x : Number) : Judges n (Check.decimalRule n x) := by
  refine .bind (.field _) fun limit => ?_
  split
  · exact .ite (.fail (by simp [Cause.kind])) (.pure ())
  · exact .pure ()

/-- Numbers are compared with their bounds. -/
theorem numberRules (n : Node) (x : Number) : Judges n (Check.numberRules n x) := by
  refine .bind (.withBound _ fun bound v => ?_) fun _ => ?_
  · refine .bind (.boundAllowed n _) fun allowed => ?_
    exact .ite (.fail (by simp [Cause.kind])) (.pure ())
  refine .bind (.withBound _ fun bound v => ?_) fun _ => ?_
  · refine .bind (.boundAllowed n _) fun allowed => ?_
    exact .ite (.fail (by simp [Cause.kind])) (.pure ())
  · exact .decimalRule n x

/-- Texts and numbers have rules of their own, other values have none. -/
theorem scalarRules (n : Node) (v : Value) : Judges n (Check.scalarRules n v) := by
  unfold Check.scalarRules
  split
  · exact .bind (.patternRule n _) fun _ => .textLengths n _
  · split
    · exact .numberRules n _
    · exact .pure ()

/-- A value is one of those enumerated or not, or else there is nothing to enumerate. -/
theorem enumRule (n : Node) : Judges n (Check.enumRule n) := by
  intro s p
  unfold Check.enumRule
  rw [field?_bind]
  cases hr : (n.content p.writes).get? "enum" with
  | none => exact .passes ()
  | some e =>
    dsimp only
    cases hgiven : e.isGiven with
    | false => exact .passes ()
    | true =>
      rw [if_pos rfl]
      cases hoptions : options? e with
      | none => exact .faults (.enumeration hr hgiven hoptions)
      | some options =>
        dsimp only
        rw [value_bind]
        split
        · exact .passes ()
        · exact .objects (by simp [Cause.kind])

/-- A label is a text, or the schema is objected to. -/
theorem labelRule (n : Node) (label : String) : Judges n (Check.labelRule n label) := by
  refine .bind (.field label) fun v => .unlessNull v fun w => ?_
  split
  · exact .pure ()
  · exact .bind .value fun _ => .fail (by simp [Cause.kind])

/-- The last rules of a schema only look at the value. -/
theorem closingRules (n : Node) : Judges n (Check.closingRules n) := by
  refine .bind (.enumRule n) fun _ => ?_
  refine .bind (.labelRule n _) fun _ => ?_
  exact .labelRule n _

end Judges

end Check

end Conformance

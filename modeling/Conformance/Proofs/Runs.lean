/-
  What single rules come to.

  A run that succeeds splits at every step of the check (`bind_ok`), and some rules come to
  something that can be written down at once: whether a missing value is an error, which default is
  written for it, and what is left of the rules on references and on carried schemas where these do
  not apply. A schema document never changes, so its nodes say what they said when they were
  reached.
-/
import Conformance.Proofs.Acceptance
import Conformance.Proofs.Injection

namespace Conformance

/-- A node in a schema document, which never changes. -/
def Node.InSchema (n : Node) : Prop := ∃ i, n.origin.document = .schema i

/-- A schema document says what it said at first. -/
theorem Node.InSchema.content {n : Node} (h : n.InSchema) (writes : List Write) :
    n.content writes = n.tree := by
  obtain ⟨i, hi⟩ := h
  exact Node.content_schema hi writes

namespace Check

/-- A run that succeeds has succeeded in both parts. -/
theorem bind_ok {α β : Type} {c : Check α} {f : α → Check β} {s : Scope} {p r : Progress} {b : β}
    (h : (c >>= f) s p = (.ok b, r)) :
    ∃ a q, c s p = (.ok a, q) ∧ f a s q = (.ok b, r) := by
  rw [bind_run] at h
  rcases hc : c s p with ⟨e, q⟩
  rw [hc] at h
  cases e with
  | error e => cases h
  | ok a => exact ⟨a, q, rfl, h⟩

/-- A nested check that succeeds inside succeeds, and tells of its end. -/
theorem nested_run_ok {c : Check Unit} {n : Node} {s : Scope} {p r : Progress}
    (h : c { s with depth := s.depth + 1 }
      { p with journal := .entered n s.trail (s.depth + 1) :: p.journal } = (.ok (), r)) :
    nested n c s p = (.ok (), { r with journal := .left n (.ok ()) :: r.journal }) := by
  unfold nested
  rw [h]

/-- A nested check that succeeds is the check itself between its beginning and its end. -/
theorem nested_ok {c : Check Unit} {n : Node} {s : Scope} {p q : Progress}
    (h : nested n c s p = (.ok (), q)) :
    ∃ r, c { s with depth := s.depth + 1 }
        { p with journal := .entered n s.trail (s.depth + 1) :: p.journal } = (.ok (), r) ∧
      q = { r with journal := .left n (.ok ()) :: r.journal } := by
  unfold nested at h
  rcases hc : c { s with depth := s.depth + 1 }
    { p with journal := .entered n s.trail (s.depth + 1) :: p.journal } with ⟨e, r⟩
  rw [hc] at h
  cases h
  exact ⟨r, rfl, rfl⟩

/-- A check of a member that succeeds is one of what the container holds there, put back. -/
theorem atChild_ok {α : Type} {c : Check α} {step : Step} {s : Scope} {p q : Progress} {a : α}
    {container : Value} (hp : p.slot = .present container)
    (h : atChild step c s p = (.ok a, q)) :
    ∃ r, c (s.child step) { p with slot := container.slotBelow step } = (.ok a, r) ∧
      q = { r with slot := .present (container.settle step r.slot) } := by
  unfold atChild at h
  rw [hp] at h
  rcases hc : c (s.child step) { p with slot := container.slotBelow step } with ⟨e, r⟩
  dsimp only at h
  rw [hc] at h
  cases h
  exact ⟨r, rfl, rfl⟩

variable {n : Node} {s : Scope} {p : Progress}

/-! ## Rules -/

/-- A schema that says what it said when it was reached gives the rules that it gave then. -/
theorem given?_run_of_content {p : Progress} (hn : n.content p.writes = n.tree) (name : String)
    (s : Scope) :
    given? n name s p = (.ok ((n.tree.rule? name).map (n.down (.name name))), p) := by
  unfold given?
  rw [field?_bind, hn, Value.rule?]
  cases n.tree.get? name with
  | none => rfl
  | some r =>
    rw [Option.filter_some]
    dsimp only
    cases r.isGiven <;> rfl

/-- So a check of one of its rules is the check of what it gave then, or is skipped. -/
theorem whenGiven_run_of_content {p : Progress} (hn : n.content p.writes = n.tree) (name : String)
    (rule : Node → Check Unit) (s : Scope) :
    whenGiven n name rule s p = match n.tree.rule? name with
      | some r => rule (n.down (.name name) r) s p
      | none => (.ok (), p) := by
  unfold whenGiven
  rw [bind_run_ok (given?_run_of_content hn name s)]
  cases n.tree.rule? name <;> rfl

/-- So does a schema document, -/
theorem given?_run (hn : n.InSchema) (name : String) (s : Scope) (p : Progress) :
    given? n name s p = (.ok ((n.tree.rule? name).map (n.down (.name name))), p) :=
  given?_run_of_content (hn.content p.writes) name s

/-- and so does a check of one of its rules. -/
theorem whenGiven_run (hn : n.InSchema) (name : String) (rule : Node → Check Unit) (s : Scope)
    (p : Progress) : whenGiven n name rule s p = match n.tree.rule? name with
      | some r => rule (n.down (.name name) r) s p
      | none => (.ok (), p) :=
  whenGiven_run_of_content (hn.content p.writes) name rule s

/-- What becomes of a missing value. -/
inductive Missed where
  | fails (f : Failure)
  | passes
  | remarks (e : Event)
  | filled (slot : Slot) (value : Value)

/-- What becomes of a missing value where a schema says so much: it may be an error that it is
    missing, and it may be filled in. -/
def missed (schema : Value) (s : Scope) (slot : Slot) : Missed :=
  if schema.get? "required" = some (.bool true) then
    .fails (.violation ⟨.missing, s.key, some s.trail⟩)
  else if s.interactive = false then .passes
  else
    match slot, offer? schema with
    | .unaskable className, _ => .fails (.fault (.unhashable className))
    | _, none => .passes
    | .free, some v => .filled (.filled v) v
    | .fromEnd _, some v => .filled (.fromEnd (some v)) v
    | .outOfReach index length, some _ => .fails (.fault (.ofIndex index length))
    | .closed className, some _ => .remarks (.notWritable s.trail className)
    | _, some _ => .passes

/-- The check that does what becomes of a missing value. -/
def Missed.check : Missed → Check Unit
  | .fails f => stop f
  | .passes => pure ()
  | .remarks e => note e
  | .filled slot v => written slot v

/-- What the rule `required` comes to, for a missing value. -/
theorem requiredRule_run (n : Node) (s : Scope) (p : Progress) :
    requiredRule n s p = if (n.content p.writes).get? "required" = some (.bool true) then
      (.error (.violation ⟨.missing, s.key, some s.trail⟩), p) else (.ok (), p) := by
  unfold requiredRule
  rw [field?_bind]
  by_cases hr : (n.content p.writes).get? "required" = some (.bool true)
  · rw [if_pos hr, hr]
    rfl
  · rw [if_neg hr]
    revert hr
    -- only true itself requires, and neither a number nor a text does
    cases (n.content p.writes).get? "required" with
    | none => exact fun _ => rfl
    | some w =>
      cases w with
      | bool b =>
        cases b with
        | false => exact fun _ => rfl
        | true => exact fun hr => absurd rfl hr
      | _ => exact fun _ => rfl

/-- What the rules for a missing value come to. -/
theorem missingRules_run (n : Node) (s : Scope) (p : Progress) :
    missingRules n s p = (missed (n.content p.writes) s p.slot).check s p := by
  obtain ⟨slot, registry, writes, journal⟩ := p
  unfold missingRules missed
  rw [bind_run, requiredRule_run]
  by_cases hr : (n.content writes).get? "required" = some (.bool true)
  · rw [if_pos hr, if_pos hr]
    rfl
  · rw [if_neg hr, if_neg hr]
    dsimp only
    unfold defaultRule
    rw [scope_bind]
    cases s.interactive with
    | false => rfl
    | true =>
      rw [if_pos rfl, if_neg (by simp)]
      -- whether a key is there cannot be asked of every container
      cases slot with
      | unaskable _ => rfl
      | _ =>
        rw [bind_run_ok rfl, content_bind]
        cases offer? (n.content writes) <;> rfl

/-- Only the key, the path and the switch matter to a missing value. -/
theorem missed_congr {s s' : Scope} (hkey : s.key = s'.key) (htrail : s.trail = s'.trail)
    (hinteractive : s.interactive = s'.interactive) (schema : Value) (slot : Slot) :
    missed schema s slot = missed schema s' slot := by
  unfold missed
  rw [hkey, htrail, hinteractive]

/-- A missing value is filled in where defaults are written and the schema offers the one. -/
theorem of_missed_filled {schema : Value} {s : Scope} {slot σ : Slot} {v : Value}
    (h : missed schema s slot = .filled σ v) :
    s.interactive = true ∧ offer? schema = some v ∧ slot.Injection ⟨[], v⟩ σ := by
  unfold missed at h
  split at h
  · cases h
  · split at h
    · cases h
    · next hi =>
      have hinteractive : s.interactive = true := by simpa using hi
      -- two kinds of slots take a default: a free one, and one that counts from the end
      split at h <;> cases h
      · next ho => exact ⟨hinteractive, ho, .fill v⟩
      · next old ho => exact ⟨hinteractive, ho, .onTop old v⟩

/-- A schema without a text under `$ref` follows no reference. -/
theorem refRule_run {visit : Node → Check Unit}
    (h : ∀ t, (n.content p.writes).get? "$ref" ≠ some (.str t)) :
    refRule visit n s p = (.ok (), p) := by
  unfold refRule
  rw [field?_bind]
  cases hr : (n.content p.writes).get? "$ref" with
  | none => rfl
  | some r =>
    cases r with
    | str t => exact absurd hr (h t)
    | _ => rfl

/-- A schema that names no other follows no reference. -/
theorem refRule_eq {n : Node} (hn : n.InSchema) (href : n.tree.refFree = true)
    (visit : Node → Check Unit) (s : Scope) (p : Progress) : refRule visit n s p = (.ok (), p) := by
  refine refRule_run ?_
  rw [hn.content]
  exact Value.get?_ref_of_refFree href

/-- Where defaults are written, the schemas that entries carry are not enforced. -/
theorem ownSchema_eq {visit : Node → Check Unit} {key : Key} {s : Scope} (hs : s.interactive = true)
    (p : Progress) : ownSchema visit key s p = (.ok (), p) := by
  unfold ownSchema
  rw [scope_bind, hs]
  rfl

/-! ## Depth -/

/-- What is no mapping asks for nothing. -/
theorem against_of_not_map {n : Node} {s : Scope} {p : Progress}
    (h : (n.content p.writes).isMap = false) (depth : Nat) : against depth n s p = (.ok (), p) := by
  cases depth <;>
    rw [against, content_bind, h] <;>
    rfl

/-- With no depth left a schema is not looked at. -/
theorem against_zero_of_map {n : Node} {s : Scope} {p : Progress}
    (h : (n.content p.writes).isMap = true) :
    against 0 n s p = (.error (.violation ⟨.tooDeep s.limit, s.key, some s.trail⟩), p) := by
  rw [against, content_bind, h]
  rfl

/-- One level takes one off the depth. -/
theorem against_succ_of_map {n : Node} {s : Scope} {p : Progress}
    (h : (n.content p.writes).isMap = true) (depth : Nat) :
    against (depth + 1) n s p = nested n (property (against depth) n) s p := by
  rw [against, content_bind, h]
  rfl

end Check

end Conformance

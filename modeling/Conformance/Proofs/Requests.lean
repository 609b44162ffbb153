/-
  Requests, and the errors that end them.

  A validator is asked to validate a whole instance, or to check the value under a key against a
  schema or a type expression, or an object against declarations.  Each request is the run of one
  check (`answer_eq`), so what is known of all checks is known of all requests.

  The main statement is about errors (`severe_errors_end_requests`).  Their classes fit their kinds,
  and an error that blames the schema or the nesting is never lost: wherever in the course of a
  request a check ends with one, in an alternative of a type, under a rule `disallow`, below any
  number of attempts, the request ends with that very error.
-/
import Conformance.Proofs.Naming
import Conformance.Proofs.Started

namespace Conformance

/-- What a validator can be asked. -/
inductive Request where
  | validate (inst schema : Node)
  | property (parent : Node) (key : Value) (handedIn : Option Node) (schema : Node)
  | object (inst declarations policy : Node)
  | type (parent : Node) (key : Value) (handedIn : Option Node) (expr : Node)

namespace Validator

open Check

variable (v : Validator)

/-- What comes of a request. -/
def answer : Request → Outcome Unit
  | .validate inst schema => v.validate inst schema
  | .property parent key handedIn schema => (v.checkProperty parent key handedIn schema).outcome
  | .object inst declarations policy => v.checkObject inst declarations policy
  | .type parent key handedIn expr => (v.checkType parent key handedIn expr).outcome

/-- The check that a request is the run of. -/
def checkOf : Request → Check Unit
  | .validate inst schema => v.rootCheck inst schema
  | .property _ _ _ schema => v.visit schema
  | .object _ declarations policy => Check.object v.visit declarations policy
  | .type _ _ _ expr => typeRule v.visit expr

/-- The key that a request is about. -/
def keyOf : Request → Value
  | .validate _ _ => rootKey
  | .property _ key _ _ => key
  | .object _ _ _ => .null
  | .type _ key _ _ => key

/-- The place of the value that a request is about. -/
def requestPlace : Request → Place
  | .validate inst _ => inst.origin
  | .property parent key handedIn _ => v.memberPlace parent key handedIn
  | .object inst _ _ => inst.origin
  | .type parent key handedIn _ => v.memberPlace parent key handedIn

/-- The slot that a request is about. -/
def slotFor : Request → Slot
  | .validate inst _ => .ofValue inst.tree
  | .property parent key handedIn _ => slotOf parent.tree key (handedIn.map (·.tree))
  | .object inst _ _ => .ofValue inst.tree
  | .type parent key handedIn _ => slotOf parent.tree key (handedIn.map (·.tree))

/-- The scope in which a request is met: no step has been taken and no check is nested. -/
def scopeOf (r : Request) : Scope :=
  ⟨keyOf r, [], v.requestPlace r, v.renewals, 0, v.interactive.isTruthy, v.settings.maxDepth⟩

/-- What a request starts from. -/
def startOf (r : Request) : Progress := ⟨slotFor r, v.registry, [], []⟩

/-- A request is the run of its check. -/
theorem answer_eq (r : Request) :
    (v.answer r).result = (v.checkOf r (v.scopeOf r) (v.startOf r)).1 ∧
      (v.answer r).journal = (v.checkOf r (v.scopeOf r) (v.startOf r)).2.journal.reverse := by
  cases r <;> exact ⟨rfl, rfl⟩

/-! ## What a request starts -/

/-- The check that a request runs has a complete journal. -/
theorem checkOf_journalComplete (r : Request) : JournalComplete Eq (v.checkOf r) := by
  have hvisit (k : Node) : JournalComplete Eq (v.visit k) :=
    against_journalComplete v.settings.maxDepth k
  cases r with
  | property parent key handedIn schema => exact hvisit schema
  | object inst declarations policy =>
    exact journalComplete_compositional.of_self hvisit
      (.object (P := ⟨Eq, _, _, blank, blank⟩) .eq (k := declarations) rfl (r := policy) rfl)
  | type parent key handedIn expr =>
    exact journalComplete_compositional.of_self hvisit
      (.typeRule (P := ⟨Eq, _, _, blank, blank⟩) .eq (k := expr) rfl)
  | validate inst schema =>
    cases h : rootSchema? inst schema with
    | some n =>
      show JournalComplete Eq (v.rootCheck inst schema)
      rw [rootCheck_of_some h]
      exact hvisit n
    | none =>
      obtain ⟨remarks, hremarks, hrun⟩ := rootCheck_of_none h
      refine .of_events (fun s p => ⟨remarks, congrArg (·.2.journal) (hrun v s p), ?_⟩)
        fun _ _ a _ => ⟨a, rfl⟩
      intro n result hm
      obtain ⟨kind, hk⟩ := hremarks _ hm
      cases hk

/-- Every end of a check against a schema that the journal of a request tells is the end of a check
    started in its course. -/
theorem started_of_left {r : Request} {n : Node} {result : Except Failure Unit}
    (h : .left n result ∈ (v.answer r).journal) :
    ∃ depth s p, Starts (against depth n) s p (v.checkOf r) (v.scopeOf r) (v.startOf r) ∧
      (against depth n s p).1 = result := by
  obtain ⟨⟨events, hj, hleft⟩, _⟩ := v.checkOf_journalComplete r (v.scopeOf r) (v.startOf r)
  rw [(v.answer_eq r).2, List.mem_reverse, hj] at h
  rcases List.mem_append.mp h with h | h
  · exact hleft n result h
  · exact absurd h List.not_mem_nil

end Validator

/-! ## Classes of errors -/

namespace Violation

/-- The class of an error and its kind fit each other: what blames the schema has one of two kinds,
    what blames the nesting has a kind of its own, and all other kinds blame the data. -/
structure ClassFits (e : Violation) : Prop where
  definition : e.errorClass = .definition ↔ e.kind = .invalidSchema ∨ e.kind = .unsupportedType
  blames : e.errorClass = .definition ↔ e.kind.blamesSchema = true
  nesting : e.errorClass = .nesting ↔ e.kind = .recursionLimit
  data : e.errorClass = .data ↔
    e.kind ≠ .invalidSchema ∧ e.kind ≠ .unsupportedType ∧ e.kind ≠ .recursionLimit

theorem classFits (e : Violation) : e.ClassFits := by
  have hkind (k : ErrorKind) :
      (k.errorClass = .definition ↔ k = .invalidSchema ∨ k = .unsupportedType) ∧
      (k.errorClass = .nesting ↔ k = .recursionLimit) ∧
      (k.errorClass = .data ↔
        k ≠ .invalidSchema ∧ k ≠ .unsupportedType ∧ k ≠ .recursionLimit) := by
    cases k <;> decide
  have hclass : e.errorClass = e.kind.errorClass := e.cause.errorClass_eq
  obtain ⟨hdefinition, hnesting, hdata⟩ := hkind e.kind
  exact ⟨hclass ▸ hdefinition, e.errorClass_eq_definition_iff, hclass ▸ hnesting, hclass ▸ hdata⟩

end Violation

namespace Validator

open Check

/-- **Errors of the schema and of the nesting are never swallowed.**  Whatever a validator has been
    through and whatever it is asked: the class of every error fits its kind; if any check started in
    the course of the request ends with an error that blames the schema or the nesting, the request
    ends with that very error; and so it does if its journal tells such an end of a check against a
    schema, since every end that it tells is that of a started check. -/
theorem severe_errors_end_requests (v : Validator) (r : Request) :
    (∀ e : Violation, e.ClassFits) ∧
      (∀ (δ : Type) (d : Check δ) s p (e : Violation),
        Starts d s p (v.checkOf r) (v.scopeOf r) (v.startOf r) →
          (d s p).1 = .error (.violation e) → e.IsSevere →
            (v.answer r).result = .error (.violation e)) ∧
      (∀ n result, .left n result ∈ (v.answer r).journal →
        ∃ depth s p, Starts (against depth n) s p (v.checkOf r) (v.scopeOf r) (v.startOf r) ∧
          (against depth n s p).1 = result) ∧
      ∀ n (e : Violation), .left n (.error (.violation e)) ∈ (v.answer r).journal → e.IsSevere →
        (v.answer r).result = .error (.violation e) := by
  have hends {δ : Type} {d : Check δ} {s p} {e : Violation}
      (hstarts : Starts d s p (v.checkOf r) (v.scopeOf r) (v.startOf r))
      (hd : (d s p).1 = .error (.violation e)) (he : e.IsSevere) :
      (v.answer r).result = .error (.violation e) :=
    (v.answer_eq r).1.trans (hstarts.ends he hd)
  refine ⟨Violation.classFits, fun δ d s p e => hends, fun n result => v.started_of_left, ?_⟩
  intro n e hleft he
  obtain ⟨depth, s, p, hstarts, hend⟩ := v.started_of_left hleft
  exact hends hstarts hend he

/-- A schema for whose property the first alternative disallows a type that there is not, and the
    second admits everything. -/
def hidesUnknownName : Value :=
  .map [(.name "properties", .map [(.name "a", .map [(.name "type",
    .list [.map [(.name "disallow", .str "text")], .str "any"])])])]

/-- Two attempts stand around the unknown name, and an alternative that admits everything comes
    after them.  The run ends with the error of the schema all the same. -/
theorem unknown_name_ends_request :
    let v := Validator.new .default .null
    let inst : Node := ⟨⟨.instance 0, []⟩, .map [(.name "a", .int 1)]⟩
    let r : Request := .validate inst (.ofSchema 0 hidesUnknownName)
    let e : Violation := ⟨.unsupportedType "text", .str "a", none⟩
    e.IsSevere ∧ (∃ n, .left n (.error (.violation e)) ∈ (v.answer r).journal) ∧
      (v.answer r).result = .error (.violation e) := by
  intro v inst r e
  have hsevere : e.errorClass ≠ .data := by decide
  have hany : ((v.answer r).journal.any fun
      | .left _ result => result = .error (.violation e)
      | _ => false) = true := by decide +kernel
  obtain ⟨event, hmem, htold⟩ := List.any_eq_true.mp hany
  cases event with
  | left n result =>
    obtain rfl : result = .error (.violation e) := by simpa using htold
    exact ⟨hsevere, ⟨n, hmem⟩, (v.severe_errors_end_requests r).2.2.2 n e hmem hsevere⟩
  | _ => cases htold

end Validator

end Conformance

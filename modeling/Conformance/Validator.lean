/-
  Validators.

  A validator has settings, a registry of the ids it has met, the paths that received defaults
  since its record was last cleared, and the places where a default has gone over a list element.
  The defaults that a run writes are known while it lasts; once it is over, the schemas in the
  registry are those that read with them.  Each call gives back the validator after it together with
  the journal of the run; whole-value calls (`validate`, `check`) clear the record first, calls on a
  single property do not.

  Instances and schemas are handed in as nodes, because a reference asks for the very schema that
  was registered, not for one that reads the same.
-/
import Conformance.Check.Property
import Conformance.Settings

namespace Conformance

/-- The key under which a whole instance is checked. -/
def rootKey : Value := .str "self"

/-- A validator.  Any value may be set as its switch for defaults; they are written if it holds. -/
structure Validator where
  settings : Settings
  interactive : Value
  registry : Registry
  applied : List String
  renewals : List Place

/-- What a call gives back: its result, the slot as it was left, the validator, and the journal. -/
structure Outcome (α : Type) where
  result : Except Failure α
  slot : Slot
  validator : Validator
  journal : Journal

namespace Validator

/-- A validator with settings; a switch other than null goes before that of the settings. -/
def new (settings : Settings) (interactive : Value) : Validator :=
  let switch := match interactive with
    | .null => settings.interactive
    | v => v.isTruthy
  ⟨settings, .bool switch, .empty, [], []⟩

/-- The path while no check is running. -/
def path (_ : Validator) : String := Trail.text []

/-- The schema with an id, as it reads now. -/
def resolve (v : Validator) (ref : Value) : Except Fault (Option Value) := do
  return (← v.registry.resolve ref).map (·.tree)

/-- Runs a check on a slot at a place. -/
def run {α : Type} (v : Validator) (key : Value) (place : Place) (slot : Slot) (c : Check α) :
    Outcome α :=
  let scope : Scope :=
    ⟨key, [], place, v.renewals, 0, v.interactive.isTruthy, v.settings.maxDepth⟩
  let (result, p) := c scope ⟨slot, v.registry, [], []⟩
  let journal := p.journal.reverse
  { result := result
    slot := p.slot
    validator := { v with
      registry := p.registry.settled p.writes
      applied := v.applied ++ Journal.appliedPaths journal }
    journal := journal }

/-- The check against a schema with the whole depth to go. -/
def visit (v : Validator) (schema : Node) : Check Unit := Check.against v.settings.maxDepth schema

/-! ## Whole instances -/

/-- The check of a whole instance against a schema; null and false stand for none.  Without one, a
    mapping is checked against the schema that it carries itself. -/
def rootCheck (v : Validator) (inst schema : Node) : Check Unit :=
  if schema.tree.isGiven then v.visit schema
  else
    match inst.tree with
    | .map entries =>
      let own := (Value.entryAt? (.name "$schema") entries).getD .null
      if !own.isTruthy then pure ()
      else if own.isMap then v.visit (inst.down (.name "$schema") own)
      else Check.note (.schemaIgnored own.kind)
    | _ => pure ()

/-- Validates an instance. -/
def validate (v : Validator) (inst schema : Node) : Outcome Unit :=
  { v with applied := [] }.run rootKey inst.origin (.ofValue inst.tree) (v.rootCheck inst schema)

/-- What a check of a whole instance reports. -/
structure Report where
  data : Value
  error : Option Violation
  applied : List String

/-- Validates an instance and reports a violation instead of failing with it. -/
def check (v : Validator) (inst schema : Node) : Outcome Report :=
  let o := v.validate inst schema
  let report (error : Option Violation) : Report := ⟨o.slot.value, error, o.validator.applied⟩
  let result := match o.result with
    | .ok _ => .ok (report none)
    | .error (.violation e) => .ok (report (some e))
    | .error (.fault f) => .error (.fault f)
  ⟨result, o.slot, o.validator, o.journal⟩

/-! ## Parts of instances -/

/-- The slot under a key of a parent, where the value may have been handed in by itself. -/
def slotOf (parent key : Value) (handedIn : Option Value) : Slot :=
  match handedIn with
  | none => parent.slotAt key
  | some .missing =>
    match parent.slotAt key with
    | .present _ => .held
    | slot => slot
  | some v => .present v

/-- The outcome of a check on one member: what was checked, and the parent after that. -/
structure MemberOutcome where
  outcome : Outcome Unit
  value : Value
  parent : Value

/-- Runs a check on the member of a parent under a key, or on a value handed in by itself. -/
def onMember (v : Validator) (parent : Node) (key : Value) (handedIn : Option Node)
    (c : Check Unit) : MemberOutcome :=
  let slot := slotOf parent.tree key (handedIn.map (·.tree))
  -- a value handed in by itself is a document of its own
  let here := parent.origin.down (parent.tree.stepTo key)
  let place := match handedIn, slot with
    | some n, .present _ => n.origin
    | _, _ => here.current v.renewals
  let o := v.run key place slot c
  let settled := match handedIn, o.slot with
    | some _, .present _ => parent.tree
    | _, slot => parent.tree.settle (parent.tree.stepTo key) slot
  let renewals := match o.slot with
    | .fromEnd (some _) => here :: v.renewals
    | _ => v.renewals
  ⟨{ o with validator := { o.validator with renewals := renewals } }, o.slot.value, settled⟩

/-- Why the value under a key of a parent cannot be looked up, if it cannot. -/
def lookupFault? (parent key : Value) : Option Fault :=
  match parent.slotAt key with
  | .unaskable name => some (.unhashable name)
  | _ => none

/-- Checks the value under a key of a parent against a schema. -/
def checkProperty (v : Validator) (parent : Node) (key : Value) (handedIn : Option Node)
    (schema : Node) : MemberOutcome :=
  v.onMember parent key handedIn (v.visit schema)

/-- Checks the value under a key of a parent against a type expression. -/
def checkType (v : Validator) (parent : Node) (key : Value) (handedIn : Option Node)
    (expr : Node) : MemberOutcome :=
  v.onMember parent key handedIn (Check.typeRule v.visit expr)

/-- Checks an object against declarations of properties and a policy on all others. -/
def checkObject (v : Validator) (inst declarations policy : Node) : Outcome Unit :=
  v.run .null inst.origin (.ofValue inst.tree) (Check.object v.visit declarations policy)

end Validator

end Conformance

/-
  Checks with the calls that they are made by.

  A check is run by functions that call each other, and a call holds a frame of the interpreter's
  stack until it has come back.  The limit on depth counts the checks against schemas only.  How many
  frames there are between one of them and the next depends on the rule that leads there:

    * a reference or a base: the check is called by the rules of the schema themselves;
    * a member: the function for members and the one for a single member stand between;
    * a type: two functions stand between, two more for each list of alternatives around the
      schema, and one more if the type is disallowed.

  So the rules are written down once more, with the calls around each part (`calling`).  The depth
  in the scope of such a check is the number of frames that its callers hold, and its journal tells
  at each call how many frames there are at most until the function called gets to work.  Functions
  that call no checks are not followed: those that compare, copy and print values, that read
  patterns and expressions, and that build errors.

  What a counted check comes to is what the check itself comes to: see `Proofs.Stack.Course`.
-/
import Conformance.Proofs.Faults

namespace Conformance

namespace Check

/-- Runs a check inside calls.  They hold so many frames while it runs, and at their peak, before it
    begins, as many as the journal is told. -/
def calling (peak held : Nat) (n : Node) {α : Type} (c : Check α) : Check α := fun s p =>
  c { s with depth := s.depth + held } (p.tell (.entered n s.trail (s.depth + peak)))

namespace Counted

/-! ## Types -/

mutual

/-- The value at hand against a resolved expression.  An alternative is attempted by one function and
    checked by another one. -/
def resolvedType (visit : Node → Check Unit) : TypeTest → Node → Check Unit
  | .anything, _ => pure ()
  | .classes members, expr => do
    if (← value).isInstance members then pure () else mismatch expr
  | .schema node, _ => visit node
  | .anyOf alternatives, expr => do
    if ← anyAlternative visit alternatives expr 0 then pure () else mismatch expr

/-- Whether one of the alternatives from an index on fits. -/
def anyAlternative (visit : Node → Check Unit) : List TypeTest → Node → Nat → Check Bool
  | [], _, _ => pure false
  | t :: rest, expr, i => do
    let alternative ← element expr i
    match ← attempt (calling 2 2 alternative (resolvedType visit t alternative)) with
    | none => pure true
    | some v => do
      let s ← scope
      note (.alternativeRejected s.trail (← content alternative).typeText v.message)
      anyAlternative visit rest expr (i + 1)

end

/-- The value at hand against a type expression, which is resolved first. -/
def typeRule (visit : Node → Check Unit) (expr : Node) : Check Unit := do
  match TypeTest.ofValue expr.origin (← content expr) with
  | .ok test => resolvedType visit test expr
  | .error name => failPlaceless (.unsupportedType name)

/-- The rule `disallow`: an attempt of the check that the rule `type` makes. -/
def disallowRule (visit : Node → Check Unit) (n : Node) : Check Unit :=
  whenGiven n "disallow" fun expr => do
    match ← attempt (calling 3 3 expr (typeRule visit expr)) with
    | none => fail .disallowed
    | some _ => pure ()

/-! ## One value, one schema -/

/-- The check of a member, with the function for members and the one for a single member around it.
    The latter takes two frames more while it enters the path. -/
def memberVisit (visit : Node → Check Unit) (k : Node) : Check Unit := calling 4 2 k (visit k)

/-- The rules for a present value. -/
def presentRules (visit : Node → Check Unit) (n : Node) (v : Value) : Check Unit := do
  whenGiven n "type" fun expr => calling 2 2 expr (typeRule visit expr)
  disallowRule visit n
  match v with
  | .null => pure ()
  | v => contentRules (memberVisit visit) n v

/-- The rules of a schema itself, for a value that is missing or present. -/
def ownRules (visit : Node → Check Unit) (n : Node) : Check Unit := do
  match ← value with
  | .missing => missingRules n
  | v => presentRules visit n v

/-- All rules of a schema for the value at hand. -/
def property (visit : Node → Check Unit) (n : Node) : Check Unit := do
  idRule n
  refRule visit n
  extendsRule visit n
  ownRules visit n

/-- A check that goes deeper than the limit allows. -/
def refused : Check Unit := do fail (.tooDeep (← scope).limit)

/-- The value at hand against a schema.  The first frame is that of the check.  It takes two more
    while it counts the level, be it refused or not, and then one for the rules. -/
def against : Nat → Node → Check Unit
  | 0, n => do
    if (← content n).isMap then calling 3 1 n refused else calling 1 1 n (pure ())
  | depth + 1, n => do
    if (← content n).isMap then nested n (calling 2 1 n (property (against depth) n))
    else calling 1 1 n (pure ())

end Counted

end Check

/-! ## Frames -/

/-- The frames that an event tells of. -/
def Event.held : Event → Nat
  | .entered _ _ frames => frames
  | _ => 0

/-- The most frames that a journal tells of. -/
def Journal.mostHeld (j : Journal) : Nat := (j.map Event.held).foldr max 0

namespace Validator

/-- The check of a whole instance with its calls. -/
def countedCheck (v : Validator) (inst schema : Node) : Check Unit :=
  match rootSchema? inst schema with
  | some n => Check.Counted.against v.settings.maxDepth n
  | none => v.rootCheck inst schema

/-- What the check of a whole instance comes to when it is called from so many frames. -/
def countedRun (v : Validator) (callers : Nat) (inst schema : Node) :
    Except Failure Unit × Progress :=
  v.countedCheck inst schema { v.rootScope inst with depth := callers } (v.start inst)

/-- The most frames that the check of a whole instance and its callers hold at a time. -/
def framesHeld (v : Validator) (callers : Nat) (inst schema : Node) : Nat :=
  max callers (Journal.mostHeld (v.countedRun callers inst schema).2.journal)

end Validator

/-- What comes of a call on a stack of limited size. -/
inductive OnStack (α : Type) where
  /-- The call has ended by itself. -/
  | finished (a : α)
  /-- There were no frames left, and the call was broken off. -/
  | exhausted

namespace Validator

/-- Validates an instance on a stack that has room for so many frames, if the functions that are not
    followed take so many on top of those of the checks. -/
def validateOn (v : Validator) (room leaves : Nat) (inst schema : Node) :
    OnStack (Outcome Unit) :=
  if v.framesHeld 1 inst schema + leaves ≤ room then .finished (v.validate inst schema)
  else .exhausted

/-- Validates an instance and reports a violation; the report is made by a caller of its own. -/
def checkOn (v : Validator) (room leaves : Nat) (inst schema : Node) :
    OnStack (Outcome Report) :=
  if v.framesHeld 2 inst schema + leaves ≤ room then .finished (v.check inst schema)
  else .exhausted

end Validator

end Conformance

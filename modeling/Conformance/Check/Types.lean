/-
  Values against type expressions.

  A list of alternatives is tried in order, and the first one that fits decides.  An alternative
  that does not fit is given up without undoing what it has written.  Inline schemas are left to
  `visit`, the check of the value at hand against a schema.
-/
import Conformance.Check.Run
import Conformance.Schema.TypeExpr

namespace Conformance.Check

/-- The value is not of the type that the expression describes. -/
def mismatch (expr : Node) : Check Unit := do
  let found ← value
  fail (.wrongType found.kind (← content expr).typeText)

mutual

/-- The value at hand against a resolved expression; `expr` is the expression as written. -/
def resolvedType (visit : Node → Check Unit) : TypeTest → Node → Check Unit
  | .anything, _ => pure ()
  | .classes members, expr => do
    if (← value).isInstance members then pure () else mismatch expr
  | .schema node, _ => visit node
  | .anyOf alternatives, expr => do
    if ← anyAlternative visit alternatives expr 0 then pure () else mismatch expr

/-- Whether one of the alternatives from an index on fits. -/
def anyAlternative (visit : Node → Check Unit) : List TypeTest → Node → Nat → Check Bool
  | [], _, _ => pure false
  | t :: rest, expr, i => do
    let alternative ← element expr i
    match ← attempt (resolvedType visit t alternative) with
    | none => pure true
    | some v => do
      -- only the rejection is recorded; what the alternative wrote stays
      let s ← scope
      note (.alternativeRejected s.trail (← content alternative).typeText v.message)
      anyAlternative visit rest expr (i + 1)

end

/-- The value at hand against a type expression.  An unknown type name is found before the value is
    looked at. -/
def typeRule (visit : Node → Check Unit) (expr : Node) : Check Unit := do
  match TypeTest.ofValue expr.origin (← content expr) with
  | .ok test => resolvedType visit test expr
  | .error name => failPlaceless (.unsupportedType name)

end Conformance.Check

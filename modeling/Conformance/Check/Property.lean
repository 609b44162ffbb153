/-
  Values against schemas.

  `property` is the list of rules for one value and one schema: ids and references, the schemas it
  extends, what holds for a missing value, and the rules for a present one.  `object` and `items`
  are the rules on members.  All of them leave nested checks to `visit`; `against` closes the
  circle, and the depth that remains bounds it.
-/
import Conformance.Check.Scalar
import Conformance.Check.Types

namespace Conformance.Check

/-- A rule of a schema that counts as given. -/
def given? (n : Node) (name : String) : Check (Option Node) := do
  match ← field? n name with
  | some v => return if v.isGiven then some (n.down (.name name) v) else none
  | none => return none

/-- Runs a check on a rule if it is given. -/
def whenGiven (n : Node) (name : String) (rule : Node → Check Unit) : Check Unit := do
  match ← given? n name with
  | some r => rule r
  | none => pure ()

/-- The policy `additionalProperties`, which must be a boolean or a schema where it is present;
    absent, it reads as null. -/
def additionalPolicy (n : Node) : Check Node := do
  match ← field? n "additionalProperties" with
  | none => return n.down (.name "additionalProperties") .null
  | some v =>
    match v with
    | .bool _ => return n.down (.name "additionalProperties") v
    | .map _ => return n.down (.name "additionalProperties") v
    | _ => fail (.badAdditional v.kind)

/-- Whether a policy says no. -/
def forbids (policy : Value) : Bool :=
  match policy with
  | .bool false => true
  | _ => false

/-- Whether a policy says yes. -/
def allows (policy : Value) : Bool :=
  match policy with
  | .bool true => true
  | _ => false

/-! ## Arrays -/

/-- How many elements the array at hand has. -/
def length : Check Nat := do return ((← value).elements?.getD []).length

/-- Every element that the array has now against one schema. -/
def everyElement (visit : Node → Check Unit) (n : Node) : Check Unit := do
  each (fun i => atChild (.index i) (visit n)) (List.range (← length))

/-- The elements against the schemas of their positions; then the policy on additional elements,
    which as a schema applies to every element. -/
def positionalItems (visit : Node → Check Unit) (n items : Node) : Check Unit := do
  eachElement items fun i schema => atChild (.index i) (visit schema)
  if ((← content n).hasKey (.name "additionalProperties")) then
    let policy ← additionalPolicy n
    if forbids policy.tree then
      -- counted afterwards: defaults may have made the array longer
      if (← content items).listItems.length < (← length) then fail .extraItems
    else if allows policy.tree then pure ()
    else everyElement visit policy

/-- The rules on arrays. -/
def items (visit : Node → Check Unit) (n : Node) : Check Unit := do
  whenGiven n "items" fun rule =>
    match rule.tree with
    | .list _ => positionalItems visit n rule
    | _ => everyElement visit rule
  itemCounts n

/-! ## Objects -/

/-- Names that begin with two underscores are reserved. -/
def isReserved : Key → Bool
  | .name s => ['_', '_'].isPrefixOf s.toList
  | _ => false

/-- A declared property, which the object may lack; reserved names are passed over. -/
def declaredProperty (visit : Node → Check Unit) (declarations : Node) (key : Key)
    (definition : Value) : Check Unit :=
  if !isReserved key then
    atChild (.entry key) (visit (declarations.down (.entry key) definition))
  else pure ()

/-- A mapping of declarations that has grown since it had a certain size ends the run. -/
def stillOfSize (declarations : Node) (size : Nat) : Check Unit := do
  if (← content declarations).entries.length ≠ size then stop (.fault .mappingChanged)

/-- The declared properties in order. -/
def declaredProperties (visit : Node → Check Unit) (declarations : Node) (size : Nat) :
    List (Key × Value) → Check Unit
  | [] => pure ()
  | (key, definition) :: rest => do
    declaredProperty visit declarations key definition
    stillOfSize declarations size
    declaredProperties visit declarations size rest

/-- What a declaration requires along with its property. -/
def requirement (declared : Option Value) : Value :=
  match declared with
  | some d => (d.get? "requires").getD .null
  | none => .null

/-- Whether a declaration is missing, null or false. -/
def isUndeclared (declared : Option Value) : Bool :=
  match declared with
  | none => true
  | some d => !d.isGiven

/-- A schema that an entry of the object carries itself, checked where defaults are not written. -/
def ownSchema (visit : Node → Check Unit) (key : Key) : Check Unit := do
  let s ← scope
  if s.interactive then pure ()
  else
    match Value.entryAt? key (← value).entries with
    | some (.map entries) =>
      let own := (Value.entryAt? (.name "$schema") entries).getD .null
      if own.isTruthy then
        if own.isMap then
          let place := (s.child (.entry key)).place.down (.name "$schema")
          atChild (.entry key) (visit ⟨place, own⟩)
        else note (.memberSchemaIgnored s.trail key)
    | _ => pure ()

/-- An entry may have to be declared.  A declaration of null or false admits it no more than none
    at all. -/
def admission (policy : Node) (key : Key) (declared : Option Value) : Check Unit :=
  if !isReserved key && isUndeclared declared && forbids policy.tree then
    failAt key .undeclaredProperty
  else pure ()

/-- What the declaration of an entry requires must be there. -/
def requirementRule (key : Key) (declared : Option Value) : Check Unit :=
  match requirement declared with
  | .null => pure ()
  | .str required => do
    if !(← value).hasKey (.name required) then failAt key (.requirementUnmet required)
  | v => failAt key (.badRequires v.kind)

/-- An entry without a declaration must satisfy the policy on additional properties. -/
def policyRule (visit : Node → Check Unit) (declarations policy : Node) (key : Key) :
    Check Unit := do
  if !(← content declarations).hasKey key then atChild (.entry key) (visit policy)

/-- One entry of the object: may it be there, is there what it requires, and does it satisfy the
    policy on additional properties and the schema that it carries itself. -/
def entry (visit : Node → Check Unit) (declarations policy : Node) (key : Key) : Check Unit := do
  let declared := Value.entryAt? key (← content declarations).entries
  admission policy key declared
  requirementRule key declared
  policyRule visit declarations policy key
  ownSchema visit key

/-- Only a mapping is an object. -/
def objectOnly : Check Unit := do
  let found ← value
  if !found.isMap then failKeyless (.notAnObject found.kind)

/-- The rules on objects: first the declared properties, then the entries that the object has after
    that. -/
def object (visit : Node → Check Unit) (declarations policy : Node) : Check Unit := do
  match ← content declarations with
  | .map entries =>
    objectOnly
    declaredProperties visit declarations entries.length entries
    -- the entries are listed after the defaults have come in
    each (entry visit declarations policy) (← value).keys
  | _ => failKeyless .propertiesNotObject

/-- An additional entry: it may be forbidden, and as a rule it must satisfy the policy. -/
def additionalEntry (visit : Node → Check Unit) (policy : Node) (owner : Value) (key : Key) :
    Check Unit :=
  if forbids policy.tree then failAt key (.additionalProperty owner)
  else atChild (.entry key) (visit policy)

/-- The policy on additional properties of an object without declarations. -/
def additionalOnly (visit : Node → Check Unit) (policy : Node) : Check Unit := do
  let found ← value
  if allows policy.tree || !found.isMap then pure ()
  else
    each (additionalEntry visit policy (← scope).key) found.keys

/-! ## One value, one schema -/

/-- Registers the schema under its id. -/
def idRule (n : Node) : Check Unit :=
  whenGiven n "id" fun id => register id.tree.text n

/-- Follows a reference to another schema; one that is not known asks for nothing. -/
def follow (visit : Node → Check Unit) (n : Node) (ref : String) : Check Unit := do
  match (← progress).registry.find? ref with
  | none => note (.unresolved (← scope).trail ref)
  -- a schema that refers to itself by name adds nothing to its own rules
  | some target => if target.origin = n.origin then pure () else visit target

/-- The rule on references, which are texts. -/
def refRule (visit : Node → Check Unit) (n : Node) : Check Unit := do
  match ← field? n "$ref" with
  | some (.str ref) => follow visit n ref
  | _ => pure ()

/-- The schemas that this one extends, each a demand of its own. -/
def extendsRule (visit : Node → Check Unit) (n : Node) : Check Unit :=
  whenGiven n "extends" fun rule =>
    match rule.tree with
    | .list _ => eachElement rule fun _ base => visit base
    | _ => visit rule

/-- The rule `required`, for a missing value. -/
def requiredRule (n : Node) : Check Unit := do
  match ← field? n "required" with
  | some (.bool true) => fail .missing
  | _ => pure ()

/-- The default that a schema offers: one that is not null, unless the schema is read-only. -/
def offer? (schema : Value) : Option Value :=
  match (schema.get? "default").getD .null with
  | .null => none
  | v => if ((schema.get? "readonly").getD .null).isTruthy then none else some v

/-- The rule `default`, for a missing value where defaults are written. -/
def defaultRule (n : Node) : Check Unit := do
  if (← scope).interactive then
    askKey
    match offer? (← content n) with
    | none => pure ()
    | some v => writeDefault v

/-- A missing value: it may be required, and it may have a default. -/
def missingRules (n : Node) : Check Unit := do
  requiredRule n
  defaultRule n

/-- The rule `disallow`: the value must not fit the expression. -/
def disallowRule (visit : Node → Check Unit) (n : Node) : Check Unit :=
  whenGiven n "disallow" fun expr => do
    match ← attempt (typeRule visit expr) with
    | none => fail .disallowed
    | some _ => pure ()

/-- The rules on the members of a value. -/
def memberRules (visit : Node → Check Unit) (n : Node) (v : Value) : Check Unit := do
  match v.elements? with
  | some _ => items visit n
  | none =>
    match ← given? n "properties" with
    | some declarations => object visit declarations (← additionalPolicy n)
    | none =>
      if (← content n).hasKey (.name "additionalProperties") then
        additionalOnly visit (← additionalPolicy n)

/-- The rules on a value that has no members. -/
def scalarRules (n : Node) (v : Value) : Check Unit :=
  match v with
  | .str s => textRules n s
  | v =>
    match v.number? with
    | some x => numberRules n x
    | none => pure ()

/-- The rules on what a value is made of, for a value that is not null. -/
def contentRules (visit : Node → Check Unit) (n : Node) (v : Value) : Check Unit := do
  memberRules visit n v
  scalarRules n v
  closingRules n

/-- The rules for a present value. -/
def presentRules (visit : Node → Check Unit) (n : Node) (v : Value) : Check Unit := do
  whenGiven n "type" (typeRule visit)
  disallowRule visit n
  match v with
  | .null => pure ()
  | v => contentRules visit n v

/-- The rules of a schema itself, for a value that is missing or present. -/
def ownRules (visit : Node → Check Unit) (n : Node) : Check Unit := do
  match ← value with
  | .missing => missingRules n
  | v => presentRules visit n v

/-- All rules of a schema for the value at hand. -/
def property (visit : Node → Check Unit) (n : Node) : Check Unit := do
  idRule n
  refRule visit n
  extendsRule visit n
  ownRules visit n

/-- The value at hand against a schema, where so many checks may still be nested.  What is no
    mapping asks for nothing. -/
def against : Nat → Node → Check Unit
  | 0, n => do
    if (← content n).isMap then fail (.tooDeep (← scope).limit) else pure ()
  | depth + 1, n => do
    if (← content n).isMap then nested n (property (against depth) n) else pure ()

end Conformance.Check

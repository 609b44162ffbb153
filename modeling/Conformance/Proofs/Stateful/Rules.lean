/-
  The rules as runs that carry path and depth along.

  Every rule that visits members or schemas is written down once more, rule by rule, with pushing and
  popping in the places where a path is extended; rules on single values only read path and depth,
  and are taken as they are.  Each comes with the statement that it renders the rule it is written
  after, given that its visits do.
-/
import Conformance.Proofs.Stateful.Basic

namespace Conformance.Stateful

/-! ## Lists and rules -/

/-- Runs for each of several things in order. -/
def each {α : Type} (r : α → Stateful Unit) : List α → Stateful Unit
  | [] => pure ()
  | a :: rest => do
    r a
    each r rest

/-- Runs on a rule if it is given. -/
def whenGiven (n : Node) (name : String) (rule : Node → Stateful Unit) : Stateful Unit := do
  match ← Check.given? n name with
  | some r => rule r
  | none => pure ()

/-- Visits the elements of a list from an index on, those appended meanwhile included. -/
def visitAppended (n : Node) (visit : Nat → Node → Stateful Unit) : Nat → Nat → Stateful Unit
  | 0, _ => pure ()
  | room + 1, i => do
    match (← Check.content n).listItems[i]? with
    | none => pure ()
    | some v =>
      visit i (n.down (.index i) v)
      visitAppended n visit room (i + 1)

/-- Visits the elements of a list from an index on. -/
def visitFrom (n : Node) (visit : Nat → Node → Stateful Unit) : Nat → List Value → Stateful Unit
  | i, [] => visitAppended n visit Check.growthRoom i
  | i, v :: rest => do
    visit i (n.down (.index i) v)
    visitFrom n visit (i + 1) rest

/-- Visits the elements of a list in a schema in order. -/
def eachElement (n : Node) (visit : Nat → Node → Stateful Unit) : Stateful Unit := do
  visitFrom n visit 0 (← Check.content n).listItems

/-! ## Type expressions -/

mutual

/-- The value at hand against a resolved expression. -/
def resolvedType (visit : Node → Stateful Unit) : TypeTest → Node → Stateful Unit
  | .anything, _ => pure ()
  | .classes members, expr => do
    if (← Check.value).isInstance members then pure () else Check.mismatch expr
  | .schema node, _ => visit node
  | .anyOf alternatives, expr => do
    if ← anyAlternative visit alternatives expr 0 then pure () else Check.mismatch expr

/-- Whether one of the alternatives from an index on fits. -/
def anyAlternative (visit : Node → Stateful Unit) : List TypeTest → Node → Nat → Stateful Bool
  | [], _, _ => pure false
  | t :: rest, expr, i => do
    let alternative ← Check.element expr i
    match ← attempt (resolvedType visit t alternative) with
    | none => pure true
    | some v => do
      -- the path is read after the attempt
      let s ← Check.scope
      Check.note (.alternativeRejected s.trail (← Check.content alternative).typeText v.message)
      anyAlternative visit rest expr (i + 1)

end

/-- The value at hand against a type expression. -/
def typeRule (visit : Node → Stateful Unit) (expr : Node) : Stateful Unit := do
  match TypeTest.ofValue expr.origin (← Check.content expr) with
  | .ok test => resolvedType visit test expr
  | .error name => Check.failPlaceless (.unsupportedType name)

/-! ## Arrays -/

/-- Every element that the array has now against one schema. -/
def everyElement (visit : Node → Stateful Unit) (n : Node) : Stateful Unit := do
  each (fun i => atChild (.index i) (visit n)) (List.range (← Check.length))

/-- The elements against the schemas of their positions, and the policy on additional elements. -/
def positionalItems (visit : Node → Stateful Unit) (n items : Node) : Stateful Unit := do
  eachElement items fun i schema => atChild (.index i) (visit schema)
  if ((← Check.content n).hasKey (.name "additionalProperties")) then
    let policy ← Check.additionalPolicy n
    if Check.forbids policy.tree then
      if (← Check.content items).listItems.length < (← Check.length) then Check.fail .extraItems
    else if Check.allows policy.tree then pure ()
    else everyElement visit policy

/-- The rules on arrays. -/
def items (visit : Node → Stateful Unit) (n : Node) : Stateful Unit := do
  whenGiven n "items" fun rule =>
    match rule.tree with
    | .list _ => positionalItems visit n rule
    | _ => everyElement visit rule
  Check.itemCounts n

/-! ## Objects -/

/-- A declared property, which the object may lack. -/
def declaredProperty (visit : Node → Stateful Unit) (declarations : Node) (key : Key)
    (definition : Value) : Stateful Unit :=
  if !Check.isReserved key then
    atChild (.entry key) (visit (declarations.down (.entry key) definition))
  else pure ()

/-- The declared properties in order. -/
def declaredProperties (visit : Node → Stateful Unit) (declarations : Node) (size : Nat) :
    List (Key × Value) → Stateful Unit
  | [] => pure ()
  | (key, definition) :: rest => do
    declaredProperty visit declarations key definition
    Check.stillOfSize declarations size
    declaredProperties visit declarations size rest

/-- An entry may have to be declared. -/
def admission (policy : Node) (key : Key) (declared : Option Value) : Stateful Unit :=
  if !Check.isReserved key && Check.isUndeclared declared && Check.forbids policy.tree then
    failAt key .undeclaredProperty
  else pure ()

/-- What the declaration of an entry requires must be there. -/
def requirementRule (key : Key) (declared : Option Value) : Stateful Unit :=
  match Check.requirement declared with
  | .null => pure ()
  | .str required => do
    if !(← Check.value).hasKey (.name required) then failAt key (.requirementUnmet required)
  | v => failAt key (.badRequires v.kind)

/-- An entry without a declaration must satisfy the policy on additional properties. -/
def policyRule (visit : Node → Stateful Unit) (declarations policy : Node) (key : Key) :
    Stateful Unit := do
  if !(← Check.content declarations).hasKey key then atChild (.entry key) (visit policy)

/-- A schema that an entry of the object carries itself. -/
def ownSchema (visit : Node → Stateful Unit) (key : Key) : Stateful Unit := do
  let s ← Check.scope
  if s.interactive then pure ()
  else
    match Value.entryAt? key (← Check.value).entries with
    | some (.map entries) =>
      let own := (Value.entryAt? (.name "$schema") entries).getD .null
      if own.isTruthy then
        if own.isMap then
          let place := (s.child (.entry key)).place.down (.name "$schema")
          atChild (.entry key) (visit ⟨place, own⟩)
        else Check.note (.memberSchemaIgnored s.trail key)
    | _ => pure ()

/-- One entry of the object. -/
def entry (visit : Node → Stateful Unit) (declarations policy : Node) (key : Key) :
    Stateful Unit := do
  let declared := Value.entryAt? key (← Check.content declarations).entries
  admission policy key declared
  requirementRule key declared
  policyRule visit declarations policy key
  ownSchema visit key

/-- The rules on objects. -/
def object (visit : Node → Stateful Unit) (declarations policy : Node) : Stateful Unit := do
  match ← Check.content declarations with
  | .map entries =>
    Check.objectOnly
    declaredProperties visit declarations entries.length entries
    each (entry visit declarations policy) (← Check.value).keys
  | _ => Check.failKeyless .propertiesNotObject

/-- An additional entry of an object without declarations. -/
def additionalEntry (visit : Node → Stateful Unit) (policy : Node) (owner : Value) (key : Key) :
    Stateful Unit :=
  if Check.forbids policy.tree then failAt key (.additionalProperty owner)
  else atChild (.entry key) (visit policy)

/-- The policy on additional properties of an object without declarations. -/
def additionalOnly (visit : Node → Stateful Unit) (policy : Node) : Stateful Unit := do
  let found ← Check.value
  if Check.allows policy.tree || !found.isMap then pure ()
  else
    each (additionalEntry visit policy (← Check.scope).key) found.keys

/-! ## One value, one schema -/

/-- Follows a reference to another schema. -/
def follow (visit : Node → Stateful Unit) (n : Node) (ref : String) : Stateful Unit := do
  match (← Check.progress).registry.find? ref with
  | none => Check.note (.unresolved (← Check.scope).trail ref)
  | some target => if target.origin = n.origin then pure () else visit target

/-- The rule on references. -/
def refRule (visit : Node → Stateful Unit) (n : Node) : Stateful Unit := do
  match ← Check.field? n "$ref" with
  | some (.str ref) => follow visit n ref
  | _ => pure ()

/-- The schemas that this one extends. -/
def extendsRule (visit : Node → Stateful Unit) (n : Node) : Stateful Unit :=
  whenGiven n "extends" fun rule =>
    match rule.tree with
    | .list _ => eachElement rule fun _ base => visit base
    | _ => visit rule

/-- The rule `disallow`. -/
def disallowRule (visit : Node → Stateful Unit) (n : Node) : Stateful Unit :=
  whenGiven n "disallow" fun expr => do
    match ← attempt (typeRule visit expr) with
    | none => Check.fail .disallowed
    | some _ => pure ()

/-- The rules on the members of a value. -/
def memberRules (visit : Node → Stateful Unit) (n : Node) (v : Value) : Stateful Unit := do
  match v.elements? with
  | some _ => items visit n
  | none =>
    match ← Check.given? n "properties" with
    | some declarations => object visit declarations (← Check.additionalPolicy n)
    | none =>
      if (← Check.content n).hasKey (.name "additionalProperties") then
        additionalOnly visit (← Check.additionalPolicy n)

/-- The rules on what a value is made of. -/
def contentRules (visit : Node → Stateful Unit) (n : Node) (v : Value) : Stateful Unit := do
  memberRules visit n v
  Check.scalarRules n v
  Check.closingRules n

/-- The rules for a present value. -/
def presentRules (visit : Node → Stateful Unit) (n : Node) (v : Value) : Stateful Unit := do
  whenGiven n "type" (typeRule visit)
  disallowRule visit n
  match v with
  | .null => pure ()
  | v => contentRules visit n v

/-- The rules of a schema itself. -/
def ownRules (visit : Node → Stateful Unit) (n : Node) : Stateful Unit := do
  match ← Check.value with
  | .missing => Check.missingRules n
  | v => presentRules visit n v

/-- All rules of a schema for the value at hand. -/
def property (visit : Node → Stateful Unit) (n : Node) : Stateful Unit := do
  Check.idRule n
  refRule visit n
  extendsRule visit n
  ownRules visit n

/-- The value at hand against a schema.  It is the limit that ends the nesting; the number is there
    for the recursion only, and more than the limit leaves room for is never used. -/
def against : Nat → Node → Stateful Unit
  | 0, _ => pure ()
  | fuel + 1, n => do
    arrive
    if (← Check.content n).isMap then nested n (property (against fuel) n) else pure ()

/-! ## The same as the rules -/

namespace Renders

variable {limit depth : Nat} {α : Type}

/-- Several runs in order render the checks in order. -/
theorem each {r : α → Stateful Unit} {c : α → Check Unit}
    (h : ∀ a, Renders limit depth (r a) (c a)) (xs : List α) :
    Renders limit depth (Stateful.each r xs) (Check.each c xs) := by
  induction xs with
  | nil => exact .pure ()
  | cons x rest ih => exact .bind (h x) fun _ => ih

/-- A rule that is given is run in both, or in neither. -/
theorem whenGiven (n : Node) (name : String) {rule : Node → Stateful Unit}
    {rule' : Node → Check Unit} (h : ∀ r, Renders limit depth (rule r) (rule' r)) :
    Renders limit depth (Stateful.whenGiven n name rule) (Check.whenGiven n name rule') := by
  refine .bind (.lift _) fun r => ?_
  cases r with
  | none => exact .pure ()
  | some r => exact h r

/-- A step that is made under a condition. -/
theorem whenTrue (b : Bool) {r : Stateful Unit} {c : Check Unit} (h : Renders limit depth r c) :
    Renders limit depth (if b = true then r else Pure.pure ())
      (if b = true then c else Pure.pure ()) := by
  cases b
  · exact .pure ()
  · exact h

/-- The elements of a list are visited one by one, and those appended meanwhile too. -/
theorem eachElement (n : Node) {r : Nat → Node → Stateful Unit} {c : Nat → Node → Check Unit}
    (h : ∀ i k, Renders limit depth (r i k) (c i k)) :
    Renders limit depth (Stateful.eachElement n r) (Check.eachElement n c) := by
  -- by induction on the room that is left for elements that come to be appended
  have happended (room : Nat) : ∀ i, Renders limit depth (Stateful.visitAppended n r room i)
      (Check.visitAppended n c room i) := by
    induction room with
    | zero => exact fun _ => .pure ()
    | succ room ih =>
      intro i
      refine .bind (.lift _) fun v => ?_
      cases v.listItems[i]? with
      | none => exact .pure ()
      | some x => exact .bind (h _ _) fun _ => ih (i + 1)
  -- by induction on the elements that were there at first
  have hfrom (xs : List Value) : ∀ i, Renders limit depth (Stateful.visitFrom n r i xs)
      (Check.visitFrom n c i xs) := by
    induction xs with
    | nil => exact happended _
    | cons x rest ih => exact fun i => .bind (h _ _) fun _ => ih (i + 1)
  exact .bind (.lift _) fun v => hfrom v.listItems 0

variable {visit : Node → Stateful Unit} {visit' : Node → Check Unit}

mutual

/-- A type test is rendered as it is: it lifts what it reads and runs what it visits. -/
theorem resolvedType (hvisit : ∀ k, Renders limit depth (visit k) (visit' k)) :
    ∀ (t : TypeTest) (expr : Node), Renders limit depth (Stateful.resolvedType visit t expr)
      (Check.resolvedType visit' t expr)
  | .anything, _ => .pure ()
  | .classes members, expr => by
    refine .bind (.lift _) fun v => ?_
    cases v.isInstance members
    · exact .lift _
    · exact .pure ()
  | .schema n, _ => hvisit n
  | .anyOf alternatives, expr => by
    refine .bind (anyAlternative hvisit alternatives expr 0) fun b => ?_
    cases b
    · exact .lift _
    · exact .pure ()

/-- Alternatives are attempted in order; each attempt puts path and depth back. -/
theorem anyAlternative (hvisit : ∀ k, Renders limit depth (visit k) (visit' k)) :
    ∀ (ts : List TypeTest) (expr : Node) (i : Nat), Renders limit depth
      (Stateful.anyAlternative visit ts expr i) (Check.anyAlternative visit' ts expr i)
  | [], _, _ => .pure _
  | t :: rest, expr, i => by
    refine .bind (.lift _) fun alternative => ?_
    refine .bind (.attempt (resolvedType hvisit t alternative)) fun e => ?_
    cases e with
    | none => exact .pure _
    | some v =>
      refine .bind (.lift _) fun s => ?_
      refine .bind (.lift _) fun w => ?_
      refine .bind (.lift _) fun _ => ?_
      exact anyAlternative hvisit rest expr (i + 1)

end

variable (hvisit : ∀ k, Renders limit depth (visit k) (visit' k))

include hvisit

/-- A type expression is resolved once, and then tested. -/
theorem typeRule (expr : Node) :
    Renders limit depth (Stateful.typeRule visit expr) (Check.typeRule visit' expr) := by
  refine .bind (.lift _) fun v => ?_
  cases TypeTest.ofValue expr.origin v with
  | ok test => exact resolvedType hvisit test expr
  | error name => exact .lift _

theorem everyElement (n : Node) :
    Renders limit depth (Stateful.everyElement visit n) (Check.everyElement visit' n) :=
  .bind (.lift _) fun _ => .each (fun i => .atChild (hvisit n) (.index i)) _

/-- Elements by position, and the policy on the others. -/
theorem positionalItems (n rule : Node) :
    Renders limit depth (Stateful.positionalItems visit n rule)
      (Check.positionalItems visit' n rule) := by
  refine .bind (.eachElement rule fun i k => .atChild (hvisit k) (.index i)) fun _ => ?_
  refine .bind (.lift _) fun v => ?_
  refine .whenTrue _ (.bind (.lift _) fun policy => ?_)
  cases Check.forbids policy.tree
  · cases Check.allows policy.tree
    · exact everyElement hvisit policy
    · exact .pure ()
  · refine .bind (.lift _) fun w => ?_
    refine .bind (.lift _) fun count => ?_
    by_cases hlt : w.listItems.length < count
    · simpa only [hlt, if_true] using .lift _
    · simpa only [hlt, if_false] using .pure ()

theorem items (n : Node) :
    Renders limit depth (Stateful.items visit n) (Check.items visit' n) := by
  refine .bind (.whenGiven n "items" fun rule => ?_) fun _ => .lift _
  cases rule.tree with
  | list _ => exact positionalItems hvisit n rule
  | _ => exact everyElement hvisit rule

/-- Declared properties in the order of their declarations. -/
theorem declaredProperties (declarations : Node) (size : Nat) (es : List (Key × Value)) :
    Renders limit depth (Stateful.declaredProperties visit declarations size es)
      (Check.declaredProperties visit' declarations size es) := by
  induction es with
  | nil => exact .pure ()
  | cons e rest ih =>
    refine .bind (.whenTrue _ (.atChild (hvisit _) _)) fun _ => ?_
    refine .bind (.lift _) fun _ => ?_
    exact ih

omit hvisit in
/-- An entry that is not admitted fails in both with the path of the entry. -/
theorem admission (policy : Node) (key : Key) (declared : Option Value) :
    Renders limit depth (Stateful.admission policy key declared)
      (Check.admission policy key declared) :=
  .whenTrue _ (.failAt key _)

omit hvisit in
/-- So does one that lacks what it requires. -/
theorem requirementRule (key : Key) (declared : Option Value) :
    Renders limit depth (Stateful.requirementRule key declared)
      (Check.requirementRule key declared) := by
  unfold Stateful.requirementRule Check.requirementRule
  cases Check.requirement declared with
  | null => exact .pure ()
  | str required => exact .bind (.lift _) fun v => .whenTrue _ (.failAt key _)
  | _ => exact .failAt key _

theorem policyRule (declarations policy : Node) (key : Key) :
    Renders limit depth (Stateful.policyRule visit declarations policy key)
      (Check.policyRule visit' declarations policy key) :=
  .bind (.lift _) fun _ => .whenTrue _ (.atChild (hvisit policy) (.entry key))

/-- A schema that an entry carries itself, where it is enforced. -/
theorem ownSchema (key : Key) :
    Renders limit depth (Stateful.ownSchema visit key) (Check.ownSchema visit' key) := by
  refine .bind (.lift _) fun s => ?_
  -- where defaults are written, such schemas are left out
  cases s.interactive with
  | true => exact .pure ()
  | false =>
    refine .bind (.lift _) fun v => ?_
    cases Value.entryAt? key v.entries with
    | none => exact .pure ()
    | some w =>
      cases w with
      | map entries =>
        refine .whenTrue _ ?_
        cases ((Value.entryAt? (.name "$schema") entries).getD .null).isMap
        · exact .lift _
        · exact .atChild (hvisit _) (.entry key)
      | _ => exact .pure ()

/-- The four rules on one entry, in order. -/
theorem entry (declarations policy : Node) (key : Key) :
    Renders limit depth (Stateful.entry visit declarations policy key)
      (Check.entry visit' declarations policy key) := by
  refine .bind (.lift _) fun v => ?_
  refine .bind (admission policy key _) fun _ => ?_
  refine .bind (requirementRule key _) fun _ => ?_
  refine .bind (policyRule hvisit declarations policy key) fun _ => ?_
  exact ownSchema hvisit key

theorem object (declarations policy : Node) :
    Renders limit depth (Stateful.object visit declarations policy)
      (Check.object visit' declarations policy) := by
  refine .bind (.lift _) fun v => ?_
  cases v with
  | map entries =>
    refine .bind (.lift _) fun _ => ?_
    refine .bind (declaredProperties hvisit _ _ _) fun _ => ?_
    refine .bind (.lift _) fun w => ?_
    exact .each (entry hvisit declarations policy) w.keys
  | _ => exact .lift _

/-- Entries without declarations, one by one. -/
theorem additionalOnly (policy : Node) :
    Renders limit depth (Stateful.additionalOnly visit policy)
      (Check.additionalOnly visit' policy) := by
  refine .bind (.lift _) fun v => ?_
  cases Check.allows policy.tree || !v.isMap with
  | true => exact .pure ()
  | false =>
    refine .bind (.lift _) fun s => .each (fun key => ?_) v.keys
    unfold Stateful.additionalEntry Check.additionalEntry
    cases Check.forbids policy.tree
    · exact .atChild (hvisit policy) (.entry key)
    · exact .failAt key _

/-- A reference that is resolved leads to a visit; all else only reads and tells. -/
theorem refRule (n : Node) :
    Renders limit depth (Stateful.refRule visit n) (Check.refRule visit' n) := by
  -- a name leads to nothing, to the node at hand, or to a schema that is visited
  have hfollow (ref : String) :
      Renders limit depth (Stateful.follow visit n ref) (Check.follow visit' n ref) := by
    refine .bind (.lift _) fun p => ?_
    cases p.registry.find? ref with
    | none => exact .bind (.lift _) fun _ => .lift _
    | some target =>
      by_cases hself : target.origin = n.origin
      · simpa only [hself, if_true] using .pure ()
      · simpa only [hself, if_false] using hvisit target
  refine .bind (.lift _) fun v => ?_
  cases v with
  | none => exact .pure ()
  | some w =>
    cases w with
    | str ref => exact hfollow ref
    | _ => exact .pure ()

/-- The schemas that this one extends are visited at the value itself. -/
theorem extendsRule (n : Node) :
    Renders limit depth (Stateful.extendsRule visit n) (Check.extendsRule visit' n) := by
  refine .whenGiven n "extends" fun rule => ?_
  cases rule.tree with
  | list _ => exact .eachElement rule fun _ base => hvisit base
  | _ => exact hvisit rule

/-- What is disallowed is attempted. -/
theorem disallowRule (n : Node) :
    Renders limit depth (Stateful.disallowRule visit n) (Check.disallowRule visit' n) := by
  refine .whenGiven n "disallow" fun expr => ?_
  refine .bind (.attempt (typeRule hvisit expr)) fun e => ?_
  cases e with
  | none => exact .lift _
  | some _ => exact .pure ()

/-- The rules on members, by what the value has. -/
theorem memberRules (n : Node) (v : Value) :
    Renders limit depth (Stateful.memberRules visit n v) (Check.memberRules visit' n v) := by
  unfold Stateful.memberRules Check.memberRules
  cases v.elements? with
  | some _ => exact items hvisit n
  | none =>
    refine .bind (.lift _) fun declarations => ?_
    cases declarations with
    | some declarations => exact .bind (.lift _) fun policy => object hvisit declarations policy
    | none =>
      refine .bind (.lift _) fun _ => ?_
      refine .whenTrue _ (.bind (.lift _) fun policy => ?_)
      exact additionalOnly hvisit policy

theorem presentRules (n : Node) (v : Value) :
    Renders limit depth (Stateful.presentRules visit n v) (Check.presentRules visit' n v) := by
  have hcontent : Renders limit depth (Stateful.contentRules visit n v)
      (Check.contentRules visit' n v) := by
    refine .bind (memberRules hvisit n v) fun _ => ?_
    refine .bind (.lift _) fun _ => ?_
    exact .lift _
  refine .bind (.whenGiven n "type" fun expr => typeRule hvisit expr) fun _ => ?_
  refine .bind (disallowRule hvisit n) fun _ => ?_
  cases v with
  | null => exact .pure ()
  | _ => exact hcontent

/-- The rules of a schema render each other, if the visits they make do. -/
theorem property (n : Node) :
    Renders limit depth (Stateful.property visit n) (Check.property visit' n) := by
  have hown : Renders limit depth (Stateful.ownRules visit n) (Check.ownRules visit' n) := by
    refine .bind (.lift _) fun v => ?_
    cases v with
    | missing => exact .lift _
    | _ => exact presentRules hvisit n _
  refine .bind (.lift _) fun _ => ?_
  refine .bind (refRule hvisit n) fun _ => ?_
  refine .bind (extendsRule hvisit n) fun _ => ?_
  exact hown

end Renders

/-- **The count of nesting is the depth that remains.**  With so many checks still to be nested
    before the limit is reached, a run against a schema is the check against it with that depth to
    go, and path and depth are afterwards what they were. -/
theorem against_renders {limit depth : Nat} (remaining : Nat) (h : depth + remaining = limit)
    {fuel : Nat} (hfuel : remaining < fuel) (n : Node) :
    Renders limit depth (against fuel n) (Check.against remaining n) := by
  induction remaining generalizing depth fuel n with
  | zero =>
    obtain rfl : depth = limit := h
    cases fuel with
    | zero => exact absurd hfuel (Nat.not_lt_zero _)
    | succ fuel =>
      -- the limit is reached here, and arriving is what refuses
      refine .arrive (Nat.le_refl _) (.bind (.lift _) fun v => ?_)
      exact .whenTrue _ (.nested_at_limit _ n)
  | succ remaining ih =>
    cases fuel with
    | zero => exact absurd hfuel (Nat.not_lt_zero _)
    | succ fuel =>
      -- one level deeper, one check less is to go
      have hvisit (k : Node) : Renders limit (depth + 1) (against fuel k)
          (Check.against remaining k) := ih (by omega) (by omega) k
      refine .arrive (by omega) (.bind (.lift _) fun v => ?_)
      exact .whenTrue _ (.nested (by omega) (.property hvisit n) n)

end Conformance.Stateful

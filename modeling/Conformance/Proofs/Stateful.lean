/-
  Path and depth after a call.

  An `Engine` is a validator that has a path and a count of nesting of its own, which all its calls
  share.  A call on a whole instance sets them back first; a call on a part of one takes them as they
  are.  Nothing is lost by that (`path_and_depth_restored`): whatever comes of a call, and of any call
  made in its course, path and depth are afterwards what they were, so between calls the path is the
  root, the whole depth is there to go, and an engine answers what a validator without such a state
  answers.
-/
import Conformance.Proofs.Stateful.Rules
import Conformance.Proofs.Requests

namespace Conformance

/-- One cursor is another again: path and depth are the same, and no value has been handed to a
    schema beyond the limit in between. -/
structure Cursor.Restored (limit : Nat) (k k' : Cursor) : Prop where
  path : k'.path = k.path
  depth : k'.depth = k.depth
  visited : ∃ new, k'.visited = new ++ k.visited ∧ ∀ d ∈ new, d ≤ limit

/-- A scope without path and depth. -/
def Scope.frame (s : Scope) : Frame := ⟨s.key, s.place, s.renewals, s.interactive, s.limit⟩

namespace Stateful

/-- The calls that can be made of a validator, from without or in the course of another call: of a
    value against a schema, of an object against declarations, of a value against a type.  Beside
    each stands the check that it comes to where so many checks may still be nested. -/
inductive Called (fuel remaining : Nat) : Stateful Unit → Check Unit → Prop
  | property (n : Node) : Called fuel remaining (against fuel n) (Check.against remaining n)
  | object (declarations policy : Node) :
    Called fuel remaining (object (against fuel) declarations policy)
      (Check.object (Check.against remaining) declarations policy)
  | type (expr : Node) :
    Called fuel remaining (typeRule (against fuel) expr)
      (Check.typeRule (Check.against remaining) expr)

/-- A call renders its check. -/
theorem Called.renders {fuel remaining : Nat} {r : Stateful Unit} {c : Check Unit}
    (h : Called fuel remaining r c) {limit depth : Nat} (hdepth : depth + remaining = limit)
    (hfuel : remaining < fuel) : Renders limit depth r c := by
  have hvisit (k : Node) : Renders limit depth (against fuel k) (Check.against remaining k) :=
    against_renders remaining hdepth hfuel k
  cases h with
  | property n => exact hvisit n
  | object declarations policy => exact .object hvisit declarations policy
  | type expr => exact .typeRule hvisit expr

/-- A run that renders a check restores the cursor and comes to what the check comes to. -/
theorem Renders.restored {α : Type} {limit depth : Nat} {r : Stateful α} {c : Check α}
    (h : Renders limit depth r c) {f : Frame} {k : Cursor} (hf : f.limit = limit)
    (hk : k.depth = depth) (p : Progress) :
    k.Restored limit (r f k p).2.1 ∧ (r f k p).1 = (c (f.scope k) p).1 ∧
      (r f k p).2.2 = (c (f.scope k) p).2 := by
  obtain ⟨new, hnew, hrun⟩ := h f k p hf hk
  rw [hrun]
  exact ⟨⟨rfl, rfl, new, rfl, hnew⟩, rfl, rfl⟩

/-- A run as a check that begins at a cursor, whatever its scope says of path and depth. -/
def startingAt {α : Type} (k : Cursor) (r : Stateful α) : Check α := fun s p =>
  let (result, _, p') := r s.frame k p
  (result, p')

/-- A run that renders a check is that check where path and depth are those of the cursor. -/
theorem Renders.startingAt {α : Type} {limit depth : Nat} {r : Stateful α} {c : Check α}
    (h : Renders limit depth r c) {k : Cursor} {s : Scope} (hlimit : s.limit = limit)
    (hdepth : k.depth = depth) (hscope : s.frame.scope k = s) (p : Progress) :
    startingAt k r s p = c s p := by
  obtain ⟨new, _, hrun⟩ := h s.frame k p hlimit hdepth
  unfold Stateful.startingAt
  rw [hrun, hscope]

end Stateful

/-- A validator with path and depth of its own. -/
structure Engine where
  validator : Validator
  cursor : Cursor

namespace Engine

open Stateful

/-- An engine as it is made: at the root, with the whole depth to go. -/
def new (settings : Settings) (switch : Value) : Engine := ⟨.new settings switch, [], 0, []⟩

/-- The path that messages show. -/
def path (e : Engine) : String := e.cursor.path.text

variable (e : Engine)

/-- A value against a schema.  One more than the limit bounds the recursion. -/
def visit (schema : Node) : Stateful Unit := against (e.validator.settings.maxDepth + 1) schema

/-- A whole instance against a schema, or against one that it carries itself. -/
def rootCheck (inst schema : Node) : Stateful Unit :=
  if schema.tree.isGiven then e.visit schema
  else
    match inst.tree with
    | .map entries =>
      let own := (Value.entryAt? (.name "$schema") entries).getD .null
      if !own.isTruthy then pure ()
      else if own.isMap then e.visit (inst.down (.name "$schema") own)
      else Check.note (.schemaIgnored own.kind)
    | _ => pure ()

/-- The run that a request asks for. -/
def runOf : Request → Stateful Unit
  | .validate inst schema => e.rootCheck inst schema
  | .property _ _ _ schema => e.visit schema
  | .object _ declarations policy => Stateful.object e.visit declarations policy
  | .type _ _ _ expr => Stateful.typeRule e.visit expr

/-- Where a request begins: a whole instance sets path and depth back, anything else takes them as
    they are. -/
def cursorFor : Request → Cursor
  | .validate _ _ => { e.cursor with path := [], depth := 0 }
  | _ => e.cursor

/-- What comes of a request. -/
def answer (r : Request) : Outcome Unit :=
  let check := startingAt (e.cursorFor r) (e.runOf r)
  match r with
  | .validate inst _ =>
    { e.validator with applied := [] }.run rootKey inst.origin (.ofValue inst.tree) check
  | .property parent key handedIn _ => (e.validator.onMember parent key handedIn check).outcome
  | .object inst _ _ => e.validator.run .null inst.origin (.ofValue inst.tree) check
  | .type parent key handedIn _ => (e.validator.onMember parent key handedIn check).outcome

/-- The engine after a request, which leaves the cursor where its run does. -/
def after (r : Request) : Engine :=
  ⟨(e.answer r).validator,
    (e.runOf r (e.validator.scopeOf r).frame (e.cursorFor r) (e.validator.startOf r)).2.1⟩

/-! ## One request -/

/-- The run of a request renders its check, where the whole depth is there to go. -/
theorem runOf_renders (r : Request) :
    Renders e.validator.settings.maxDepth 0 (e.runOf r) (e.validator.checkOf r) := by
  have hvisit (k : Node) : Renders e.validator.settings.maxDepth 0 (e.visit k)
      (e.validator.visit k) := against_renders _ (Nat.zero_add _) (Nat.lt_succ_self _) k
  cases r with
  | property parent key handedIn schema => exact hvisit schema
  | object inst declarations policy => exact .object hvisit declarations policy
  | type parent key handedIn expr => exact .typeRule hvisit expr
  | validate inst schema =>
    show Renders _ 0 (e.rootCheck inst schema) (e.validator.rootCheck inst schema)
    -- both choose the schema in the same way, by what is handed in and what the instance carries
    unfold rootCheck Validator.rootCheck
    cases schema.tree.isGiven with
    | true => exact hvisit schema
    | false =>
      cases inst.tree with
      | map entries =>
        dsimp only
        generalize (Value.entryAt? (.name "$schema") entries).getD .null = own
        cases own.isTruthy with
        | false => exact .pure ()
        | true =>
          cases own.isMap with
          | false => exact .lift _
          | true => exact hvisit _
      | _ => exact .pure ()

/-- A request on a part of an instance is a call. -/
theorem called {r : Request} (h : ∀ inst schema, r ≠ .validate inst schema) (remaining : Nat) :
    ∃ c, Called (e.validator.settings.maxDepth + 1) remaining (e.runOf r) c := by
  cases r with
  | validate inst schema => exact absurd rfl (h inst schema)
  | property parent key handedIn schema => exact ⟨_, .property schema⟩
  | object inst declarations policy => exact ⟨_, .object declarations policy⟩
  | type parent key handedIn expr => exact ⟨_, .type expr⟩

/-- From the root on, a run that renders a check comes to what the check comes to. -/
theorem run_startingAt (v : Validator) {r : Stateful Unit} {c : Check Unit}
    (h : Renders v.settings.maxDepth 0 r c) {k : Cursor} (hpath : k.path = []) (hdepth : k.depth = 0)
    (key : Value) (place : Place) (slot : Slot) :
    v.run key place slot (startingAt k r) = v.run key place slot c := by
  unfold Validator.run
  dsimp only
  rw [h.startingAt rfl hdepth]
  unfold Frame.scope
  -- a scope at the root is what a run of a validator begins with
  rw [hpath, hdepth]
  rfl

variable {e}

/-- Where a request begins at the root, an engine answers what its validator answers. -/
theorem answer_eq {r : Request} (hpath : (e.cursorFor r).path = [])
    (hdepth : (e.cursorFor r).depth = 0) : e.answer r = e.validator.answer r := by
  have hrun (key : Value) (place : Place) (slot : Slot) :=
    run_startingAt e.validator (e.runOf_renders r) hpath hdepth key place slot
  -- the calls differ in what they make of the run, which is the same
  cases r with
  | validate inst schema =>
    exact run_startingAt { e.validator with applied := [] } (e.runOf_renders (.validate inst schema))
      hpath hdepth rootKey inst.origin (.ofValue inst.tree)
  | object inst declarations policy => exact hrun ..
  | property parent key handedIn schema =>
    unfold answer Validator.answer Validator.checkProperty Validator.onMember
    dsimp only
    rw [hrun]
    rfl
  | type parent key handedIn expr =>
    unfold answer Validator.answer Validator.checkType Validator.onMember
    dsimp only
    rw [hrun]
    rfl

/-- A request that begins at the root ends there. -/
theorem after_cursor {r : Request} (hpath : (e.cursorFor r).path = [])
    (hdepth : (e.cursorFor r).depth = 0) :
    (e.after r).cursor.path = [] ∧ (e.after r).cursor.depth = 0 := by
  have hrestored := ((e.runOf_renders r).restored (f := (e.validator.scopeOf r).frame)
    (k := e.cursorFor r) rfl hdepth (e.validator.startOf r)).1
  exact ⟨hrestored.path.trans hpath, hrestored.depth.trans hdepth⟩

end Engine

/-! ## Sessions -/

/-- A call in a session: a request, or a whole instance on which a report is made. -/
inductive PublicCall where
  | request (r : Request)
  | report (inst schema : Node)

/-- The engine after a call.  A report is made on what a request comes to. -/
def Engine.perform (e : Engine) : PublicCall → Engine
  | .request r => e.after r
  | .report inst schema => e.after (.validate inst schema)

/-- The validator after a call. -/
def Validator.called (v : Validator) : PublicCall → Validator
  | .request r => (v.answer r).validator
  | .report inst schema => (v.check inst schema).validator

namespace Engine

open Stateful

/-- An engine at the root, with a certain validator. -/
structure AtRoot (e : Engine) (v : Validator) : Prop where
  path : e.cursor.path = []
  depth : e.cursor.depth = 0
  validator : e.validator = v

/-- A request finds the root where the engine is at the root. -/
theorem AtRoot.cursorFor {e : Engine} {v : Validator} (h : e.AtRoot v) (r : Request) :
    (e.cursorFor r).path = [] ∧ (e.cursorFor r).depth = 0 := by
  cases r with
  | validate inst schema => exact ⟨rfl, rfl⟩
  | _ => exact ⟨h.path, h.depth⟩

/-- After a call an engine is at the root again, with the validator that the call leaves. -/
theorem AtRoot.perform {e : Engine} {v : Validator} (h : e.AtRoot v) (call : PublicCall) :
    (e.perform call).AtRoot (v.called call) := by
  have hafter (r : Request) : (e.after r).AtRoot (v.answer r).validator := by
    obtain ⟨hpath, hdepth⟩ := h.cursorFor r
    obtain ⟨hpath', hdepth'⟩ := after_cursor hpath hdepth
    refine ⟨hpath', hdepth', ?_⟩
    show (e.answer r).validator = _
    rw [answer_eq hpath hdepth, h.validator]
  -- a report is made after the request, and does not touch the cursor
  cases call with
  | request r => exact hafter r
  | report inst schema => exact hafter (.validate inst schema)

theorem AtRoot.session {e : Engine} {v : Validator} (h : e.AtRoot v) (calls : List PublicCall) :
    (calls.foldl Engine.perform e).AtRoot (calls.foldl Validator.called v) := by
  -- each call starts at the root, because the one before has ended there
  induction calls generalizing e v with
  | nil => exact h
  | cons call rest ih => exact ih (h.perform call)

/-- **Path and depth are restored on every exit.**  Every call of a value against a schema, of an
    object against declarations or of a value against a type, from whatever path and from a depth
    within the limit, leaves path and depth as they were, whether it comes to a result or to a failure
    and whether or not that failure is caught; no value is handed to a schema beyond the limit in its
    course; and it comes to what the check comes to that is told path and depth.  So it is with
    requests.  After any session of calls on a new engine, the path is the root and the whole depth is
    there to go, and the engine has the validator and gives the answers that the calls without such a
    state come to. -/
theorem path_and_depth_restored :
    (∀ fuel remaining r c, Called fuel remaining r c → ∀ (f : Frame) (k : Cursor) (p : Progress),
      k.depth + remaining = f.limit → remaining < fuel →
        k.Restored f.limit (r f k p).2.1 ∧ k.Restored f.limit (attempt r f k p).2.1 ∧
          (r f k p).1 = (c (f.scope k) p).1 ∧ (r f k p).2.2 = (c (f.scope k) p).2) ∧
    (∀ (e : Engine) (r : Request), (∀ inst schema, r ≠ .validate inst schema) →
      e.cursor.depth ≤ e.validator.settings.maxDepth →
        e.cursor.Restored e.validator.settings.maxDepth (e.after r).cursor) ∧
    ∀ (settings : Settings) (switch : Value) (calls : List PublicCall),
      let e := calls.foldl perform (new settings switch)
      let v := calls.foldl Validator.called (.new settings switch)
      e.path = "$" ∧ e.path = v.path ∧ e.cursor.depth = 0 ∧ e.validator = v ∧
        ∀ r, e.answer r = v.answer r := by
  refine ⟨fun fuel remaining r c hr f k p hdepth hfuel => ?_, fun e r hr hle => ?_, ?_⟩
  · have hrenders := hr.renders hdepth hfuel
    obtain ⟨hrestored, hsame⟩ := hrenders.restored rfl rfl p
    exact ⟨hrestored, (hrenders.attempt.restored rfl rfl p).1, hsame⟩
  -- only a call on a whole instance sets the cursor back
  · have hcursor : e.cursorFor r = e.cursor := by
      cases r with
      | validate inst schema => exact absurd rfl (hr inst schema)
      | _ => rfl
    obtain ⟨c, hc⟩ := e.called hr (e.validator.settings.maxDepth - e.cursor.depth)
    have hrenders : Renders e.validator.settings.maxDepth e.cursor.depth (e.runOf r) c :=
      hc.renders (by omega) (by omega)
    have hrestored := (hrenders.restored (f := (e.validator.scopeOf r).frame) (k := e.cursor) rfl rfl
      (e.validator.startOf r)).1
    rw [← hcursor] at hrestored ⊢
    exact hrestored
  · intro settings switch calls e v
    -- a new engine stands at the root, and every call keeps it there
    have hroot : e.AtRoot v := AtRoot.session ⟨rfl, rfl, rfl⟩ calls
    have hpath : e.path = v.path := congrArg Trail.text hroot.path
    refine ⟨hpath, hpath, hroot.depth, hroot.validator, fun r => ?_⟩
    obtain ⟨hp, hd⟩ := hroot.cursorFor r
    rw [answer_eq hp hd, hroot.validator]

/-- A request begins one level below the limit, on a path of its own, and fails at the limit.  The
    error shows the whole path; afterwards path and depth are what they were. -/
theorem restored_after_depth_limit :
    let e : Engine := ⟨.new .default .null, [.entry (.name "a")], 99, []⟩
    let parent : Node := ⟨⟨.instance 0, []⟩, .map [(.name "k", .map [(.name "b", .int 1)])]⟩
    let schema : Value := .map [(.name "properties",
      .map [(.name "b", .map [(.name "type", .str "string")])])]
    let r : Request := .property parent (.str "k") none (.ofSchema 0 schema)
    (e.answer r).result = .error (.violation
        ⟨.tooDeep 100, .str "b", some [.entry (.name "a"), .entry (.name "b")]⟩) ∧
      e.cursor.depth ≤ e.validator.settings.maxDepth ∧
      (e.after r).cursor.path = [.entry (.name "a")] ∧ (e.after r).cursor.depth = 99 := by
  intro e parent schema r
  have hrestored : e.cursor.Restored e.validator.settings.maxDepth (e.after r).cursor :=
    path_and_depth_restored.2.1 e r (fun _ _ => nofun) (by decide)
  exact ⟨by decide +kernel, by decide, hrestored.path, hrestored.depth⟩

end Engine

end Conformance

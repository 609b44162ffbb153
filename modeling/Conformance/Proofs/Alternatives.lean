/-
  Alternatives of a type, in order.

  A list of alternatives may have lists among them, and the check goes down into these, each an
  attempt inside an attempt.  What it comes to is simpler: the leaves are tried from left to right,
  each from what the one before has left, and the first that does not reject the value decides
  (`Tried`).  If none does, the value is of the wrong type.

  A rejected list leaves one more event in the journal than its leaves do, and nothing else.  So a
  step of the proof relates a run on the nested list to a run on its leaves that agrees with it but
  for that (`Progress.Agrees`), and checks do not look at the journal.  The list with its leaves side
  by side (`gatheredRule`) is tried in the same way, and both come to the same
  (`alternatives_are_their_leaves`), down to the message where no list among the alternatives is
  empty.
-/
import Conformance.Proofs.Journals
import Conformance.Proofs.Resolution

namespace Conformance

namespace Check

/-! ## Trying leaves -/

/-- The value at hand against a type expression as it read when it was reached. -/
def reachedType (visit : Node → Check Unit) (expr : Node) : Check Unit :=
  match TypeTest.ofValue expr.origin expr.tree with
  | .ok test => resolvedType visit test expr
  | .error name => failPlaceless (.unsupportedType name)

/-- While an expression reads as it did, this is the rule on types. -/
theorem typeRule_eq_reachedType {visit : Node → Check Unit} {expr : Node} {p : Progress}
    (h : expr.content p.writes = expr.tree) (s : Scope) :
    typeRule visit expr s p = reachedType visit expr s p := by
  unfold typeRule
  rw [content_bind, h]
  rfl

/-- A run rejects the value: it ends with an error that blames the data. -/
def Rejects (r : Except Failure Unit) : Prop := ∃ e, r = .error (.violation e) ∧ e.errorClass = .data

/-- Leaves are tried in order, each from what the one before has left.  The first that does not
    reject the value decides, and those after it are not tried. -/
inductive Tried (visit : Node → Check Unit) (s : Scope) :
    List Node → Progress → Option (Except Failure Unit) → Progress → Prop
  | none {p : Progress} : Tried visit s [] p none p
  | decided {leaf : Node} {rest : List Node} {p q : Progress} {r : Except Failure Unit}
    (h : reachedType visit leaf s p = (r, q)) (hr : ¬ Rejects r) :
    Tried visit s (leaf :: rest) p (some r) q
  | rejected {leaf : Node} {rest : List Node} {p q q' : Progress} {r : Except Failure Unit}
    {d : Option (Except Failure Unit)} (h : reachedType visit leaf s p = (r, q)) (hr : Rejects r)
    (later : Tried visit s rest q d q') : Tried visit s (leaf :: rest) p d q'

namespace Tried

variable {visit : Node → Check Unit} {s : Scope} {leaves more : List Node} {p q q' : Progress}

/-- The leaf that decides does not reject the value. -/
theorem not_rejects {r : Except Failure Unit} (h : Tried visit s leaves p (some r) q) :
    ¬ Rejects r := by
  -- the index has to be a variable for the induction
  generalize hd : some r = d at h
  induction h with
  | none => cases hd
  | decided _ hr => cases hd; exact hr
  | rejected _ _ _ ih => exact ih hd

/-- Where a leaf has decided, further leaves make no difference. -/
theorem append_of_decided {r : Except Failure Unit} (h : Tried visit s leaves p (some r) q) :
    Tried visit s (leaves ++ more) p (some r) q := by
  generalize hd : some r = d at h
  -- those that rejected the value before are tried in the same way
  induction h with
  | none => cases hd
  | decided h hr => exact .decided h hr
  | rejected h hr _ ih => exact .rejected h hr (ih hd)

/-- Where all leaves have rejected the value, further leaves are tried after them. -/
theorem append_of_rejected {d : Option (Except Failure Unit)}
    (h : Tried visit s leaves p Option.none q) (h' : Tried visit s more q d q') :
    Tried visit s (leaves ++ more) p d q' := by
  generalize hd : (Option.none : Option (Except Failure Unit)) = o at h
  induction h with
  | none => exact h'
  | decided _ _ => cases hd
  | rejected h hr _ ih => exact .rejected h hr (ih h' hd)

end Tried

/-! ## Checks that try leaves -/

/-- How a check ends that tries leaves: as the leaf that has decided, or by rejecting the value. -/
inductive Ending : Option (Except Failure Unit) → Except Failure Unit → Prop
  | decided (r : Except Failure Unit) : Ending (some r) r
  | rejected {r : Except Failure Unit} (h : Rejects r) : Ending none r

/-- A check comes to what trying leaves in order comes to, but for the journal. -/
def Tries (visit : Node → Check Unit) (leaves : List Node) (c : Check Unit) : Prop :=
  ∀ s p p', p.Agrees p' →
    ∃ d q, Tried visit s leaves p d q ∧ q.Agrees (c s p').2 ∧ Ending d (c s p').1

section

variable {visit : Node → Check Unit}

/-- One test, of the value or against a schema, comes to the same whatever expression it is said to
    stand for. -/
theorem resolvedType_agrees (hvisit : ∀ k, IgnoresJournal Eq (visit k) (visit k)) {t : TypeTest}
    (ht : ∀ ts, t ≠ .anyOf ts) (k l : Node) {p p' : Progress} (h : p.Agrees p') (s : Scope) :
    (resolvedType visit t k s p).2.Agrees (resolvedType visit t l s p').2 ∧
      ((resolvedType visit t l s p').1 = (resolvedType visit t k s p).1 ∨
        Rejects (resolvedType visit t k s p).1 ∧ Rejects (resolvedType visit t l s p').1) := by
  cases t with
  | anything => exact ⟨h, Or.inl rfl⟩
  | classes members =>
    simp only [resolvedType]
    rw [value_bind, value_bind, h.slot]
    split
    · exact ⟨h, Or.inl rfl⟩
    · exact ⟨h, Or.inr ⟨⟨_, rfl, rfl⟩, ⟨_, rfl, rfl⟩⟩⟩
  | schema node =>
    -- an inline schema is visited, and visits do not look at the journal
    obtain ⟨hresult, hprogress⟩ := (hvisit node).agrees h s
    exact ⟨hprogress, Or.inl hresult⟩
  | anyOf ts => exact absurd rfl (ht ts)

/-- A leaf is tried by itself. -/
theorem tries_leaf (hvisit : ∀ k, IgnoresJournal Eq (visit k) (visit k)) {leaf : Node}
    {t : TypeTest}
    (ht : ∀ ts, t ≠ .anyOf ts) (h : TypeTest.ofValue leaf.origin leaf.tree = .ok t) (expr : Node) :
    Tries visit [leaf] (resolvedType visit t expr) := by
  intro s p p' hp
  obtain ⟨hagrees, hresult⟩ := resolvedType_agrees hvisit ht leaf expr hp s
  have hleaf : reachedType visit leaf s p = resolvedType visit t leaf s p := by
    unfold reachedType
    rw [h]
  rcases hrun : resolvedType visit t leaf s p with ⟨r, q⟩
  rw [hrun] at hleaf hagrees hresult
  -- a leaf decides unless it rejects the value
  by_cases hr : Rejects r
  · refine ⟨none, q, .rejected hleaf hr .none, hagrees, .rejected ?_⟩
    rcases hresult with hsame | ⟨_, hr'⟩
    · rwa [hsame]
    · exact hr'
  · refine ⟨some r, q, .decided hleaf hr, hagrees, ?_⟩
    rcases hresult with hsame | ⟨hr', _⟩
    · rw [hsame]
      exact .decided r
    · exact absurd hr' hr

/-- What the question whether one of the leaves fits comes to. -/
def answered : Option (Except Failure Unit) → Except Failure Bool
  | none => .ok false
  | some (.ok _) => .ok true
  | some (.error f) => .error f

/-- How an attempt ends at what tries leaves: it is over where a leaf has decided, and goes on where
    all leaves have rejected the value. -/
inductive Attempts : Option (Except Failure Unit) → Except Failure (Option Violation) → Prop
  | fits : Attempts (some (.ok ())) (.ok none)
  | stops (f : Failure) : Attempts (some (.error f)) (.error f)
  | goesOn (e : Violation) : Attempts none (.ok (some e))

/-- An attempt goes on where the value is rejected, and is over for any other end. -/
theorem attempt_of_ending {c : Check Unit} {s : Scope} {p : Progress}
    {d : Option (Except Failure Unit)} (h : Ending d (c s p).1) (hd : ∀ r, d = some r → ¬ Rejects r) :
    Attempts d (attempt c s p).1 := by
  unfold attempt
  rcases hc : c s p with ⟨r, q⟩
  rw [hc] at h
  cases h with
  | rejected h =>
    obtain ⟨e, he, hdata⟩ := h
    obtain rfl : r = .error (.violation e) := he
    simp only [hdata, if_true]
    exact .goesOn e
  | decided =>
    cases r with
    | ok _ => exact .fits
    | error f =>
      -- of the violations a leaf decides with, none blames the data
      cases f with
      | fault _ => exact .stops _
      | violation e =>
        have hsevere : e.errorClass ≠ .data := fun hdata => hd _ rfl ⟨e, rfl, hdata⟩
        simp only [hsevere, if_false]
        exact .stops _

/-- Alternatives one after the other: their leaves are tried one after the other. -/
theorem anyAlternative_tries {pairs : List (List Node × TypeTest)}
    (h : ∀ x ∈ pairs, ∀ expr, Tries visit x.1 (resolvedType visit x.2 expr)) (expr : Node) (i : Nat)
    (s : Scope) {p p' : Progress} (hp : p.Agrees p') :
    ∃ d q, Tried visit s (pairs.flatMap (·.1)) p d q ∧
      q.Agrees (anyAlternative visit (pairs.map (·.2)) expr i s p').2 ∧
      (anyAlternative visit (pairs.map (·.2)) expr i s p').1 = answered d := by
  induction pairs generalizing i p p' with
  | nil => exact ⟨none, p, .none, hp, rfl⟩
  | cons x rest ih =>
    obtain ⟨leaves, t⟩ := x
    let alternative := expr.down (.index i)
      (((expr.content p'.writes).child? (.index i)).getD .missing)
    obtain ⟨d, q, htried, hagrees, hending⟩ :=
      h (leaves, t) (List.mem_cons_self ..) alternative s p p' hp
    have helement : element expr i s p' = (.ok alternative, p') := rfl
    have hattempts := attempt_of_ending hending fun r hr => (hr ▸ htried).not_rejects
    rw [← attempt_progress] at hagrees
    rw [List.map_cons, List.flatMap_cons, anyAlternative, bind_run_ok helement]
    rcases hrun : attempt (resolvedType visit t alternative) s p' with ⟨r, p''⟩
    rw [hrun] at hattempts hagrees
    -- a leaf of this alternative has decided, or all of them have rejected the value
    cases hattempts with
    | fits =>
      rw [bind_run_ok hrun]
      exact ⟨_, q, htried.append_of_decided, hagrees, rfl⟩
    | stops f =>
      rw [bind_run_error hrun]
      exact ⟨_, q, htried.append_of_decided, hagrees, rfl⟩
    | goesOn e =>
      rw [bind_run_ok hrun]
      -- only the journal tells that the alternative was rejected
      have htold : q.Agrees _ := hagrees.trans (.tell p'' (e := .alternativeRejected s.trail
        (alternative.content p''.writes).typeText e.message) rfl)
      obtain ⟨d, r, htried', hagrees', hanswer⟩ :=
        ih (fun x hx => h x (List.mem_cons_of_mem _ hx)) (i + 1) htold
      exact ⟨d, r, htried.append_of_rejected htried', hagrees', hanswer⟩

/-- How a check ends where no leaf fits: the value is of the wrong type. -/
def unfit (s : Scope) (p : Progress) (described : Value) : Except Failure Unit :=
  .error (.violation
    ⟨.wrongType p.slot.value.kind described.typeText, s.key, some s.trail⟩)

/-- A list of alternatives ends as the leaf that has decided, and if there is none, with an error
    that describes the list as it reads by then. -/
theorem anyOf_run {pairs : List (List Node × TypeTest)}
    (h : ∀ x ∈ pairs, ∀ expr, Tries visit x.1 (resolvedType visit x.2 expr)) (expr : Node)
    (s : Scope) {p p' : Progress} (hp : p.Agrees p') :
    let run := resolvedType visit (.anyOf (pairs.map (·.2))) expr s p'
    ∃ d q, Tried visit s (pairs.flatMap (·.1)) p d q ∧ q.Agrees run.2 ∧
      run.1 = d.getD (unfit s q (expr.content q.writes)) := by
  intro run
  obtain ⟨d, q, htried, hagrees, hanswer⟩ := anyAlternative_tries h expr 0 s hp
  refine ⟨d, q, htried, ?_⟩
  simp only [run, resolvedType]
  rcases hany : anyAlternative visit (pairs.map (·.2)) expr 0 s p' with ⟨r, p''⟩
  rw [hany] at hanswer hagrees
  obtain rfl : r = answered d := hanswer
  rw [bind_run, hany]
  cases d with
  -- a decision is passed on, and only without one the list is described
  | some r => cases r <;> exact ⟨hagrees, rfl⟩
  | none =>
    refine ⟨hagrees, ?_⟩
    unfold unfit
    rw [← hagrees.slot, ← hagrees.writes]
    rfl

/-- A list of alternatives tries the leaves of all of them. -/
theorem tries_anyOf {pairs : List (List Node × TypeTest)}
    (h : ∀ x ∈ pairs, ∀ expr, Tries visit x.1 (resolvedType visit x.2 expr)) (expr : Node) :
    Tries visit (pairs.flatMap (·.1)) (resolvedType visit (.anyOf (pairs.map (·.2))) expr) := by
  intro s p p' hp
  obtain ⟨d, q, htried, hagrees, hresult⟩ := anyOf_run h expr s hp
  refine ⟨d, q, htried, hagrees, ?_⟩
  rw [hresult]
  cases d with
  | some r => exact .decided r
  | none => exact .rejected ⟨_, rfl, rfl⟩

mutual

/-- A test tries the leaves of the expression that it answers to. -/
theorem tries_of_answers (hvisit : ∀ k, IgnoresJournal Eq (visit k) (visit k)) {origin : Place}
    {v : Value} {t : TypeTest} : TypeTest.Answers origin v t → ∀ expr,
      Tries visit (v.leavesAt origin) (resolvedType visit t expr)
  | .leaf hv ht h, expr => by
    rw [Value.leavesAt_of_not_list hv]
    exact tries_leaf hvisit ht h expr
  | .list h, expr => by
    obtain ⟨pairs, hleaves, htests, hpairs⟩ := pairs_of_answersFrom hvisit h
    -- the leaves of a list are those of its elements, in order
    rw [Value.leavesAt, ← hleaves, ← htests]
    exact tries_anyOf hpairs expr

/-- Tests that answer to the alternatives of a list, each with the leaves that it tries. -/
theorem pairs_of_answersFrom (hvisit : ∀ k, IgnoresJournal Eq (visit k) (visit k)) {origin : Place}
    {i : Nat} {items : List Value} {ts : List TypeTest} : TypeTest.AnswersFrom origin i items ts →
      ∃ pairs : List (List Node × TypeTest), pairs.flatMap (·.1) = leavesFrom origin i items ∧
        pairs.map (·.2) = ts ∧
        ∀ x ∈ pairs, ∀ expr, Tries visit x.1 (resolvedType visit x.2 expr)
  | .nil => ⟨[], rfl, rfl, nofun⟩
  | .cons (v := v) (t := t) head tail => by
    -- each element is paired with its leaves; the recursion is that of the answers
    obtain ⟨pairs, hleaves, htests, hpairs⟩ := pairs_of_answersFrom hvisit tail
    refine ⟨(v.leavesAt (origin.down (.index i)), t) :: pairs, ?_, ?_, fun x hx => ?_⟩
    · rw [List.flatMap_cons, hleaves, leavesFrom]
    · rw [List.map_cons, htests]
    · rcases List.mem_cons.mp hx with rfl | hx
      · exact tries_of_answers hvisit head
      · exact hpairs x hx

end

end

/-! ## A list with the leaves side by side -/

end Check

/-- Nothing among the leaves of an expression is a list. -/
theorem Value.isList_of_mem_leavesAt {v : Value} {origin : Place} :
    ∀ leaf ∈ v.leavesAt origin, leaf.tree.isList = false := by
  -- the recursion goes through expressions and lists of them, and so do the two statements
  refine Value.leavesAt.induct (fun origin v => ∀ leaf ∈ v.leavesAt origin, leaf.tree.isList = false)
    (fun origin i items => ∀ leaf ∈ leavesFrom origin i items, leaf.tree.isList = false)
    ?_ ?_ ?_ ?_ origin v
  · intro origin items h
    exact h
  · intro v origin hv
    rw [leavesAt_of_not_list (isList_of_ne hv)]
    simpa using isList_of_ne hv
  · intro origin i leaf hleaf
    cases hleaf
  · intro origin i v rest hfirst hothers leaf hleaf
    rw [leavesFrom, List.mem_append] at hleaf
    exact hleaf.elim (hfirst leaf) (hothers leaf)

open TypeTest in
/-- Expressions that stand at places of their own, each resolved where it stands. -/
def TypeTest.ofEach : List Node → Except String (List TypeTest)
  | [] => .ok []
  | expr :: rest => do return (← ofValue expr.origin expr.tree) :: (← ofEach rest)

/-- The elements of a list from an index on, each where it stands. -/
def elementsFrom (origin : Place) (i : Nat) : List Value → List Node
  | [] => []
  | v :: rest => ⟨origin.down (.index i), v⟩ :: elementsFrom origin (i + 1) rest

/-- The elements of a list read as the list does. -/
theorem tree_elementsFrom (origin : Place) (i : Nat) (items : List Value) :
    (elementsFrom origin i items).map (·.tree) = items := by
  induction items generalizing i with
  | nil => rfl
  | cons v rest ih => rw [elementsFrom, List.map_cons, ih]

/-- To resolve the elements where they stand is to resolve the list. -/
theorem ofEach_elementsFrom (origin : Place) (i : Nat) (items : List Value) :
    TypeTest.ofEach (elementsFrom origin i items) = TypeTest.ofItems origin i items := by
  induction items generalizing i with
  | nil => rfl
  | cons v rest ih => rw [elementsFrom, TypeTest.ofEach, ih, TypeTest.ofItems]

/-- A list is resolved to the alternatives that its elements are resolved to. -/
theorem TypeTest.ofValue_list (origin : Place) (items : List Value) :
    ofValue origin (.list items) = (ofItems origin 0 items).map .anyOf := by
  rw [ofValue]
  cases ofItems origin 0 items <;> rfl

namespace Check

/-- The value at hand against a list that is put together from expressions standing elsewhere. -/
def gatheredRule (visit : Node → Check Unit) (exprs : List Node) : Check Unit :=
  match TypeTest.ofEach exprs with
  | .ok tests => resolvedType visit (.anyOf tests) (.ofSchema 0 (.list (exprs.map (·.tree))))
  | .error name => failPlaceless (.unsupportedType name)

variable {visit : Node → Check Unit}

/-! Nothing but what an expression says matters to the rule on types; so what is said of gathered
expressions is said of the lists in schemas. -/

/-- In schema documents nothing is written, so what a node says is what its tree says. -/
theorem content_congr {k l : Node} (hk : k.InSchema) (hl : l.InSchema) (h : k.tree = l.tree) :
    content k = content l := by
  funext s p
  show (Except.ok (k.content p.writes), p) = (.ok (l.content p.writes), p)
  rw [hk.content, hl.content, h]

mutual

/-- A resolved test looks at its expression for messages and elements only. -/
theorem resolvedType_congr {k l : Node} (hk : k.InSchema) (hl : l.InSchema) (h : k.tree = l.tree) :
    ∀ t : TypeTest, resolvedType visit t k = resolvedType visit t l
  | .anything => rfl
  | .classes members => by simp only [resolvedType, mismatch, content_congr hk hl h]
  | .schema _ => rfl
  | .anyOf ts => by
    simp only [resolvedType, mismatch, content_congr hk hl h, anyAlternative_congr hk hl h ts 0]

/-- The same for alternatives, which are looked up below the expression. -/
theorem anyAlternative_congr {k l : Node} (hk : k.InSchema) (hl : l.InSchema)
    (h : k.tree = l.tree) : ∀ (ts : List TypeTest) (i : Nat),
      anyAlternative visit ts k i = anyAlternative visit ts l i
  | [], _ => rfl
  | t :: rest, i => by
    funext s p
    -- the element at an index is the same in both
    let part (n : Node) : Node := n.down (.index i) ((n.tree.child? (.index i)).getD .missing)
    have helement {n : Node} (hn : n.InSchema) : element n i s p = (.ok (part n), p) := by
      unfold element
      rw [hn.content]
    have hpart : (part k).tree = (part l).tree := by simp only [part, Node.down, h]
    unfold anyAlternative
    rw [bind_run_ok (helement hk), bind_run_ok (helement hl),
      resolvedType_congr (show (part k).InSchema from hk) (show (part l).InSchema from hl) hpart t,
      content_congr (show (part k).InSchema from hk) (show (part l).InSchema from hl) hpart,
      anyAlternative_congr hk hl h rest (i + 1)]

end

/-- A list in a schema document is its elements, gathered where they stand. -/
theorem typeRule_eq_gatheredRule {expr : Node} (hexpr : expr.InSchema) {items : List Value}
    (h : expr.tree = .list items) :
    typeRule visit expr = gatheredRule visit (elementsFrom expr.origin 0 items) := by
  funext s p
  have htree : (Node.ofSchema 0 (.list ((elementsFrom expr.origin 0 items).map (·.tree)))).tree =
      expr.tree := by
    rw [tree_elementsFrom, h]
    rfl
  unfold typeRule gatheredRule
  rw [content_bind, hexpr.content, h, TypeTest.ofValue_list, ofEach_elementsFrom]
  -- if a name is unknown both fail with it, else the same tests are run
  cases TypeTest.ofItems expr.origin 0 items with
  | error name => rfl
  | ok ts => exact congrFun (congrFun (resolvedType_congr hexpr ⟨0, rfl⟩ htree.symm (.anyOf ts)) s) p

/-- Leaves that all name types, each with a test of its own. -/
theorem pairs_of_leaves (hvisit : ∀ k, IgnoresJournal Eq (visit k) (visit k)) {leaves : List Node}
    (hlist : ∀ leaf ∈ leaves, leaf.tree.isList = false)
    (hknown : ∀ leaf ∈ leaves, leaf.tree.namesNoType = false) :
    ∃ pairs : List (List Node × TypeTest), pairs.flatMap (·.1) = leaves ∧
      TypeTest.ofEach leaves = .ok (pairs.map (·.2)) ∧
      ∀ x ∈ pairs, ∀ expr, Tries visit x.1 (resolvedType visit x.2 expr) := by
  induction leaves with
  | nil => exact ⟨[], rfl, rfl, nofun⟩
  | cons leaf rest ih =>
    obtain ⟨hleaf, hrest⟩ := List.forall_mem_cons.mp hlist
    obtain ⟨hname, hnames⟩ := List.forall_mem_cons.mp hknown
    obtain ⟨pairs, hflat, htests, hpairs⟩ := ih hrest hnames
    have htip := TypeTest.tip_ofValue hleaf leaf.origin
    generalize hr : TypeTest.ofValue leaf.origin leaf.tree = r at htip
    -- a leaf whose name is known is resolved to a test that is no list
    cases htip with
    | refused h => simp [hname] at h
    | @resolved t _ ht =>
      refine ⟨([leaf], t) :: pairs, ?_, ?_, fun x hx => ?_⟩
      · rw [List.flatMap_cons, hflat]
        rfl
      · rw [TypeTest.ofEach, hr, htests]
        rfl
      · rcases List.mem_cons.mp hx with rfl | hx
        · exact tries_leaf hvisit ht hr
        · exact hpairs x hx

/-- The leaves of an expression that can be resolved, gathered in one list, are tried in order. -/
theorem gatheredRule_run (hvisit : ∀ k, IgnoresJournal Eq (visit k) (visit k)) {origin : Place}
    {v : Value} {t : TypeTest} (h : TypeTest.ofValue origin v = .ok t) (s : Scope) (p : Progress) :
    let leaves := v.leavesAt origin
    let run := gatheredRule visit leaves s p
    ∃ d q, Tried visit s leaves p d q ∧ q.Agrees run.2 ∧
      run.1 = d.getD (unfit s q (.list (leaves.map (·.tree)))) := by
  intro leaves run
  have hresolved := TypeTest.resolved_ofValue v origin
  rw [h] at hresolved
  -- an expression that is resolved names known types only, at every leaf
  cases hresolved with
  | resolved hknown _ =>
    obtain ⟨pairs, hflat, htests, hpairs⟩ := pairs_of_leaves hvisit Value.isList_of_mem_leavesAt
      fun leaf hleaf => by simpa using List.find?_eq_none.mp hknown leaf hleaf
    have hrule : gatheredRule visit leaves = resolvedType visit (.anyOf (pairs.map (·.2)))
        (.ofSchema 0 (.list (leaves.map (·.tree)))) := by
      unfold gatheredRule
      rw [htests]
    have hrun := anyOf_run hpairs (.ofSchema 0 (.list (leaves.map (·.tree)))) s (.refl p)
    rw [hflat] at hrun
    simp only [run]
    rw [hrule]
    exact hrun

/-- The leaves of a list that can be resolved are tried in order. -/
theorem typeRule_run (hvisit : ∀ k, IgnoresJournal Eq (visit k) (visit k)) {expr : Node}
    {items : List Value} {t : TypeTest} {p : Progress} (hitems : expr.content p.writes = .list items)
    (h : TypeTest.ofValue expr.origin (.list items) = .ok t) (s : Scope) :
    let run := typeRule visit expr s p
    ∃ d q, Tried visit s ((Value.list items).leavesAt expr.origin) p d q ∧ q.Agrees run.2 ∧
      run.1 = d.getD (unfit s q (expr.content q.writes)) := by
  intro run
  have hresolved := TypeTest.resolved_ofValue (.list items) expr.origin
  rw [h] at hresolved
  cases hresolved with
  | resolved _ hanswers =>
    -- the expression is a list, so the answer to it is one to a list
    cases hanswers with
    | leaf hlist => cases hlist
    | @list _ _ ts hanswers =>
      obtain ⟨pairs, hflat, htests, hpairs⟩ := pairs_of_answersFrom hvisit hanswers
      have hrule : typeRule visit expr s p = resolvedType visit (.anyOf (pairs.map (·.2))) expr s p := by
        unfold typeRule
        rw [content_bind, hitems, h, htests]
      have hrun := anyOf_run hpairs expr s (.refl p)
      rw [hflat] at hrun
      simp only [run]
      rw [hrule]
      exact hrun

/-- What a leaf decides is decided once. -/
theorem Tried.unique {s : Scope} {leaves : List Node} {p q q' : Progress}
    {d d' : Option (Except Failure Unit)} (h : Tried visit s leaves p d q)
    (h' : Tried visit s leaves p d' q') : d' = d ∧ q' = q := by
  -- a run has one result, so a leaf cannot both reject the value and decide
  induction h with
  | none => cases h'; exact ⟨rfl, rfl⟩
  | decided h hr =>
    cases h' with
    | decided h' _ => cases h.symm.trans h'; exact ⟨rfl, rfl⟩
    | rejected h' hr' _ => cases h.symm.trans h'; exact absurd hr' hr
  | rejected h hr _ ih =>
    cases h' with
    | decided h' hr' => cases h.symm.trans h'; exact absurd hr hr'
    | rejected h' _ later => cases h.symm.trans h'; exact ih later

end Check

/-! ## Descriptions -/

/-- A text before others that are joined is set off by the separator. -/
theorem joined_cons_of_ne_nil {separator s : String} {rest : List String} (h : rest ≠ []) :
    joined separator (s :: rest) = s ++ separator ++ joined separator rest := by
  cases rest with
  | nil => exact absurd rfl h
  | cons _ _ => rfl

/-- Texts joined in two parts. -/
theorem joined_append {separator : String} {xs ys : List String} (hx : xs ≠ []) (hy : ys ≠ []) :
    joined separator (xs ++ ys) = joined separator xs ++ separator ++ joined separator ys := by
  induction xs with
  | nil => exact absurd rfl hx
  | cons x rest ih =>
    -- the separator is put where something follows, so the last text is a case of its own
    by_cases hrest : rest = []
    · subst hrest
      exact joined_cons_of_ne_nil hy
    · rw [List.cons_append, joined_cons_of_ne_nil (List.append_ne_nil_of_left_ne_nil hrest ys),
        ih hrest, joined_cons_of_ne_nil hrest]
      simp only [String.append_assoc]

mutual

/-- Whether no list in a type expression is empty. -/
def Value.listsFilled : Value → Bool
  | .list items => !items.isEmpty && itemsFilled items
  | _ => true

/-- Whether no list among several alternatives is empty. -/
def itemsFilled : List Value → Bool
  | [] => true
  | v :: rest => v.listsFilled && itemsFilled rest

end

/-- Alternatives are described one by one. -/
theorem typeTexts_eq_map (items : List Value) : typeTexts items = items.map Value.typeText := by
  induction items with
  | nil => rfl
  | cons v rest ih => rw [typeTexts, ih, List.map_cons]

/-- Several leaves as messages show them. -/
def leafTexts (leaves : List Node) : String := joined " or " (leaves.map (·.tree.typeText))

/-- The leaves of two expressions are described one after the other. -/
theorem leafTexts_append {leaves more : List Node} (h : leaves ≠ []) (h' : more ≠ []) :
    leafTexts (leaves ++ more) = leafTexts leaves ++ " or " ++ leafTexts more := by
  rw [leafTexts, List.map_append, joined_append (by simpa using h) (by simpa using h')]
  rfl

/-- An alternative and the rest of them are described as their leaves are. -/
theorem typeTexts_cons {v : Value} {rest : List Value} {origin : Place} {i : Nat}
    (hne : v.leavesAt (origin.down (.index i)) ≠ [])
    (htext : v.typeText = leafTexts (v.leavesAt (origin.down (.index i))))
    (hne' : rest ≠ [] → leavesFrom origin (i + 1) rest ≠ [])
    (htext' : joined " or " (typeTexts rest) = leafTexts (leavesFrom origin (i + 1) rest)) :
    joined " or " (typeTexts (v :: rest)) = leafTexts (leavesFrom origin i (v :: rest)) := by
  rw [leavesFrom, typeTexts]
  -- the last alternative stands without a separator
  cases rest with
  | nil =>
    rw [leavesFrom, List.append_nil, ← htext]
    rfl
  | cons w rest =>
    have hmore := hne' (List.cons_ne_nil w rest)
    rw [leafTexts_append hne hmore, ← htext, ← htext']
    exact joined_cons_of_ne_nil (List.cons_ne_nil _ _)

/-- An expression without empty lists is described as its leaves are, side by side. -/
theorem typeText_eq_leafTexts (v : Value) (origin : Place) (h : v.listsFilled = true) :
    v.leavesAt origin ≠ [] ∧ v.typeText = leafTexts (v.leavesAt origin) := by
  revert h
  -- along with the description: a filled list has leaves, so that separators fall into place
  refine Value.leavesAt.induct
    (fun origin v => v.listsFilled = true →
      v.leavesAt origin ≠ [] ∧ v.typeText = leafTexts (v.leavesAt origin))
    (fun origin i items => itemsFilled items = true →
      (items ≠ [] → leavesFrom origin i items ≠ []) ∧
        joined " or " (typeTexts items) = leafTexts (leavesFrom origin i items))
    ?_ ?_ ?_ ?_ origin v
  · intro origin items hitems h
    rw [Value.listsFilled, Bool.and_eq_true] at h
    obtain ⟨hne, htext⟩ := hitems h.2
    rw [Value.leavesAt, Value.typeText]
    exact ⟨hne (by simpa using h.1), htext⟩
  · intro v origin hv _
    rw [Value.leavesAt_of_not_list (Value.isList_of_ne hv)]
    exact ⟨List.cons_ne_nil _ _, rfl⟩
  · intro origin i _
    exact ⟨fun h => absurd rfl h, rfl⟩
  · intro origin i v rest hfirst hothers h
    rw [itemsFilled, Bool.and_eq_true] at h
    obtain ⟨hne, htext⟩ := hfirst h.1
    obtain ⟨hne', htext'⟩ := hothers h.2
    refine ⟨fun _ => ?_, typeTexts_cons hne htext hne' htext'⟩
    rw [leavesFrom]
    exact List.append_ne_nil_of_left_ne_nil hne _

/-- A list of alternatives without empty lists in it is described as its leaves are. -/
theorem typeText_list (items : List Value) (origin : Place) (h : itemsFilled items = true) :
    (Value.list items).typeText =
      (Value.list (((Value.list items).leavesAt origin).map (·.tree))).typeText := by
  have hleaves : (Value.list (((Value.list items).leavesAt origin).map (·.tree))).typeText =
      leafTexts ((Value.list items).leavesAt origin) := by
    rw [Value.typeText, typeTexts_eq_map, List.map_map]
    rfl
  rw [hleaves]
  cases items with
  | nil => rfl
  | cons v rest => exact (typeText_eq_leafTexts _ origin (by simpa [Value.listsFilled] using h)).2

/-! ## Calls -/

namespace Validator

open Check

/-- Runs that agree leave the same slot and the same validator. -/
theorem run_agrees {c d : Check Unit}
    (h : ∀ s p, p.writes = [] → (c s p).2.Agrees (d s p).2) (v : Validator) (key : Value)
    (place : Place) (slot : Slot) :
    (v.run key place slot d).slot = (v.run key place slot c).slot ∧
      (v.run key place slot d).validator = (v.run key place slot c).validator := by
  unfold run
  dsimp only
  generalize (⟨key, [], place, v.renewals, 0, v.interactive.isTruthy, v.settings.maxDepth⟩ :
    Scope) = s
  -- a call looks at nothing but what the runs agree on
  have hagrees := h s ⟨slot, v.registry, [], []⟩ rfl
  refine ⟨hagrees.slot, ?_⟩
  have hrecorded := hagrees.recorded
  unfold recorded at hrecorded
  rw [hagrees.registry, hagrees.writes, hrecorded]

/-- Checks on a member whose runs agree leave the same value, parent and validator. -/
theorem onMember_agrees {c d : Check Unit}
    (h : ∀ s p, p.writes = [] → (c s p).2.Agrees (d s p).2) (v : Validator) (parent : Node)
    (key : Value) (handedIn : Option Node) :
    let o := v.onMember parent key handedIn c
    let o' := v.onMember parent key handedIn d
    o'.value = o.value ∧ o'.parent = o.parent ∧ o'.outcome.validator = o.outcome.validator := by
  have hrun := run_agrees h v key
  unfold onMember
  dsimp only
  refine ⟨?_, ?_, ?_⟩
  · rw [(hrun _ _).1]
  · rw [(hrun _ _).1]
  · rw [(hrun _ _).1, (hrun _ _).2]

end Validator

/-! ## Nested lists and their leaves -/

namespace Check

/-- Two ends that are the same, or both report the wrong type, at the same key and place, but for
    how they describe what is asked for. -/
inductive EndAlike : Except Failure Unit → Except Failure Unit → Prop
  | same (r : Except Failure Unit) : EndAlike r r
  | unfit (s : Scope) (p : Progress) (described described' : Value) :
    EndAlike (Check.unfit s p described) (Check.unfit s p described')

/-- Where a leaf has decided the two ends are the same, else they report the wrong type. -/
theorem endAlike_getD (d : Option (Except Failure Unit)) (s : Scope) (p : Progress)
    (described described' : Value) :
    EndAlike (d.getD (unfit s p described)) (d.getD (unfit s p described')) := by
  cases d with
  | none => exact .unfit s p described described'
  | some r => exact .same r

/-- How a check against a list of alternatives ends, and how one against its leaves side by side: as
    the first leaf that does not reject the value, and if all do, with the error that the value is of
    the wrong type. -/
theorem typeRule_and_gatheredRule (depth : Nat) {expr : Node} {items : List Value} {t : TypeTest}
    {p : Progress} (hitems : expr.content p.writes = .list items)
    (h : TypeTest.ofValue expr.origin (.list items) = .ok t) (s : Scope) :
    let leaves := (Value.list items).leavesAt expr.origin
    let run := typeRule (against depth) expr s p
    let flat := gatheredRule (against depth) leaves s p
    ∃ d q, Tried (against depth) s leaves p d q ∧
      run.1 = d.getD (unfit s q (expr.content q.writes)) ∧ q.Agrees run.2 ∧
      flat.1 = d.getD (unfit s q (.list (leaves.map (·.tree)))) ∧ q.Agrees flat.2 ∧
      (expr.content q.writes = .list items → itemsFilled items = true → flat.1 = run.1) := by
  intro leaves run flat
  obtain ⟨d, q, htried, hagrees, hresult⟩ := typeRule_run (against_ignoresJournal depth) hitems h s
  obtain ⟨d', q', htried', hagrees', hresult'⟩ :=
    gatheredRule_run (against_ignoresJournal depth) h s p
  -- both try the same leaves from the same state, so they come to the same decision
  obtain ⟨rfl, rfl⟩ := htried'.unique htried
  refine ⟨d, q, htried, hresult, hagrees, hresult', hagrees', fun hsame hfilled => ?_⟩
  -- the two messages describe the list and its leaves, which read the same
  have htext := typeText_list items expr.origin hfilled
  simp only [run, flat]
  rw [hresult, hresult', hsame]
  unfold unfit
  rw [htext]

end Check

open Check in
/-- **Alternatives are their leaves.**  Let a list of alternatives be one that can be resolved.  In
    any run, the leaves are tried in order from what the run has come to; the first that does not
    reject the value decides, and if all reject it, or there are none, the value is of the wrong type,
    at the key and the place where the check stands.  The list with the leaves side by side comes to
    the same: the slot, the ids, the writes and the record are the same, and so is the end, down to
    the message if no list among the alternatives is empty and nothing was written into the list
    meanwhile.  For calls that means the same value, parent and validator. -/
theorem alternatives_are_their_leaves {origin : Place} {items : List Value} {t : TypeTest}
    (h : TypeTest.ofValue origin (.list items) = .ok t) :
    let leaves := (Value.list items).leavesAt origin
    (∀ depth expr s p, expr.origin = origin → expr.content p.writes = .list items →
      let run := typeRule (against depth) expr s p
      let flat := gatheredRule (against depth) leaves s p
      ∃ d q, Tried (against depth) s leaves p d q ∧
        run.1 = d.getD (unfit s q (expr.content q.writes)) ∧ q.Agrees run.2 ∧
        flat.1 = d.getD (unfit s q (.list (leaves.map (·.tree)))) ∧ q.Agrees flat.2 ∧
        (expr.content q.writes = .list items → itemsFilled items = true → flat.1 = run.1)) ∧
    ∀ (v : Validator) parent key handedIn,
      let o := v.checkType parent key handedIn ⟨origin, .list items⟩
      let flat := v.onMember parent key handedIn (gatheredRule v.visit leaves)
      flat.value = o.value ∧ flat.parent = o.parent ∧
        flat.outcome.validator = o.outcome.validator ∧
        EndAlike o.outcome.result flat.outcome.result ∧
        ((∃ k, origin.document = .schema k) → itemsFilled items = true →
          flat.outcome.result = o.outcome.result) := by
  intro leaves
  refine ⟨?_, fun v parent key handedIn => ?_⟩
  · rintro depth expr s p rfl hitems
    exact typeRule_and_gatheredRule depth hitems h s
  · intro o flat
    let expr : Node := ⟨origin, .list items⟩
    -- a call starts without writes, so the list reads as it is given
    have hitems (p : Progress) (hp : p.writes = []) : expr.content p.writes = .list items := by
      rw [hp, Node.content_nil]
    have hrun (s : Scope) (p : Progress) (hp : p.writes = []) :=
      typeRule_and_gatheredRule v.settings.maxDepth (hitems p hp) h s
    have hagrees (s : Scope) (p : Progress) (hp : p.writes = []) :
        (typeRule v.visit expr s p).2.Agrees (gatheredRule v.visit leaves s p).2 := by
      obtain ⟨d, q, _, _, hq, _, hq', _⟩ := hrun s p hp
      exact hq.symm.trans hq'
    obtain ⟨hvalue, hparent, hvalidator⟩ := Validator.onMember_agrees hagrees v parent key handedIn
    obtain ⟨d, q, _, hresult, _, hresult', _, hsame⟩ := hrun _ ⟨_, v.registry, [], []⟩ rfl
    refine ⟨hvalue, hparent, hvalidator, ?_, fun hschema => hsame ?_⟩
    · show EndAlike (typeRule v.visit expr _ _).1 (gatheredRule v.visit leaves _ _).1
      rw [show (typeRule v.visit expr _ _).1 = _ from hresult,
        show (gatheredRule v.visit leaves _ _).1 = _ from hresult']
      exact endAlike_getD ..
    · exact (show expr.InSchema from hschema).content q.writes

/-- Integers, in a list of their own, or null. -/
def integerOrNull : List Value := [.list [.str "integer"], .str "null"]

open Check in
/-- A boolean is neither, and both ways to put it end with the same words. -/
theorem integer_or_null_expected :
    let v := Validator.new .default .null
    let here : Place := ⟨.schema 0, []⟩
    let o := v.checkType emptyInstance (.str "k") (some ⟨⟨.instance 1, []⟩, .bool true⟩)
      ⟨here, .list integerOrNull⟩
    let flat := v.onMember emptyInstance (.str "k") (some ⟨⟨.instance 1, []⟩, .bool true⟩)
      (gatheredRule v.visit ((Value.list integerOrNull).leavesAt here))
    flat.outcome.result = o.outcome.result ∧
      o.outcome.result =
        .error (.violation ⟨.wrongType "boolean" "integer or null", .str "k", some []⟩) := by
  intro v here o flat
  have hresolved : TypeTest.ofValue here (.list integerOrNull) = .ok (.anyOf
      [.anyOf [.classes [.exactly .integer]], .classes [.exactly .null]]) := rfl
  obtain ⟨_, hcalls⟩ := alternatives_are_their_leaves hresolved
  obtain ⟨_, _, _, _, hsame⟩ := hcalls v emptyInstance (.str "k")
    (some ⟨⟨.instance 1, []⟩, .bool true⟩)
  exact ⟨hsame ⟨0, rfl⟩ rfl, by decide +kernel⟩

/-! ## A list that grows while it is tried -/

/-- The mapping with one entry. -/
def named (name : String) (v : Value) : Value := .map [(.name name, v)]

/-- A schema for a document that carries it as the only alternative of a list in a list.  It rejects
    the document, but before that it has a default appended to that inner list. -/
def growsItsList : Value := .map
  [(.name "properties", named "$schema" (named "properties" (named "type"
      (named "items" (.list [named "items" (.list [.map [], named "default" (.str "string")])]))))),
    (.name "enum", .list [])]

/-- The document. -/
def growingInstance : Node :=
  ⟨⟨.instance 0, []⟩, named "$schema" (named "type" (.list [.list [growsItsList]]))⟩

open Check in
/-- Where a list is a part of the instance, it may have become longer by the time that it is
    described; then the message is not the one that its leaves alone come to. -/
theorem grown_list_described_longer :
    let v := Validator.new .default .null
    let here := (growingInstance.origin.down (.name "$schema")).down (.name "type")
    let items := [.list [growsItsList]]
    let o := v.checkType emptyInstance rootKey (some growingInstance) ⟨here, .list items⟩
    let flat := v.onMember emptyInstance rootKey (some growingInstance)
      (gatheredRule v.visit ((Value.list items).leavesAt here))
    (TypeTest.ofValue here (.list items)).toBool = true ∧ itemsFilled items = true ∧
      o.outcome.result =
        .error (.violation ⟨.wrongType "object" "schema or string", rootKey, some []⟩) ∧
      flat.outcome.result = .error (.violation ⟨.wrongType "object" "schema", rootKey, some []⟩) ∧
      (v.validate growingInstance (.ofSchema 0 .null)).result = o.outcome.result := by
  decide +kernel

end Conformance

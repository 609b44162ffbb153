/-
  Pairs of checks that go the same way.

  Two checks are `Parallel` when they are put together in the same manner: they read the same texts,
  fail for the same causes at the same places, and visit nodes that may stand for each other.  A
  derivation of this follows the checks and not their runs, so it is made once for all rules
  (`parallel_property`), and whatever is proved by induction on it holds of the checks against all
  schemas: what one run leaves behind (both checks being the same), or how two runs compare.

  Three rules are steps of their own, because two runs may differ there: the reference to another
  schema, the schema that an entry carries itself, and what becomes of a missing value.
-/
import Conformance.Check.Property
import Conformance.Proofs.Parts

namespace Conformance

namespace Check

/-- Nodes that may stand for each other say the same, and so do their parts. -/
structure Likeness (alike : Node → Node → Prop) : Prop where
  tree_eq : ∀ {k l}, alike k l → k.tree = l.tree
  part : ∀ {k l}, alike k l → ∀ (step : Step) {v : Value}, v ∈ k.tree.parts →
    alike (k.down step v) (l.down step v)
  blank : ∀ {k l}, alike k l → ∀ (step : Step) {v : Value}, v = .null ∨ v = .missing →
    alike (k.down step v) (l.down step v)

/-- Being the same node is a likeness. -/
theorem Likeness.eq : Likeness (Eq : Node → Node → Prop) where
  tree_eq := by rintro k _ rfl; rfl
  part := by rintro k _ rfl step v _; rfl
  blank := by rintro k _ rfl step v _; rfl

/-- Two checks side by side: the nodes whose rules they are, how either visits further nodes, and
    which nodes may stand for each other. -/
structure Pairing where
  alike : Node → Node → Prop
  visit : Node → Check Unit
  visit' : Node → Check Unit
  node : Node
  node' : Node

/-- Two checks that go the same way and come to results in a relation. -/
inductive Parallel (P : Pairing) :
    {α β : Type} → (α → β → Prop) → Check α → Check β → Prop
  | pure {α β : Type} {R : α → β → Prop} {a : α} {b : β} (h : R a b) :
    Parallel P R (Pure.pure a) (Pure.pure b)
  | bind {α β γ δ : Type} {R : α → β → Prop} {Q : γ → δ → Prop} {c : Check α} {d : Check β}
    {f : α → Check γ} {g : β → Check δ} (first : Parallel P R c d)
    (rest : ∀ a b, R a b → Parallel P Q (f a) (g b)) : Parallel P Q (c >>= f) (d >>= g)
  | attempt {c d : Check Unit} (h : Parallel P Eq c d) :
    Parallel P Eq (Check.attempt c) (Check.attempt d)
  | scope : Parallel P (fun s s' => s.key = s'.key ∧ s.trail = s'.trail) Check.scope Check.scope
  | value : Parallel P Eq Check.value Check.value
  | content {k l : Node} (h : P.alike k l) :
    Parallel P (fun a b => a = b ∧ P.alike ⟨k.origin, a⟩ ⟨l.origin, b⟩)
      (Check.content k) (Check.content l)
  | stop {α β : Type} {R : α → β → Prop} (f : Value → Trail → Failure) :
    Parallel P R (fun s p => (.error (f s.key s.trail), p) : Check α)
      (fun s p => (.error (f s.key s.trail), p) : Check β)
  | rejected (trail : Trail) (description message : String) :
    Parallel P Eq (note (.alternativeRejected trail description message))
      (note (.alternativeRejected trail description message))
  | register (id : String) {k l : Node} (h : P.alike k l) :
    Parallel P Eq (Check.register id k) (Check.register id l)
  | here {k l : Node} (h : P.alike k l) : Parallel P Eq (P.visit k) (P.visit' l)
  | member (step : Step) {k l : Node} (h : P.alike k l) :
    Parallel P Eq (atChild step (P.visit k)) (atChild step (P.visit' l))
  | reference : Parallel P Eq (refRule P.visit P.node) (refRule P.visit' P.node')
  | own (key : Key) : Parallel P Eq (ownSchema P.visit key) (ownSchema P.visit' key)
  | missing : Parallel P Eq (missingRules P.node) (missingRules P.node')

namespace Parallel

variable {P : Pairing} {k l : Node}

/-! ## Failing and reading -/

/-- Both fail for the same cause, with the key and path at hand. -/
theorem fail {α β : Type} {R : α → β → Prop} (cause : Cause) :
    Parallel P R (Check.fail cause : Check α) (Check.fail cause : Check β) :=
  .stop fun key trail => .violation ⟨cause, key, some trail⟩

/-- Both fail at the same entry of the value at hand. -/
theorem failAt {α β : Type} {R : α → β → Prop} (key : Key) (cause : Cause) :
    Parallel P R (Check.failAt key cause : Check α) (Check.failAt key cause : Check β) :=
  .stop fun _ trail => .violation ⟨cause, key.value, some (trail ++ [.entry key])⟩

theorem failKeyless {α β : Type} {R : α → β → Prop} (cause : Cause) :
    Parallel P R (Check.failKeyless cause : Check α) (Check.failKeyless cause : Check β) :=
  .stop fun _ trail => .violation ⟨cause, .null, some trail⟩

theorem failPlaceless {α β : Type} {R : α → β → Prop} (cause : Cause) :
    Parallel P R (Check.failPlaceless cause : Check α) (Check.failPlaceless cause : Check β) :=
  .stop fun key _ => .violation ⟨cause, key, none⟩

theorem fault {α β : Type} {R : α → β → Prop} (f : Fault) :
    Parallel P R (Check.stop (.fault f) : Check α) (Check.stop (.fault f) : Check β) :=
  .stop fun _ _ => .fault f

theorem field?_eq (n : Node) (name : String) :
    Check.field? n name = (Check.content n >>= fun v => Pure.pure (v.get? name)) := rfl

theorem field_eq (n : Node) (name : String) :
    Check.field n name = (Check.content n >>= fun v => Pure.pure ((v.get? name).getD .null)) := rfl

theorem element_eq (n : Node) (i : Nat) : Check.element n i =
    (Check.content n >>= fun v => Pure.pure (n.down (.index i) (v.member (.index i)))) := rfl

/-- What like nodes say under a name is the same, and again a pair of like nodes. -/
theorem part? (like : Likeness P.alike) (h : P.alike k l) (name : String) :
    Parallel P (fun a b => a = b ∧ ∀ v, a = some v →
        P.alike (k.down (.name name) v) (l.down (.name name) v))
      (Check.field? k name) (Check.field? l name) := by
  rw [field?_eq, field?_eq]
  refine .bind (.content h) fun a b ⟨hab, ha⟩ => .pure ⟨hab ▸ rfl, fun v hv => ?_⟩
  exact like.part ha (.name name) (Value.mem_parts_of_get? hv)

/-- Like nodes say the same under a name, if they say anything. -/
theorem field? (h : P.alike k l) (name : String) :
    Parallel P Eq (Check.field? k name) (Check.field? l name) := by
  rw [field?_eq, field?_eq]
  exact .bind (.content h) fun _ _ hab => .pure (hab.1 ▸ rfl)

/-- They say the same under a name, where nothing said is null. -/
theorem field (h : P.alike k l) (name : String) :
    Parallel P Eq (Check.field k name) (Check.field l name) := by
  rw [field_eq, field_eq]
  exact .bind (.content h) fun _ _ hab => .pure (hab.1 ▸ rfl)

/-- Elements of like nodes are like nodes. -/
theorem element (like : Likeness P.alike) (h : P.alike k l) (i : Nat) :
    Parallel P P.alike (Check.element k i) (Check.element l i) := by
  rw [element_eq, element_eq]
  refine .bind (.content h) fun a b hab => .pure ?_
  obtain ⟨rfl, hab⟩ := hab
  rcases a.member_mem_parts (.index i) with hp | hm
  · exact like.part hab (.index i) hp
  · exact like.blank hab (.index i) (Or.inr hm)

/-- Rules that count as given are like nodes. -/
theorem given? (like : Likeness P.alike) (h : P.alike k l) (name : String) :
    Parallel P (Option.Rel P.alike) (Check.given? k name) (Check.given? l name) := by
  refine .bind (.part? like h name) ?_
  rintro a _ ⟨rfl, hv⟩
  cases a with
  | none => exact .pure .none
  | some v =>
    -- what does not count as given is passed over on both sides
    by_cases hg : v.isGiven = true
    · simpa only [hg, if_true] using .pure (.some (hv v rfl))
    · simpa only [hg] using .pure .none

/-- Checks of a rule that is given go the same way if the checks of like rules do. -/
theorem whenGiven (like : Likeness P.alike) (h : P.alike k l) (name : String)
    {rule rule' : Node → Check Unit}
    (hr : ∀ r r', P.alike r r' → Parallel P Eq (rule r) (rule' r')) :
    Parallel P Eq (Check.whenGiven k name rule) (Check.whenGiven l name rule') := by
  refine .bind (.given? like h name) fun a b hab => ?_
  cases hab with
  | none => exact .pure rfl
  | some hab => exact hr _ _ hab

/-! ## Rules on single values -/

theorem skip : Parallel P Eq (Pure.pure () : Check Unit) (Pure.pure ()) := .pure rfl

/-- A check that is skipped in both or in neither. -/
theorem whenTrue {c : Bool} {d d' : Check Unit} (h : Parallel P Eq d d') :
    Parallel P Eq (if c = true then d else Pure.pure ()) (if c = true then d' else Pure.pure ()) := by
  cases c
  · exact .skip
  · exact h

/-- A rule on what is said, unless that is null. -/
theorem unlessNull (v : Value) {rule rule' : Value → Check Unit}
    (h : ∀ w, Parallel P Eq (rule w) (rule' w)) :
    Parallel P Eq (Check.unlessNull v rule) (Check.unlessNull v rule') := by
  cases v with
  | null => exact .skip
  | _ => exact h _

/-- A bound is the same number in both, or is not a number in either. -/
theorem withBound (h : P.alike k l) (name : String) {rule rule' : Number → Value → Check Unit}
    (hr : ∀ bound v, Parallel P Eq (rule bound v) (rule' bound v)) :
    Parallel P Eq (Check.withBound k name rule) (Check.withBound l name rule') := by
  refine .bind (.field h name) ?_
  rintro v _ rfl
  refine .unlessNull v fun w => ?_
  cases hw : w.number? with
  | none => exact .fail _
  | some bound => exact hr bound w

/-- The bounds on how many elements there are. -/
theorem itemCounts (h : P.alike k l) : Parallel P Eq (Check.itemCounts k) (Check.itemCounts l) := by
  -- both bounds compare a number with how many elements there are
  refine .bind (R := Eq) ?_ fun _ _ _ => ?_
  · refine .withBound h "minItems" fun bound v => ?_
    refine .bind .value ?_
    rintro x _ rfl
    exact .whenTrue (.fail _)
  · refine .withBound h "maxItems" fun bound v => ?_
    refine .bind .value ?_
    rintro x _ rfl
    exact .whenTrue (.fail _)

theorem textLengths (h : P.alike k l) (s : String) :
    Parallel P Eq (Check.textLengths k s) (Check.textLengths l s) := by
  refine .bind (R := Eq) ?_ fun _ _ _ => ?_
  · exact .withBound h "maxLength" fun _ _ => .whenTrue (.fail _)
  · exact .withBound h "minLength" fun _ _ => .whenTrue (.fail _)

/-- A pattern is read alike, so it is refused, found or not found in both. -/
theorem patternRule (h : P.alike k l) (s : String) :
    Parallel P Eq (Check.patternRule k s) (Check.patternRule l s) := by
  refine .bind (.field h "pattern") ?_
  rintro v _ rfl
  refine .unlessNull v fun w => ?_
  cases w with
  | str pattern =>
    dsimp only
    -- reading and searching involve no node, so both come to the same
    cases Pattern.read pattern with
    | ok compiled =>
      dsimp only
      cases compiled.search s with
      | something => exact .skip
      | nothing => exact .fail _
      | reversedGroup => exact .fault _
    | error flaw =>
      cases flaw with
      | defect d => exact .fail _
      | _ => exact .fault _
  | _ => exact .fail _

/-- A bound may be reached in both or in neither. -/
theorem boundAllowed (h : P.alike k l) (name : String) :
    Parallel P Eq (Check.boundAllowed k name) (Check.boundAllowed l name) := by
  refine .bind (.field? h name) ?_
  rintro v _ rfl
  cases v <;> exact .pure rfl

theorem decimalRule (h : P.alike k l) (x : Number) :
    Parallel P Eq (Check.decimalRule k x) (Check.decimalRule l x) := by
  refine .bind (.field h "maxDecimal") ?_
  rintro limit _ rfl
  cases limit.number? with
  | none => exact .skip
  | some bound =>
    cases x.shownDecimals with
    | none => exact .skip
    | some shown => exact .whenTrue (.fail _)

theorem numberRules (h : P.alike k l) (x : Number) :
    Parallel P Eq (Check.numberRules k x) (Check.numberRules l x) := by
  refine .bind (R := Eq) ?_ fun _ _ _ => ?_
  · refine .withBound h "minimum" fun bound v => ?_
    refine .bind (.boundAllowed h _) ?_
    rintro allowed _ rfl
    exact .whenTrue (.fail _)
  refine .bind (R := Eq) ?_ fun _ _ _ => ?_
  · refine .withBound h "maximum" fun bound v => ?_
    refine .bind (.boundAllowed h _) ?_
    rintro allowed _ rfl
    exact .whenTrue (.fail _)
  · exact .decimalRule h x

/-- The options are the same, and so is what they are compared with. -/
theorem enumRule (h : P.alike k l) : Parallel P Eq (Check.enumRule k) (Check.enumRule l) := by
  refine .bind (.field? h "enum") ?_
  rintro v _ rfl
  cases v with
  | none => exact .skip
  | some v =>
    refine .whenTrue ?_
    cases options? v with
    | none => exact .fault _
    | some options =>
      refine .bind .value ?_
      rintro x _ rfl
      cases options.any fun o => o.equal x
      · exact .fail _
      · exact .skip

theorem labelRule (h : P.alike k l) (label : String) :
    Parallel P Eq (Check.labelRule k label) (Check.labelRule l label) := by
  refine .bind (.field h label) ?_
  rintro v _ rfl
  refine .unlessNull v fun w => ?_
  cases w with
  | str s => exact .skip
  | _ =>
    refine .bind .value ?_
    rintro x _ rfl
    exact .fail _

theorem closingRules (h : P.alike k l) :
    Parallel P Eq (Check.closingRules k) (Check.closingRules l) := by
  refine .bind (.enumRule h) fun _ _ _ => ?_
  refine .bind (.labelRule h _) fun _ _ _ => ?_
  exact .labelRule h _

/-- The additional policies of like nodes are like nodes. -/
theorem additionalPolicy (like : Likeness P.alike) (h : P.alike k l) :
    Parallel P P.alike (Check.additionalPolicy k) (Check.additionalPolicy l) := by
  refine .bind (.part? like h "additionalProperties") ?_
  rintro a _ ⟨rfl, hv⟩
  cases a with
  | none => exact .pure (like.blank h _ (Or.inl rfl))
  | some v =>
    cases v with
    | bool b => exact .pure (hv _ rfl)
    | map es => exact .pure (hv _ rfl)
    | _ => exact .fail _

/-! ## Type expressions -/

/-- A value of the wrong type is told by the same message. -/
theorem mismatch (h : P.alike k l) : Parallel P Eq (Check.mismatch k) (Check.mismatch l) := by
  refine .bind .value ?_
  rintro x _ rfl
  refine .bind (.content h) ?_
  rintro a _ ⟨rfl, _⟩
  exact .fail _

mutual

/-- Tests of the same shape whose inline schemas are like nodes. -/
inductive LikeTest (alike : Node → Node → Prop) : TypeTest → TypeTest → Prop
  | anything : LikeTest alike .anything .anything
  | classes (members : List TypeClass) : LikeTest alike (.classes members) (.classes members)
  | schema {k l : Node} (h : alike k l) : LikeTest alike (.schema k) (.schema l)
  | anyOf {ts us : List TypeTest} (h : LikeTests alike ts us) : LikeTest alike (.anyOf ts) (.anyOf us)

/-- Lists of such tests. -/
inductive LikeTests (alike : Node → Node → Prop) : List TypeTest → List TypeTest → Prop
  | nil : LikeTests alike [] []
  | cons {t u : TypeTest} {ts us : List TypeTest} (head : LikeTest alike t u)
    (tail : LikeTests alike ts us) : LikeTests alike (t :: ts) (u :: us)

end

/-- Two resolutions that find the same unknown name or come to like tests. -/
inductive LikeResolved {α : Type} (R : α → α → Prop) : Except String α → Except String α → Prop
  | ok {a b : α} (h : R a b) : LikeResolved R (.ok a) (.ok b)
  | error (name : String) : LikeResolved R (.error name) (.error name)

/-- A name is resolved to the same test, or it is unknown. -/
theorem likeTest_ofText (alike : Node → Node → Prop) (name : String) :
    LikeResolved (LikeTest alike) (TypeTest.ofText name) (TypeTest.ofText name) := by
  -- a name stands for classes or for anything, so no node is involved
  have htest {t : TypeTest} (h : TypeTest.ofName? name = some t) : LikeTest alike t t := by
    unfold TypeTest.ofName? at h
    repeat' split at h
    all_goals cases h
    all_goals constructor
  unfold TypeTest.ofText
  cases h : TypeTest.ofName? name with
  | none => exact .error name
  | some t => exact .ok (htest h)

mutual

/-- Like nodes are resolved to like tests. -/
theorem likeTest_ofValue (like : Likeness P.alike) {o o' : Place} :
    ∀ v : Value, P.alike ⟨o, v⟩ ⟨o', v⟩ →
      LikeResolved (LikeTest P.alike) (TypeTest.ofValue o v) (TypeTest.ofValue o' v)
  | .null, _ => .ok .anything
  | .bool false, _ => .ok .anything
  | .bool true, _ => by unfold TypeTest.ofValue; exact likeTest_ofText ..
  | .map _, h => .ok (.schema h)
  | .cls c, _ => .ok (.classes _)
  | .list items, h => by
    have hi : LikeResolved (LikeTests P.alike) (TypeTest.ofItems o 0 items)
        (TypeTest.ofItems o' 0 items) :=
      likeTests_ofItems like items 0 fun j v hv =>
        like.part h (.index (0 + j)) (List.mem_of_getElem? hv)
    unfold TypeTest.ofValue
    -- the resolutions are known by their relation only from here on
    revert hi
    generalize TypeTest.ofItems o 0 items = ts
    generalize TypeTest.ofItems o' 0 items = us
    intro hi
    cases hi with
    | ok hi => exact .ok (.anyOf hi)
    | error name => exact .error name
  | .missing, _ => by unfold TypeTest.ofValue; exact likeTest_ofText ..
  | .int _, _ => by unfold TypeTest.ofValue; exact likeTest_ofText ..
  | .float _, _ => by unfold TypeTest.ofValue; exact likeTest_ofText ..
  | .str _, _ => by unfold TypeTest.ofValue; exact likeTest_ofText ..
  | .tuple _, _ => by unfold TypeTest.ofValue; exact likeTest_ofText ..

/-- The tests of a list of type expressions are like ones, element by element. -/
theorem likeTests_ofItems (like : Likeness P.alike) {o o' : Place} :
    ∀ (items : List Value) (i : Nat), (∀ j v, items[j]? = some v →
        P.alike ⟨o.down (.index (i + j)), v⟩ ⟨o'.down (.index (i + j)), v⟩) →
      LikeResolved (LikeTests P.alike) (TypeTest.ofItems o i items) (TypeTest.ofItems o' i items)
  | [], _, _ => .ok .nil
  | v :: rest, i, h => by
    have hv : LikeResolved (LikeTest P.alike) (TypeTest.ofValue (o.down (.index i)) v)
        (TypeTest.ofValue (o'.down (.index i)) v) := likeTest_ofValue like v (h 0 v rfl)
    have hr := likeTests_ofItems like rest (i + 1) fun j w hw => by
      have hw' := h (j + 1) w hw
      rwa [show i + (j + 1) = i + 1 + j from by omega] at hw'
    unfold TypeTest.ofItems
    revert hv hr
    generalize TypeTest.ofValue (o.down (.index i)) v = t
    generalize TypeTest.ofValue (o'.down (.index i)) v = u
    generalize TypeTest.ofItems o (i + 1) rest = ts
    generalize TypeTest.ofItems o' (i + 1) rest = us
    intro hv hr
    cases hv with
    | error name => exact .error name
    | ok hv =>
      cases hr with
      | error name => exact .error name
      | ok hr => exact .ok (.cons hv hr)

end

mutual

/-- Like tests go the same way: they look at the class of the value, visit an inline schema, or try
    alternatives in order. -/
theorem resolvedType (like : Likeness P.alike) {t u : TypeTest} :
    LikeTest P.alike t u → ∀ {k l : Node}, P.alike k l →
      Parallel P Eq (Check.resolvedType P.visit t k) (Check.resolvedType P.visit' u l)
  | .anything, _, _, _ => .skip
  | .classes members, k, l, h => by
    refine .bind .value ?_
    rintro x _ rfl
    cases x.isInstance members
    · exact .mismatch h
    · exact .skip
  | .schema hn, _, _, _ => .here hn
  | .anyOf ht, k, l, h => by
    refine .bind (anyAlternative like ht h 0) ?_
    rintro b _ rfl
    cases b
    · exact .mismatch h
    · exact .skip

/-- Alternatives are tried in order, and the same ones are rejected, with the same messages. -/
theorem anyAlternative (like : Likeness P.alike) {ts us : List TypeTest} :
    LikeTests P.alike ts us → ∀ {k l : Node}, P.alike k l → ∀ i : Nat,
      Parallel P Eq (Check.anyAlternative P.visit ts k i) (Check.anyAlternative P.visit' us l i)
  | .nil, _, _, _, _ => .pure rfl
  | .cons ht hts, k, l, h, i => by
    refine .bind (.element like h i) fun a b hab => ?_
    refine .bind (.attempt (resolvedType like ht hab)) ?_
    rintro r _ rfl
    cases r with
    | none => exact .pure rfl
    | some v =>
      -- the trail of a rejection is that of the scope, which is the same
      refine .bind .scope fun s s' hs => ?_
      refine .bind (.content hab) ?_
      rintro c _ ⟨rfl, _⟩
      rw [hs.2]
      exact .bind (.rejected ..) fun _ _ _ => anyAlternative like hts h (i + 1)

end

/-- A type expression is resolved in both or in neither, and then its tests go the same way. -/
theorem typeRule (like : Likeness P.alike) (h : P.alike k l) :
    Parallel P Eq (Check.typeRule P.visit k) (Check.typeRule P.visit' l) := by
  refine .bind (.content h) ?_
  rintro c _ ⟨rfl, hc⟩
  have ht := likeTest_ofValue like c hc
  revert ht
  generalize TypeTest.ofValue k.origin c = t
  generalize TypeTest.ofValue l.origin c = u
  intro ht
  cases ht with
  | ok ht => exact resolvedType like ht h
  | error name => exact .failPlaceless _

/-! ## Arrays -/

/-- A list of checks that go the same way, one after the other. -/
theorem each {α : Type} {c d : α → Check Unit} (xs : List α)
    (h : ∀ x, Parallel P Eq (c x) (d x)) : Parallel P Eq (Check.each c xs) (Check.each d xs) := by
  induction xs with
  | nil => exact .skip
  | cons x rest ih => exact .bind (h x) fun _ _ _ => ih

theorem length : Parallel P Eq Check.length Check.length := by
  refine .bind .value ?_
  rintro x _ rfl
  exact .pure rfl

/-- Elements that are appended while a list is visited are appended to both. -/
theorem visitAppended (like : Likeness P.alike) (h : P.alike k l)
    {c d : Nat → Node → Check Unit}
    (hc : ∀ i a b, P.alike a b → Parallel P Eq (c i a) (d i b)) (room : Nat) :
    ∀ i, Parallel P Eq (Check.visitAppended k c room i) (Check.visitAppended l d room i) := by
  -- by induction on the room that is left for further elements
  induction room with
  | zero => exact fun _ => .skip
  | succ room ih =>
    intro i
    refine .bind (.content h) ?_
    rintro a _ ⟨rfl, ha⟩
    cases hv : a.listItems[i]? with
    | none => exact .skip
    | some v =>
      -- an element that was appended is a part of what the list reads as now
      have hp : v ∈ a.parts := by
        cases a <;> simp [Value.listItems] at hv
        exact List.mem_of_getElem? hv
      exact .bind (hc i _ _ (like.part ha (.index i) hp)) fun _ _ _ => ih (i + 1)

/-- Elements of like lists are visited as like nodes. -/
theorem eachElement (like : Likeness P.alike) (h : P.alike k l) {c d : Nat → Node → Check Unit}
    (hc : ∀ i a b, P.alike a b → Parallel P Eq (c i a) (d i b)) :
    Parallel P Eq (Check.eachElement k c) (Check.eachElement l d) := by
  -- the list as it was first, and then what has been appended to it since
  have hfrom (xs : List Value) (i : Nat)
      (hx : ∀ step, ∀ v ∈ xs, P.alike (k.down step v) (l.down step v)) :
      Parallel P Eq (Check.visitFrom k c i xs) (Check.visitFrom l d i xs) := by
    induction xs generalizing i with
    | nil => exact .visitAppended like h hc _ i
    | cons v rest ih =>
      refine .bind (hc i _ _ (hx _ v (List.mem_cons_self ..))) fun _ _ _ => ih (i + 1) ?_
      exact fun step w hw => hx step w (List.mem_cons_of_mem _ hw)
  refine .bind (.content h) ?_
  rintro a _ ⟨rfl, ha⟩
  refine hfrom a.listItems 0 fun step v hv => like.part ha step ?_
  cases a <;> first | exact hv | cases hv

/-- One schema for all elements: they are visited in order. -/
theorem everyElement (h : P.alike k l) :
    Parallel P Eq (Check.everyElement P.visit k) (Check.everyElement P.visit' l) := by
  refine .bind .length ?_
  rintro count _ rfl
  exact .each _ fun i => .member _ h

/-- Schemas by position come first; what exceeds them is left to the additional policy. -/
theorem positionalItems (like : Likeness P.alike) (h : P.alike k l) {r r' : Node}
    (hr : P.alike r r') :
    Parallel P Eq (Check.positionalItems P.visit k r) (Check.positionalItems P.visit' l r') := by
  refine .bind (.eachElement like hr fun i a b hab => .member _ hab) fun _ _ _ => ?_
  refine .bind (.content h) ?_
  rintro c _ ⟨rfl, _⟩
  refine .whenTrue (.bind (.additionalPolicy like h) fun a b hab => ?_)
  -- the policy says the same on both sides, so one case split does for both
  rw [← like.tree_eq hab]
  cases forbids a.tree
  · cases allows a.tree
    · exact .everyElement hab
    · exact .skip
  · refine .bind (.content hr) ?_
    rintro c _ ⟨rfl, _⟩
    refine .bind .length ?_
    rintro count _ rfl
    by_cases hlt : c.listItems.length < count
    · simpa only [hlt, if_true] using .fail _
    · simpa only [hlt, if_false] using .skip

/-- A list of schemas is by position, anything else is for every element. -/
theorem items (like : Likeness P.alike) (h : P.alike k l) :
    Parallel P Eq (Check.items P.visit k) (Check.items P.visit' l) := by
  refine .bind (.whenGiven like h "items" fun r r' hr => ?_) fun _ _ _ => .itemCounts h
  rw [← like.tree_eq hr]
  cases r.tree with
  | list _ => exact .positionalItems like h hr
  | _ => exact .everyElement hr

/-! ## Objects -/

/-- A mapping has changed its size in both or in neither. -/
theorem stillOfSize (h : P.alike k l) (size : Nat) :
    Parallel P Eq (Check.stillOfSize k size) (Check.stillOfSize l size) := by
  refine .bind (.content h) ?_
  rintro c _ ⟨rfl, _⟩
  split
  · exact .fault _
  · exact .skip

/-- Declared properties are visited in the order of their declaration, each at its key. -/
theorem declaredProperties (h : P.alike k l) (size : Nat)
    (es : List (Key × Value)) (he : ∀ step, ∀ e ∈ es, P.alike (k.down step e.2) (l.down step e.2)) :
    Parallel P Eq (Check.declaredProperties P.visit k size es)
      (Check.declaredProperties P.visit' l size es) := by
  induction es with
  | nil => exact .skip
  | cons e rest ih =>
    obtain ⟨key, definition⟩ := e
    -- the definition is a part of the mapping that declares it
    have hd := he (.entry key) (key, definition) (List.mem_cons_self ..)
    have hfirst : Parallel P Eq (Check.declaredProperty P.visit k key definition)
        (Check.declaredProperty P.visit' l key definition) := .whenTrue (.member _ hd)
    refine .bind hfirst fun _ _ _ => ?_
    refine .bind (.stillOfSize h size) fun _ _ _ => ?_
    exact ih fun step e hm => he step e (List.mem_cons_of_mem _ hm)

/-- A requirement names the same key, which is there in both or in neither. -/
theorem requirementRule (key : Key) (declared : Option Value) :
    Parallel P Eq (Check.requirementRule key declared) (Check.requirementRule key declared) := by
  unfold Check.requirementRule
  cases requirement declared with
  | null => exact .skip
  | str required =>
    refine .bind .value ?_
    rintro x _ rfl
    exact .whenTrue (.failAt _ _)
  | _ => exact .failAt _ _

theorem admission (like : Likeness P.alike) (h : P.alike k l) (key : Key)
    (declared : Option Value) :
    Parallel P Eq (Check.admission k key declared) (Check.admission l key declared) := by
  unfold Check.admission
  rw [← like.tree_eq h]
  exact .whenTrue (.failAt _ _)

/-- An entry that no definition takes care of is visited with the policy. -/
theorem policyRule (h : P.alike k l) {r r' : Node} (hr : P.alike r r') (key : Key) :
    Parallel P Eq (Check.policyRule P.visit k r key) (Check.policyRule P.visit' l r' key) := by
  refine .bind (.content h) ?_
  rintro c _ ⟨rfl, _⟩
  exact .whenTrue (.member _ hr)

/-- Each entry is admitted, has what it requires, obeys the policy and then its own schema. -/
theorem entry (like : Likeness P.alike) (h : P.alike k l) {r r' : Node} (hr : P.alike r r')
    (key : Key) :
    Parallel P Eq (Check.entry P.visit k r key) (Check.entry P.visit' l r' key) := by
  refine .bind (.content h) ?_
  rintro c _ ⟨rfl, _⟩
  refine .bind (.admission like hr key _) fun _ _ _ => ?_
  refine .bind (.requirementRule key _) fun _ _ _ => ?_
  refine .bind (.policyRule h hr key) fun _ _ _ => ?_
  exact .own key

theorem objectOnly : Parallel P Eq Check.objectOnly Check.objectOnly := by
  refine .bind .value ?_
  rintro x _ rfl
  exact .whenTrue (.failKeyless _)

/-- Declared properties first, then all entries that there are by then. -/
theorem object (like : Likeness P.alike) (h : P.alike k l) {r r' : Node} (hr : P.alike r r') :
    Parallel P Eq (Check.object P.visit k r) (Check.object P.visit' l r') := by
  refine .bind (.content h) ?_
  rintro c _ ⟨rfl, hc⟩
  cases c with
  | map es =>
    have hdeclared : Parallel P Eq (Check.declaredProperties P.visit k es.length es)
        (Check.declaredProperties P.visit' l es.length es) :=
      .declaredProperties h _ _ fun step e he => like.part hc step (List.mem_map_of_mem he)
    refine .bind .objectOnly fun _ _ _ => ?_
    refine .bind hdeclared fun _ _ _ => ?_
    refine .bind .value ?_
    rintro y _ rfl
    exact .each _ fun key => .entry like h hr key
  | _ => exact .failKeyless _

/-- Without declarations every entry is an additional one. -/
theorem additionalOnly (like : Likeness P.alike) (h : P.alike k l) :
    Parallel P Eq (Check.additionalOnly P.visit k) (Check.additionalOnly P.visit' l) := by
  refine .bind .value ?_
  rintro x _ rfl
  rw [← like.tree_eq h]
  cases allows k.tree || !x.isMap
  · refine .bind .scope fun s s' hs => .each _ fun key => ?_
    unfold additionalEntry
    -- a refusal tells of the key of the scope, which is the same
    rw [← like.tree_eq h, hs.1]
    cases forbids k.tree
    · exact .member _ h
    · exact .failAt _ _
  · exact .skip

/-! ## One value, one schema -/

/-- Like nodes are registered by the same id. -/
theorem idRule (like : Likeness P.alike) (h : P.alike k l) :
    Parallel P Eq (Check.idRule k) (Check.idRule l) := by
  refine .whenGiven like h "id" fun r r' hr => ?_
  rw [← like.tree_eq hr]
  exact .register _ h

/-- Bases are visited in order, at the value itself. -/
theorem extendsRule (like : Likeness P.alike) (h : P.alike k l) :
    Parallel P Eq (Check.extendsRule P.visit k) (Check.extendsRule P.visit' l) := by
  refine .whenGiven like h "extends" fun r r' hr => ?_
  rw [← like.tree_eq hr]
  cases r.tree with
  | list _ => exact .eachElement like hr fun _ a b hab => .here hab
  | _ => exact .here hr

/-- A disallowed type is attempted, and its rejection is what is asked for. -/
theorem disallowRule (like : Likeness P.alike) (h : P.alike k l) :
    Parallel P Eq (Check.disallowRule P.visit k) (Check.disallowRule P.visit' l) := by
  refine .whenGiven like h "disallow" fun r r' hr => ?_
  refine .bind (.attempt (.typeRule like hr)) ?_
  rintro e _ rfl
  cases e with
  | none => exact .fail _
  | some v => exact .skip

/-- What is said about members depends on whether the value has elements or entries. -/
theorem memberRules (like : Likeness P.alike) (h : P.alike k l) (x : Value) :
    Parallel P Eq (Check.memberRules P.visit k x) (Check.memberRules P.visit' l x) := by
  unfold Check.memberRules
  cases x.elements? with
  | some xs => exact .items like h
  | none =>
    refine .bind (.given? like h "properties") fun a b hab => ?_
    cases hab with
    | some hab =>
      refine .bind (.additionalPolicy like h) fun _ _ hr => ?_
      exact .object like hab hr
    | none =>
      refine .bind (.content h) ?_
      rintro c _ ⟨rfl, _⟩
      refine .whenTrue ?_
      refine .bind (.additionalPolicy like h) fun _ _ hr => ?_
      exact .additionalOnly like hr

theorem scalarRules (h : P.alike k l) (x : Value) :
    Parallel P Eq (Check.scalarRules k x) (Check.scalarRules l x) := by
  unfold Check.scalarRules
  cases x with
  | str s => exact .bind (.patternRule h s) fun _ _ _ => .textLengths h s
  | int i => exact .numberRules h _
  | float f => exact .numberRules h _
  | _ => exact .skip

/-- The rules on a value that is there: its type, what is disallowed, its content. -/
theorem presentRules (like : Likeness P.alike) (h : P.alike k l) (x : Value) :
    Parallel P Eq (Check.presentRules P.visit k x) (Check.presentRules P.visit' l x) := by
  have hcontent : Parallel P Eq (contentRules P.visit k x) (contentRules P.visit' l x) := by
    refine .bind (.memberRules like h x) fun _ _ _ => ?_
    refine .bind (.scalarRules h x) fun _ _ _ => ?_
    exact .closingRules h
  refine .bind (.whenGiven like h "type" fun r r' hr => .typeRule like hr) fun _ _ _ => ?_
  refine .bind (.disallowRule like h) fun _ _ _ => ?_
  -- null is of any type but has no content to be checked
  cases x with
  | null => exact .skip
  | _ => exact hcontent

/-- A missing value and one that is there are two different matters. -/
theorem ownRules (like : Likeness P.alike) (h : P.alike P.node P.node') :
    Parallel P Eq (Check.ownRules P.visit P.node) (Check.ownRules P.visit' P.node') := by
  refine .bind .value ?_
  rintro x _ rfl
  cases x with
  | missing => exact .missing
  | _ => exact .presentRules like h _

/-- The rules of two like nodes go the same way. -/
theorem property (like : Likeness P.alike) (h : P.alike P.node P.node') :
    Parallel P Eq (Check.property P.visit P.node) (Check.property P.visit' P.node') := by
  refine .bind (.idRule like h) fun _ _ _ => ?_
  refine .bind .reference fun _ _ _ => ?_
  refine .bind (.extendsRule like h) fun _ _ _ => ?_
  exact .ownRules like h

end Parallel

/-- An attempt comes to what the check comes to. -/
theorem attempt_progress (c : Check Unit) (s : Scope) (p : Progress) :
    (attempt c s p).2 = (c s p).2 := by
  unfold attempt
  split
  · next h => rw [h]
  · next h =>
    rw [h]
    split <;> rfl
  · next h => rw [h]

/-- Two runs that fail alike, or succeed with results in a relation. -/
inductive SameEnd {α β : Type} (R : α → β → Prop) : Except Failure α → Except Failure β → Prop
  | ok {a : α} {b : β} (h : R a b) : SameEnd R (.ok a) (.ok b)
  | error (f : Failure) : SameEnd R (.error f) (.error f)

/-- Runs without results that are the same end alike. -/
theorem SameEnd.refl (r : Except Failure Unit) : SameEnd Eq r r := by
  cases r with
  | ok _ => exact .ok rfl
  | error f => exact .error f

/-- Runs without results that end alike come to the same. -/
theorem SameEnd.eq {r r' : Except Failure Unit} (h : SameEnd Eq r r') : r' = r := by
  cases h with
  | ok h => rw [h]
  | error f => rfl

/-- Attempts of checks that end alike end alike. -/
theorem attempt_sameEnd {c d : Check Unit} {s s' : Scope} {p p' : Progress}
    (h : SameEnd Eq (c s p).1 (d s' p').1) : SameEnd Eq (attempt c s p).1 (attempt d s' p').1 := by
  unfold attempt
  rcases hcr : c s p with ⟨r, q⟩
  rcases hdr : d s' p' with ⟨r', q'⟩
  rw [hcr, hdr] at h
  cases h with
  | ok _ => exact .ok rfl
  | error f =>
    cases f with
    | fault _ => exact .error _
    | violation e =>
      -- a violation is caught or not by its kind alone
      dsimp only
      split
      · exact .ok rfl
      · exact .error _

end Check

end Conformance

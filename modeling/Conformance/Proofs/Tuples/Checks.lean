/-
  Checks of values that differ in their tuples only, side by side.

  Two runs face each other (`Facing`) if they are at places with the same key and path, where no
  defaults are written and none have been, their values are the same but for tuples, and the same
  schemas are registered, all of them blind to tuples.  Two checks see alike (`SeesAlike`) if from
  there on they end alike, with results in a relation or with errors that report the same, still
  face each other, and have left the data as they were.

  Here are the ways in which checks are put together.  A check reads of its value what its untupled
  form shows (`Value.Paired.read`), so what is done next is the same on both sides.
-/
import Conformance.Proofs.Faults
import Conformance.Proofs.WithoutWrites
import Conformance.Proofs.Visits
import Conformance.Proofs.Tuples.Schemas

namespace Conformance

/-- Two failures that report the same: the same fault, or violations of the same class and kind,
    with the same key and path. -/
inductive Failure.SameReport : Failure → Failure → Prop
  | fault (f : Fault) : SameReport (.fault f) (.fault f)
  | violation {e e' : Violation} (errorClass : e'.errorClass = e.errorClass)
    (kind : e'.kind = e.kind) (key : e'.key = e.key) (path : e'.path = e.path) :
    SameReport (.violation e) (.violation e')

/-- Two values that are the same but for their tuples, neither with schemas to be enforced below its
    top. -/
structure Value.Paired (v w : Value) : Prop where
  same : v.untupled = w.untupled
  plain : v.plain = true
  plain' : w.plain = true

namespace Value.Paired

variable {v w : Value} (h : v.Paired w)

include h

/-- What does not tell a value from its untupled form is the same of both. -/
theorem read {α : Type} {f : Value → α} (hf : ∀ v, f v.untupled = f v) : f v = f w := by
  rw [← hf v, h.same, hf w]

theorem isArray : v.elements?.isSome = w.elements?.isSome :=
  h.read (f := fun v => v.elements?.isSome) fun v => by rw [elements?_untupled, Option.isSome_map]

theorem isMap : v.isMap = w.isMap := h.read isMap_untupled

theorem hasKey (key : Key) : v.hasKey key = w.hasKey key :=
  h.read (f := fun v => v.hasKey key) fun v => by rw [hasKey_eq, hasKey_eq, keys_untupled]

/-- There are as many elements, if any. -/
theorem length : (v.elements?.getD []).length = (w.elements?.getD []).length := by
  refine h.read (f := fun v => (v.elements?.getD []).length) fun v => ?_
  rw [elements?_untupled]
  cases v.elements? with
  | none => rfl
  | some xs => exact List.length_map ..

/-- Values without members are one and the same. -/
theorem eq_of_atom (harray : v.elements?.isSome = false) (hobject : v.isMap = false) : v = w := by
  have harray' := h.isArray.symm.trans harray
  have hobject' := h.isMap.symm.trans hobject
  rw [Option.isSome_eq_false_iff, Option.isNone_iff_eq_none] at harray harray'
  -- without members a value is its own untupled form, and these forms are the same
  rw [← untupled_of_atom harray hobject, h.same, untupled_of_atom harray' hobject']

/-- Members of values that are the same but for tuples face each other. -/
theorem member (step : Step) : (v.member step).Paired (w.member step) where
  same := by rw [← member_untupled, h.same, member_untupled]
  plain := Check.SameUnwritten.plain_member h.plain step
  plain' := Check.SameUnwritten.plain_member h.plain' step

end Value.Paired

/-- The slot in which the check of a member starts: a member of what is no value counts as held. -/
def Slot.below (σ : Slot) (step : Step) : Slot :=
  match σ with
  | .present container => container.slotBelow step
  | _ => .held

/-- The value in that slot is the member. -/
theorem Slot.below_value (σ : Slot) (step : Step) : (σ.below step).value = σ.value.member step := by
  cases σ with
  | present container => exact container.slotBelow_value step
  | _ => rfl

namespace Check

/-- A check of a member that leaves the member as it was leaves the container as it was. -/
theorem atChild_of_still {α : Type} {c : Check α} {step : Step} {s : Scope} {p : Progress}
    (h : (c (s.child step) { p with slot := p.slot.below step }).2.slot = p.slot.below step) :
    atChild step c s p = ((c (s.child step) { p with slot := p.slot.below step }).1,
      { (c (s.child step) { p with slot := p.slot.below step }).2 with slot := p.slot }) := by
  unfold atChild
  cases hp : p.slot with
  | present container =>
    rw [hp] at h
    dsimp only [Slot.below] at h ⊢
    rw [h, Value.settle_slotBelow]
  | _ => rfl

/-- Two runs end with results in a relation, or with errors that report the same. -/
inductive ReportsAlike {α β : Type} (R : α → β → Prop) :
    Except Failure α → Except Failure β → Prop
  | ok {a : α} {b : β} (h : R a b) : ReportsAlike R (.ok a) (.ok b)
  | error {f g : Failure} (h : f.SameReport g) : ReportsAlike R (.error f) (.error g)

/-- Two runs at places with the same key and path, where no defaults are written and none have been,
    at two values, with the same schemas registered. -/
structure Facing (v w : Value) (s s' : Scope) (p p' : Progress) : Prop where
  key : s'.key = s.key
  trail : s'.trail = s.trail
  silent : s.interactive = false
  silent' : s'.interactive = false
  value : p.slot.value = v
  value' : p'.slot.value = w
  writes : p.writes = []
  writes' : p'.writes = []
  registry : p'.registry = p.registry
  known : ∀ id k, p.registry.find? id = some k → k.tree.BlindToTuples

/-- What two runs that faced each other come to: they end alike, they still do, and the data are as
    they were. -/
structure EndFacing {α β : Type} (v w : Value) (R : α → β → Prop) (s s' : Scope) (p p' : Progress)
    (x : Except Failure α × Progress) (y : Except Failure β × Progress) : Prop where
  result : ReportsAlike R x.1 y.1
  facing : Facing v w s s' x.2 y.2
  slot : x.2.slot = p.slot
  slot' : y.2.slot = p'.slot

/-- One check sees in the first value what another sees in the second. -/
def SeesAlike {α β : Type} (v w : Value) (R : α → β → Prop) (c : Check α) (d : Check β) : Prop :=
  ∀ s s' p p', Facing v w s s' p p' → EndFacing v w R s s' p p' (c s p) (d s' p')

namespace SeesAlike

variable {α β γ δ : Type} {v w : Value} {R : α → β → Prop} {Q : γ → δ → Prop} {n : Node}

/-! ## Sequencing -/

theorem of_still {c : Check α} {d : Check β} (hc : ∀ s p, (c s p).2 = p)
    (hd : ∀ s p, (d s p).2 = p)
    (h : ∀ s s' p p', Facing v w s s' p p' → ReportsAlike R (c s p).1 (d s' p').1) :
    SeesAlike v w R c d := by
  intro s s' p p' hf
  refine ⟨h s s' p p' hf, ?_, by rw [hc], by rw [hd]⟩
  rw [hc, hd]
  exact hf

theorem pure {a : α} {b : β} (h : R a b) : SeesAlike v w R (Pure.pure a) (Pure.pure b) :=
  .of_still (fun _ _ => rfl) (fun _ _ => rfl) fun _ _ _ _ _ => .ok h

theorem skip : SeesAlike v w Eq (Pure.pure () : Check Unit) (Pure.pure ()) := .pure rfl

/-- Checks that see alike, followed by checks that do, see alike. -/
theorem bind {c : Check α} {d : Check β} {f : α → Check γ} {g : β → Check δ}
    (hc : SeesAlike v w R c d) (hf : ∀ a b, R a b → SeesAlike v w Q (f a) (g b)) :
    SeesAlike v w Q (c >>= f) (d >>= g) := by
  intro s s' p p' hfacing
  obtain ⟨hend, hmid, hslot, hslot'⟩ := hc s s' p p' hfacing
  rw [bind_run, bind_run]
  -- where the first checks succeed they still face each other, so the second ones start alike
  rcases hcr : c s p with ⟨r, q⟩
  rcases hdr : d s' p' with ⟨r', q'⟩
  rw [hcr] at hend hmid hslot
  rw [hdr] at hend hmid hslot'
  cases hend with
  | error hreport => exact ⟨.error hreport, hmid, hslot, hslot'⟩
  | @ok a b hab =>
    have hrest := hf a b hab s s' q q' hmid
    exact ⟨hrest.result, hrest.facing, hrest.slot.trans hslot, hrest.slot'.trans hslot'⟩

/-- Readings come first, which leave the progress alone. -/
theorem read {c : Check α} {d : Check β} {a : α} {b : β} {f : α → Check γ} {g : β → Check δ}
    (hc : ∀ s p, p.writes = [] → p.slot.value = v → c s p = (.ok a, p))
    (hd : ∀ s p, p.writes = [] → p.slot.value = w → d s p = (.ok b, p))
    (h : SeesAlike v w Q (f a) (g b)) : SeesAlike v w Q (c >>= f) (d >>= g) := by
  intro s s' p p' hf
  rw [bind_run_ok (hc s p hf.writes hf.value), bind_run_ok (hd s' p' hf.writes' hf.value')]
  exact h s s' p p' hf

/-- Each check reads its own value. -/
theorem value {f : Value → Check γ} {g : Value → Check δ} (h : SeesAlike v w Q (f v) (g w)) :
    SeesAlike v w Q (Check.value >>= f) (Check.value >>= g) :=
  .read (fun _ p _ hv => by rw [Check.value, hv]) (fun _ p _ hw => by rw [Check.value, hw]) h

/-- What a node says is what it said when it was reached. -/
theorem content {f : Value → Check γ} {g : Value → Check δ}
    (h : SeesAlike v w Q (f n.tree) (g n.tree)) :
    SeesAlike v w Q (Check.content n >>= f) (Check.content n >>= g) := by
  have hread (s : Scope) (p : Progress) (hw : p.writes = []) :
      Check.content n s p = (.ok n.tree, p) := by rw [Check.content, hw, n.content_nil]
  exact .read (fun s p hw _ => hread s p hw) (fun s p hw _ => hread s p hw) h

/-- Both read the same under a name. -/
theorem field? {name : String} {f : Option Value → Check γ} {g : Option Value → Check δ}
    (h : SeesAlike v w Q (f (n.tree.get? name)) (g (n.tree.get? name))) :
    SeesAlike v w Q (Check.field? n name >>= f) (Check.field? n name >>= g) :=
  .content (f := fun t => f (t.get? name)) (g := fun t => g (t.get? name)) h

/-- Both read the same, where nothing said is null. -/
theorem field {name : String} {f : Value → Check γ} {g : Value → Check δ}
    (h : SeesAlike v w Q (f ((n.tree.get? name).getD .null))
      (g ((n.tree.get? name).getD .null))) :
    SeesAlike v w Q (Check.field n name >>= f) (Check.field n name >>= g) :=
  .content (f := fun t => f ((t.get? name).getD .null))
    (g := fun t => g ((t.get? name).getD .null)) h

/-- Both read the same element of a schema. -/
theorem element {i : Nat} {f : Node → Check γ} {g : Node → Check δ}
    (h : ∀ k, SeesAlike v w Q (f k) (g k)) :
    SeesAlike v w Q (Check.element n i >>= f) (Check.element n i >>= g) :=
  .content (f := fun t => f (n.down (.index i) (t.member (.index i))))
    (g := fun t => g (n.down (.index i) (t.member (.index i)))) (h _)

/-- The key and the path are the same on both sides, so they may be used. -/
theorem scope {f : Scope → Check γ} {g : Scope → Check δ}
    (h : ∀ s s', s'.key = s.key → s'.trail = s.trail → SeesAlike v w Q (f s) (g s')) :
    SeesAlike v w Q (Check.scope >>= f) (Check.scope >>= g) :=
  fun s s' p p' hf => h s s' hf.key hf.trail s s' p p' hf

/-- What is told along the way is no matter. -/
theorem note (e e' : Event) : SeesAlike v w Eq (Check.note e) (Check.note e') :=
  fun _ _ _ _ hf => ⟨.ok rfl, ⟨hf.key, hf.trail, hf.silent, hf.silent', hf.value, hf.value',
    hf.writes, hf.writes', hf.registry, hf.known⟩, rfl, rfl⟩

/-! ## Failing -/

/-- Causes of one kind and class, at the same place. -/
theorem fails {cause cause' : Cause} (hkind : cause'.kind = cause.kind)
    (hclass : cause'.errorClass = cause.errorClass) :
    SeesAlike v w R (Check.fail cause : Check α) (Check.fail cause' : Check β) :=
  .of_still (fun _ _ => rfl) (fun _ _ => rfl) fun _ _ _ _ hf =>
    .error (.violation hclass hkind hf.key (congrArg (fun t => some (Trail.text t)) hf.trail))

theorem fail (cause : Cause) :
    SeesAlike v w R (Check.fail cause : Check α) (Check.fail cause : Check β) := .fails rfl rfl

theorem failAt (key : Key) {cause cause' : Cause} (hkind : cause'.kind = cause.kind)
    (hclass : cause'.errorClass = cause.errorClass) :
    SeesAlike v w R (Check.failAt key cause : Check α) (Check.failAt key cause' : Check β) :=
  .of_still (fun _ _ => rfl) (fun _ _ => rfl) fun _ _ _ _ hf =>
    .error (.violation hclass hkind rfl
      (congrArg (fun t => some (Trail.text (t ++ [Step.entry key]))) hf.trail))

theorem failKeyless {cause cause' : Cause} (hkind : cause'.kind = cause.kind)
    (hclass : cause'.errorClass = cause.errorClass) :
    SeesAlike v w R (Check.failKeyless cause : Check α) (Check.failKeyless cause' : Check β) :=
  .of_still (fun _ _ => rfl) (fun _ _ => rfl) fun _ _ _ _ hf =>
    .error (.violation hclass hkind rfl (congrArg (fun t => some (Trail.text t)) hf.trail))

theorem failPlaceless (cause : Cause) :
    SeesAlike v w R (Check.failPlaceless cause : Check α) (Check.failPlaceless cause : Check β) :=
  .of_still (fun _ _ => rfl) (fun _ _ => rfl) fun _ _ _ _ hf =>
    .error (.violation rfl rfl hf.key rfl)

theorem fault (f : Fault) :
    SeesAlike v w R (Check.stop (.fault f) : Check α) (Check.stop (.fault f) : Check β) :=
  .of_still (fun _ _ => rfl) (fun _ _ => rfl) fun _ _ _ _ _ => .error (.fault f)

/-- Both attempts are given up, or neither: what is given up is told by its class alone. -/
theorem attempt {c d : Check Unit} (h : SeesAlike v w Eq c d) :
    SeesAlike v w (fun e e' => e.isSome = e'.isSome) (Check.attempt c) (Check.attempt d) := by
  intro s s' p p' hf
  obtain ⟨hend, hfacing, hslot, hslot'⟩ := h s s' p p' hf
  refine ⟨?_, ?_, ?_, ?_⟩
  · unfold Check.attempt
    rcases hcr : c s p with ⟨r, q⟩
    rcases hdr : d s' p' with ⟨r', q'⟩
    rw [hcr, hdr] at hend
    cases hend with
    | ok _ => exact .ok rfl
    | error hreport =>
      cases hreport with
      | fault f => exact .error (.fault f)
      | @violation e e' hclass hkind hkey hpath =>
        dsimp only
        -- the class decides on what is given up, and it is the same
        rw [hclass]
        split
        · exact .ok rfl
        · exact .error (.violation hclass hkind hkey hpath)
  · rw [attempt_progress, attempt_progress]
    exact hfacing
  · rw [attempt_progress]
    exact hslot
  · rw [attempt_progress]
    exact hslot'

/-- What follows an attempt may depend on whether it was given up, and on nothing else. -/
theorem attempted {c d : Check Unit} {f g : Option Violation → Check γ}
    (h : SeesAlike v w Eq c d) (hnone : SeesAlike v w Eq (f none) (g none))
    (hsome : ∀ e e', SeesAlike v w Eq (f (some e)) (g (some e'))) :
    SeesAlike v w Eq (Check.attempt c >>= f) (Check.attempt d >>= g) := by
  refine .bind (.attempt h) fun e e' he => ?_
  cases e with
  | none =>
    cases e' with
    | none => exact hnone
    | some _ => cases he
  | some x =>
    cases e' with
    | none => cases he
    | some x' => exact hsome x x'

/-! ## Members and lists -/

/-- Members of values that are the same but for tuples are. -/
theorem atChild {c d : Check Unit} (step : Step)
    (h : SeesAlike (v.member step) (w.member step) Eq c d) :
    SeesAlike v w Eq (Check.atChild step c) (Check.atChild step d) := by
  intro s s' p p' hf
  -- the members face each other in slots of their own
  have hmembers : Facing (v.member step) (w.member step) (s.child step) (s'.child step)
      { p with slot := p.slot.below step } { p' with slot := p'.slot.below step } :=
    { hf with
      key := rfl
      trail := congrArg (fun trail => trail ++ [step]) hf.trail
      value := by rw [← hf.value]; exact Slot.below_value ..
      value' := by rw [← hf.value']; exact Slot.below_value .. }
  have hrun := h _ _ _ _ hmembers
  -- nothing is written, so both containers get back what they had
  rw [atChild_of_still hrun.slot, atChild_of_still hrun.slot']
  refine ⟨hrun.result, ?_, rfl, rfl⟩
  exact { hf with
    writes := hrun.facing.writes
    writes' := hrun.facing.writes'
    registry := hrun.facing.registry
    known := hrun.facing.known }

theorem each {ι : Type} {c d : ι → Check Unit} (xs : List ι)
    (h : ∀ x ∈ xs, SeesAlike v w Eq (c x) (d x)) :
    SeesAlike v w Eq (Check.each c xs) (Check.each d xs) := by
  induction xs with
  | nil => exact .skip
  | cons x rest ih =>
    refine .bind (h x (List.mem_cons_self ..)) fun _ _ _ => ?_
    exact ih fun y hy => h y (List.mem_cons_of_mem _ hy)

/-- The elements of a schema that is a list.  Nothing is written, so it does not grow. -/
theorem eachElement {c d : Nat → Node → Check Unit}
    (h : ∀ i, ∀ x ∈ n.tree.listItems, SeesAlike v w Eq (c i (n.down (.index i) x))
      (d i (n.down (.index i) x))) :
    SeesAlike v w Eq (Check.eachElement n c) (Check.eachElement n d) := by
  -- by induction on what is left of the list, with the number of elements visited
  have hfrom (xs : List Value) : ∀ i, n.tree.listItems.length = i + xs.length →
      (∀ x ∈ xs, x ∈ n.tree.listItems) →
        SeesAlike v w Eq (Check.visitFrom n c i xs) (Check.visitFrom n d i xs) := by
    induction xs with
    | nil =>
      intro i hi _
      unfold Check.visitFrom
      rw [show growthRoom = 0xffffffff + 1 from rfl, Check.visitAppended, Check.visitAppended]
      -- the list is as long as it was, so none has been appended
      refine .content ?_
      rw [List.getElem?_eq_none (by simp [hi])]
      exact .skip
    | cons x rest ih =>
      intro i hi hmem
      refine .bind (h i x (hmem x (List.mem_cons_self ..))) fun _ _ _ => ?_
      exact ih (i + 1) (by simp at hi; omega) fun y hy => hmem y (List.mem_cons_of_mem _ hy)
  exact .content (hfrom n.tree.listItems 0 (Nat.zero_add _).symm fun _ hx => hx)

/-! ## Rules that are given -/

/-- A check that is skipped on both sides or on neither. -/
theorem whenTrue {b : Bool} {c d : Check Unit} (h : SeesAlike v w Eq c d) :
    SeesAlike v w Eq (if b = true then c else Pure.pure ())
      (if b = true then d else Pure.pure ()) := by
  cases b with
  | false => exact .skip
  | true => exact h

/-- A rule on what a schema says, unless that is null. -/
theorem unlessNull (x : Value) {rule rule' : Value → Check Unit}
    (h : ∀ y, SeesAlike v w Eq (rule y) (rule' y)) :
    SeesAlike v w Eq (Check.unlessNull x rule) (Check.unlessNull x rule') := by
  cases x with
  | null => exact .skip
  | _ => exact h _

/-- A bound is the same number on both sides. -/
theorem withBound {name : String} {rule rule' : Number → Value → Check Unit}
    (h : ∀ bound y, SeesAlike v w Eq (rule bound y) (rule' bound y)) :
    SeesAlike v w Eq (Check.withBound n name rule) (Check.withBound n name rule') := by
  refine .field (.unlessNull _ fun y => ?_)
  cases y.number? with
  | none => exact .fail _
  | some bound => exact h bound y

/-- A rule is given on both sides or on neither, and it is the same rule. -/
theorem given? {name : String} {f g : Option Node → Check Unit}
    (hnone : SeesAlike v w Eq (f none) (g none))
    (hsome : ∀ r, n.tree.rule? name = some r →
      SeesAlike v w Eq (f (some (n.down (.name name) r))) (g (some (n.down (.name name) r)))) :
    SeesAlike v w Eq (Check.given? n name >>= f) (Check.given? n name >>= g) := by
  unfold Check.given?
  rw [bind_assoc, bind_assoc]
  refine .field? ?_
  cases hr : n.tree.get? name with
  | none => exact hnone
  | some r =>
    cases hg : r.isGiven with
    | false => simpa [hg] using hnone
    | true => simpa [hg] using hsome r (by simp [Value.rule?, hr, hg])

/-- The check of a rule that is given. -/
theorem whenGiven {name : String} {rule rule' : Node → Check Unit}
    (h : ∀ r, n.tree.rule? name = some r →
      SeesAlike v w Eq (rule (n.down (.name name) r)) (rule' (n.down (.name name) r))) :
    SeesAlike v w Eq (Check.whenGiven n name rule) (Check.whenGiven n name rule') :=
  .given? .skip h

/-- A schema that is blind to tuples may be registered. -/
theorem register (id : String) (h : n.tree.BlindToTuples) :
    SeesAlike v w Eq (Check.register id n) (Check.register id n) := by
  intro s s' p p' hf
  have hregistry : p'.registry.insert id n = p.registry.insert id n := by rw [hf.registry]
  have hknown (other : String) (k : Node) (hk : (p.registry.insert id n).find? other = some k) :
      k.tree.BlindToTuples := by
    -- a name leads to what it led to before, or to this schema
    rcases Registry.find?_insert_cases hk with hbefore | rfl
    · exact hf.known other k hbefore
    · exact h
  exact ⟨.ok rfl, { hf with registry := hregistry, known := hknown }, rfl, rfl⟩

/-- Going one level deeper is told in both journals. -/
theorem nested {c d : Check Unit} (h : SeesAlike v w Eq c d) :
    SeesAlike v w Eq (Check.nested n c) (Check.nested n d) := by
  intro s s' p p' hf
  -- neither the level nor the journal is anything that the two runs are compared by
  have hdeeper : Facing v w { s with depth := s.depth + 1 } { s' with depth := s'.depth + 1 }
      { p with journal := .entered n s.trail (s.depth + 1) :: p.journal }
      { p' with journal := .entered n s'.trail (s'.depth + 1) :: p'.journal } := { hf with }
  have hrun := h _ _ _ _ hdeeper
  exact ⟨hrun.result, { hrun.facing with }, hrun.slot, hrun.slot'⟩

end SeesAlike

end Check

end Conformance

/-
  Checks of data and schemas whose keys stand in another order.

  `Mirrors c d σ σ'` says that where `c` accepts `σ` and leaves `τ`, `d` accepts `σ'` wherever it is
  made, and leaves what is `τ` up to the order of keys.  Nothing is said of a `c` that fails, so a
  rule that is broken on the left asks for nothing on the right.  `Matches c d` says so of all slots
  that are the same up to the order of keys.

  Here are the ways in which checks are put together.  All nodes are in schema documents, which never
  change.
-/
import Conformance.Proofs.Order.Slots
import Conformance.Proofs.Stability

namespace Conformance

/-- Nodes in schema documents that say the same up to the order of keys. -/
structure Node.Alike (n n' : Node) : Prop where
  left : n.InSchema
  right : n'.InSchema
  tree : n.tree.reordered n'.tree

/-- Parts of nodes that say the same, and say the same themselves, are such nodes. -/
theorem Node.Alike.down {n n' : Node} (h : n.Alike n') (step : Step) {v v' : Value}
    (hv : v.reordered v') : (n.down step v).Alike (n'.down step v') := ⟨h.left, h.right, hv⟩

namespace Check

/-- A check accepts a slot wherever it is made, where defaults are written, and leaves another. -/
def AcceptsAnywhere (c : Check Unit) (σ τ : Slot) : Prop :=
  ∀ s p, s.interactive = true → p.slot = σ → ∃ q, c s p = (.ok (), q) ∧ q.slot = τ

/-- Where one check accepts a slot, the other accepts the other slot, and they leave the same up to
    the order of keys. -/
def Mirrors (c d : Check Unit) (σ σ' : Slot) : Prop :=
  ∀ τ, AcceptsAs c σ τ → ∃ τ', τ.Reordered τ' ∧ AcceptsAnywhere d σ' τ'

/-- A check that never succeeds. -/
def Fails (c : Check Unit) : Prop := ∀ s p, ∃ f, c s p = (.error f, p)

/-- The second check mirrors the first one on all slots that are the same up to the order of keys. -/
def Matches (c d : Check Unit) : Prop := ∀ ⦃σ σ' : Slot⦄, σ.Reordered σ' → Mirrors c d σ σ'

theorem fail_fails (cause : Cause) : Fails (Check.fail cause) := fun _ _ => ⟨_, rfl⟩

theorem stop_fails (f : Failure) : Fails (Check.stop f) := fun _ _ => ⟨f, rfl⟩

/-- A check accepts a slot wherever it is made, whether defaults are written or not, and leaves
    another. -/
def AcceptsAlways (c : Check Unit) (σ τ : Slot) : Prop :=
  ∀ s p, p.slot = σ → ∃ q, c s p = (.ok (), q) ∧ q.slot = τ

theorem AcceptsAlways.anywhere {c : Check Unit} {σ τ : Slot} (h : AcceptsAlways c σ τ) :
    AcceptsAnywhere c σ τ := fun s p _ hp => h s p hp

/-- A check that leaves a certain slot leaves no other one. -/
theorem AcceptsAlways.eq {c : Check Unit} {σ τ ρ : Slot} (h : AcceptsAlways c σ τ)
    (hρ : AcceptsAs c σ ρ) : ρ = τ := by
  obtain ⟨s, p, q, _, hp, hrun, rfl⟩ := hρ
  obtain ⟨q', hq', hslot⟩ := h s p hp
  -- the check makes one result of one start
  rw [hrun] at hq'
  cases hq'
  exact hslot

theorem AcceptsAnywhere.pure (σ : Slot) : AcceptsAnywhere (Pure.pure ()) σ σ :=
  fun _ p _ hp => ⟨p, rfl, hp⟩

/-- What the first check leaves, the second one goes on with. -/
theorem AcceptsAnywhere.bind {c d : Check Unit} {σ τ ρ : Slot} (hc : AcceptsAnywhere c σ τ)
    (hd : AcceptsAnywhere d τ ρ) : AcceptsAnywhere (c >>= fun _ => d) σ ρ := by
  intro s p hs hp
  obtain ⟨q, hq, hslot⟩ := hc s p hs hp
  rw [bind_run_ok hq]
  exact hd s q hs hslot

theorem AcceptsAnywhere.read {α : Type} {r : Check α} {a : α} {f : α → Check Unit} {σ τ : Slot}
    (hr : ∀ s p, p.slot = σ → r s p = (.ok a, p)) (h : AcceptsAnywhere (f a) σ τ) :
    AcceptsAnywhere (r >>= f) σ τ := by
  intro s p hs hp
  rw [bind_run_ok (hr s p hp)]
  exact h s p hs hp

theorem AcceptsAnywhere.value {f : Value → Check Unit} {σ τ : Slot}
    (h : AcceptsAnywhere (f σ.value) σ τ) : AcceptsAnywhere (Check.value >>= f) σ τ :=
  .read (fun _ p hp => by rw [Check.value, hp]) h

theorem AcceptsAnywhere.content {n : Node} (hn : n.InSchema) {f : Value → Check Unit} {σ τ : Slot}
    (h : AcceptsAnywhere (f n.tree) σ τ) : AcceptsAnywhere (Check.content n >>= f) σ τ :=
  .read (fun _ p _ => by rw [Check.content, hn.content]) h

/-- What a check of a member leaves is put back. -/
theorem AcceptsAnywhere.atChild {c : Check Unit} {step : Step} {a : Value} {ρ : Slot}
    (h : AcceptsAnywhere c (a.slotBelow step) ρ) :
    AcceptsAnywhere (Check.atChild step c) (.present a) (.present (a.settle step ρ)) := by
  intro s p hs hp
  obtain ⟨q, hq, rfl⟩ := h (s.child step) { p with slot := a.slotBelow step } hs rfl
  refine ⟨{ q with slot := .present (a.settle step q.slot) }, ?_, rfl⟩
  unfold Check.atChild
  rw [hp]
  dsimp only
  rw [hq]

/-- Where there is no value, there are no members either. -/
theorem atChild_of_absent {α : Type} {c : Check α} {step : Step} {s : Scope} {p : Progress}
    (h : ∀ v, p.slot ≠ .present v) : Check.atChild step c s p =
      ((c (s.child step) { p with slot := .held }).1,
        { (c (s.child step) { p with slot := .held }).2 with slot := p.slot }) := by
  unfold Check.atChild
  split
  · next hp => exact absurd hp (h _)
  · rfl

namespace Mirrors

variable {c d c' d' : Check Unit} {σ σ' : Slot}

/-- Nothing is to be shown where the first check fails. -/
theorem of_fails (h : Fails c) : Mirrors c d σ σ' := by
  rintro τ ⟨s, p, q, _, _, hrun, _⟩
  obtain ⟨f, hf⟩ := h s p
  rw [hf] at hrun
  cases hrun

/-- Checks that succeed, and leave slots that are the same up to the order of keys. -/
theorem of_acceptsAlways {τ τ' : Slot} (hc : AcceptsAlways c σ τ) (hd : AcceptsAlways d σ' τ')
    (h : τ.Reordered τ') : Mirrors c d σ σ' := by
  intro ρ hρ
  rw [hc.eq hρ]
  exact ⟨τ', h, hd.anywhere⟩

theorem pure (h : σ.Reordered σ') : Mirrors (Pure.pure ()) (Pure.pure ()) σ σ' :=
  .of_acceptsAlways (fun _ p hp => ⟨p, rfl, hp⟩) (fun _ p hp => ⟨p, rfl, hp⟩) h

/-- Only what checks do where defaults are written matters. -/
theorem congr (hc : ∀ s p, s.interactive = true → c s p = c' s p)
    (hd : ∀ s p, s.interactive = true → d s p = d' s p) (h : Mirrors c' d' σ σ') :
    Mirrors c d σ σ' := by
  -- a run where defaults are written is the same run of the other check
  rintro τ ⟨s, p, q, hs, hp, hrun, hq⟩
  rw [hc s p hs] at hrun
  obtain ⟨τ', hτ, hanywhere⟩ := h τ ⟨s, p, q, hs, hp, hrun, hq⟩
  refine ⟨τ', hτ, fun s' p' hs' hp' => ?_⟩
  rw [hd s' p' hs']
  exact hanywhere s' p' hs' hp'

/-- The second pair is about slots that the first pair has left. -/
theorem bind (hc : Mirrors c d σ σ')
    (hnext : ∀ τ τ', AcceptsAs c σ τ → τ.Reordered τ' → Mirrors c' d' τ τ') :
    Mirrors (c >>= fun _ => c') (d >>= fun _ => d') σ σ' := by
  rintro ρ ⟨s, p, r, hs, hp, hrun, rfl⟩
  -- a run of both is a run of the first, and then one of the second
  obtain ⟨_, q, hq, hr⟩ := bind_ok hrun
  obtain ⟨τ', hτ, hanywhere⟩ := hc _ ⟨s, p, q, hs, hp, hq, rfl⟩
  obtain ⟨ρ', hρ, hanywhere'⟩ :=
    hnext _ τ' ⟨s, p, q, hs, hp, hq, rfl⟩ hτ _ ⟨s, q, r, hs, rfl, hr, rfl⟩
  exact ⟨ρ', hρ, hanywhere.bind hanywhere'⟩

/-- Readings come first, which both succeed. -/
theorem read {α β : Type} {r : Check α} {r' : Check β} {a : α} {b : β} {f : α → Check Unit}
    {g : β → Check Unit} (hr : ∀ s p, p.slot = σ → r s p = (.ok a, p))
    (hr' : ∀ s p, p.slot = σ' → r' s p = (.ok b, p)) (h : Mirrors (f a) (g b) σ σ') :
    Mirrors (r >>= f) (r' >>= g) σ σ' := by
  rintro τ ⟨s, p, q, hs, hp, hrun, hq⟩
  rw [bind_run_ok (hr s p hp)] at hrun
  obtain ⟨τ', hτ, hanywhere⟩ := h τ ⟨s, p, q, hs, hp, hrun, hq⟩
  exact ⟨τ', hτ, .read hr' hanywhere⟩

/-- Each check reads the value of its own slot. -/
theorem value {f g : Value → Check Unit} (h : Mirrors (f σ.value) (g σ'.value) σ σ') :
    Mirrors (Check.value >>= f) (Check.value >>= g) σ σ' :=
  .read (fun _ p hp => by rw [Check.value, hp]) (fun _ p hp => by rw [Check.value, hp]) h

/-- There are as many elements on both sides. -/
theorem length {f g : Nat → Check Unit} (hσ : σ.Reordered σ')
    (h : ∀ length, Mirrors (f length) (g length) σ σ') :
    Mirrors (Check.length >>= f) (Check.length >>= g) σ σ' := by
  refine .read (a := (σ.value.elements?.getD []).length) (fun _ p hp => ?_) (fun _ p hp => ?_) (h _)
  · rw [← hp]
    rfl
  · rw [← Value.length_of_reordered hσ.value, ← hp]
    rfl

section Nodes

variable {n n' : Node} (hn : n.Alike n')

include hn

/-- Each check reads its own schema. -/
theorem content {f g : Value → Check Unit} (h : Mirrors (f n.tree) (g n'.tree) σ σ') :
    Mirrors (Check.content n >>= f) (Check.content n' >>= g) σ σ' :=
  .read (fun _ p _ => by rw [Check.content, hn.left.content])
    (fun _ p _ => by rw [Check.content, hn.right.content]) h

/-- A name is there in both schemas or in neither. -/
theorem field? {name : String} {f g : Option Value → Check Unit}
    (hnone : Mirrors (f none) (g none) σ σ')
    (hsome : ∀ v v', v.reordered v' → Mirrors (f (some v)) (g (some v')) σ σ') :
    Mirrors (Check.field? n name >>= f) (Check.field? n' name >>= g) σ σ' := by
  refine .content hn (f := fun v => f (v.get? name)) (g := fun v => g (v.get? name)) ?_
  have hrel := Value.get?_of_reordered hn.tree name
  show Mirrors (f (n.tree.get? name)) (g (n'.tree.get? name)) σ σ'
  generalize n.tree.get? name = x at hrel
  generalize n'.tree.get? name = y at hrel
  cases hrel with
  | none => exact hnone
  | some hv => exact hsome _ _ hv

/-- What stands under a name is the same up to the order of keys, null included. -/
theorem field {name : String} {f g : Value → Check Unit}
    (h : ∀ v v', v.reordered v' → Mirrors (f v) (g v') σ σ') :
    Mirrors (Check.field n name >>= f) (Check.field n' name >>= g) σ σ' :=
  .field? hn (f := fun v => f (v.getD .null)) (g := fun v => g (v.getD .null)) (h _ _ rfl) h

/-- Checks of a rule that is given mirror each other if those of the rules do that say the same. -/
theorem whenGiven {name : String} {rule rule' : Node → Check Unit} (hσ : σ.Reordered σ')
    (h : ∀ r r', n.tree.rule? name = some r → r.reordered r' →
      Mirrors (rule (n.down (.name name) r)) (rule' (n'.down (.name name) r')) σ σ') :
    Mirrors (Check.whenGiven n name rule) (Check.whenGiven n' name rule') σ σ' := by
  have hrel := Value.rule?_of_reordered hn.tree name
  refine .read (a := (n.tree.rule? name).map (n.down (.name name)))
    (b := (n'.tree.rule? name).map (n'.down (.name name)))
    (fun s p _ => given?_run hn.left name s p) (fun s p _ => given?_run hn.right name s p) ?_
  -- a rule is given on both sides or on neither
  cases hr : n.tree.rule? name with
  | none =>
    rw [hr] at hrel
    cases hr' : n'.tree.rule? name with
    | none => exact .pure hσ
    | some r' =>
      rw [hr'] at hrel
      cases hrel
  | some r =>
    obtain ⟨r', hr', hrr⟩ := Value.exists_of_rel hrel hr
    rw [hr']
    exact h r r' hr hrr

end Nodes

/-- A rule is broken under a test that comes out the same on both sides. -/
theorem brokenIf {b b' : Prop} [Decidable b] [Decidable b'] (hb : b ↔ b') (hc : Fails c)
    (h : σ.Reordered σ') :
    Mirrors (if b then c else Pure.pure ()) (if b' then d else Pure.pure ()) σ σ' := by
  by_cases hbroken : b
  · rw [if_pos hbroken]
    exact .of_fails hc
  · rw [if_neg hbroken, if_neg fun h => hbroken (hb.mpr h)]
    exact .pure h

/-- Null is the same as null only. -/
theorem unlessNull {v w : Value} {rule rule' : Value → Check Unit} (hσ : σ.Reordered σ')
    (hv : v.reordered w) (h : v ≠ .null → Mirrors (rule v) (rule' w) σ σ') :
    Mirrors (Check.unlessNull v rule) (Check.unlessNull w rule') σ σ' := by
  cases v with
  | null =>
    obtain rfl : w = .null := hv
    exact .pure hσ
  | _ =>
    cases w with
    | null => cases Value.class?_of_reordered hv
    | _ => exact h nofun

/-- Going one level deeper leaves the slot alone. -/
theorem nested {n n' : Node} (h : Mirrors c d σ σ') :
    Mirrors (Check.nested n c) (Check.nested n' d) σ σ' := by
  rintro τ ⟨s, p, q, hs, rfl, hrun, rfl⟩
  obtain ⟨q', hc, rfl⟩ := nested_ok hrun
  obtain ⟨τ', hτ, hanywhere⟩ := h q'.slot ⟨{ s with depth := s.depth + 1 },
    { p with journal := .entered n s.trail (s.depth + 1) :: p.journal }, q', hs, rfl, hc, rfl⟩
  refine ⟨τ', hτ, fun s' p' hs' hp' => ?_⟩
  obtain ⟨r, hr, hslot⟩ := hanywhere { s' with depth := s'.depth + 1 }
    { p' with journal := .entered n' s'.trail (s'.depth + 1) :: p'.journal } hs' hp'
  exact ⟨{ r with journal := .left n' (.ok ()) :: r.journal }, nested_run_ok hr, hslot⟩

/-- A member is the same up to the order of keys if its container is, and so is the container with
    what has become of the member. -/
theorem atChild {step : Step} {a a' : Value} (hmoves : Moving c) (ha : a.reordered a')
    (hself : ∀ k, step = .entry k → k.same k = true)
    (h : Mirrors c d (a.slotBelow step) (a'.slotBelow step)) :
    Mirrors (Check.atChild step c) (Check.atChild step d) (.present a) (.present a') := by
  rintro τ ⟨s, p, q, hs, hp, hrun, rfl⟩
  obtain ⟨r, hc, rfl⟩ := atChild_ok hp hrun
  -- the visit moves on below the member, so what it leaves can be put back
  obtain ⟨ds, hm⟩ := hmoves (s.child step) { p with slot := a.slotBelow step }
  rw [hc] at hm
  obtain ⟨ρ, hρ, hanywhere⟩ := h r.slot ⟨s.child step, _, r, hs, rfl, hc, rfl⟩
  refine ⟨.present (a'.settle step ρ), .present (Value.settle_of_reordered ha hρ
    (Slot.below_iff.mp (hm.member rfl).1) hself), hanywhere.atChild⟩

end Mirrors

namespace Matches

variable {c d : Check Unit}

theorem pure : Matches (Pure.pure ()) (Pure.pure ()) := fun _ _ => .pure

/-- Checks that match, followed by checks that do. -/
theorem bind {c' d' : Check Unit} (h : Matches c d) (h' : Matches c' d') :
    Matches (c >>= fun _ => c') (d >>= fun _ => d') :=
  fun _ _ hσ => (h hσ).bind fun _ _ _ hτ => h' hτ

/-- A rule that is given, and the one that says the same. -/
theorem whenGiven {n n' : Node} (hn : n.Alike n') {name : String} {rule rule' : Node → Check Unit}
    (h : ∀ r r', n.tree.rule? name = some r → r.reordered r' →
      Matches (rule (n.down (.name name) r)) (rule' (n'.down (.name name) r'))) :
    Matches (Check.whenGiven n name rule) (Check.whenGiven n' name rule') :=
  fun _ _ hσ => .whenGiven hn hσ fun r r' hr hrr => h r r' hr hrr hσ

/-- Rules that leave every slot alone. -/
theorem of_acceptsAlways (hc : ∀ σ, AcceptsAlways c σ σ) (hd : ∀ σ, AcceptsAlways d σ σ) :
    Matches c d :=
  fun σ σ' hσ => .of_acceptsAlways (hc σ) (hd σ') hσ

/-- Checks for each of several things in turn. -/
theorem each {α β : Type} {f : α → Check Unit} {g : β → Check Unit} {xs : List α} {ys : List β}
    (h : List.Forall₂ (fun x y => Matches (f x) (g y)) xs ys) :
    Matches (Check.each f xs) (Check.each g ys) := by
  induction h with
  | nil => exact .pure
  | cons hxy _ ih => exact Matches.bind hxy ih

/-- Going one level deeper on both sides. -/
theorem nested (n n' : Node) (h : Matches c d) : Matches (Check.nested n c) (Check.nested n' d) :=
  fun _ _ hσ => .nested (h hσ)

/-- Of a member, be there a value or not. -/
theorem atChild {step : Step} (hmoves : Moving c) (hself : ∀ k, step = .entry k → k.same k = true)
    (h : Matches c d) : Matches (Check.atChild step c) (Check.atChild step d) := by
  -- without a value, the member counts as held and nothing is put back
  have hheld {σ σ' : Slot} (hσ : σ.Reordered σ') (hno : ∀ v, σ ≠ .present v)
      (hno' : ∀ v, σ' ≠ .present v) :
      Mirrors (Check.atChild step c) (Check.atChild step d) σ σ' := by
    rintro τ ⟨s, p, q, hs, rfl, hrun, rfl⟩
    rw [atChild_of_absent hno] at hrun
    rcases hc : c (s.child step) { p with slot := .held } with ⟨e, q'⟩
    rw [hc] at hrun
    cases hrun
    obtain ⟨_, _, hanywhere⟩ := h .held _
      ⟨s.child step, { p with slot := .held }, q', hs, rfl, hc, rfl⟩
    refine ⟨σ', hσ, fun s' p' hs' hp' => ?_⟩
    obtain ⟨r, hr, _⟩ := hanywhere (s'.child step) { p' with slot := .held } hs' rfl
    refine ⟨{ r with slot := p'.slot }, ?_, hp'⟩
    rw [atChild_of_absent (hp' ▸ hno'), hr]
  intro σ σ' hσ
  cases hσ with
  | present ha => exact .atChild hmoves ha hself (h (Value.slotBelow_of_reordered ha step))
  | _ => exact hheld (by constructor <;> assumption) nofun nofun

/-- Elements of a schema that is a list, from one on.  A schema does not grow while it is read. -/
theorem visitFrom {n n' : Node} (hn : n.InSchema) (hn' : n'.InSchema)
    {visit visit' : Nat → Node → Check Unit} {vs vs' : List Value} {i : Nat}
    (hi : n.tree.listItems.length = i + vs.length)
    (hi' : n'.tree.listItems.length = i + vs'.length)
    (h : List.Forall₂ (fun v v' => ∀ i, Matches (visit i (n.down (.index i) v))
      (visit' i (n'.down (.index i) v'))) vs vs') :
    Matches (Check.visitFrom n visit i vs) (Check.visitFrom n' visit' i vs') := by
  -- by induction on the elements that are left; at the end none has been appended
  induction h generalizing i with
  | nil =>
    exact .of_acceptsAlways (fun _ s p hp => ⟨p, visitFrom_end hn (by simp [hi]) s p, hp⟩)
      fun _ s p hp => ⟨p, visitFrom_end hn' (by simp [hi']) s p, hp⟩
  | cons hv _ ih =>
    refine Matches.bind (hv i) (ih ?_ ?_)
    · rw [hi, List.length_cons]
      omega
    · rw [hi', List.length_cons]
      omega

/-- Elements of a schema that is a list, one by one. -/
theorem eachElement {n n' : Node} (hn : n.Alike n') {visit visit' : Nat → Node → Check Unit}
    (h : ∀ i, ∀ v ∈ n.tree.listItems, ∀ v', v.reordered v' →
      Matches (visit i (n.down (.index i) v)) (visit' i (n'.down (.index i) v'))) :
    Matches (Check.eachElement n visit) (Check.eachElement n' visit') := by
  refine fun σ σ' hσ => .content hn (visitFrom hn.left hn.right ?_ ?_ ?_ hσ)
  · rw [Nat.zero_add]
  · rw [Nat.zero_add]
  · exact Value.forall₂_of_mem (Value.listItems_of_reordered hn.tree) fun v hv v' hvv i =>
      h i v hv v' hvv

end Matches

end Check

end Conformance

/-
  Properties of checks that survive putting checks together.

  What a run does to its progress is often shown in one way: reading and failing do no harm, the few
  checks that add something do none either, and so neither does anything that is put together from
  them.  `Compositional` lists what has to be shown of such a property.  The rest is one induction, on
  the derivation that a check goes the same way as another (`Compositional.of_parallel`): the rules of
  a schema have the property if the visits they make have it (`Compositional.property`), and so does
  every check against a schema, if the property comes through one level of nesting
  (`Compositional.against`).

  A property is said of a check together with a relation in which each of its results has a partner.
  The rest of a sequence goes the same way as another one only for results that are partners, so this
  is what a sequence needs to know of its first check.
-/
import Conformance.Proofs.Parallel

namespace Conformance.Check

/-- A property of checks and of relations on their results that is kept where checks are put
    together, and that every check has which adds to the progress of a run. -/
structure Compositional (Q : ∀ {α β : Type}, (α → β → Prop) → Check α → Prop) : Prop where
  /-- A check that leaves its progress alone, be it that it reads or that it fails. -/
  still : ∀ {α β : Type} {R : α → β → Prop} {c : Check α}, (∀ s p, (c s p).2 = p) →
    (∀ s p a, (c s p).1 = .ok a → ∃ b, R a b) → Q R c
  bind : ∀ {α β γ δ : Type} {R : α → β → Prop} {R' : γ → δ → Prop} {c : Check α} {f : α → Check γ},
    Q R c → (∀ a b, R a b → Q R' (f a)) → Q R' (c >>= f)
  attempt : ∀ {c : Check Unit}, Q Eq c →
    Q (Eq : Option Violation → Option Violation → Prop) (Check.attempt c)
  atChild : ∀ {c : Check Unit}, Q Eq c → ∀ step, Q Eq (Check.atChild step c)
  note : ∀ {e : Event}, (∀ n r, e ≠ .left n r) → Q Eq (Check.note e)
  register : ∀ (id : String) (k : Node), Q Eq (Check.register id k)
  missing : ∀ n, Q Eq (Check.missingRules n)

namespace Compositional

variable {Q : ∀ {α β : Type}, (α → β → Prop) → Check α → Prop} (h : Compositional Q)
  {visit : Node → Check Unit}

include h

/-- A check that leaves its progress alone and has a result that is its own partner. -/
theorem reading {α : Type} {c : Check α} (hc : ∀ s p, (c s p).2 = p) : Q Eq c := by
  refine h.still hc ?_
  intro s p a _
  exact ⟨a, rfl⟩

theorem skip : Q Eq (Pure.pure () : Check Unit) := h.reading fun _ _ => rfl

theorem read {α β γ : Type} {R : β → γ → Prop} {c : Check α} {f : α → Check β}
    (hc : ∀ s p, (c s p).2 = p) (hf : ∀ a, Q R (f a)) : Q R (c >>= f) :=
  h.bind (h.reading hc) fun a _ _ => hf a

/-! ## Rules that are not the same in every run -/

/-- A reference is followed, or it is remarked upon that it leads nowhere. -/
theorem refRule (hvisit : ∀ k, Q Eq (visit k)) (n : Node) : Q Eq (Check.refRule visit n) := by
  refine h.read (fun _ _ => rfl) fun a => ?_
  split
  · refine h.read (fun _ _ => rfl) fun p => ?_
    split
    · exact h.read (fun _ _ => rfl) fun s => h.note (by simp)
    · -- a schema that refers to itself is not visited again
      split
      · exact h.skip
      · exact hvisit _
  · exact h.skip

/-- What an entry carries itself is checked, passed over, or remarked upon. -/
theorem ownSchema (hvisit : ∀ k, Q Eq (visit k)) (key : Key) :
    Q Eq (Check.ownSchema visit key) := by
  refine h.read (fun _ _ => rfl) fun s => ?_
  split
  · exact h.skip
  · refine h.read (fun _ _ => rfl) fun v => ?_
    split
    · dsimp only
      split
      · split
        · exact h.atChild (hvisit _) _
        · exact h.note (by simp)
      · exact h.skip
    · exact h.skip

/-! ## Whole checks -/

/-- A check that goes the same way as another has the property, if the visits it makes have it.
    Nodes must be able to stand for each other whatever they have come to say. -/
theorem of_parallel {P : Pairing}
    (htotal : ∀ k l, P.alike k l → ∀ t, P.alike ⟨k.origin, t⟩ ⟨l.origin, t⟩)
    (hvisit : ∀ k, Q Eq (P.visit k)) {α β : Type} {R : α → β → Prop} {c : Check α}
    {d : Check β} (hparallel : Parallel P R c d) : Q R c := by
  induction hparallel with
  | pure hab =>
    refine h.still (fun _ _ => rfl) ?_
    rintro _ _ _ ⟨⟩
    exact ⟨_, hab⟩
  | bind _ _ ihc ihf => exact h.bind ihc ihf
  | attempt _ ih => exact h.attempt ih
  | scope => exact h.still (fun _ _ => rfl) fun _ _ a _ => ⟨a, rfl, rfl⟩
  | value => exact h.reading fun _ _ => rfl
  | content hkl =>
    refine h.still (fun _ _ => rfl) fun _ _ a _ => ?_
    exact ⟨a, rfl, htotal _ _ hkl a⟩
  | stop f =>
    refine h.still (fun _ _ => rfl) ?_
    rintro _ _ _ ⟨⟩
  | rejected trail description message => exact h.note (by simp)
  | register id _ => exact h.register id _
  | here _ => exact hvisit _
  | member step _ => exact h.atChild (hvisit _) step
  | reference => exact h.refRule hvisit _
  | own key => exact h.ownSchema hvisit key
  | missing => exact h.missing _

/-- What goes the same way as itself, whatever is visited, has the property. -/
theorem of_self (hvisit : ∀ k, Q Eq (visit k)) {n : Node} {c : Check Unit}
    (hc : Parallel ⟨Eq, visit, visit, n, n⟩ Eq c c) : Q Eq c := by
  refine h.of_parallel ?_ hvisit hc
  rintro k _ rfl t
  rfl

/-- The rules of a schema have the property, if the visits they make have it. -/
theorem property (hvisit : ∀ k, Q Eq (visit k)) (n : Node) : Q Eq (Check.property visit n) :=
  h.of_self hvisit (Parallel.property (P := ⟨Eq, visit, visit, n, n⟩) .eq rfl)

/-- **A check against a schema has the property**, if the property comes through one level of
    nesting.  The induction is on the depth that remains. -/
theorem against
    (hnested : ∀ depth n, Q Eq (Check.property (Check.against depth) n) →
      Q Eq (Check.against (depth + 1) n))
    (depth : Nat) (n : Node) : Q Eq (Check.against depth n) := by
  induction depth generalizing n with
  | zero =>
    -- at the limit nothing is entered, and what is no mapping asks for nothing
    refine h.read (fun _ _ => rfl) fun v => ?_
    split
    · exact h.read (fun _ _ => rfl) fun s => h.reading fun _ _ => rfl
    · exact h.skip
  | succ depth ih => exact hnested depth n (h.property ih n)

end Compositional

end Conformance.Check

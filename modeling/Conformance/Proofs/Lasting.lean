/-
  Conditions that a run never undoes.

  A run only adds: events to the journal, defaults to the writes, ids to the registry.  A condition
  on progress that survives each of these additions, and does not look at the slot, is `Lasting`:
  once it holds it holds to the end of the run, however that ends (`against_lasts`).  This is how
  something known of the end of a run, such as that nothing was written, is known of every moment
  before.
-/
import Conformance.Proofs.Compositional
import Conformance.Proofs.Runs

namespace Conformance

/-- A condition that no addition to a progress undoes. -/
structure Lasting (Q : Progress → Prop) : Prop where
  slot : ∀ {p} (σ : Slot), Q p → Q { p with slot := σ }
  event : ∀ {p} (e : Event), Q p → Q { p with journal := e :: p.journal }
  write : ∀ {p} (w : Write), Q p → Q { p with writes := w :: p.writes }
  insert : ∀ {p} (id : String) (n : Node), Q p →
    Q { p with registry := p.registry.insert id n }

namespace Lasting

variable {Q : Progress → Prop}

theorem events (h : Lasting Q) {p : Progress} (es : List Event) (hp : Q p) :
    Q { p with journal := es ++ p.journal } := by
  induction es with
  | nil => exact hp
  | cons e es ih => exact h.event e ih

/-- Where one of two lasting conditions holds, it goes on holding. -/
theorem or {Q' : Progress → Prop} (h : Lasting Q) (h' : Lasting Q') :
    Lasting fun p => Q p ∨ Q' p where
  slot σ := Or.imp (h.slot σ) (h'.slot σ)
  event e := Or.imp (h.event e) (h'.event e)
  write w := Or.imp (h.write w) (h'.write w)
  insert id n := Or.imp (h.insert id n) (h'.insert id n)

/-- What never holds lasts. -/
theorem never : Lasting fun _ => False := ⟨fun _ => id, fun _ => id, fun _ => id, fun _ _ => id⟩

/-- That something has been written is never undone. -/
theorem written : Lasting fun p => p.writes ≠ [] where
  slot _ := id
  event _ := id
  write _ := fun _ h => by cases h
  insert _ _ := id

/-- What the journal tells of it goes on telling of. -/
theorem told (q : Event → Prop) : Lasting fun p => ∃ e ∈ p.journal, q e where
  slot _ := id
  event _ := fun ⟨f, hf, hq⟩ => ⟨f, List.mem_cons_of_mem _ hf, hq⟩
  write _ := id
  insert _ _ := id

end Lasting

/-- Entering a schema only ever appends to the entries. -/
theorem Registry.entries_prefix_insert (r : Registry) (id : String) (n : Node) :
    r.entries <+: (r.insert id n).entries := by
  unfold insert
  split
  · exact List.prefix_refl _
  · exact List.prefix_append ..

/-- A registry that holds others than the first entries of a list goes on doing so. -/
theorem Lasting.strayed (entries : List (String × Node)) :
    Lasting fun p => ¬ p.registry.entries <+: entries where
  slot _ := id
  event _ := id
  write _ := id
  insert {p} id n := fun hp hr => hp ((p.registry.entries_prefix_insert id n).trans hr)

namespace Check

/-- A check that undoes no instance of a condition, and whose results have partners. -/
def Lasts (Q : Progress → Prop) {α β : Type} (R : α → β → Prop) (c : Check α) : Prop :=
  ∀ s p, (Q p → Q (c s p).2) ∧ ∀ a, (c s p).1 = .ok a → ∃ b, R a b

namespace Lasts

variable {Q : Progress → Prop}

theorem of_still {α β : Type} {R : α → β → Prop} {c : Check α} (hc : ∀ s p, (c s p).2 = p)
    (h : ∀ s p a, (c s p).1 = .ok a → ∃ b, R a b) : Lasts Q R c := by
  intro s p
  rw [hc]
  exact ⟨id, h s p⟩

/-- A result without content has itself for a partner. -/
theorem of_unit {c : Check Unit} (h : ∀ s p, Q p → Q (c s p).2) : Lasts Q Eq c :=
  fun s p => ⟨h s p, fun a _ => ⟨a, rfl⟩⟩

theorem bind {α β γ δ : Type} {R : α → β → Prop} {R' : γ → δ → Prop} {c : Check α}
    {f : α → Check γ} (hc : Lasts Q R c) (hf : ∀ a b, R a b → Lasts Q R' (f a)) :
    Lasts Q R' (c >>= f) := by
  intro s p
  obtain ⟨hq, hpartner⟩ := hc s p
  rw [bind_run]
  rcases hcr : c s p with ⟨r, q⟩
  rw [hcr] at hq hpartner
  cases r with
  | error e => exact ⟨hq, fun a ha => by cases ha⟩
  | ok a =>
    obtain ⟨b, hab⟩ := hpartner a rfl
    obtain ⟨hq', hpartner'⟩ := hf a b hab s q
    exact ⟨fun hp => hq' (hq hp), hpartner'⟩

theorem attempt {c : Check Unit} (h : Lasts Q Eq c) :
    Lasts Q (Eq : Option Violation → Option Violation → Prop) (Check.attempt c) := by
  intro s p
  rw [attempt_progress]
  exact ⟨(h s p).1, fun a _ => ⟨a, rfl⟩⟩

variable (hQ : Lasting Q)

include hQ

theorem note (e : Event) : Lasts Q Eq (Check.note e) := .of_unit fun _ _ => hQ.event e

theorem register (id : String) (k : Node) : Lasts Q Eq (Check.register id k) :=
  .of_unit fun _ _ hp => hQ.events _ (hQ.insert id k hp)

theorem atChild {c : Check Unit} (h : Lasts Q Eq c) (step : Step) :
    Lasts Q Eq (Check.atChild step c) := by
  refine .of_unit fun s p hp => ?_
  unfold Check.atChild
  split
  · exact hQ.slot _ ((h _ _).1 (hQ.slot _ hp))
  · exact hQ.slot _ ((h _ _).1 (hQ.slot _ hp))

theorem written (σ : Slot) (v : Value) : Lasts Q Eq (Check.written σ v) := by
  refine .of_unit fun s p hp => ?_
  exact hQ.event (.defaultWritten s.trail v) (hQ.write ⟨s.place, v⟩ (hQ.slot σ hp))

theorem missingRules (n : Node) : Lasts Q Eq (Check.missingRules n) := by
  refine .of_unit fun s p hp => ?_
  rw [missingRules_run]
  cases missed (n.content p.writes) s p.slot with
  | fails f => exact hp
  | passes => exact hp
  | remarks e => exact hQ.event e hp
  | filled σ v => exact (written hQ σ v s p).1 hp

end Lasts

/-- To undo no instance of a lasting condition is kept where checks are put together. -/
theorem lasts_compositional {Q : Progress → Prop} (hQ : Lasting Q) :
    Compositional (@Lasts Q) where
  still := .of_still
  bind := .bind
  attempt := .attempt
  atChild := .atChild hQ
  note _ := .note hQ _
  register := .register hQ
  missing := .missingRules hQ

theorem nested_lasts {Q : Progress → Prop} (hQ : Lasting Q) {c : Check Unit} (h : Lasts Q Eq c)
    (n : Node) : Lasts Q Eq (nested n c) :=
  .of_unit fun _ _ hp => hQ.event _ ((h _ _).1 (hQ.event _ hp))

/-- The rules of a schema undo nothing, if the visits they make undo nothing. -/
theorem property_lasts {Q : Progress → Prop} (hQ : Lasting Q) {visit : Node → Check Unit}
    (hvisit : ∀ k, Lasts Q Eq (visit k)) (n : Node) : Lasts Q Eq (property visit n) :=
  (lasts_compositional hQ).property hvisit n

/-- A check against a schema undoes nothing. -/
theorem against_lasts {Q : Progress → Prop} (hQ : Lasting Q) (depth : Nat) (n : Node) :
    Lasts Q Eq (against depth n) := by
  have hcompositional := lasts_compositional hQ
  refine hcompositional.against (fun depth n hproperty => ?_) depth n
  refine hcompositional.read (fun _ _ => rfl) fun v => ?_
  split
  · exact nested_lasts hQ hproperty n
  · exact hcompositional.skip

end Check

end Conformance

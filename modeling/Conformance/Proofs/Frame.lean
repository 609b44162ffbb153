/-
  What a change in one place leaves alone.

  Keys that are the same to a mapping are so in any order and through a third one, which makes
  looking up after a change predictable: the entry that was exchanged or added is found
  (`entryAt?_setEntry`, `entryAt?_append`), and every other one is found as before
  (`entryAt?_setEntry_of_ne`).

  A condition on all mappings of a container holds if it holds of the container's own entries and
  of its parts (`everyMapping_map`, `everyMapping_list`), and a changed container has hardly any
  new parts (`mem_parts_replace`, `mem_parts_adopt`).
-/
import Conformance.Proofs.Parts

namespace Conformance

/-! ## Keys -/

theorem Extent.eq_trans {a b c : Extent} (h : a.eq b = true) (h' : b.eq c = true) :
    a.eq c = true := by
  cases a <;> cases b <;> cases c <;> simp_all [Extent.eq]

namespace Key

/-- Keys are the same if they stand for the same number, or if they are equal and stand for none. -/
theorem same_iff {k l : Key} : k.same l = true ↔
    (k.number? = none ∧ k = l) ∨
      ∃ x y, k.number? = some x ∧ l.number? = some y ∧ x.same y = true := by
  cases k <;> cases l <;> simp [same, number?]

theorem same_symm {k l : Key} (h : k.same l = true) : l.same k = true := by
  rw [same_iff] at h ⊢
  rcases h with ⟨hk, rfl⟩ | ⟨x, y, hx, hy, hxy⟩
  · exact Or.inl ⟨hk, rfl⟩
  · refine Or.inr ⟨y, x, hy, hx, ?_⟩
    rw [Number.same, Extent.eq_swap]
    exact hxy

theorem same_trans {k l m : Key} (h : k.same l = true) (h' : l.same m = true) :
    k.same m = true := by
  rw [same_iff] at h h' ⊢
  rcases h with ⟨hk, rfl⟩ | ⟨x, y, hx, hy, hxy⟩
  · exact h'
  · rcases h' with ⟨hl, rfl⟩ | ⟨y', z, hy', hz, hyz⟩
    · exact Or.inr ⟨x, y, hx, hy, hxy⟩
    · obtain rfl : y = y' := by simpa [hy] using hy'
      exact Or.inr ⟨x, z, hx, hz, Extent.eq_trans hxy hyz⟩

theorem same_name_iff {k : Key} {s : String} : k.same (.name s) = true ↔ k = .name s := by
  cases k <;> simp [same, number?]

end Key

namespace Value

/-! ## Looking up after a change -/

/-- Exchanging an entry leaves the entries under other keys alone. -/
theorem entryAt?_setEntry_of_ne {key other : Key} (h : key.same other = false) (v : Value)
    (es : List (Key × Value)) : entryAt? other (setEntry key v es) = entryAt? other es := by
  induction es with
  | nil => rfl
  | cons e rest ih =>
    obtain ⟨k, w⟩ := e
    unfold entryAt? entryWith? at ih ⊢
    rw [setEntry]
    split
    · next hk =>
      -- the entry that is exchanged is not the one looked for
      have hother : k.same other = false := by
        refine Bool.eq_false_iff.mpr fun hko => ?_
        rw [Key.same_trans (Key.same_symm hk) hko] at h
        cases h
      rw [List.find?_cons_of_neg (by simp [hother]), List.find?_cons_of_neg (by simp [hother])]
    · cases hko : k.same other with
      | true =>
        rw [List.find?_cons_of_pos (by simpa using hko),
          List.find?_cons_of_pos (by simpa using hko)]
      | false =>
        rw [List.find?_cons_of_neg (by simp [hko]), List.find?_cons_of_neg (by simp [hko])]
        exact ih

/-- What is found among entries is found among more of them; else what is added may be. -/
theorem entryAt?_append (key k : Key) (v : Value) (es : List (Key × Value)) :
    entryAt? key (es ++ [(k, v)]) = (entryAt? key es).or (if k.same key then some v else none) := by
  unfold entryAt? entryWith?
  rw [List.find?_append]
  cases List.find? (fun e => e.1.same key) es with
  | some e => rfl
  | none => cases hk : k.same key <;> simp [hk]

/-! ## Parts after a change -/

theorem mem_setEntry {key : Key} {v : Value} {es : List (Key × Value)} {x : Value}
    (h : x ∈ (setEntry key v es).map (·.2)) : x = v ∨ x ∈ es.map (·.2) := by
  induction es with
  | nil => cases h
  | cons e rest ih =>
    obtain ⟨k, w⟩ := e
    rw [setEntry] at h
    split at h
    · rcases List.mem_cons.mp h with rfl | h
      · exact Or.inl rfl
      · exact Or.inr (List.mem_cons_of_mem _ h)
    · rcases List.mem_cons.mp h with rfl | h
      · exact Or.inr (List.mem_cons_self ..)
      · exact (ih h).imp_right (List.mem_cons_of_mem _)

/-- Exchanging a member brings in no other part. -/
theorem mem_parts_replace {v x y : Value} {step : Step} (h : x ∈ (v.replace step y).parts) :
    x = y ∨ x ∈ v.parts := by
  unfold replace at h
  split at h
  · exact mem_setEntry h
  · exact (List.mem_or_eq_of_mem_set h).symm
  · exact (List.mem_or_eq_of_mem_set h).symm
  · exact Or.inr h

/-- Taking a value in brings in nothing else but nulls. -/
theorem mem_parts_adopt {v x y : Value} {step : Step} (h : x ∈ (v.adopt step y).parts) :
    x = y ∨ x = .null ∨ x ∈ v.parts := by
  unfold adopt at h
  split at h
  · rw [parts, List.map_append, List.mem_append] at h
    rcases h with h | h
    · exact Or.inr (Or.inr h)
    · exact Or.inl (List.mem_singleton.mp h)
  · rw [parts, padTo, List.append_assoc, List.mem_append, List.mem_append] at h
    rcases h with h | h | h
    · exact Or.inr (Or.inr h)
    · exact Or.inr (Or.inl (List.eq_of_mem_replicate h))
    · exact Or.inl (List.mem_singleton.mp h)
  · exact Or.inr (Or.inr h)

/-! ## Conditions on all mappings of a container -/

variable {q : List (Key × Value) → Bool}

theorem everyMapping_list {items : List Value} :
    everyMapping q (.list items) = true ↔ ∀ x ∈ items, everyMapping q x = true := by
  induction items with
  | nil => simp [everyMapping, atTop, innerMappings, innerOfItems]
  | cons v rest ih =>
    have hcons : everyMapping q (.list (v :: rest)) =
        (everyMapping q v && everyMapping q (.list rest)) := by
      simp [everyMapping, atTop, innerMappings, innerOfItems]
    rw [hcons, Bool.and_eq_true, ih, List.forall_mem_cons]

theorem everyMapping_map {es : List (Key × Value)} :
    everyMapping q (.map es) = true ↔
      q es = true ∧ ∀ x ∈ es.map (·.2), everyMapping q x = true := by
  have hinner : innerOfEntries q es = true ↔ ∀ x ∈ es.map (·.2), everyMapping q x = true := by
    induction es with
    | nil => simp [innerOfEntries]
    | cons e rest ih =>
      obtain ⟨k, v⟩ := e
      have hcons : innerOfEntries q ((k, v) :: rest) =
          (everyMapping q v && innerOfEntries q rest) := by
        simp [everyMapping, innerOfEntries]
      rw [hcons, Bool.and_eq_true, ih, List.map_cons, List.forall_mem_cons]
  rw [← hinner]
  simp [everyMapping, atTop, innerMappings]

/-- A condition on all mappings of a value is one on its own entries and on its parts. -/
theorem everyMapping_iff {v : Value} :
    everyMapping q v = true ↔ atTop q v = true ∧ ∀ x ∈ v.parts, everyMapping q x = true := by
  cases v with
  | list items => exact everyMapping_list.trans (by simp [atTop, parts])
  | tuple items =>
    have hsame : everyMapping q (.tuple items) = everyMapping q (.list items) := by
      simp [everyMapping, atTop, innerMappings]
    rw [hsame]
    exact everyMapping_list.trans (by simp [atTop, parts])
  | map es => exact everyMapping_map
  | _ => simp [everyMapping, atTop, innerMappings, parts]

end Value

end Conformance

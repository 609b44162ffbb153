/-
  Defaults at the indices of a list.

  A call for a missing value can name any index of a list, also a negative one.  What it leaves of
  the list is read off the slot there, and there are four kinds of them (`Value.atIndex`).  Below
  the length there is an element, and nothing is written.  From the length on the first default is
  appended, with nulls up to it, and it is the only one, or the index is too great for any list.  A
  negative index is never found, yet a default that is written through it goes over the element
  that is counted from the end, and so does the next one.

  So a list keeps all it had, at its place, for every index but a negative one
  (`injected_at_index`).  A negative one can cost it an element (`element_overwritten`).
-/
import Conformance.Proofs.Lineage
import Conformance.Proofs.Memory.Effects

namespace Conformance

/-! ## What comes of a slot -/

namespace Slot

variable {ds : List Deposit} {τ : Slot}

/-- Over an element counted from the end nothing is written, or the last of several defaults. -/
theorem Injections.of_fromEnd (h : (Slot.fromEnd Option.none).Injections ds τ) :
    (∀ d ∈ ds, d.trail = []) ∧
      (ds = [] ∧ τ = .fromEnd Option.none ∨
        ∃ before d, ds = before ++ [d] ∧ τ = .fromEnd (some d.value)) := by
  induction h with
  | none => exact ⟨by simp, Or.inl ⟨rfl, rfl⟩⟩
  | @later σ τ ds d _ last ih =>
    obtain ⟨htrails, hleft⟩ := ih
    have hcounted : ∃ old, σ = .fromEnd old := by
      rcases hleft with ⟨-, rfl⟩ | ⟨_, _, -, rfl⟩ <;> exact ⟨_, rfl⟩
    obtain ⟨old, rfl⟩ := hcounted
    cases last with
    | onTop _ v =>
      refine ⟨?_, Or.inr ⟨ds, ⟨[], v⟩, rfl, rfl⟩⟩
      intro e he
      rcases List.mem_append.mp he with he | he
      · exact htrails e he
      · rw [List.mem_singleton.mp he]

end Slot

/-! ## What there is at an index -/

namespace Value

/-- What a list has at an index. -/
inductive AtIndex (items : List Value) (key : Value) (i : Int) : Prop
  /-- There is an element. -/
  | element (x : Value) (hnonneg : 0 ≤ i) (hlt : i < items.length)
    (hslot : (list items).slotAt key = .ofValue x)
  /-- The list ends before the index. -/
  | past (hle : items.length ≤ i) (hslot : (list items).slotAt key = .free)
    (hstep : (list items).stepTo key = .index i.toNat)
  /-- The index counts from the end. -/
  | counted (hneg : i < 0) (hle : -items.length ≤ i)
    (hslot : (list items).slotAt key = .fromEnd none)
    (hstep : (list items).stepTo key = .index (items.length + i).toNat)
  /-- The index is too great for any list, or there are not so many elements to count. -/
  | unreachable (hout : items.length ≤ i ∨ i < -items.length)
    (hslot : (list items).slotAt key = .outOfReach i items.length)

/-- Every integer finds one of them. -/
theorem atIndex (items : List Value) {key : Value} {i : Int} (hkey : key.index? = some i) :
    AtIndex items key i := by
  cases i with
  | ofNat i =>
    by_cases hlt : i < items.length
    · refine .element items[i] (Int.natCast_nonneg i) (Int.ofNat_lt.mpr hlt) ?_
      simp [slotAt, hkey, slotBelow, child?, hlt, Nat.not_le.mpr hlt]
    · have hle : items.length ≤ i := Nat.le_of_not_lt hlt
      by_cases hroom : listRoom ≤ i
      · refine .unreachable (Or.inl (Int.ofNat_le.mpr hle)) ?_
        simp [slotAt, hkey, hle, hroom]
      · refine .past (Int.ofNat_le.mpr hle) ?_ (by simp [stepTo, hkey])
        simp [slotAt, hkey, hroom, slotBelow, child?, hlt, gap]
  | negSucc i =>
    by_cases hlt : i < items.length
    · have hcount : items.length - (i + 1) = (items.length + Int.negSucc i).toNat := by omega
      refine .counted (Int.negSucc_lt_zero i) (by omega) ?_ ?_
      · simp [slotAt, hkey, hlt]
      · simp [stepTo, hkey, hcount]
    · refine .unreachable (Or.inr (by omega)) ?_
      simp [slotAt, hkey, hlt]

end Value

namespace Validator

open Check

/-! ## What a call writes for a missing value -/

/-- Where there is a value, nothing is written for the mark of an absent key. -/
theorem checkProperty_there (v : Validator) (parent schema : Node) (key : Value)
    (nowhere : Place) {x : Value} (hthere : parent.tree.slotAt key = .ofValue x) :
    let o := v.checkProperty parent key (some ⟨nowhere, .missing⟩) schema
    o.parent = parent.tree ∧ o.outcome.validator.applied = v.applied := by
  intro o
  have hheld : slotOf parent.tree key (some .missing) = .held := by
    unfold slotOf
    rw [hthere]
    cases x <;> rfl
  let here := (parent.origin.down (parent.tree.stepTo key)).current v.renewals
  obtain ⟨hleft, hnone⟩ := (run_injections (v.visit_moves schema) v key here .held).of_held
  have happlied : o.outcome.validator.applied =
      v.applied ++ Journal.appliedPaths (v.run key here .held (v.visit schema)).journal := by
    simp only [o, checkProperty, onMember, Option.map_some, hheld]
    rfl
  refine ⟨?_, happlied.trans ?_⟩
  · simp only [o, checkProperty, onMember, Option.map_some, hheld]
    rw [hleft]
    rfl
  · rw [Journal.appliedPaths_eq, hnone]
    exact List.append_nil _

/-- The defaults that a call writes for a key that its parent does not have: the slot receives them,
    they are on record, and each was offered by a schema that was met there, as it read with those
    before. -/
theorem checkProperty_deposits (v : Validator) (parent schema : Node) (key : Value)
    (nowhere : Place) (habsent : (parent.tree.slotAt key).isAbsent = true) :
    let o := v.checkProperty parent key (some ⟨nowhere, .missing⟩) schema
    ∃ ds τ, (parent.tree.slotAt key).Injections ds τ ∧
      o.parent = parent.tree.settle (parent.tree.stepTo key) τ ∧
      o.outcome.validator.applied = v.applied ++ ds.map (fun d => d.trail.text) ∧
      ∀ before d after, ds = before ++ d :: after → ∃ n depth earlier,
        .entered n d.trail depth ∈ o.outcome.journal ∧ (n.content earlier).Offers d.value ∧
          (before = [] → earlier = []) := by
  intro o
  obtain ⟨-, hjournal, hparent, happlied⟩ := checkProperty_absent v schema habsent
    (show ∀ n ∈ some (⟨nowhere, .missing⟩ : Node), n.tree = .missing by simp)
  obtain ⟨ds, hmoves⟩ := v.memberRun_moves parent key schema
  have hrecorded : recorded (v.memberRun parent key schema).2 = ds.map fun d => d.trail.text :=
    recorded_of_moves hmoves
  refine ⟨ds, _, hmoves.slot, hparent, happlied.trans (by rw [hrecorded]), ?_⟩
  intro before d after hds
  obtain ⟨n, depth, hn, ho⟩ := hmoves.offered hds
  refine ⟨n, depth, _, ?_, ho, ?_⟩
  · rw [show o.outcome.journal = _ from hjournal, List.mem_reverse]
    exact hn
  · rintro rfl
    rfl

/-- Where the index is out of reach, nothing is written. -/
theorem checkProperty_outOfReach (v : Validator) (parent schema : Node) (key : Value)
    (nowhere : Place) {i : Int} {length : Nat}
    (hslot : parent.tree.slotAt key = .outOfReach i length) :
    let o := v.checkProperty parent key (some ⟨nowhere, .missing⟩) schema
    o.parent = parent.tree ∧ o.outcome.validator.applied = v.applied := by
  intro o
  obtain ⟨ds, τ, hinjections, hparent, happlied, -⟩ :=
    checkProperty_deposits v parent schema key nowhere (by rw [hslot]; rfl)
  rw [hslot] at hinjections
  obtain ⟨rfl, rfl⟩ := hinjections.eq_of_barred (by intro d ρ h; cases h)
  exact ⟨hparent, happlied.trans (List.append_nil _)⟩

section AtIndex

variable {items : List Value} {key : Value} {i : Int} (origin nowhere : Place)

/-- From the length on, one default at most is appended, with nulls up to it. -/
theorem injected_past (v : Validator) (schema : Node) (hkey : key.index? = some i)
    (hpast : items.length ≤ i) :
    let o := v.checkProperty ⟨origin, .list items⟩ key (some ⟨nowhere, .missing⟩) schema
    (o.parent = .list items ∧ o.outcome.validator.applied = v.applied) ∨
      ∃ n depth d, .entered n [] depth ∈ o.outcome.journal ∧ n.tree.Offers d ∧
        o.parent = .list (Value.padTo items i.toNat d) ∧
        o.outcome.validator.applied = v.applied ++ ["$"] := by
  intro o
  let parent : Node := ⟨origin, .list items⟩
  cases Value.atIndex items hkey with
  | element x hnonneg hlt hslot => omega
  | counted hneg hle hslot hstep => omega
  | unreachable hout hslot =>
    exact Or.inl (checkProperty_outOfReach v parent schema key nowhere hslot)
  | past hle hslot hstep =>
    obtain ⟨ds, τ, hinjections, hparent, happlied, hoffered⟩ :=
      checkProperty_deposits v parent schema key nowhere (by rw [hslot]; rfl)
    rw [hslot] at hinjections
    rcases hinjections.of_free with ⟨rfl, rfl⟩ | ⟨d, rfl, rfl⟩
    · exact Or.inl ⟨hparent, happlied.trans (List.append_nil _)⟩
    · obtain ⟨n, depth, earlier, hn, ho, hfirst⟩ := hoffered [] _ [] rfl
      rw [hfirst rfl, n.content_nil] at ho
      refine Or.inr ⟨n, depth, d, hn, ho, ?_, happlied.trans ?_⟩
      · rw [show o.parent = _ from hparent, hstep]
        rfl
      · rw [List.map_singleton, Trail.text_nil]

/-- A negative index is never found: each default goes over the element counted from the end. -/
theorem injected_from_end (v : Validator) (schema : Node) (hkey : key.index? = some i)
    (hnegative : i < 0) :
    let o := v.checkProperty ⟨origin, .list items⟩ key (some ⟨nowhere, .missing⟩) schema
    (o.parent = .list items ∧ o.outcome.validator.applied = v.applied) ∨
      -items.length ≤ i ∧ ∃ n depth earlier d, .entered n [] depth ∈ o.outcome.journal ∧
        (n.content earlier).Offers d ∧
        o.parent = .list (items.set (items.length + i).toNat d) ∧
        ∃ k, o.outcome.validator.applied = v.applied ++ List.replicate (k + 1) "$" := by
  intro o
  let parent : Node := ⟨origin, .list items⟩
  cases Value.atIndex items hkey with
  | element x hnonneg hlt hslot => omega
  | past hle hslot hstep => omega
  | unreachable hout hslot =>
    exact Or.inl (checkProperty_outOfReach v parent schema key nowhere hslot)
  | counted hneg hle hslot hstep =>
    obtain ⟨ds, τ, hinjections, hparent, happlied, hoffered⟩ :=
      checkProperty_deposits v parent schema key nowhere (by rw [hslot]; rfl)
    rw [hslot] at hinjections
    obtain ⟨htrails, ⟨rfl, rfl⟩ | ⟨before, d, rfl, rfl⟩⟩ := hinjections.of_fromEnd
    · exact Or.inl ⟨hparent, happlied.trans (List.append_nil _)⟩
    · -- the last default is the one that stays
      obtain ⟨n, depth, earlier, hn, ho, -⟩ := hoffered before d [] rfl
      rw [htrails d (by simp)] at hn
      refine Or.inr ⟨hle, n, depth, earlier, d.value, hn, ho, ?_, before.length, happlied.trans ?_⟩
      · rw [show o.parent = _ from hparent, hstep]
        rfl
      · congr 1
        refine List.eq_replicate_iff.mpr ⟨by simp, fun path hpath => ?_⟩
        obtain ⟨e, he, rfl⟩ := List.mem_map.mp hpath
        rw [htrails e he, Trail.text_nil]

/-- **Defaults at an index.**  After a call with a missing value at an integer key of a list,
    whether it succeeds or fails, all that the list had is there in its place if the index is not
    negative.  Where the index is that of an element, nothing has changed.  From the length on,
    nothing has either, or the default of one schema that was met has been appended, with nulls up
    to it, and that is one path on record.  A negative index is never found: every default that is
    met goes over the element counted from the end, if there is one, and is put on record. -/
theorem injected_at_index (v : Validator) (origin nowhere : Place) (items : List Value)
    (schema : Node) {key : Value} {i : Int} (hkey : key.index? = some i) :
    let o := v.checkProperty ⟨origin, .list items⟩ key (some ⟨nowhere, .missing⟩) schema
    let unchanged := o.parent = .list items ∧ o.outcome.validator.applied = v.applied
    (0 ≤ i → ∃ left, o.parent = .list left ∧ items <+: left) ∧
      (0 ≤ i → i < items.length → unchanged) ∧
      (items.length ≤ i → unchanged ∨
        ∃ n depth d, .entered n [] depth ∈ o.outcome.journal ∧ n.tree.Offers d ∧
          o.parent = .list (items ++ List.replicate (i.toNat - items.length) .null ++ [d]) ∧
          o.outcome.validator.applied = v.applied ++ ["$"]) ∧
      (i < 0 → unchanged ∨
        -items.length ≤ i ∧ ∃ n depth earlier d, .entered n [] depth ∈ o.outcome.journal ∧
          (n.content earlier).Offers d ∧
          o.parent = .list (items.set (items.length + i).toNat d) ∧
          ∃ k, o.outcome.validator.applied = v.applied ++ List.replicate (k + 1) "$") := by
  intro o unchanged
  have helement (hnonneg : 0 ≤ i) (hlt : i < items.length) : unchanged := by
    cases Value.atIndex items hkey with
    | element x _ _ hslot =>
      exact checkProperty_there v ⟨origin, .list items⟩ schema key nowhere hslot
    | past hle _ _ => omega
    | counted hneg _ _ _ => omega
    | unreachable hout _ => omega
  refine ⟨fun hnonneg => ?_, helement, injected_past origin nowhere v schema hkey,
    injected_from_end origin nowhere v schema hkey⟩
  by_cases hlt : i < items.length
  · exact ⟨items, (helement hnonneg hlt).1, List.prefix_refl _⟩
  · rcases injected_past origin nowhere v schema hkey (Int.not_lt.mp hlt) with
      ⟨hparent, -⟩ | ⟨n, depth, d, -, -, hparent, -⟩
    · exact ⟨items, hparent, List.prefix_refl _⟩
    · refine ⟨_, hparent, ?_⟩
      rw [Value.padTo, List.append_assoc]
      exact List.prefix_append ..

end AtIndex

/-- A list with one element. -/
def oneElement : Node := ⟨⟨.instance 0, []⟩, .list [.int 1]⟩

/-- A schema that offers something else. -/
def twoByDefault : Value := .map [(.name "default", .int 2)]

/-- An index past the end of the list: the default stands behind two nulls. -/
theorem appended_past_end :
    let o := (Validator.new .default .null).checkProperty oneElement (.int 3)
      (some ⟨⟨.instance 1, []⟩, .missing⟩) (.ofSchema 0 twoByDefault)
    o.parent ≠ oneElement.tree ∧ (∃ d, o.parent = .list [.int 1, .null, .null, d]) ∧
      o.outcome.validator.applied = ["$"] := by
  intro o
  obtain ⟨-, -, hpast, -⟩ := injected_at_index (Validator.new .default .null) ⟨.instance 0, []⟩
    ⟨.instance 1, []⟩ [.int 1] (.ofSchema 0 twoByDefault)
    (show (Value.int 3).index? = some 3 from rfl)
  have hchanged : o.parent ≠ .list [.int 1] := by decide +kernel
  rcases hpast (by decide) with ⟨hparent, -⟩ | ⟨n, depth, d, -, -, hparent, happlied⟩
  · exact absurd hparent hchanged
  · exact ⟨hchanged, ⟨d, hparent⟩, happlied⟩

/-- The list has more elements than the index says, and one is lost. -/
theorem element_overwritten :
    let o := (Validator.new .default .null).checkProperty oneElement (.int (-1))
      (some ⟨⟨.instance 1, []⟩, .missing⟩) (.ofSchema 0 twoByDefault)
    oneElement.tree = .list [.int 1] ∧ (-1 : Int) < [Value.int 1].length ∧
      o.outcome.result = .ok () ∧ o.parent = .list [.int 2] ∧
      ¬ [Value.int 1] <+: [Value.int 2] ∧ o.outcome.validator.applied = ["$"] := by
  decide +kernel

end Validator

end Conformance

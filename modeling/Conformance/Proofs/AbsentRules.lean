/-
  Rules that ask for nothing.

  A rule that a schema does not have leaves a run as it is (`OnlyReturns`).  So a schema whose only
  rules are those on numbers comes to these alone: for a number they are all that is left of the rules
  for a value (`presentRules_number`), and of a run from the beginning (`validate_number`).  A schema
  without these rules too asks nothing of any value (`OnlyReturns.presentRules`).
-/
import Conformance.Proofs.Invariants
import Conformance.Proofs.Policies

namespace Conformance

/-- Nothing stands under a name that is no key. -/
theorem Value.get?_eq_none_of_not_mem {S : Value} {name : String} (h : Key.name name ∉ S.keys) :
    S.get? name = none := by
  cases S with
  | map es =>
    rw [get?_map, entryAt?_eq_none_iff]
    intro key hkey
    rw [Bool.eq_false_iff]
    intro hsame
    obtain rfl := Key.same_name_iff.mp hsame
    exact h hkey
  | _ => rfl

/-- The names of the rules on numbers. -/
def numberNames : List String :=
  ["minimum", "minimumCanEqual", "maximum", "maximumCanEqual", "maxDecimal"]

/-- A schema in a document without rules but those on numbers; it may have an id and a reference. -/
structure Node.OnNumbers (n : Node) : Prop where
  inSchema : n.InSchema
  get?_eq_none : ∀ name, name ∉ "id" :: "$ref" :: numberNames → n.tree.get? name = none

namespace Check

/-- A check that asks for nothing: it has a result, and leaves everything as it is. -/
def OnlyReturns {α : Type} (c : Check α) (a : α) : Prop := ∀ s p, c s p = (.ok a, p)

variable {n : Node} {visit : Node → Check Unit} {s : Scope} {p : Progress}

namespace OnlyReturns

variable {α β : Type} {name : String} {c : Check α} {a : α}

theorem pure (a : α) : OnlyReturns (Pure.pure a) a := fun _ _ => rfl

/-- A check that asks for nothing is none. -/
theorem eq_pure (hc : OnlyReturns c a) : c = Pure.pure a := funext fun s => funext fun p => hc s p

/-- What comes after it is all that is left. -/
theorem bind_eq (hc : OnlyReturns c a) (f : α → Check β) : (c >>= f) = f a := by
  rw [hc.eq_pure, pure_bind]

theorem bind {f : α → Check β} {b : β} (hc : OnlyReturns c a) (hf : OnlyReturns (f a) b) :
    OnlyReturns (c >>= f) b := by
  rwa [hc.bind_eq]

/-- What comes before it is all that is left. -/
theorem after_eq {c d : Check Unit} (hd : OnlyReturns d ()) : (c >>= fun _ => d) = c := by
  rw [hd.eq_pure]
  exact bind_pure c

/-! ## Rules that a schema does not have -/

/-- To read a schema asks for nothing. -/
theorem content (hn : n.InSchema) : OnlyReturns (Check.content n) n.tree := by
  intro s p
  rw [Check.content, hn.content]

section Missing

variable (hn : n.InSchema) (hname : n.tree.get? name = none)

include hn hname

/-- To read a rule that is not there finds nothing. -/
theorem field? : OnlyReturns (Check.field? n name) none := by
  intro s p
  rw [Check.field?, hn.content, hname]

/-- A rule that is not there reads as null. -/
theorem field : OnlyReturns (Check.field n name) .null := by
  intro s p
  rw [Check.field, hn.content, hname]
  rfl

/-- A rule that is not there is skipped. -/
theorem whenGiven (rule : Node → Check Unit) : OnlyReturns (Check.whenGiven n name rule) () := by
  intro s p
  rw [whenGiven_run hn, Value.rule?, hname]
  rfl

theorem withBound (rule : Number → Value → Check Unit) :
    OnlyReturns (Check.withBound n name rule) () :=
  .bind (.field hn hname) (.pure ())

end Missing

/-! ## Schemas on numbers -/

section OnNumbers

variable (hn : n.OnNumbers)

include hn

/-- A schema on numbers neither asks for types nor disallows any. -/
theorem typeAndDisallow (visit : Node → Check Unit) :
    OnlyReturns (Check.whenGiven n "type" (typeRule visit)) () ∧
      OnlyReturns (Check.disallowRule visit n) () :=
  ⟨.whenGiven hn.inSchema (hn.get?_eq_none _ (by decide)) _,
    .whenGiven hn.inSchema (hn.get?_eq_none _ (by decide)) _⟩

theorem memberRules (v : Value) : OnlyReturns (Check.memberRules visit n v) () := by
  have hnone {name : String} (h : name ∉ "id" :: "$ref" :: numberNames) := hn.get?_eq_none name h
  unfold Check.memberRules
  -- arrays have rules on items and counts, other values on properties
  split
  · refine .bind (.whenGiven hn.inSchema (hnone (by decide)) _) ?_
    exact .bind (.withBound hn.inSchema (hnone (by decide)) _)
      (.withBound hn.inSchema (hnone (by decide)) _)
  · have hgiven : OnlyReturns (given? n "properties") none :=
      .bind (.field? hn.inSchema (hnone (by decide))) (.pure _)
    refine .bind hgiven (.bind (.content hn.inSchema) ?_)
    rw [Value.hasKey_name, hnone (by decide)]
    exact .pure ()

theorem textRules (t : String) : OnlyReturns (Check.textRules n t) () := by
  have hnone {name : String} (h : name ∉ "id" :: "$ref" :: numberNames) := hn.get?_eq_none name h
  refine .bind (.bind (.field hn.inSchema (hnone (by decide))) (.pure ())) ?_
  exact .bind (.withBound hn.inSchema (hnone (by decide)) _)
    (.withBound hn.inSchema (hnone (by decide)) _)

theorem closingRules : OnlyReturns (Check.closingRules n) () := by
  have hlabel {label : String} (h : label ∉ "id" :: "$ref" :: numberNames) :
      OnlyReturns (labelRule n label) () :=
    .bind (.field hn.inSchema (hn.get?_eq_none _ h)) (.pure ())
  have henum : OnlyReturns (enumRule n) () :=
    .bind (.field? hn.inSchema (hn.get?_eq_none _ (by decide))) (.pure ())
  exact .bind henum (.bind (hlabel (by decide)) (hlabel (by decide)))

end OnNumbers

/-! ## Schemas without rules -/

section Bare

variable (hn : n.OnNumbers) (hbare : ∀ name ∈ numberNames, n.tree.get? name = none)

include hn hbare

theorem numberRules (x : Number) : OnlyReturns (Check.numberRules n x) () := by
  refine .bind (.withBound hn.inSchema (hbare _ (by decide)) _) ?_
  refine .bind (.withBound hn.inSchema (hbare _ (by decide)) _) ?_
  exact .bind (.field hn.inSchema (hbare _ (by decide))) (.pure ())

theorem scalarRules (v : Value) : OnlyReturns (Check.scalarRules n v) () := by
  unfold Check.scalarRules
  split
  · exact .textRules hn _
  · split
    · exact .numberRules hn hbare _
    · exact .pure ()

/-- Without rules, nothing is asked of a value. -/
theorem presentRules (v : Value) : OnlyReturns (Check.presentRules visit n v) () := by
  obtain ⟨htype, hdisallow⟩ := typeAndDisallow hn visit
  refine .bind htype (.bind hdisallow ?_)
  split
  · exact .pure ()
  · exact .bind (.memberRules hn _) (.bind (.scalarRules hn hbare _) (.closingRules hn))

end Bare

end OnlyReturns

/-! ## What is left for numbers -/

/-- For a number the rules on numbers are all that is left. -/
theorem presentRules_number (hn : n.OnNumbers) {v : Value} {x : Number} (hx : v.number? = some x) :
    presentRules visit n v = numberRules n x := by
  obtain ⟨htype, hdisallow⟩ := OnlyReturns.typeAndDisallow hn visit
  have hcontent : contentRules visit n v = scalarRules n v := by
    unfold contentRules
    rw [(OnlyReturns.memberRules hn v).bind_eq, (OnlyReturns.closingRules hn).after_eq]
  unfold presentRules
  rw [htype.bind_eq, hdisallow.bind_eq]
  -- only integers and floats are numbers
  cases v with
  | int i =>
    cases hx
    exact hcontent
  | float y =>
    cases hx
    exact hcontent
  | _ => cases hx

/-- The whole check of a number against a schema without id and reference. -/
theorem property_number (hn : n.OnNumbers) (hid : n.tree.get? "id" = none)
    (href : n.tree.get? "$ref" = none) {x : Number} (hx : p.slot.value.number? = some x) :
    property visit n s p = numberRules n x s p := by
  have hidRule : OnlyReturns (idRule n) () := .whenGiven hn.inSchema hid _
  have hrefRule : OnlyReturns (refRule visit n) () := .bind (.field? hn.inSchema href) (.pure ())
  have hextends : OnlyReturns (extendsRule visit n) () :=
    .whenGiven hn.inSchema (hn.get?_eq_none _ (by decide)) _
  have hpresent : presentRules visit n p.slot.value = numberRules n x := presentRules_number hn hx
  rw [property, hidRule.bind_eq, hrefRule.bind_eq, hextends.bind_eq, ownRules, value_bind,
    ← hpresent]
  -- a missing value is no number
  cases hv : p.slot.value with
  | missing =>
    rw [hv] at hx
    cases hx
  | _ => rfl

end Check

namespace Validator

open Check

/-- A schema on numbers decides about a number by its rules on numbers, whatever the validator has
    met before. -/
theorem validate_number (v : Validator) {inst schema : Node} (hschema : schema.OnNumbers)
    (hmap : schema.tree.isMap = true) (hid : schema.tree.get? "id" = none)
    (href : schema.tree.get? "$ref" = none) {x : Number} (hx : inst.tree.number? = some x) :
    ∃ s p, s.key = rootKey ∧ s.trail = [] ∧
      (v.validate inst schema).result = (numberRules schema x s p).1 := by
  obtain ⟨depth, hdepth⟩ := Nat.exists_eq_add_of_le' v.settings.one_le
  let s := (v.rootScope inst).deeper
  let p := (v.start inst).tell (.entered schema [] s.depth)
  have hslot : p.slot.value = inst.tree := by
    show (Slot.ofValue inst.tree).value = _
    cases hv : inst.tree with
    | missing =>
      rw [hv] at hx
      cases hx
    | _ => rfl
  refine ⟨s, p, rfl, rfl, ?_⟩
  calc (v.validate inst schema).result
      = (against v.settings.maxDepth schema (v.rootScope inst) (v.start inst)).1 :=
        (validate_of_given v inst schema (Value.isGiven_of_isMap hmap)).1
    _ = (property (against depth) schema s p).1 := by
        rw [hdepth, against_succ_of_map (by rwa [hschema.inSchema.content]), nested_result]
        rfl
    _ = (numberRules schema x s p).1 := by
        rw [property_number hschema hid href (by rwa [hslot])]

end Validator

end Conformance

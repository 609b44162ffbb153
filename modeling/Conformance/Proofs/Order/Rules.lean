/-
  Rules on one value, with the keys in another order.

  What such a rule reads of the value and of the schema is the same up to the order of keys: numbers
  and texts, how many elements there are, whether a value is one of the options, what is offered for
  a missing one.  Type expressions without inline schemas resolve to the same test, which looks at
  the class of the value only (`ofValue_of_reordered`).
-/
import Conformance.Proofs.Order.Checks

namespace Conformance

namespace Check

variable {n n' : Node}

/-! ## Bounds, texts and numbers -/

section Scalars

variable (hn : n.Alike n')

include hn

/-- A bound is the same number in both schemas, or is not a number in either. -/
theorem withBound_matches {name : String} {rule rule' : Number → Value → Check Unit}
    (h : ∀ bound v v', Matches (rule bound v) (rule' bound v')) :
    Matches (withBound n name rule) (withBound n' name rule') := by
  refine fun σ σ' hσ => .field hn fun v v' hv => .unlessNull hσ hv fun _ => ?_
  rw [Value.number?_of_reordered hv]
  cases v.number? with
  | some bound => exact h bound v v' hσ
  | none => exact .of_fails (fail_fails _)

/-- There are as many elements, so the same bounds are broken. -/
theorem itemCounts_matches : Matches (itemCounts n) (itemCounts n') := by
  refine .bind (withBound_matches hn fun bound v v' σ σ' hσ => .value ?_)
    (withBound_matches hn fun bound v v' σ σ' hσ => .value ?_)
  · exact .brokenIf (by rw [Value.length_of_reordered hσ.value]) (fail_fails _) hσ
  · exact .brokenIf (by rw [Value.length_of_reordered hσ.value]) (fail_fails _) hσ

/-- Patterns are texts, which have no keys. -/
theorem patternRule_matches (text : String) :
    Matches (patternRule n text) (patternRule n' text) := by
  refine fun σ σ' hσ => .field hn fun v v' hv => .unlessNull hσ hv fun _ => ?_
  cases v with
  | str source =>
    obtain rfl : v' = .str source := hv
    dsimp only
    cases Pattern.read source with
    | ok compiled =>
      dsimp only
      cases compiled.search text with
      | something => exact .pure hσ
      | nothing => exact .of_fails (fail_fails _)
      | reversedGroup => exact .of_fails (stop_fails _)
    | error flaw =>
      cases flaw with
      | defect d => exact .of_fails (fail_fails _)
      | _ => exact .of_fails (stop_fails _)
  | _ => exact .of_fails (fail_fails _)

/-- Texts are the same texts, and so are the rules on them. -/
theorem textRules_matches (text : String) : Matches (textRules n text) (textRules n' text) :=
  .bind (patternRule_matches hn text) (.bind
    (withBound_matches hn fun _ _ _ _ _ hσ => .brokenIf .rfl (fail_fails _) hσ)
    (withBound_matches hn fun _ _ _ _ _ hσ => .brokenIf .rfl (fail_fails _) hσ))

/-- Whether a bound may be met is the same in both schemas. -/
theorem boundRule_matches {name : String} {test : Bool → Bool} {cause cause' : Cause} :
    Matches (boundAllowed n name >>= fun allowed => if test allowed then fail cause else pure ())
      (boundAllowed n' name >>= fun allowed =>
        if test allowed then fail cause' else pure ()) := by
  -- whether it may is read off the schema, and then the test is the same
  unfold boundAllowed
  rw [bind_assoc, bind_assoc]
  refine fun σ σ' hσ => .field? hn ?_ fun v v' hv => ?_
  · exact .brokenIf .rfl (fail_fails _) hσ
  · exact .brokenIf (by rw [Value.isTruthy_of_reordered hv]) (fail_fails _) hσ

/-- So is how many digits may stand behind a point. -/
theorem decimalRule_matches (x : Number) : Matches (decimalRule n x) (decimalRule n' x) := by
  refine fun σ σ' hσ => .field hn fun limit limit' hlimit => ?_
  rw [Value.number?_of_reordered hlimit]
  cases limit.number? with
  | none => exact .pure hσ
  | some bound =>
    cases x.shownDecimals with
    | none => exact .pure hσ
    | some shown => exact .brokenIf .rfl (fail_fails _) hσ

/-- Numbers are the same numbers. -/
theorem numberRules_matches (x : Number) : Matches (numberRules n x) (numberRules n' x) :=
  .bind (withBound_matches hn fun _ _ _ => boundRule_matches hn)
    (.bind (withBound_matches hn fun _ _ _ => boundRule_matches hn) (decimalRule_matches hn x))

/-- Values with members are neither texts nor numbers. -/
theorem scalarRules_matches {v v' : Value} (hv : v.reordered v') :
    Matches (scalarRules n v) (scalarRules n' v') := by
  unfold scalarRules
  cases Value.reorder_of_reordered hv with
  | same =>
    cases v with
    | str text => exact textRules_matches hn text
    | int i => exact numberRules_matches hn _
    | float x => exact numberRules_matches hn _
    | _ => exact .pure
  | _ => exact .pure

/-! ## Enumerations and labels -/

omit hn in
/-- A value is one of the options whatever the order of keys. -/
theorem options?_of_reordered {v v' x x' : Value} {options : List Value} (hv : v.reordered v')
    (hx : x.reordered x') (h : options? v = some options) :
    ∃ options', options? v' = some options' ∧
      options'.any (fun o => o.equal x') = options.any fun o => o.equal x := by
  -- options that are the same one by one are equal to the same values
  have hitems {as bs : List Value} (h : List.Forall₂ Value.reordered as bs) :
      bs.any (fun o => o.equal x') = as.any fun o => o.equal x := by
    induction h with
    | nil => rfl
    | cons hab _ ih => rw [List.any_cons, List.any_cons, ih, Value.equal_reordered hab hx]
  cases Value.reorder_of_reordered hv with
  | list h' =>
    cases h
    exact ⟨_, rfl, hitems h'⟩
  | tuple h' =>
    cases h
    exact ⟨_, rfl, hitems h'⟩
  | @map es fs gs _ hperm hentries =>
    cases h
    refine ⟨_, rfl, ?_⟩
    -- keys are names and numbers, which are the same as themselves
    have hkey (k : Key) : k.value.reordered k.value := by cases k <;> rfl
    rw [← (hperm.map fun e => e.1.value).any_eq]
    refine hitems (List.forall₂_map_left_iff.mpr (List.forall₂_map_right_iff.mpr ?_))
    exact hentries.imp fun e f hef => hef.1 ▸ hkey e.1
  | same _ harray hobject =>
    cases v with
    | str text =>
      cases h
      refine ⟨_, rfl, hitems (List.forall₂_same.mpr fun o ho => ?_)⟩
      obtain ⟨c, _, rfl⟩ := List.mem_map.mp ho
      rfl
    | list _ => cases harray
    | tuple _ => cases harray
    | map _ => exact absurd hobject nofun
    | _ => cases h

/-- A value that is one of the options is one of them in any order. -/
theorem enumRule_matches : Matches (enumRule n) (enumRule n') := by
  refine fun σ σ' hσ => .field? hn (.pure hσ) fun v v' hv => ?_
  dsimp only
  rw [Value.isGiven_of_reordered hv]
  cases v.isGiven with
  | false => exact .pure hσ
  | true =>
    rw [if_pos rfl, if_pos rfl]
    cases ho : options? v with
    | none => exact .of_fails (stop_fails _)
    | some options =>
      obtain ⟨options', ho', hany⟩ := options?_of_reordered hv hσ.value ho
      rw [ho']
      refine .value ?_
      rw [hany]
      cases options.any fun o => o.equal σ.value with
      | true => exact .pure hσ
      | false => exact .of_fails (fail_fails _)

/-- A label is a text in both, or in neither. -/
theorem labelRule_matches (label : String) : Matches (labelRule n label) (labelRule n' label) := by
  refine fun σ σ' hσ => .field hn fun v v' hv => .unlessNull hσ hv fun _ => ?_
  cases v with
  | str text =>
    obtain rfl : v' = .str text := hv
    exact .pure hσ
  | _ => exact .of_fails fun _ _ => ⟨_, rfl⟩

theorem closingRules_matches : Matches (closingRules n) (closingRules n') :=
  .bind (enumRule_matches hn) (.bind (labelRule_matches hn _) (labelRule_matches hn _))

end Scalars

end Check

/-! ## Types -/

namespace TypeTest

/-- No type name begins with a bracket. -/
theorem ofName?_bracket (text : String) : ofName? ("(" ++ text) = none := by
  have hne {name : String} (hname : name.toList.head? ≠ some '(') : "(" ++ text ≠ name := by
    rintro rfl
    simp at hname
  -- each name is compared in turn
  unfold ofName?
  repeat rw [if_neg (hne (by decide))]

/-- A tuple stands for no type. -/
theorem ofValue_tuple (origin : Place) (items : List Value) :
    ofValue origin (.tuple items) = .error (Value.tuple items).text := by
  have htext : ∃ text, (Value.tuple items).text = "(" ++ text := by
    show ∃ text, (Value.tuple items).repr = _
    match items with
    | [] => exact ⟨_, String.append_assoc ..⟩
    | [_] => exact ⟨_, String.append_assoc ..⟩
    | _ :: _ :: _ => exact ⟨_, String.append_assoc ..⟩
  obtain ⟨text, htext⟩ := htext
  rw [ofValue, ofText, htext, ofName?_bracket]

mutual

/-- What an expression without inline schemas stands for is no matter of the order of keys, nor of
    where it stands. -/
theorem ofValue_of_reordered : ∀ {v w : Value} {origin : Place} {t : TypeTest},
    v.reordered w → v.inlineFree = true → ofValue origin v = .ok t →
      ∀ origin', ofValue origin' w = .ok t
  | .null, w, _, _, h, _, ht, _ => by
    obtain rfl : w = _ := h
    exact ht
  | .bool b, w, _, _, h, _, ht, _ => by
    obtain rfl : w = _ := h
    cases b <;> exact ht
  | .map _, _, _, _, _, hfree, _, _ => by cases hfree
  | .list items, w, origin, t, h, hfree, ht, origin' => by
    obtain ⟨items', rfl, hitems⟩ := Value.reordered_list.mp h
    unfold ofValue at ht ⊢
    cases hi : ofItems origin 0 items with
    | error name =>
      rw [hi] at ht
      cases ht
    | ok ts =>
      rw [hi] at ht
      rw [ofItems_of_reordered hitems hfree hi]
      exact ht
  | .tuple items, _, _, _, _, _, ht, _ => by
    rw [ofValue_tuple] at ht
    cases ht
  | .missing, w, _, _, h, _, ht, _ => by
    obtain rfl : w = _ := h
    rwa [ofValue] at ht ⊢
  | .int _, w, _, _, h, _, ht, _ => by
    obtain rfl : w = _ := h
    rwa [ofValue] at ht ⊢
  | .float _, w, _, _, h, _, ht, _ => by
    obtain rfl : w = _ := h
    rwa [ofValue] at ht ⊢
  | .str _, w, _, _, h, _, ht, _ => by
    obtain rfl : w = _ := h
    rwa [ofValue] at ht ⊢
  | .cls _, w, _, _, h, _, ht, _ => by
    obtain rfl : w = _ := h
    exact ht

/-- The elements of a list of types stand for what their counterparts stand for. -/
theorem ofItems_of_reordered : ∀ {vs ws : List Value} {origin origin' : Place} {i : Nat}
    {ts : List TypeTest}, List.Forall₂ Value.reordered vs ws → inlineFreeItems vs = true →
      ofItems origin i vs = .ok ts → ofItems origin' i ws = .ok ts
  | [], _, _, _, _, _, h, _, ht => by
    cases h
    exact ht
  | v :: vs, _, origin, origin', i, ts, h, hfree, ht => by
    cases h with
    | cons hv hvs =>
      rw [inlineFreeItems, Bool.and_eq_true] at hfree
      unfold ofItems at ht ⊢
      cases hfirst : ofValue (origin.down (.index i)) v with
      | error name =>
        rw [hfirst] at ht
        cases ht
      | ok t =>
        cases hrest : ofItems origin (i + 1) vs with
        | error name =>
          rw [hfirst, hrest] at ht
          cases ht
        | ok us =>
          rw [hfirst, hrest] at ht
          rw [ofValue_of_reordered hv hfree.1 hfirst, ofItems_of_reordered hvs hfree.2 hrest]
          exact ht

end

end TypeTest

namespace Check

section Types

variable {n n' : Node} {visit visit' : Node → Check Unit}

/-- A type without inline schemas that accepts a value accepts it with its keys in another order. -/
theorem typeRule_matches (hn : n.Alike n') (hfree : n.tree.inlineFree = true) :
    Matches (typeRule visit n) (typeRule visit' n') := by
  rintro σ σ' hσ τ ⟨s, p, q, _, rfl, hrun, rfl⟩
  cases ht : TypeTest.ofValue n.origin n.tree with
  | error name =>
    rw [typeRule_unresolved hn.left ht] at hrun
    cases hrun
  | ok t =>
    have hplain := TypeTest.plain_ofValue hfree ht
    have ht' := TypeTest.ofValue_of_reordered hn.tree hfree ht n'.origin
    have hanswer : SaysWhether _ _ (typeRule visit n s p) :=
      typeRule_saysWhether hn.left ht hplain s p
    rw [hrun] at hanswer
    -- it has been accepted, so the test says yes, and the test is the same
    have haccepts : t.accepts p.slot.value = true := by
      cases hno : t.accepts p.slot.value with
      | true => rfl
      | false =>
        obtain ⟨e, he, _⟩ := hanswer.no hno
        cases he
    refine ⟨σ', by rw [hanswer.slot]; exact hσ, fun s' p' _ hp' => ?_⟩
    have hagain : SaysWhether _ _ (typeRule visit' n' s' p') :=
      typeRule_saysWhether hn.right ht' hplain s' p'
    rw [hp'] at hagain
    rw [TypeTest.accepts_congr (Value.class?_of_reordered hσ.value).symm] at haccepts
    exact ⟨_, Prod.ext (hagain.yes haccepts) rfl, hagain.slot⟩

/-- What does not fit a disallowed type does not with its keys in another order. -/
theorem disallowRule_matches (hn : n.Alike n')
    (hfree : ∀ r, n.tree.rule? "disallow" = some r → r.inlineFree = true) :
    Matches (disallowRule visit n) (disallowRule visit' n') := by
  refine .whenGiven hn fun r r' hr hrr => ?_
  have hexpr : (n.down (.name "disallow") r).Alike (n'.down (.name "disallow") r') :=
    hn.down _ hrr
  intro σ σ' hσ
  cases ht : TypeTest.ofValue (n.down (.name "disallow") r).origin r with
  | error name =>
    -- an unknown name is an error of the schema, which no rule gives up
    rintro τ ⟨s, p, q, _, _, hrun, _⟩
    simp only [bind_run, attempt, typeRule_unresolved hexpr.left ht] at hrun
    cases hrun
  | ok t =>
    have hplain := TypeTest.plain_ofValue (hfree r hr) ht
    have ht' := TypeTest.ofValue_of_reordered hrr (hfree r hr) ht
      (n'.down (.name "disallow") r').origin
    rintro τ ⟨s, p, q, _, rfl, hrun, rfl⟩
    obtain ⟨hslot, e, he, haccepts⟩ :=
      attempt_of_saysWhether (typeRule_saysWhether hexpr.left ht hplain s p)
    rw [bind_run_ok (Prod.ext he rfl)] at hrun
    cases e with
    | none => cases hrun
    | some e =>
      obtain rfl := congrArg Prod.snd hrun
      have hleft :
          (attempt (typeRule visit (n.down (.name "disallow") r)) s p).2.slot.Reordered σ' := by
        rwa [hslot]
      refine ⟨σ', hleft, fun s' p' _ hp' => ?_⟩
      have hanswer' : SaysWhether _ _ (typeRule visit' (n'.down (.name "disallow") r') s' p') :=
        typeRule_saysWhether hexpr.right ht' hplain s' p'
      obtain ⟨hslot', e', he', haccepts'⟩ := attempt_of_saysWhether hanswer'
      rw [hp', TypeTest.accepts_congr (Value.class?_of_reordered hσ.value), ← haccepts] at haccepts'
      rw [bind_run_ok (Prod.ext he' rfl)]
      cases e' with
      | none => cases haccepts'
      | some _ => exact ⟨_, rfl, hslot'.trans hp'⟩

end Types

/-! ## Missing values -/

section Missing

variable {n n' : Node} (hn : n.Alike n')

include hn

/-- A value is required by both schemas or by neither. -/
theorem requiredRule_matches : Matches (requiredRule n) (requiredRule n') := by
  refine fun σ σ' hσ => .field? hn (.pure hσ) fun v v' hv => ?_
  cases Value.reorder_of_reordered hv with
  | same =>
    cases v with
    | bool b =>
      cases b with
      | true => exact .of_fails (fail_fails _)
      | false => exact .pure hσ
    | _ => exact .pure hσ
  | _ => exact .pure hσ

omit hn in
/-- Schemas offer the same default up to the order of keys. -/
theorem offer?_of_reordered {S S' : Value} (h : S.reordered S') :
    Option.Rel Value.reordered (offer? S) (offer? S') := by
  have hdefault := Value.getD_of_reordered h "default"
  unfold offer?
  rw [Value.isTruthy_of_reordered (Value.getD_of_reordered h "readonly")]
  generalize (S.get? "default").getD .null = v at hdefault
  generalize (S'.get? "default").getD .null = v' at hdefault
  -- read-only schemas offer nothing on either side
  have hoffered : Option.Rel Value.reordered
      (if ((S.get? "readonly").getD .null).isTruthy then none else some v)
      (if ((S.get? "readonly").getD .null).isTruthy then none else some v') := by
    split
    · exact .none
    · exact .some hdefault
  cases Value.reorder_of_reordered hdefault with
  | same =>
    cases v with
    | null => exact .none
    | _ => exact hoffered
  | _ => exact hoffered

omit hn in
/-- A key that cannot be asked for fails on both sides. -/
theorem askKey_matches : Matches askKey askKey := by
  have hasked {σ : Slot} (hno : ∀ c, σ ≠ .unaskable c) : AcceptsAlways askKey σ σ := by
    rintro s p rfl
    refine ⟨p, ?_, rfl⟩
    unfold askKey
    split
    · next c hc => exact absurd hc (hno c)
    · rfl
  intro σ σ' hσ
  exact .of_acceptsAlways (hasked (by cases hσ <;> simp)) (hasked (by cases hσ <;> simp)) hσ

omit hn in
/-- The same default comes into the same slots. -/
theorem writeDefault_matches {v v' : Value} (hv : v.reordered v') :
    Matches (writeDefault v) (writeDefault v') := by
  -- writing a default succeeds and leaves one slot
  have hwrites {σ τ : Slot} {v : Value} (h : ∀ s (p : Progress), ∃ q,
      writeDefault v s { p with slot := σ } = (.ok (), q) ∧ q.slot = τ) :
      AcceptsAlways (writeDefault v) σ τ := by
    rintro s p rfl
    exact h s p
  intro σ σ' hσ
  cases hσ with
  | free =>
    exact .of_acceptsAlways (hwrites fun s p => ⟨_, rfl, rfl⟩) (hwrites fun s p => ⟨_, rfl, rfl⟩)
      (.filled hv)
  | _ =>
    exact .of_acceptsAlways (hwrites fun s p => ⟨_, rfl, rfl⟩) (hwrites fun s p => ⟨_, rfl, rfl⟩)
      (by constructor <;> assumption)

/-- Both schemas offer the same default, or none. -/
theorem defaultRule_matches : Matches (defaultRule n) (defaultRule n') := by
  let written (n : Node) : Check Unit := do
    askKey
    (offer? (← content n)).elim (pure ()) writeDefault
  -- where defaults are written, the rule is to ask for the key and write what is offered
  have hwritten (n : Node) (s : Scope) (p : Progress) (hs : s.interactive = true) :
      defaultRule n s p = written n s p := by
    unfold defaultRule
    rw [scope_bind, hs]
    refine congrFun (congrFun (congrArg (askKey >>= ·) (funext fun _ =>
      congrArg (content n >>= ·) (funext fun v => ?_))) s) p
    cases offer? v <;> rfl
  refine fun σ σ' hσ => .congr (hwritten n) (hwritten n')
    (.bind (askKey_matches hσ) fun τ τ' _ hτ => .content hn ?_)
  have hoffer := offer?_of_reordered hn.tree
  generalize offer? n.tree = x at hoffer
  generalize offer? n'.tree = y at hoffer
  cases hoffer with
  | none => exact .pure hτ
  | some hv => exact writeDefault_matches hv hτ

theorem missingRules_matches : Matches (missingRules n) (missingRules n') :=
  .bind (requiredRule_matches hn) (defaultRule_matches hn)

end Missing

end Check

end Conformance

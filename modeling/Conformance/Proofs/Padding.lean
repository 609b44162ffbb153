/-
  What stands where a list has been padded.

  A default for a position past the end of a list puts nulls into the positions before it.  These
  have been gone over as missing by then, so nobody has asked what their schemas make of null, and
  they may well reject it (`padding_rejected`).

  What they can object to is little.  Of a null only the types count, those that a schema and its
  lineage ask for and those that they disallow (`conforms_null_iff`).  And a schema that a position
  has been gone over by, be it missing or not, has no bases nested too deep for a check
  (`descendsWithin_of_ok`).  So the verdict on a padded position is that of the types
  (`padding_accepted_iff`).
-/
import Conformance.Proofs.Decision
import Conformance.Proofs.Lineage
import Conformance.Proofs.MemberVisits

namespace Conformance

namespace Value

/-- A schema and those that it extends do not object to null: it fits the types that they ask for,
    and none that they disallow. -/
def AdmitsNull (S : Value) : Prop :=
  ∀ b ∈ S.lineage, (∀ t, b.rule? "type" = some t → Value.null.Fits t) ∧
    ∀ t, b.rule? "disallow" = some t → ¬ Value.null.Fits t

/-- Null conforms to a schema unless a type objects. -/
theorem conforms_null_iff (S : Value) : Value.null.Conforms S ↔ S.AdmitsNull := by
  induction S using lineage.induct with
  | case1 S hmap ih =>
    have hbases : (∀ b, b ∈ S.bases → Value.null.Conforms b) ↔
        ∀ b ∈ S.bases, ∀ x ∈ b.lineage, (∀ t, x.rule? "type" = some t → Value.null.Fits t) ∧
          ∀ t, x.rule? "disallow" = some t → ¬ Value.null.Fits t :=
      forall_congr' fun b => forall_congr' fun hb => ih ⟨b, hb⟩
    rw [Conforms, AdmitsNull, lineage_of_map hmap]
    simp only [hmap, hbases, List.mem_append, List.mem_flatMap, List.mem_singleton]
    constructor
    · rintro h x (⟨b, hb, hx⟩ | rfl)
      · exact (h trivial).1 b hb x hx
      · obtain ⟨_, _, hpresent⟩ := h trivial
        obtain ⟨htype, hdisallow, _⟩ := hpresent (by simp)
        exact ⟨htype, hdisallow⟩
    · intro h _
      obtain ⟨htype, hdisallow⟩ := h S (Or.inr rfl)
      exact ⟨fun b hb x hx => h x (Or.inl ⟨b, hb, hx⟩), by simp,
        fun _ => ⟨htype, hdisallow, fun hnull => absurd rfl hnull⟩⟩
  | case2 S hmap =>
    have hno : S.isMap = false := by simpa using hmap
    rw [AdmitsNull, lineage_of_not_map hno]
    exact iff_of_true (Check.conforms_of_not_map hno) (by simp)

/-- Where there is room for more, bases are nested no deeper either. -/
theorem descendsWithin_succ {depth : Nat} {S : Value} (h : S.descendsWithin depth = true) :
    S.descendsWithin (depth + 1) = true := by
  induction depth generalizing S with
  | zero =>
    rw [descendsWithin, bases_of_not_map (by simpa [descendsWithin] using h)]
    rfl
  | succ depth ih =>
    rw [descendsWithin, List.all_eq_true] at h ⊢
    exact fun b hb => ih (h b hb)

/-- A type expression of names and classes alone, each of them known. -/
structure NamesTypes (t : Value) : Prop where
  inlineFree : t.inlineFree = true
  resolved : ∀ origin, ∃ test, TypeTest.ofValue origin t = .ok test

/-- A schema and those that it extends ask for types and disallow them by name only. -/
def TypedByName (S : Value) : Prop :=
  ∀ b ∈ S.lineage, (∀ t, b.rule? "type" = some t → t.NamesTypes) ∧
    ∀ t, b.rule? "disallow" = some t → t.NamesTypes

end Value

namespace Check

variable {depth : Nat} {n : Node} {s : Scope} {p q : Progress}

/-! ## Schemas that have been gone through -/

/-- What the visits to bases in turn have gone through. -/
theorem mem_of_passes {visit : Node → Check Unit} {ks : List Node} (h : Passes visit s ks p q) :
    ∀ k ∈ ks, ∃ p q, visit k s p = (.ok (), q) := by
  induction h with
  | nil => exact fun _ hk => absurd hk List.not_mem_nil
  | cons first _ ih =>
    intro k hk
    rcases List.mem_cons.mp hk with rfl | hk
    · exact ⟨_, _, first⟩
    · exact ih k hk

/-- A schema that has been gone through has no bases nested too deep. -/
theorem descendsWithin_of_ok (hn : n.InSchema) (h : against depth n s p = (.ok (), q)) :
    n.tree.descendsWithin depth = true := by
  -- each level of bases takes one level of depth, or the run would have ended at the limit
  induction depth generalizing n s p q with
  | zero =>
    cases hmap : n.tree.isMap with
    | false => simp [Value.descendsWithin, hmap]
    | true =>
      obtain ⟨_, _, _, hdepth, _⟩ := property_of_ok hn hmap h
      cases hdepth
  | succ depth ih =>
    rw [Value.descendsWithin, List.all_eq_true]
    cases hmap : n.tree.isMap with
    | false =>
      rw [Value.bases_of_not_map hmap]
      exact fun _ hb => absurd hb List.not_mem_nil
    | true =>
      obtain ⟨_, _, _, hdepth, -, -, hrun⟩ := property_of_ok hn hmap h
      cases hdepth
      obtain ⟨_, _, _, hrun⟩ := bind_ok hrun
      obtain ⟨_, _, _, hrun⟩ := bind_ok hrun
      obtain ⟨_, _, hextends, _⟩ := bind_ok hrun
      -- the visits to bases have all succeeded, so the hypothesis applies to each of them
      obtain ⟨ks, hks, hin, hpasses⟩ := extendsRule_passes hn hextends
      intro b hb
      rw [← hks] at hb
      obtain ⟨k, hk, rfl⟩ := List.mem_map.mp hb
      obtain ⟨_, _, hvisit⟩ := mem_of_passes hpasses k hk
      exact ih (hin k hk) hvisit

/-- Of elements that are all visited with success, each one is. -/
theorem visitFrom_ok {visit : Nat → Node → Check Unit} {items : List Value} {i : Nat}
    (h : visitFrom n visit i items s p = (.ok (), q)) {j : Nat} {x : Value}
    (hx : items[j]? = some x) :
    ∃ p q, visit (i + j) (n.down (.index (i + j)) x) s p = (.ok (), q) := by
  -- the visits are in turn, so the one at an index is the first of some rest
  induction items generalizing i j p with
  | nil => cases hx
  | cons y rest ih =>
    obtain ⟨_, p₁, hfirst, hrest⟩ := bind_ok h
    cases j with
    | zero =>
      cases hx
      exact ⟨p, p₁, hfirst⟩
    | succ j =>
      obtain ⟨p', q', hvisit⟩ := ih hrest hx
      rw [show i + 1 + j = i + (j + 1) by omega] at hvisit
      exact ⟨p', q', hvisit⟩

/-- A check of a member that succeeds has made its visit. -/
theorem of_atChild_ok {c : Check Unit} {step : Step} (h : atChild step c s p = (.ok (), q)) :
    ∃ p q, c (s.child step) p = (.ok (), q) := by
  unfold atChild at h
  split at h
  · next container _ =>
    rcases hc : c (s.child step) { p with slot := container.slotBelow step } with ⟨r, p'⟩
    rw [hc] at h
    cases h
    exact ⟨_, _, hc⟩
  · rcases hc : c (s.child step) { p with slot := .held } with ⟨r, p'⟩
    rw [hc] at h
    cases h
    exact ⟨_, _, hc⟩

/-- The rules for a list that has passed them have visited the schema of each position. -/
theorem presentRules_positions {visit : Node → Check Unit} {ys subs : List Value}
    (hn : n.InSchema) (hitems : n.tree.rule? "items" = some (.list subs))
    (h : presentRules visit n (.list ys) s p = (.ok (), q)) {i : Nat} {sub : Value}
    (hsub : subs[i]? = some sub) :
    ∃ k s p q, k.InSchema ∧ k.tree = sub ∧ visit k s p = (.ok (), q) := by
  -- types, disallowed types, members: the rule on items is the first of the last
  obtain ⟨_, _, _, h⟩ := bind_ok h
  obtain ⟨_, _, _, hcontent⟩ := bind_ok h
  obtain ⟨_, _, hmembers, _⟩ := bind_ok hcontent
  obtain ⟨_, _, hrule, _⟩ := bind_ok (c := whenGiven n "items" _) hmembers
  rw [whenGiven_run hn, hitems] at hrule
  obtain ⟨_, _, helements, _⟩ := bind_ok hrule
  have hdown : (n.down (.name "items") (.list subs)).InSchema := hn
  unfold eachElement at helements
  rw [content_bind, hdown.content] at helements
  obtain ⟨_, _, hchild⟩ := visitFrom_ok helements hsub
  obtain ⟨_, _, hvisit⟩ := of_atChild_ok hchild
  exact ⟨(n.down (.name "items") (.list subs)).down (.index (0 + i)) sub, _, _, _, hn, rfl, hvisit⟩

/-- A list that has been gone through has had the schema of each position visited, whether the list
    reached so far or not. -/
theorem positions_visited {xs subs : List Value} (hn : n.InSchema)
    (hitems : n.tree.rule? "items" = some (.list subs)) (hp : p.slot = .present (.list xs))
    (h : against (depth + 1) n s p = (.ok (), q)) {i : Nat} {sub : Value}
    (hsub : subs[i]? = some sub) :
    ∃ k s p q, k.InSchema ∧ k.tree = sub ∧ against depth k s p = (.ok (), q) := by
  have hmap : n.tree.isMap = true := by
    cases ht : n.tree with
    | map es => rfl
    | _ =>
      rw [ht] at hitems
      cases hitems
  obtain ⟨_, _, _, hdepth, hp', -, hrun⟩ := property_of_ok hn hmap h
  cases hdepth
  obtain ⟨p₁, ds, hreceived, hown⟩ := property_own hn hrun
  rw [hp', hp] at hreceived
  -- whatever has been filled in by now, it is a list still
  obtain ⟨b, hb, hinjected⟩ := hreceived.of_present
  have hclass := Value.class?_of_keptIn hinjected.keptIn
  rw [ownRules, value_bind, hb] at hown
  cases b with
  | list ys => exact presentRules_positions hn hitems hown hsub
  | _ => cases hclass

/-! ## Checks that blame the data only -/

/-- The end of a run that has nothing but the data to blame, if anything. -/
def OnData {α : Type} (r : Except Failure α) : Prop :=
  ∀ f, r = .error f → ∃ e : Violation, f = .violation e ∧ e.errorClass = .data

/-- Success blames nobody. -/
theorem onData_ok {α : Type} (a : α) : OnData (.ok a : Except Failure α) := by
  intro f hf
  cases hf

/-- A check of a value that has nothing but the data to blame, where defaults are not written. -/
def BlamesData {α : Type} (v : Value) (c : Check α) : Prop := Ends v OnData c

namespace BlamesData

variable {v : Value} {c : Check Unit}

theorem done : BlamesData v (pure () : Check Unit) :=
  Ends.of_still (fun _ _ => rfl) fun _ _ _ _ _ => onData_ok ()

/-- A failure with such a cause blames the data. -/
theorem fail {cause : Cause} (h : cause.errorClass = .data) :
    BlamesData v (Check.fail cause : Check Unit) := by
  refine Ends.of_still (fun _ _ => rfl) fun s _ _ _ _ f hf => ?_
  cases hf
  exact ⟨_, rfl, h⟩

theorem bind {α β : Type} {c : Check α} {f : α → Check β} (hc : BlamesData v c)
    (hf : ∀ a, BlamesData v (f a)) : BlamesData v (c >>= f) := by
  refine Ends.bind hc (fun a _ => hf a) fun e he f hef => he f ?_
  cases hef
  rfl

/-- An attempt takes up whatever blames the data, so it always succeeds. -/
theorem attempt (h : BlamesData v c) : BlamesData v (Check.attempt c) := by
  intro s p hs hw hv
  obtain ⟨hslot, hwrites, hdata⟩ := h s p hs hw hv
  rw [attempt_progress]
  refine ⟨hslot, hwrites, fun f hf => ?_⟩
  unfold Check.attempt at hf
  rcases hc : c s p with ⟨r, q⟩
  rw [hc] at hf hdata
  -- the error is one that an attempt takes up
  cases r with
  | ok _ => cases hf
  | error e =>
    obtain ⟨violation, rfl, hclass⟩ := hdata e rfl
    dsimp only at hf
    rw [if_pos hclass] at hf
    cases hf

/-- A level of depth adds events only. -/
theorem nested (h : BlamesData v c) (n : Node) : BlamesData v (Check.nested n c) := by
  intro s p hs hw hv
  obtain ⟨hslot, hwrites, hdata⟩ := h { s with depth := s.depth + 1 }
    { p with journal := .entered n s.trail (s.depth + 1) :: p.journal } hs hw hv
  exact ⟨hslot, hwrites, hdata⟩

section Rules

variable {visit : Node → Check Unit} (hn : n.InSchema)

include hn

theorem whenGiven {name : String} {rule : Node → Check Unit}
    (h : ∀ r, n.tree.rule? name = some r → BlamesData v (rule (n.down (.name name) r))) :
    BlamesData v (Check.whenGiven n name rule) := by
  intro s p hs hw hv
  rw [whenGiven_run hn]
  cases hr : n.tree.rule? name with
  | none => exact ⟨rfl, hw, onData_ok ()⟩
  | some r => exact h r hr s p hs hw hv

theorem idRule : BlamesData v (Check.idRule n) :=
  .whenGiven hn fun _ _ _ _ _ hw _ => ⟨rfl, hw, onData_ok ()⟩

theorem refRule (href : n.tree.refFree = true) : BlamesData v (Check.refRule visit n) := by
  intro s p _ hw _
  rw [refRule_eq hn href]
  exact ⟨rfl, hw, onData_ok ()⟩

/-- Elements in turn, while the list is as long as it was. -/
theorem visitFrom {items : List Value} {i : Nat}
    (hi : n.tree.listItems.length = i + items.length)
    (h : ∀ k : Node, k.InSchema → k.tree ∈ items → BlamesData v (visit k)) :
    BlamesData v (Check.visitFrom n (fun _ k => visit k) i items) := by
  induction items generalizing i with
  | nil =>
    intro s p _ hw _
    rw [visitFrom_end hn (by simp [hi])]
    exact ⟨rfl, hw, onData_ok ()⟩
  | cons b rest ih =>
    refine .bind (h _ hn (List.mem_cons_self ..)) fun _ => ih (by simp at hi; omega) ?_
    exact fun k hk hmem => h k hk (List.mem_cons_of_mem _ hmem)

theorem extendsRule (h : ∀ k : Node, k.InSchema → k.tree ∈ n.tree.bases → BlamesData v (visit k)) :
    BlamesData v (Check.extendsRule visit n) := by
  refine .whenGiven hn fun r hr => ?_
  have hdown : (n.down (.name "extends") r).InSchema := hn
  have hbases : n.tree.bases = r.listed := by rw [Value.bases, hr]
  rw [hbases] at h
  cases r with
  | list bs =>
    show BlamesData v (eachElement (n.down (.name "extends") (.list bs)) fun _ k => visit k)
    exact Ends.content (visitFrom hdown (Nat.zero_add _).symm h)
  | _ => exact h _ hdown (List.mem_singleton.mpr rfl)

/-- An expression that names types only blames the value, if anything. -/
theorem typeRule (href : n.tree.refFree = true) (hnames : n.tree.NamesTypes)
    (hv : v.ownRefFree = true) : BlamesData v (Check.typeRule (against depth) n) := by
  intro s p hs hw hvalue
  obtain ⟨hslot, hwrites, _⟩ := typeRule_decides (against_decides depth) href hv s p hs hw hvalue
  refine ⟨hslot, hwrites, fun f hf => ?_⟩
  obtain ⟨t, ht⟩ := hnames.resolved n.origin
  have hanswer : SaysWhether _ _ (Check.typeRule (against depth) n s p) :=
    typeRule_saysWhether hn ht (TypeTest.plain_ofValue hnames.inlineFree ht) s p
  -- the expression decides by the value, without visits: it names types only
  cases haccepts : t.accepts p.slot.value with
  | true =>
    rw [hanswer.yes haccepts] at hf
    cases hf
  | false =>
    obtain ⟨e, he, hdata⟩ := hanswer.no haccepts
    rw [he] at hf
    cases hf
    exact ⟨e, rfl, hdata⟩

end Rules

end BlamesData

/-! ## Null -/

/-- The rules for null end with its types. -/
theorem presentRules_null (hn : n.InSchema) (href : n.tree.refFree = true)
    (htype : ∀ t, n.tree.rule? "type" = some t → t.NamesTypes)
    (hdisallow : ∀ t, n.tree.rule? "disallow" = some t → t.NamesTypes) :
    BlamesData .null (presentRules (against depth) n .null) := by
  have hrule {name : String} {t : Value} (ht : n.tree.rule? name = some t) (h : t.NamesTypes) :
      BlamesData .null (typeRule (against depth) (n.down (.name name) t)) :=
    .typeRule (n := n.down (.name name) t) hn
      (Value.everyMapping_part href (Value.mem_parts_of_rule? ht)) h rfl
  refine .bind (.whenGiven hn fun t ht => hrule ht (htype t ht)) fun _ => .bind ?_ fun _ => .done
  refine .whenGiven hn fun t ht => .bind (.attempt (hrule ht (hdisallow t ht))) fun e => ?_
  -- a disallowed type that fits is a fault of the data, one that does not is none
  cases e with
  | none => exact .fail rfl
  | some _ => exact .done

/-- A check of null against a schema that names types only, and has no bases nested too deep, has
    nothing but the null to blame. -/
theorem against_null (hn : n.InSchema) (href : n.tree.refFree = true)
    (hdepth : n.tree.descendsWithin depth = true) (hnames : n.tree.TypedByName) :
    BlamesData .null (against depth n) := by
  -- the bases are nested within what remains, so their checks do not come to the limit
  induction depth generalizing n with
  | zero =>
    have hmap : n.tree.isMap = false := by simpa [Value.descendsWithin] using hdepth
    intro s p _ hw _
    rw [against_of_not_map (by rwa [hn.content])]
    exact ⟨rfl, hw, onData_ok ()⟩
  | succ depth ih =>
    intro s p hs hw hv
    cases hmap : n.tree.isMap with
    | false =>
      rw [against_of_not_map (by rwa [hn.content])]
      exact ⟨rfl, hw, onData_ok ()⟩
    | true =>
      rw [Value.descendsWithin, List.all_eq_true] at hdepth
      have hbases : ∀ k : Node, k.InSchema → k.tree ∈ n.tree.bases →
          BlamesData .null (against depth k) := fun k hk hmem =>
        ih hk (Validator.refFree_of_mem_bases href hmem) (hdepth _ hmem) fun b hb =>
          hnames b (Value.mem_lineage_of_base hmap hmem hb)
      obtain ⟨htype, hdisallow⟩ := hnames _ (Value.mem_lineage_self hmap)
      have hown : BlamesData .null (ownRules (against depth) n) :=
        Ends.value (presentRules_null hn href htype hdisallow)
      have hproperty : BlamesData .null (property (against depth) n) :=
        .bind (.idRule hn) fun _ => .bind (.refRule hn href) fun _ =>
          .bind (.extendsRule hn hbases) fun _ => hown
      rw [against_succ_of_map (by rwa [hn.content])]
      exact hproperty.nested n s p hs hw hv

end Check

namespace Validator

open Check

/-- A position that has been padded: past the end that the list had, and null.  No default is null,
    so none has been written there. -/
def Padded (before after : List Value) (i : Nat) : Prop :=
  before.length ≤ i ∧ after[i]? = some .null

/-- The check of one element of a list by a new validator that does not write defaults. -/
def recheck (settings : Settings) (place : Place) (items : List Value) (i j : Nat) (sub : Value) :
    Outcome Unit :=
  ((Validator.new settings (.bool false)).checkProperty ⟨place, .list items⟩ (.int i) none
    (.ofSchema j sub)).outcome

/-- The subject under an index is the element that stands there. -/
theorem subject_element (place : Place) {items : List Value} {i : Nat} {x : Value}
    (hx : items[i]? = some x) : subject ⟨place, .list items⟩ (.int i) none = x := by
  have hi : i < items.length := (List.getElem?_eq_some_iff.mp hx).1
  have hslot : (Value.list items).slotAt (.int i) = .ofValue x := by
    show (if items.length ≤ i ∧ Value.listRoom ≤ i then Slot.outOfReach i items.length
      else (Value.list items).slotBelow (.index i)) = _
    rw [if_neg (by omega)]
    exact Value.slotBelow_of_child? hx
  show ((Value.list items).slotAt (.int i)).value = x
  rw [hslot, Slot.value_ofValue]

/-- What a new validator says of a null in a list. -/
theorem recheck_null {settings : Settings} {sub : Value} (href : sub.refFree = true)
    (hdepth : sub.descendsWithin settings.maxDepth = true) (place : Place) {items : List Value}
    {i : Nat} (hnull : items[i]? = some .null) (j : Nat) :
    (sub.TypedByName → OnData (recheck settings place items i j sub).result) ∧
      (OnData (recheck settings place items i j sub).result →
        ((recheck settings place items i j sub).result = .ok () ↔ sub.AdmitsNull)) := by
  let v := Validator.new settings (.bool false)
  let parent : Node := ⟨place, .list items⟩
  have hsubject : subject parent (.int i) none = .null := subject_element place hnull
  -- the names known, only the data is to blame; and then acceptance is conformance
  constructor
  · intro hnames
    have hblames := against_null (n := .ofSchema j sub) ⟨j, rfl⟩ href hdepth hnames
    exact (hblames (v.memberScope parent (.int i)) (v.memberStart parent (.int i)) rfl rfl
      hsubject).2.2
  · intro hdata
    have hown : (subject parent (.int i) none).ownRefFree = true := by
      rw [hsubject]
      rfl
    have hiff : (recheck settings place items i j sub).result = .ok () ↔
        (subject parent (.int i) none).Conforms sub :=
      checkProperty_ok_iff_conforms (v := v) rfl href hown hdata
    rw [hsubject] at hiff
    exact hiff.trans (Value.conforms_null_iff sub)

/-- **Padding is judged by types alone.**  If a list passes the check against a schema that names no
    others and has a schema for each position, it is left as a list, and a null that it has been
    padded with is accepted by a new check against the schema of its position, one that writes no
    defaults, exactly if the null fits the types that this schema and its bases ask for and none
    that they disallow; so it is wherever they say nothing of types.  This leaves out only checks
    that end by blaming the schema or the nesting, and none does where all types are given by
    name. -/
theorem padding_accepted_iff (v : Validator) (parent schema : Node) (key : Value)
    (handedIn : Option Node) (xs subs : List Value) (hschema : schema.InSchema)
    (href : schema.tree.refFree = true) (hlist : subject parent key handedIn = .list xs)
    (hitems : schema.tree.rule? "items" = some (.list subs))
    (hok : (v.checkProperty parent key handedIn schema).outcome.result = .ok ()) :
    ∃ ys, (v.checkProperty parent key handedIn schema).value = .list ys ∧
      ∀ i sub, Padded xs ys i → subs[i]? = some sub → ∀ place j,
        let o := recheck v.settings place ys i j sub
        (OnData o.result → (o.result = .ok () ↔ sub.AdmitsNull)) ∧
        (sub.TypedByName → OnData o.result) ∧
        ((∀ b ∈ sub.lineage, b.rule? "type" = none ∧ b.rule? "disallow" = none) →
          o.result = .ok ()) := by
  obtain ⟨s, p, hp, hrun⟩ := exists_run_of_subject v hlist (by simp)
  obtain ⟨hresult, hvalue⟩ := hrun schema
  obtain ⟨depth, hdepth⟩ := Nat.exists_eq_add_of_le' v.settings.one_le
  have hgone : against (depth + 1) schema s p = (.ok (), (v.visit schema s p).2) := by
    rw [← hdepth]
    exact Prod.ext (hresult.symm.trans hok) rfl
  -- the value is a list still
  obtain ⟨ds, hm⟩ := against_moves (depth + 1) schema s p
  have hreceived := hm.slot
  rw [hgone, hp] at hreceived
  obtain ⟨b, hb, hinjected⟩ := hreceived.of_present
  have hclass := Value.class?_of_keptIn hinjected.keptIn
  obtain ⟨ys, rfl⟩ : ∃ ys, b = .list ys := by
    cases b with
    | list ys => exact ⟨ys, rfl⟩
    | _ => cases hclass
  refine ⟨ys, by rw [hvalue, show (v.visit schema s p).2.slot = _ from hb]; rfl, ?_⟩
  intro i sub hpadded hsub place j o
  have hsubref : sub.refFree = true :=
    Value.everyMapping_part (Value.everyMapping_part href (Value.mem_parts_of_rule? hitems))
      (List.mem_of_getElem? hsub)
  have hwithin : sub.descendsWithin v.settings.maxDepth = true := by
    obtain ⟨k, _, _, _, hk, rfl, hvisit⟩ := positions_visited hschema hitems hp hgone hsub
    rw [hdepth]
    exact Value.descendsWithin_succ (descendsWithin_of_ok hk hvisit)
  obtain ⟨hnamed, hiff⟩ := recheck_null hsubref hwithin place hpadded.2 j
  refine ⟨hiff, hnamed, fun hnone => ?_⟩
  have hsilent : ∀ b ∈ sub.lineage, ∀ t, b.rule? "type" ≠ some t ∧ b.rule? "disallow" ≠ some t :=
    fun b hb t => by simp [hnone b hb]
  refine (hiff (hnamed fun b hb => ⟨fun t ht => ?_, fun t ht => ?_⟩)).mpr
    fun b hb => ⟨fun t ht => ?_, fun t ht => ?_⟩
  · exact absurd ht (hsilent b hb t).1
  · exact absurd ht (hsilent b hb t).2
  · exact absurd ht (hsilent b hb t).1
  · exact absurd ht (hsilent b hb t).2

/-- A schema for a pair of which only the second is filled in. -/
def pairOf (first : Value) : Value := .map [(.name "items", .list [first, oneByDefault])]

/-- A text or null. -/
def textOrNull : Value := .map [(.name "type", .list [.str "string", .str "null"])]

/-- A pair that lacks both is padded with a null that may stand there. -/
theorem padding_accepted :
    (recheck .default ⟨.instance 1, []⟩ [.null, .int 1] 0 1 textOrNull).result = .ok () ∧
      textOrNull.AdmitsNull := by
  let list : Node := ⟨⟨.instance 1, []⟩, .list []⟩
  let call := (Validator.new .default (.bool true)).checkProperty emptyInstance (.str "k") (some list)
    (.ofSchema 0 (pairOf textOrNull))
  obtain ⟨ys, hys, hall⟩ := padding_accepted_iff (Validator.new .default (.bool true)) emptyInstance
    (.ofSchema 0 (pairOf textOrNull)) (.str "k") (some list) [] [textOrNull, oneByDefault] ⟨0, rfl⟩
    (by decide +kernel) (by decide +kernel) (by decide +kernel) (by decide +kernel)
  have hvalue : call.value = .list [.null, .int 1] := by decide +kernel
  obtain rfl : ys = [.null, .int 1] := Value.list.inj (hys.symm.trans hvalue)
  have hok : (recheck .default ⟨.instance 1, []⟩ [.null, .int 1] 0 1 textOrNull).result = .ok () := by
    decide +kernel
  obtain ⟨hiff, -, -⟩ := hall 0 textOrNull ⟨Nat.le_refl _, rfl⟩ rfl ⟨.instance 1, []⟩ 1
  refine ⟨hok, (hiff fun f hf => ?_).mp hok⟩
  cases hok.symm.trans hf

/-- A text. -/
def textOnly : Value := .map [(.name "type", .str "string")]

/-- A pair of a text and one that is filled in is accepted while it is empty, and is left with a null
    in the place of the text, which is no text. -/
theorem padding_rejected :
    let list : Node := ⟨⟨.instance 1, []⟩, .list []⟩
    let call := (Validator.new .default (.bool true)).checkProperty emptyInstance (.str "k")
      (some list) (.ofSchema 0 (pairOf textOnly))
    (pairOf textOnly).refFree = true ∧ call.outcome.result = .ok () ∧
      call.value = .list [.null, .int 1] ∧ call.outcome.validator.applied = ["$[1]"] ∧
      Padded [] [.null, .int 1] 0 ∧
      (recheck .default ⟨.instance 1, []⟩ [.null, .int 1] 0 1 textOnly).result =
        .error (.violation ⟨.wrongType "null" "string", .int 0, some []⟩) :=
  ⟨by decide +kernel, by decide +kernel, by decide +kernel, by decide +kernel,
    ⟨Nat.le_refl _, rfl⟩, by decide +kernel⟩

end Validator

end Conformance

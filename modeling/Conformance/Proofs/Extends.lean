/-
  The schemas that a schema extends.

  A value is checked against the bases of a schema in turn, before the rules of the schema itself,
  and each of these checks may write defaults.  So a base speaks of the value as it stands at its
  turn (`bases_hold_in_turn`): taken alone it accepts that value and leaves what the next base finds,
  and it accepts the value returned in the end if nothing has been injected since its turn came.
  What is injected later may break its rules (`base_rejects_later_default`), and so may what it has
  injected itself.
-/
import Conformance.Proofs.WithoutWrites
import Conformance.Proofs.Record

namespace Conformance

namespace Check

/-! ## Checks in turn -/

/-- Nodes visited one after the other, each with success. -/
inductive Passes (visit : Node → Check Unit) (s : Scope) : List Node → Progress → Progress → Prop
  | nil {p : Progress} : Passes visit s [] p p
  | cons {k : Node} {ks : List Node} {p q r : Progress} (first : visit k s p = (.ok (), q))
    (rest : Passes visit s ks q r) : Passes visit s (k :: ks) p r

variable {visit : Node → Check Unit} {n : Node} {s : Scope} {p q : Progress}

/-- A schema does not grow while it is read, so the walk ends with the last element. -/
theorem visitFrom_end (hn : n.InSchema) {visit : Nat → Node → Check Unit} {i : Nat}
    (hi : n.tree.listItems.length ≤ i) (s : Scope) (p : Progress) :
    visitFrom n visit i [] s p = (.ok (), p) := by
  unfold visitFrom
  rw [show growthRoom = 0xffffffff + 1 from rfl, visitAppended, content_bind, hn.content,
    List.getElem?_eq_none hi]
  rfl

theorem visitFrom_passes (hn : n.InSchema) {items : List Value} {i : Nat}
    (hi : n.tree.listItems.length = i + items.length)
    (h : visitFrom n (fun _ k => visit k) i items s p = (.ok (), q)) :
    ∃ ks, ks.map (·.tree) = items ∧ (∀ k ∈ ks, k.InSchema) ∧ Passes visit s ks p q := by
  induction items generalizing i p with
  | nil =>
    rw [visitFrom_end hn (by simp [hi])] at h
    cases h
    exact ⟨[], rfl, by simp, .nil⟩
  | cons v rest ih =>
    obtain ⟨_, q₁, hfirst, hrest⟩ := bind_ok h
    obtain ⟨ks, hks, hin, hpasses⟩ := ih (by simp at hi; omega) hrest
    refine ⟨n.down (.index i) v :: ks, by simp [hks, Node.down], ?_, .cons hfirst hpasses⟩
    intro k hk
    rcases List.mem_cons.mp hk with rfl | hk
    · exact hn
    · exact hin k hk

/-- The bases of a schema are visited in turn. -/
theorem extendsRule_passes (hn : n.InSchema) (h : extendsRule visit n s p = (.ok (), q)) :
    ∃ ks, ks.map (·.tree) = n.tree.bases ∧ (∀ k ∈ ks, k.InSchema) ∧ Passes visit s ks p q := by
  unfold extendsRule at h
  rw [whenGiven_run hn] at h
  unfold Value.bases
  cases hr : n.tree.rule? "extends" with
  | none =>
    rw [hr] at h
    cases h
    exact ⟨[], rfl, by simp, .nil⟩
  | some r =>
    rw [hr] at h
    have hdown : (n.down (.name "extends") r).InSchema := hn
    cases r with
    | list bs =>
      obtain ⟨_, q₁, hread, hvisits⟩ := bind_ok h
      rw [Check.content, hdown.content] at hread
      cases hread
      exact visitFrom_passes hdown (Nat.zero_add _).symm hvisits
    | _ => exact ⟨[n.down (.name "extends") _], rfl, by simpa using hdown, .cons h .nil⟩

theorem idRule_slot (hn : n.InSchema) : (idRule n s p).2.slot = p.slot := by
  unfold idRule
  rw [whenGiven_run hn]
  cases n.tree.rule? "id" <;> rfl

theorem Passes.moves {depth : Nat} {ks : List Node} (h : Passes (against depth) s ks p q) :
    ∃ ds, Moves s p ds q := by
  induction h with
  | nil => exact ⟨[], .start⟩
  | @cons k _ p _ _ first _ ih =>
    obtain ⟨ds, hm⟩ := against_moves depth k s p
    rw [first] at hm
    obtain ⟨es, hm'⟩ := ih
    exact ⟨ds ++ es, hm.trans hm'⟩

/-- A schema that is passed has its bases passed first, and moves on from there. -/
theorem property_passes {depth : Nat} {r : Progress} (hn : n.InSchema)
    (href : n.tree.refFree = true) (hready : Ready n s p)
    (h : property (against depth) n s p = (.ok (), r)) :
    ∃ ks q, ks.map (·.tree) = n.tree.bases ∧ (∀ k ∈ ks, k.InSchema) ∧
      Passes (against depth) s ks (idRule n s p).2 q ∧ ∃ ds, Moves s q ds r := by
  obtain ⟨_, p₁, hid, h₁⟩ := bind_ok h
  obtain ⟨_, p₂, hrule, h₂⟩ := bind_ok h₁
  obtain ⟨_, q, hextends, hown⟩ := bind_ok h₂
  rw [refRule_eq hn href] at hrule
  cases hrule
  obtain ⟨ks, hks, hin, hpasses⟩ := extendsRule_passes hn hextends
  let P : Pairing := ⟨Eq, against depth, against depth, n, n⟩
  obtain ⟨_, _, ds, hm⟩ := (Parallel.idRule (P := P) .eq rfl).tracked (against_moves depth) s p hready
  rw [hid] at hm
  obtain ⟨es, hm'⟩ := hpasses.moves
  obtain ⟨_, _, fs, hm''⟩ := (Parallel.ownRules (P := P) .eq rfl).tracked (against_moves depth) s q
    ((hready.of_moves hm).of_moves hm')
  obtain rfl : _ = r := congrArg Prod.snd hown
  exact ⟨ks, q, hks, hin, by rwa [hid], fs, hm''⟩

/-- A schema that a check gets past, gets past all its rules one level deeper. -/
theorem property_of_ok {depth : Nat} (hn : n.InSchema) (hmap : n.tree.isMap = true)
    (h : against depth n s p = (.ok (), q)) :
    ∃ d p' q', depth = d + 1 ∧ p'.slot = p.slot ∧ q'.slot = q.slot ∧
      property (against d) n { s with depth := s.depth + 1 } p' = (.ok (), q') := by
  have hcontent : (n.content p.writes).isMap = true := by rwa [hn.content]
  cases depth with
  | zero =>
    rw [against_zero_of_map hcontent] at h
    cases h
  | succ d =>
    rw [against_succ_of_map hcontent] at h
    obtain ⟨q', hrun, rfl⟩ := nested_ok h
    exact ⟨d, { p with journal := .entered n s.trail (s.depth + 1) :: p.journal }, q', rfl, rfl, rfl,
      hrun⟩

/-- By the time the rules of a schema itself come, others may have filled in defaults. -/
theorem property_own {depth : Nat} {r : Progress} (hn : n.InSchema)
    (h : property (against depth) n s p = (.ok (), r)) :
    ∃ q ds, p.slot.Injections ds q.slot ∧ ownRules (against depth) n s q = (.ok (), r) := by
  obtain ⟨_, p₁, hid, h₁⟩ := bind_ok h
  obtain ⟨_, p₂, href, h₂⟩ := bind_ok h₁
  obtain ⟨_, q, hextends, hown⟩ := bind_ok h₂
  have hslot := idRule_slot hn (s := s) (p := p)
  obtain ⟨ds, hm⟩ := Moving.refRule (against_moves depth) n s p₁
  obtain ⟨ks, _, _, hpasses⟩ := extendsRule_passes hn hextends
  obtain ⟨es, hm'⟩ := hpasses.moves
  rw [hid] at hslot
  rw [href] at hm
  have hreceived := (hm.trans hm').slot
  dsimp only at hslot
  rw [hslot] at hreceived
  exact ⟨q, _, hreceived, hown⟩

end Check

/-- What is no mapping extends nothing. -/
theorem Value.bases_of_not_map {S : Value} (h : S.isMap = false) : S.bases = [] := by
  cases S with
  | map es => cases h
  | _ => rfl

/-- A mapping counts as a schema that is given. -/
theorem Value.isGiven_of_isMap {S : Value} (h : S.isMap = true) : S.isGiven = true := by
  cases S with
  | map es => rfl
  | _ => cases h

namespace Validator

open Check

/-! ## A base taken alone -/

/-- A slot that has been that of a value stays one. -/
theorem ofValue_of_injections {a : Value} {ds : List Deposit} {τ : Slot}
    (h : (Slot.ofValue a).Injections ds τ) : τ = .ofValue τ.value := by
  cases a with
  | missing =>
    obtain ⟨rfl, _⟩ := h.of_held
    rfl
  | _ =>
    obtain ⟨b, rfl, hb⟩ := h.of_present
    cases b with
    | missing => cases hb.keptIn
    | _ => rfl

/-- What becomes of a value that a fresh validator checks against a schema taken by itself. -/
def alone (settings : Settings) (interactive : Bool) (place : Place) (a : Value) (j : Nat)
    (b : Value) : Outcome Unit :=
  (Validator.new settings (.bool interactive)).validate ⟨place, a⟩ (.ofSchema j b)

theorem validate_of_given (v : Validator) (inst schema : Node) (h : schema.tree.isGiven = true) :
    (v.validate inst schema).result = (v.visit schema (v.rootScope inst) (v.start inst)).1 ∧
      (v.validate inst schema).slot = (v.visit schema (v.rootScope inst) (v.start inst)).2.slot := by
  have hroot : v.rootCheck inst schema = v.visit schema := if_pos h
  rw [validate_slot, final, hroot, ← hroot]
  exact ⟨rfl, rfl⟩

variable {settings : Settings}

/-- A check that a schema has passed amid others it passes alone, with the same left behind. -/
theorem alone_of_visit {depth : Nat} (hd : depth ≤ settings.maxDepth) {k : Node} (hk : k.InSchema)
    (href : k.tree.refFree = true) (hgiven : k.tree.isGiven = true) {s : Scope}
    (hkey : s.key = rootKey) (htrail : s.trail = []) (hs : s.interactive = true) {p q : Progress}
    {a : Value} (hp : p.slot = .ofValue a) (h : against depth k s p = (.ok (), q)) (place : Place)
    (j : Nat) :
    (alone settings true place a j k.tree).result = .ok () ∧
      (alone settings true place a j k.tree).slot = q.slot := by
  let v := Validator.new settings (.bool true)
  have hreading : SameReading k (.ofSchema j k.tree) := ⟨rfl, href, hk, j, rfl⟩
  have hstep := against_sameUncut hd hreading s (v.rootScope ⟨place, a⟩) p
    (v.start ⟨place, a⟩) hkey htrail
    hs rfl hp
  obtain ⟨hresult, hslot⟩ := validate_of_given v ⟨place, a⟩ (.ofSchema j k.tree) hgiven
  unfold alone
  rw [hresult, hslot]
  rw [h] at hstep
  rcases hstep with ⟨f, hf, _⟩ | ⟨hsame, hq⟩
  · cases hf
  · exact ⟨hsame.eq, hq.symm⟩

/-- A value that a schema accepts as it is, and that carries no schemas to be enforced, it accepts
    where nothing is written as well. -/
theorem alone_of_unchanged {place : Place} {a b : Value} {j : Nat} (hb : b.isGiven = true)
    (hplain : a.plain = true) (hok : (alone settings true place a j b).result = .ok ())
    (hsame : (alone settings true place a j b).slot.value = a) :
    (alone settings false place a j b).result = .ok () := by
  let v := Validator.new settings (.bool true)
  let w := Validator.new settings (.bool false)
  let inst : Node := ⟨place, a⟩
  obtain ⟨hresult, hslot⟩ := validate_of_given v inst (.ofSchema j b) hb
  obtain ⟨hresult', _⟩ := validate_of_given w inst (.ofSchema j b) hb
  unfold alone at hok hsame ⊢
  rw [hresult] at hok
  rw [hslot] at hsame
  rw [hresult']
  obtain ⟨ds, hm⟩ := against_moves settings.maxDepth (.ofSchema j b) (v.rootScope inst) (v.start inst)
  -- a value that is what it was has received nothing, so there are no writes
  have hnil : ds = [] := (injections_of_slot hm.slot).eq_iff.mp hsame
  have hwrites := hm.writes
  rw [hnil] at hwrites
  have hmodes : SameButMode (v.rootScope inst) (w.rootScope inst) (v.start inst) (w.start inst) :=
    ⟨rfl, rfl, rfl, rfl, rfl, rfl, rfl, by
      rw [show (v.start inst).slot.value = a from Slot.value_ofValue a]
      exact hplain⟩
  have hunwritten :=
    against_sameUnwritten settings.maxDepth (.ofSchema j b) _ _ _ _ trivial hmodes hwrites
  rcases hunwritten with ⟨f, hf, _⟩ | ⟨hend, _⟩
  · exact absurd (hok.symm.trans hf) (by simp)
  · exact hend.eq.trans hok

/-! ## Bases in turn -/

/-- What each base of a schema finds, beginning with the value at hand: a base taken alone accepts
    what it finds and leaves what the next one finds, and the value only ever grows. -/
structure Turns (settings : Settings) (bases : List Value) (a : Value) (found : Nat → Value) :
    Prop where
  first : found 0 = a
  grown : ∀ i, Value.Grown (found i) (found (i + 1))
  accepted : ∀ i b, bases[i]? = some b → b.isGiven = true → ∀ place j,
    (alone settings true place (found i) j b).result = .ok () ∧
      (alone settings true place (found i) j b).slot.value = found (i + 1)

/-- Where there are no bases, nothing is found but the value at hand. -/
theorem turns_nil (a : Value) : Turns settings [] a fun _ => a :=
  ⟨rfl, fun _ => .refl a, fun i b hb => by simp at hb⟩

theorem Turns.grown_le {bases : List Value} {a : Value} {found : Nat → Value}
    (h : Turns settings bases a found) {i j : Nat} (hij : i ≤ j) :
    Value.Grown (found i) (found j) := by
  induction hij with
  | refl => exact .refl _
  | step _ ih => exact ih.trans (h.grown _)

/-- What is found at first, and what is found from then on. -/
def foundFirst (a : Value) (found : Nat → Value) : Nat → Value
  | 0 => a
  | i + 1 => found i

/-- Nodes that are passed one after the other are bases in turn. -/
theorem turns_of_passes {depth : Nat} (hd : depth ≤ settings.maxDepth) {s : Scope}
    (hkey : s.key = rootKey) (htrail : s.trail = []) (hs : s.interactive = true) {ks : List Node}
    {p q : Progress} (h : Passes (against depth) s ks p q) (hin : ∀ k ∈ ks, k.InSchema)
    (href : ∀ k ∈ ks, k.tree.refFree = true) {a : Value} (hp : p.slot = .ofValue a) :
    ∃ found, Turns settings (ks.map (·.tree)) a found ∧
      q.slot = .ofValue (found ks.length) := by
  induction h generalizing a with
  | nil => exact ⟨_, turns_nil a, hp⟩
  | @cons k ks p q r first rest ih =>
    obtain ⟨ds, hm⟩ := against_moves depth k s p
    have hslot := hm.slot
    rw [first, hp] at hslot
    have hq := ofValue_of_injections hslot
    obtain ⟨found, hturns, hr⟩ := ih (fun l hl => hin l (.tail _ hl))
      (fun l hl => href l (.tail _ hl)) hq
    refine ⟨foundFirst a found, ⟨rfl, ?_, ?_⟩, hr⟩
    · rintro (_ | i)
      · show Value.Grown a (found 0)
        rw [hturns.first]
        exact ⟨ds, injections_of_slot hslot⟩
      · exact hturns.grown i
    · rintro (_ | i) b hb hgiven place j
      · obtain rfl : k.tree = b := by simpa using hb
        obtain ⟨hok, hleft⟩ := alone_of_visit hd (hin k (.head _)) (href k (.head _)) hgiven hkey
          htrail hs hp first place j
        exact ⟨hok, (congrArg Slot.value hleft).trans hturns.first.symm⟩
      · exact hturns.accepted i b (by simpa using hb) hgiven place j

/-- The bases of a schema that names no others name none. -/
theorem refFree_of_mem_bases {S b : Value} (h : S.refFree = true) (hb : b ∈ S.bases) :
    b.refFree = true := by
  unfold Value.bases at hb
  cases hr : S.rule? "extends" with
  | none =>
    rw [hr] at hb
    cases hb
  | some r =>
    rw [hr] at hb
    have hpart : r.refFree = true := Value.everyMapping_part h (Value.mem_parts_of_rule? hr)
    cases r with
    | list bs => exact Value.everyMapping_part hpart hb
    | _ => exact List.mem_singleton.mp hb ▸ hpart

/-- A whole instance that is accepted passes the bases of the schema in turn, and only grows when
    the schema's own rules come after them. -/
theorem turns_of_ok {inst schema : Node} (hin : schema.InSchema)
    (href : schema.tree.refFree = true)
    (hok : ((Validator.new settings (.bool true)).validate inst schema).result = .ok ()) :
    ∃ found, Turns settings schema.tree.bases inst.tree found ∧
      Value.Grown (found schema.tree.bases.length)
        ((Validator.new settings (.bool true)).validate inst schema).slot.value := by
  let v := Validator.new settings (.bool true)
  cases hmap : schema.tree.isMap with
  | false =>
    obtain ⟨ds, hd⟩ := v.exists_deposited inst schema
    rw [Value.bases_of_not_map hmap]
    exact ⟨_, turns_nil inst.tree, ds, hd.injections⟩
  | true =>
    have hgiven : schema.tree.isGiven = true := Value.isGiven_of_isMap hmap
    obtain ⟨depth, hdepth⟩ := Nat.exists_eq_add_of_le' settings.one_le
    obtain ⟨hresult, hslot⟩ := validate_of_given v inst schema hgiven
    -- the bases and the schema's own rules are checked one level deeper
    have hvisit : v.visit schema = against (depth + 1) schema := by
      rw [visit, show v.settings.maxDepth = depth + 1 from hdepth]
    rw [hslot]
    rw [hresult] at hok
    rw [hvisit, against_succ_of_map (by rwa [hin.content])] at hok ⊢
    let s : Scope := { v.rootScope inst with depth := 1 }
    let p : Progress := { v.start inst with journal := [.entered schema [] 1] }
    rcases hrun : property (against depth) schema s p with ⟨e, r⟩
    obtain rfl : e = .ok () := (congrArg Prod.fst hrun).symm.trans hok
    obtain ⟨ks, q, hks, hkin, hpasses, ds, hm⟩ := property_passes hin href
      (Or.inl ⟨1, .head _⟩) hrun
    have hkref : ∀ k ∈ ks, k.tree.refFree = true := fun k hk =>
      refFree_of_mem_bases href (hks ▸ List.mem_map_of_mem hk)
    have hd : depth ≤ settings.maxDepth := by omega
    obtain ⟨found, hturns, hq⟩ := turns_of_passes hd rfl rfl rfl hpasses hkin hkref (idRule_slot hin)
    refine ⟨found, hks ▸ hturns, ds, ?_⟩
    have hleft : (nested schema (property (against depth) schema) (v.rootScope inst)
        (v.start inst)).2.slot = r.slot := congrArg (·.2.slot) hrun
    have hslot := hm.slot
    rw [hq] at hslot
    rw [hleft, ← hks, List.length_map]
    exact injections_of_slot hslot

/-- **Bases hold in turn.**  If a schema that names no others accepts an instance, then each of its
    bases, taken alone, accepts the value as it stands at its turn, and leaves what the next base
    finds; the value only grows, up to the one returned.  A base from whose turn on nothing is
    injected accepts the value returned, also where no defaults are written, unless that carries
    schemas to be enforced.  If nothing is injected at all, this is so for every base. -/
theorem bases_hold_in_turn {inst schema : Node} {k : Nat}
    (hdoc : schema.origin.document = .schema k) (href : schema.tree.refFree = true)
    (hok : ((Validator.new settings (.bool true)).validate inst schema).result = .ok ()) :
    let o := (Validator.new settings (.bool true)).validate inst schema
    ∃ found, Turns settings schema.tree.bases inst.tree found ∧
      (∀ i ≤ schema.tree.bases.length, Value.Grown (found i) o.slot.value) ∧
      (∀ i b, schema.tree.bases[i]? = some b → b.isGiven = true → found i = o.slot.value →
        o.slot.value.plain = true → ∀ place j,
          (alone settings false place o.slot.value j b).result = .ok ()) ∧
      (o.validator.applied = [] →
        ∀ i ≤ schema.tree.bases.length, found i = o.slot.value) := by
  intro o
  obtain ⟨found, hturns, hlast⟩ := turns_of_ok ⟨k, hdoc⟩ href hok
  have hgrown : ∀ i ≤ schema.tree.bases.length, Value.Grown (found i) o.slot.value :=
    fun i hi => (hturns.grown_le hi).trans hlast
  refine ⟨found, hturns, hgrown, fun i b hb hgiven hfound hplain place j => ?_, fun hnone i hi => ?_⟩
  · obtain ⟨hi, _⟩ := List.getElem?_eq_some_iff.mp hb
    obtain ⟨haccepted, hleft⟩ := hturns.accepted i b hb hgiven place j
    -- between the turn of the base and the end the value cannot have grown
    have hleaves : found (i + 1) = o.slot.value :=
      (hfound ▸ hturns.grown i).antisymm (hgrown (i + 1) hi)
    rw [hfound] at haccepted hleft
    exact alone_of_unchanged hgiven hplain haccepted (hleft.trans hleaves)
  · obtain ⟨ds, hd⟩ := (Validator.new settings (.bool true)).exists_deposited inst schema
    have hnil : ds = [] := List.map_eq_nil_iff.mp (hd.applied.symm.trans hnone)
    have hsame : o.slot.value = inst.tree := hd.injections.eq_iff.mpr hnil
    have hstart : Value.Grown o.slot.value (found i) := by
      rw [hsame, ← hturns.first]
      exact hturns.grown_le (Nat.zero_le i)
    exact hstart.antisymm (hgrown i hi)

/-- A schema that asks the same property to be an integer. -/
def asksInteger : Value :=
  .map [(.name "properties", .map [(.name "a", .map [(.name "type", .str "integer")])])]

/-- A schema that extends both. -/
def extendsBoth : Value := .map [(.name "extends", .list [fillsIn, asksInteger])]

/-- The second base finds the property that the first one has filled in, and accepts the value
    returned where nothing is written. -/
theorem second_base_accepts_default :
    let o := (Validator.new .default (.bool true)).validate emptyInstance (.ofSchema 0 extendsBoth)
    o.slot.value = .map [(.name "a", .int 1)] ∧
      ∀ place j, (alone .default false place o.slot.value j asksInteger).result = .ok () := by
  intro o
  have hok : o.result = .ok () := by decide +kernel
  have hfilled : o.slot.value = .map [(.name "a", .int 1)] := by decide +kernel
  refine ⟨hfilled, fun place j => ?_⟩
  obtain ⟨found, hturns, _, haccepts, _⟩ := bases_hold_in_turn rfl (by decide +kernel) hok
  obtain ⟨_, hleft⟩ := hturns.accepted 0 fillsIn rfl rfl emptyInstance.origin 0
  rw [hturns.first] at hleft
  have hfound : found 1 = o.slot.value := by
    rw [hfilled, ← hleft]
    decide +kernel
  exact haccepts 1 asksInteger rfl rfl hfound (by decide +kernel) place j

/-- A base that knows no properties and allows no others. -/
def closedBase : Value :=
  .map [(.name "properties", .map []), (.name "additionalProperties", .bool false)]

/-- A schema that extends it and fills in a property. -/
def extendsClosed : Value :=
  .map [(.name "extends", closedBase),
    (.name "properties", .map [(.name "a", oneByDefault)])]

/-- The base is passed by the empty object and rejects what is returned, although the default is
    one that its own schema accepts. -/
theorem base_rejects_later_default :
    let o := (Validator.new .default (.bool true)).validate emptyInstance (.ofSchema 0 extendsClosed)
    extendsClosed.bases = [closedBase] ∧ extendsClosed.refFree = true ∧
      (alone .default false ⟨.instance 0, []⟩ (.int 1) 0 oneByDefault).result = .ok () ∧
      o.result = .ok () ∧ o.slot.value = .map [(.name "a", .int 1)] ∧ o.slot.value.plain = true ∧
      (alone .default false ⟨.instance 0, []⟩ o.slot.value 0 closedBase).result =
        .error (.violation ⟨.undeclaredProperty, .str "a", some [.entry (.name "a")]⟩) := by
  decide +kernel

/-- A base that is closed as a type and fills in a property as a schema. -/
def closedByType : Value :=
  .map [(.name "type", .map [(.name "additionalProperties", .bool false)]),
    (.name "properties", .map [(.name "a", oneByDefault)])]

-- a base may reject what it has filled in itself
example :
    let o := (Validator.new .default (.bool true)).validate emptyInstance
      (.ofSchema 0 (.map [(.name "extends", closedByType)]))
    o.result = .ok () ∧ o.slot.value = .map [(.name "a", .int 1)] ∧
      (alone .default false ⟨.instance 0, []⟩ o.slot.value 0 closedByType).result ≠ .ok () := by
  decide +kernel

end Validator

end Conformance

/-
  What equality of values means.

  Every value has a normal form (`Value.form`): booleans, null, texts and classes stand for
  themselves, a number stands for what it denotes, an array for the sequence of normal forms, and a
  mapping for the function from keys to normal forms.  Keys have normal forms too, because keys that
  denote the same number are one key.  Two values are equal if and only if their normal forms are
  (`equal_iff_form`).

  The one thing to be shown is that normal forms of mappings agree when equality says so, which goes
  over the entries of one side only: it finds every key of the first mapping in the second, and as
  there are as many in both, no key of the second is left over (`mapsEqual_iff`).

  So equality is an equivalence and looks at values only as deep as they can be looked into:
  where one of two equal values has a boolean at the end of a trail, the other has the same one
  there, and no number.  A rule `enum` cannot tell equal values from each other either
  (`equal_is_equality`).
-/
import Mathlib.Data.List.Perm.Subperm
import Conformance.Proofs.Exact
import Conformance.Proofs.Order.Values

namespace Conformance

/-! ## Normal forms -/

/-- What a key stands for.  A boolean key stands for zero or one. -/
inductive KeyForm where
  | name (s : String)
  | null
  | number (x : Option ExtendedRational)
  | other (text : String)
deriving DecidableEq

/-- The normal form of a key. -/
def Key.form : Key → KeyForm
  | .name s => .name s
  | .null => .null
  | .bool b => .number (Number.int (if b then 1 else 0)).exactValue
  | .int i => .number (Number.int i).exactValue
  | .float x => .number (Number.float x).exactValue
  | .other t => .other t

/-- What a value stands for. -/
inductive Form where
  | missing
  | null
  | bool (b : Bool)
  | number (x : Option ExtendedRational)
  | text (s : String)
  | array (items : List Form)
  | mapping (entries : KeyForm → Option Form)
  | cls (c : ValueClass)

namespace Value

mutual

/-- The normal form of a value. -/
def form : Value → Form
  | .missing => .missing
  | .null => .null
  | .bool b => .bool b
  | .int i => .number (Number.int i).exactValue
  | .float x => .number (Number.float x).exactValue
  | .str s => .text s
  | .list items => .array (forms items)
  | .tuple items => .array (forms items)
  | .map entries => .mapping (formsByKey entries)
  | .cls c => .cls c

/-- The normal forms of elements in order. -/
def forms : List Value → List Form
  | [] => []
  | v :: rest => v.form :: forms rest

/-- The normal forms of the values of entries under the normal forms of their keys. -/
def formsByKey : List (Key × Value) → KeyForm → Option Form
  | [], _ => none
  | (key, v) :: rest, k => if key.form = k then some v.form else formsByKey rest k

end

mutual

/-- Whether every float in a value is a number. -/
def allNumbers : Value → Bool
  | .float x => !x.isNaN
  | .list items => allNumbersIn items
  | .tuple items => allNumbersIn items
  | .map entries => allNumbersUnder entries
  | _ => true

/-- The same of elements. -/
def allNumbersIn : List Value → Bool
  | [] => true
  | v :: rest => v.allNumbers && allNumbersIn rest

/-- The same of the values of entries. -/
def allNumbersUnder : List (Key × Value) → Bool
  | [] => true
  | (_, v) :: rest => v.allNumbers && allNumbersUnder rest

end

/-- A value whose mappings hold each key once, and in which every float is a number. -/
structure Proper (v : Value) : Prop where
  keys : v.wellKeyed = true
  numbers : v.allNumbers = true

instance (v : Value) : Decidable v.Proper :=
  decidable_of_iff (v.wellKeyed = true ∧ v.allNumbers = true)
    ⟨fun h => ⟨h.1, h.2⟩, fun h => ⟨h.keys, h.numbers⟩⟩

theorem allNumbersIn_iff {items : List Value} :
    allNumbersIn items = true ↔ ∀ x ∈ items, x.allNumbers = true := by
  induction items with
  | nil => simp [allNumbersIn]
  | cons v rest ih => simp [allNumbersIn, ih]

theorem allNumbersUnder_iff {entries : List (Key × Value)} :
    allNumbersUnder entries = true ↔ ∀ x ∈ entries.map (·.2), x.allNumbers = true := by
  induction entries with
  | nil => simp [allNumbersUnder]
  | cons e rest ih =>
    rw [allNumbersUnder, Bool.and_eq_true, ih, List.map_cons, List.forall_mem_cons]

/-- What a proper value is made of is proper. -/
theorem Proper.part {v x : Value} (h : v.Proper) (hx : x ∈ v.parts) : x.Proper := by
  refine ⟨everyMapping_part h.keys hx, ?_⟩
  have hnumbers := h.numbers
  cases v with
  | list items => exact allNumbersIn_iff.mp hnumbers x hx
  | tuple items => exact allNumbersIn_iff.mp hnumbers x hx
  | map entries => exact allNumbersUnder_iff.mp hnumbers x hx
  | _ => cases hx

/-- A proper mapping tells its keys apart. -/
theorem Proper.distinct {es : List (Key × Value)} (h : (map es).Proper) : distinctKeys es = true :=
  (everyMapping_iff.mp h.keys).1

/-- The forms of elements are taken one by one. -/
theorem forms_eq (items : List Value) : forms items = items.map form := by
  induction items with
  | nil => rfl
  | cons v rest ih => rw [forms, ih, List.map_cons]

end Value

/-! ## Numbers and keys -/

/-- Where one of two numbers denotes something, they are the same if they denote the same. -/
theorem Number.same_iff_exact_eq {a b : Number} (hb : b.exactValue ≠ none) :
    a.same b = true ↔ a.exactValue = b.exactValue := by
  rw [same_iff_exact]
  constructor
  · rintro ⟨q, ha, hb⟩
    rw [ha, hb]
  · intro h
    obtain ⟨q, hq⟩ := Option.ne_none_iff_exists'.mp hb
    exact ⟨q, h.trans hq, hq⟩

namespace Key

/-- A key that is a number stands for what the number is exactly. -/
theorem form_of_number {k : Key} {x : Number} (h : k.number? = some x) :
    k.form = .number x.exactValue := by
  cases k <;> cases h <;> rfl

/-- Any other key stands for itself. -/
theorem form_of_no_number {k l : Key} (hk : k.number? = none) : k.form = l.form ↔ k = l := by
  cases k <;> cases hk <;> cases l <;> simp [form]

/-- Keys are the same if they stand for the same, save those that stand for no number. -/
theorem same_iff_form {k l : Key} (hl : l.same l = true) : k.same l = true ↔ k.form = l.form := by
  rw [same_iff]
  constructor
  · rintro (⟨_, rfl⟩ | ⟨x, y, hx, hy, hxy⟩)
    · rfl
    · obtain ⟨q, hxq, hyq⟩ := Number.same_iff_exact.mp hxy
      rw [form_of_number hx, form_of_number hy, hxq, hyq]
  · intro h
    -- a key that is no number is the same as itself only
    cases hx : k.number? with
    | none => exact Or.inl ⟨rfl, (form_of_no_number hx).mp h⟩
    | some x =>
      cases hy : l.number? with
      | none =>
        obtain rfl := (form_of_no_number hy).mp h.symm
        rw [hx] at hy
        cases hy
      | some y =>
        -- the second key is the same as itself, so it is no NaN and denotes something
        have hself : y.same y = true := by
          rcases same_iff.mp hl with ⟨hnone, _⟩ | ⟨y', y'', hy', hy'', hsame⟩
          · rw [hy] at hnone
            cases hnone
          · rw [hy] at hy' hy''
            cases hy'
            cases hy''
            exact hsame
        obtain ⟨q, hq, _⟩ := Number.same_iff_exact.mp hself
        rw [form_of_number hx, form_of_number hy, KeyForm.number.injEq] at h
        exact Or.inr ⟨x, y, rfl, rfl, Number.same_iff_exact.mpr ⟨q, h.trans hq, hq⟩⟩

end Key

namespace Value

/-! ## Mappings -/

variable {es fs : List (Key × Value)}

/-- What keys stand for, in order. -/
def keyForms (es : List (Key × Value)) : List KeyForm := es.map fun e => e.1.form

/-- Looking a key up and looking up what it stands for come to the same. -/
theorem formsByKey_form {key : Key} (hkey : key.same key = true) :
    formsByKey es key.form = (entryAt? key es).map form := by
  induction es with
  | nil => rfl
  | cons e rest ih =>
    obtain ⟨k, v⟩ := e
    rw [formsByKey, ih]
    unfold entryAt? entryWith?
    rw [List.find?_cons]
    -- the first entry is met on both sides or on neither
    cases hk : k.same key with
    | true => rw [if_pos ((Key.same_iff_form hkey).mp hk)]; rfl
    | false => rw [if_neg fun hform => by simp [(Key.same_iff_form hkey).mpr hform] at hk]

/-- Something stands under the forms of keys, and under nothing else. -/
theorem formsByKey_isSome_iff {k : KeyForm} :
    (formsByKey es k).isSome = true ↔ k ∈ keyForms es := by
  induction es with
  | nil => simp [formsByKey, keyForms]
  | cons e rest ih =>
    obtain ⟨key, v⟩ := e
    rw [formsByKey]
    split
    · next h => simp [keyForms, h]
    · next h => rw [ih]; simp [keyForms, Ne.symm h]

/-- Where keys are told apart, every entry is found under what its key stands for. -/
theorem formsByKey_of_mem (hes : distinctKeys es = true) {e : Key × Value} (he : e ∈ es) :
    formsByKey es e.1.form = some e.2.form := by
  have hself : e.1.same e.1 = true := (distinctKeys_iff.mp hes).1 _ (List.mem_map_of_mem he)
  rw [formsByKey_form hself, (entryAt?_eq_some_iff hes).mpr ⟨e, he, hself, rfl⟩]
  rfl

/-- Keys that are told apart stand for different things. -/
theorem nodup_keyForms (hes : distinctKeys es = true) : (keyForms es).Nodup := by
  obtain ⟨hself, hpairs⟩ := distinctKeys_iff.mp hes
  have hforms : keyForms es = (es.map (·.1)).map Key.form := by
    rw [keyForms, List.map_map]
    rfl
  rw [hforms, List.Nodup, List.pairwise_map]
  -- keys with one form would be the same, which those of a mapping are not
  refine hpairs.imp_of_mem fun {k l} _ hl hkl hform => ?_
  rw [(Key.same_iff_form (hself l hl)).mpr hform] at hkl
  cases hkl

/-- Mappings are equal if they have the same normal form, provided that this is so of the values of
    their entries. -/
theorem mapsEqual_iff (hes : distinctKeys es = true) (hfs : distinctKeys fs = true)
    (ih : ∀ e ∈ es, ∀ f ∈ fs, e.2.equal f.2 = true ↔ e.2.form = f.2.form) :
    (map es).equal (map fs) = true ↔ formsByKey es = formsByKey fs := by
  -- equality looks up each entry of the first mapping in the second
  have hentries : entriesEqual es fs = true ↔
      ∀ e ∈ es, formsByKey fs e.1.form = some e.2.form := by
    rw [entriesEqual_iff]
    refine forall₂_congr fun e he => ?_
    have hself : e.1.same e.1 = true := (distinctKeys_iff.mp hes).1 _ (List.mem_map_of_mem he)
    rw [formsByKey_form hself, Option.map_eq_some_iff]
    refine exists_congr fun v => and_congr_right fun hv => ?_
    obtain ⟨f, hf, _, rfl⟩ := (entryAt?_eq_some_iff hfs).mp hv
    rw [ih e he f hf, eq_comm]
  rw [equal, Bool.and_eq_true, beq_iff_eq, hentries]
  constructor
  · rintro ⟨hlength, hfound⟩
    -- as there are as many keys, those of the second mapping are those of the first
    have hsub : keyForms es ⊆ keyForms fs := by
      intro k hk
      obtain ⟨e, he, rfl⟩ := List.mem_map.mp hk
      exact formsByKey_isSome_iff.mp (by rw [hfound e he]; rfl)
    have hperm : (keyForms es).Perm (keyForms fs) :=
      ((nodup_keyForms hes).subperm hsub).perm_of_length_le (by simp [keyForms, hlength])
    funext k
    -- a key of the first mapping has been looked up, and any other is in neither
    by_cases hk : k ∈ keyForms es
    · obtain ⟨e, he, rfl⟩ := List.mem_map.mp hk
      rw [hfound e he, formsByKey_of_mem hes he]
    · have hk' : k ∉ keyForms fs := fun h => hk (hperm.mem_iff.mpr h)
      rw [← formsByKey_isSome_iff, Bool.not_eq_true, Option.isSome_eq_false_iff,
        Option.isNone_iff_eq_none] at hk hk'
      rw [hk, hk']
  · intro hsame
    refine ⟨?_, fun e he => by rw [← hsame, formsByKey_of_mem hes he]⟩
    -- both have the keys that the one normal form is defined at, so they are equally many
    have hperm : (keyForms es).Perm (keyForms fs) :=
      (List.perm_ext_iff_of_nodup (nodup_keyForms hes) (nodup_keyForms hfs)).mpr fun k => by
        rw [← formsByKey_isSome_iff, ← formsByKey_isSome_iff, hsame]
    simpa [keyForms] using hperm.length_eq

/-! ## All values -/

variable {a b c v : Value}

/-- A value stands for a number exactly if it is one. -/
theorem form_eq_number_iff {x : Option ExtendedRational} :
    v.form = .number x ↔ ∃ n, v.number? = some n ∧ n.exactValue = x := by
  cases v <;> simp [form, number?]

/-- A value stands for an array exactly if it has elements. -/
theorem form_eq_array_iff {items : List Form} :
    v.form = .array items ↔ ∃ vs, v.elements? = some vs ∧ vs.map form = items := by
  cases v <;> simp [form, elements?, forms_eq]

/-- Elements are parts. -/
theorem mem_parts_of_elements? {vs : List Value} (h : v.elements? = some vs) {x : Value}
    (hx : x ∈ vs) : x ∈ v.parts := by
  cases v <;> cases h
  · exact hx
  · exact hx

/-- Where every float is a number, every number denotes something. -/
theorem Proper.exactValue_ne_none (h : v.Proper) {n : Number} (hn : v.number? = some n) :
    n.exactValue ≠ none := by
  -- only NaN denotes nothing
  intro hnone
  obtain ⟨x, rfl, hx⟩ := Number.exactValue_eq_none_iff.mp hnone
  obtain rfl : v = .float x := by
    cases v <;> cases hn
    rfl
  have hnumber := h.numbers
  rw [allNumbers, hx] at hnumber
  cases hnumber

/-- Elements are equal one by one if their normal forms are the same. -/
theorem elementsEqual_iff_forms {as bs : List Value}
    (ih : ∀ x ∈ as, ∀ y ∈ bs, x.equal y = true ↔ x.form = y.form) :
    elementsEqual as bs = true ↔ as.map form = bs.map form := by
  induction as generalizing bs with
  | nil => cases bs <;> simp [elementsEqual]
  | cons x as ihs =>
    cases bs with
    | nil => simp [elementsEqual]
    | cons y bs =>
      rw [elementsEqual, Bool.and_eq_true, ih x (List.mem_cons_self ..) y (List.mem_cons_self ..),
        ihs fun x hx y hy => ih x (List.mem_cons_of_mem _ hx) y (List.mem_cons_of_mem _ hy),
        List.map_cons, List.map_cons, List.cons.injEq]

/-- A number is equal to a number that is the same. -/
theorem equal_number {n : Number} (hn : a.number? = some n) : a.equal b = b.number?.any n.same := by
  cases a with
  | int i =>
    cases hn
    rw [equal]
    cases b.number? <;> rfl
  | float x =>
    cases hn
    rw [equal]
    cases b.number? <;> rfl
  | _ => cases hn

/-- Values are equal if and only if their normal forms are. -/
theorem equal_iff_form (ha : a.Proper) (hb : b.Proper) : a.equal b = true ↔ a.form = b.form := by
  -- parts of the first value are what equality goes down to; lists and tuples are both arrays
  induction a using induction_parts generalizing b with
  | h a ih =>
    have hparts (x : Value) (hx : x ∈ a.parts) (y : Value) (hy : y ∈ b.parts) :
        x.equal y = true ↔ x.form = y.form := ih x hx (ha.part hx) (hb.part hy)
    have harray {as : List Value} (has : a.elements? = some as) :
        b.elements?.any (elementsEqual as) = true ↔ a.form = b.form := by
      rw [form_eq_array_iff.mpr ⟨as, has, rfl⟩, eq_comm (b := b.form), form_eq_array_iff]
      cases hbs : b.elements? with
      | none => simp
      | some bs =>
        have hitems : elementsEqual as bs = true ↔ as.map form = bs.map form :=
          elementsEqual_iff_forms fun x hx y hy =>
            hparts x (mem_parts_of_elements? has hx) y (mem_parts_of_elements? hbs hy)
        simp [hitems, eq_comm]
    -- a number is compared by value with whatever is one, so its kind does not matter
    have hnumber {n : Number} (hn : a.number? = some n) :
        a.equal b = true ↔ a.form = b.form := by
      rw [equal_number hn, form_eq_number_iff.mpr ⟨n, hn, rfl⟩, eq_comm (b := b.form),
        form_eq_number_iff]
      cases hm : b.number? with
      | none => simp
      | some m =>
        have hsame := Number.same_iff_exact_eq (a := n) (hb.exactValue_ne_none hm)
        simp [hsame, eq_comm]
    cases a with
    | list as =>
      rw [equal_list]
      exact harray rfl
    | tuple as =>
      rw [equal_tuple]
      exact harray rfl
    | int i => exact hnumber rfl
    | float x => exact hnumber rfl
    | map es =>
      cases b with
      | map fs =>
        rw [mapsEqual_iff ha.distinct hb.distinct fun e he f hf =>
          hparts e.2 (mem_parts_of_mem he) f.2 (mem_parts_of_mem hf)]
        simp [form]
      | _ => simp [equal, form]
    | _ => cases b <;> simp [equal, form]

end Value

/-! ## Looking into values -/

namespace Form

/-- What a normal form has one step down. -/
def child? : Form → Step → Option Form
  | .array items, .index i => items[i]?
  | .mapping entries, .entry key => if key.same key then entries key.form else none
  | _, _ => none

/-- What a normal form has at the end of a trail. -/
def at? : Form → Trail → Option Form
  | f, [] => some f
  | f, step :: rest => (f.child? step).bind (·.at? rest)

end Form

namespace Value

variable {a b : Value}

/-- A key that is not even the same as itself is found nowhere. -/
theorem entryAt?_of_not_same {key : Key} (hkey : key.same key = false) (es : List (Key × Value)) :
    entryAt? key es = none := by
  rw [entryAt?_eq_none_iff]
  intro l _
  refine Bool.eq_false_iff.mpr fun hl => ?_
  rw [Key.same_trans (Key.same_symm hl) hl] at hkey
  cases hkey

/-- One step down, in the value and in its form. -/
theorem form_child? (v : Value) (step : Step) : (v.child? step).map form = v.form.child? step := by
  cases v with
  | list items => cases step <;> simp [child?, form, forms_eq, Form.child?]
  | tuple items => cases step <;> simp [child?, form, forms_eq, Form.child?]
  | map es =>
    cases step with
    | index i => rfl
    | entry key =>
      rw [child?, form, Form.child?]
      -- a key that is not the same as itself is found on neither side
      cases hkey : key.same key with
      | true => rw [if_pos rfl, formsByKey_form hkey]
      | false => rw [if_neg nofun, entryAt?_of_not_same hkey]; rfl
  | _ => cases step <;> rfl

/-- Looking into a value and into its normal form come to the same. -/
theorem form_at? (v : Value) (trail : Trail) : (v.at? trail).map form = v.form.at? trail := by
  induction trail generalizing v with
  | nil => rfl
  | cons step rest ih =>
    rw [at?, Form.at?, ← form_child?]
    cases v.child? step with
    | none => rfl
    | some member => exact ih member

/-- Only a boolean stands for a boolean. -/
theorem form_eq_bool_iff {v : Value} {x : Bool} : v.form = .bool x ↔ v = .bool x := by
  cases v <;> simp [form]

/-- Values with the same normal form have the same booleans in the same places. -/
theorem at?_eq_bool_iff (h : a.form = b.form) (trail : Trail) (x : Bool) :
    a.at? trail = some (.bool x) ↔ b.at? trail = some (.bool x) := by
  have hiff (v : Value) : v.at? trail = some (.bool x) ↔ v.form.at? trail = some (.bool x) := by
    rw [← form_at?, Option.map_eq_some_iff]
    simp only [form_eq_bool_iff, exists_eq_right]
  rw [hiff a, hiff b, h]

/-! ## Enumerations -/

/-- A schema enumerates options by its rule `enum`. -/
def Enumerates (schema : Value) (options : List Value) : Prop :=
  ∃ e, schema.get? "enum" = some e ∧ Check.options? e = some options

/-- The rule accepts a value that is equal to one of the options. -/
theorem enumRule_ok_iff {n : Node} {s : Scope} {p : Progress} {options : List Value}
    (h : (n.content p.writes).Enumerates options) :
    (Check.enumRule n s p).1 = .ok () ↔ ∃ o ∈ options, o.equal p.slot.value = true := by
  obtain ⟨e, he, hoptions⟩ := h
  -- options that can be read off a value are no null and no boolean
  have hgiven : e.isGiven = true := by cases e <;> first | rfl | cases hoptions
  unfold Check.enumRule
  rw [Check.field?_bind, he]
  dsimp only
  rw [if_pos hgiven, hoptions]
  dsimp only
  rw [Check.value_bind, ← List.any_eq_true]
  split
  · next hany => exact iff_of_true rfl hany
  · next hany => exact iff_of_false nofun hany

/-- Options that are equal one by one are equal to the same values. -/
theorem exists_equal_of_forall₂ {options options' : List Value}
    (ha : a.Proper) (hb : b.Proper) (hab : a.form = b.form)
    (hoptions : ∀ o ∈ options, o.Proper) (hoptions' : ∀ o ∈ options', o.Proper)
    (h : List.Forall₂ (fun o o' => o.equal o' = true) options options') :
    (∃ o ∈ options, o.equal a = true) ↔ ∃ o ∈ options', o.equal b = true := by
  induction h with
  | nil => simp
  | @cons o o' os os' hoo _ ih =>
    rw [List.forall_mem_cons] at hoptions hoptions'
    -- both comparisons come down to the one form that the two values have
    have hfirst : o.equal a = true ↔ o'.equal b = true := by
      rw [equal_iff_form hoptions.1 ha, equal_iff_form hoptions'.1 hb, ← hab,
        (equal_iff_form hoptions.1 hoptions'.1).mp hoo]
    rw [List.exists_mem_cons_iff, List.exists_mem_cons_iff, hfirst, ih hoptions.2 hoptions'.2]

/-- **Equality of values is equality of what they stand for.**  Take values whose mappings hold each
    key once, and in which every float is a number.  They are equal if and only if their normal
    forms are: numbers by what they denote, arrays element by element, be they lists or tuples,
    mappings key by key in whatever order.  So equality is an equivalence.  At the end of every
    trail, one of two equal values has a boolean only if the other has the same one there, so no
    boolean is ever equal to a number.  And a rule `enum` decides the same of equal values with
    options that are equal one by one. -/
theorem equal_is_equality {a b : Value} (ha : a.Proper) (hb : b.Proper) :
    (a.equal b = true ↔ a.form = b.form) ∧
      a.equal a = true ∧ (a.equal b = true → b.equal a = true) ∧
      (∀ c : Value, c.Proper → a.equal b = true → b.equal c = true → a.equal c = true) ∧
      (a.equal b = true → ∀ trail x,
        a.at? trail = some (.bool x) ↔ b.at? trail = some (.bool x)) ∧
      (a.equal b = true → ∀ options options' : List Value,
        (∀ o ∈ options, o.Proper) → (∀ o ∈ options', o.Proper) →
          List.Forall₂ (fun o o' => o.equal o' = true) options options' →
            ∀ (n n' : Node) (s s' : Scope) (p p' : Progress),
              (n.content p.writes).Enumerates options → p.slot.value = a →
                (n'.content p'.writes).Enumerates options' → p'.slot.value = b →
                  ((Check.enumRule n s p).1 = .ok () ↔ (Check.enumRule n' s' p').1 = .ok ())) := by
  have hform := equal_iff_form ha hb
  refine ⟨hform, (equal_iff_form ha ha).mpr rfl, fun h => ?_, fun c hc h h' => ?_, fun h => ?_, ?_⟩
  · exact (equal_iff_form hb ha).mpr (hform.mp h).symm
  · exact (equal_iff_form ha hc).mpr ((hform.mp h).trans ((equal_iff_form hb hc).mp h'))
  · exact at?_eq_bool_iff (hform.mp h)
  · rintro h options options' hoptions hoptions' hpairs n n' s s' p p' hn rfl hn' rfl
    rw [enumRule_ok_iff hn, enumRule_ok_iff hn']
    exact exists_equal_of_forall₂ ha hb (hform.mp h) hoptions hoptions' hpairs

/-- An object with a list and a zero. -/
def listAndZero : Value :=
  .map [(.name "a", .list [.int 1, .bool true]), (.name "b", .int 0)]

/-- The same in another guise: another order, a tuple, floats, and a zero below zero. -/
def zeroAndTuple : Value :=
  .map [(.name "b", .float ⟨0x8000000000000000⟩),
    (.name "a", .tuple [.float ⟨0x3FF0000000000000⟩, .bool true])]

/-- The two have one normal form. -/
theorem form_in_another_guise :
    listAndZero.Proper ∧ zeroAndTuple.Proper ∧ listAndZero.form = zeroAndTuple.form ∧
      zeroAndTuple.equal listAndZero = true := by
  have hlist : listAndZero.Proper := by decide +kernel
  have htuple : zeroAndTuple.Proper := by decide +kernel
  have hequal : listAndZero.equal zeroAndTuple = true := by decide +kernel
  obtain ⟨hform, _, hsymm, _⟩ := equal_is_equality hlist htuple
  exact ⟨hlist, htuple, hform.mp hequal, hsymm hequal⟩

-- one part in 2^53 is not lost on an integer
example : (Value.int 9007199254740993).equal (.float ⟨0x4340000000000000⟩) = false := by
  decide +kernel

end Value

end Conformance

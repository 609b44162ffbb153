/-
  Runs that stop where a condition is reached.

  Such a run (`againstUntil`) is broken off with a fault as soon as a check nested in it has come to
  a progress with the condition.  The conditions here last, so where one does not hold at the end of
  a run it has not held before, and the run is the ordinary one (`againstUntil_eq`).

  This is for comparing a run with another one where they correspond up to the condition only: a
  coupling may count on its not having been reached, and the fault is where the first run is cut.
-/
import Conformance.Proofs.Coupling

namespace Conformance

namespace Check

/-- Breaks a run off where a condition has been reached. -/
def stopWhen (reached : Progress → Bool) : Check Unit := fun _ p =>
  if reached p then (.error (.fault .mappingChanged), p) else (.ok (), p)

/-- The value at hand against a schema, the condition being looked for after every nested check. -/
def againstUntil (reached : Progress → Bool) : Nat → Node → Check Unit
  | 0, n => against 0 n
  | depth + 1, n => do
    if (← content n).isMap then
      nested n do
        property (againstUntil reached depth) n
        stopWhen reached
    else pure ()

variable {reached : Progress → Bool}

theorem stopWhen_of_false {p : Progress} (h : reached p = false) (s : Scope) :
    stopWhen reached s p = (.ok (), p) := by
  unfold stopWhen
  rw [h]
  rfl

theorem stopWhen_of_true {p : Progress} (h : reached p = true) (s : Scope) :
    stopWhen reached s p = (.error (.fault .mappingChanged), p) := by
  unfold stopWhen
  rw [h]
  rfl

/-- A check that ends without the condition is not broken off. -/
theorem bind_stopWhen_of_false {c : Check Unit} {s : Scope} {p : Progress}
    (h : reached (c s p).2 = false) : (c >>= fun _ => stopWhen reached) s p = c s p := by
  rw [bind_run]
  rcases hc : c s p with ⟨r, q⟩
  rw [hc] at h
  cases r with
  | error f => rfl
  | ok a => exact stopWhen_of_false h s

/-! ## Runs that do not reach the condition -/

/-- An ordinary run and the one that stops.  Nothing is said once the first has reached the
    condition. -/
def sameUntil (reached : Progress → Bool) : Coupling where
  scopes _ s s' := s' = s
  states p p' := p' = p
  cut _ _ := False
  off p := reached p = true
  data _ := True
  still := False

theorem sameUntil_preserved (h : Lasting fun p => reached p = true) :
    (sameUntil reached).Preserved Eq where
  like := .eq
  place := by
    rintro depth s _ rfl
    exact ⟨rfl, rfl⟩
  child := by
    rintro depth s _ rfl step
    rfl
  slot := by
    rintro p _ rfl σ
    rfl
  note := by
    rintro p _ rfl e _
    rfl
  register := by
    rintro k _ rfl s s' p _ id rfl _
    rfl
  content := by
    rintro k _ rfl p _ rfl _
    exact ⟨rfl, rfl⟩
  cut_at h _ := h
  not_data h := h.elim
  enter := by
    rintro k _ rfl depth s _ p _ rfl rfl
    exact ⟨rfl, rfl⟩
  leave := by
    rintro k _ rfl p _ rfl r _
    rfl
  cut_leave h := h.elim
  data_below _ _ := trivial
  data_held := trivial
  still_or := Or.inr fun _ => trivial
  lasting := h
  total := Or.inr fun k _ hkl t => hkl ▸ rfl

/-- Checks and those that stop are the same run until the condition is reached. -/
theorem againstUntil_coupled (h : Lasting fun p => reached p = true) (depth : Nat) (n : Node) :
    Coupled (sameUntil reached) depth Eq (against depth n) (againstUntil reached depth n) := by
  have hK := sameUntil_preserved h
  induction depth generalizing n with
  | zero =>
    rintro s _ p _ rfl rfl _ _ _
    exact Or.inr ⟨.refl _, rfl, rfl, fun hs => hs.elim⟩
  | succ depth ih =>
    have hlast := against_lasts hK.lasting depth
    have hvisit (k l : Node) (hkl : k = l) :
        Coupled (sameUntil reached) depth Eq (against depth k) (againstUntil reached depth l) :=
      hkl ▸ ih k
    have hreference : Coupled (sameUntil reached) depth Eq (refRule (against depth) n)
        (refRule (againstUntil reached depth) n) := by
      refine refRule_coupled_of_find hK rfl hlast ih ?_ ?_
      · rintro p _ rfl ref target hfind
        exact hfind
      · rintro p _ rfl trail ref hfind _
        exact hfind
    have hown (key : Key) : Coupled (sameUntil reached) depth Eq (ownSchema (against depth) key)
        (ownSchema (againstUntil reached depth) key) := by
      refine ownSchema_coupled hK hvisit (fun hs => congrArg _ hs.symm) ?_ key
      rintro s _ rfl _ _ _ _ _ _ _ _ _
      rfl
    have hmissing : Coupled (sameUntil reached) depth Eq (missingRules n) (missingRules n) := by
      rintro s _ p _ rfl rfl _ _ _
      exact Or.inr ⟨.refl _, rfl, rfl, fun hs => hs.elim⟩
    have hproperty : Coupled (sameUntil reached) depth Eq (property (against depth) n)
        (property (againstUntil reached depth) n) := by
      let P : Pairing := ⟨Eq, against depth, againstUntil reached depth, n, n⟩
      exact Parallel.coupled (P := P) hK hlast hvisit hreference hown hmissing (.property .eq rfl)
    have hstop : Coupled (sameUntil reached) depth Eq (property (against depth) n)
        (property (againstUntil reached depth) n >>= fun _ => stopWhen reached) := by
      intro s s' p p' hs hp hslot hdata hoff
      rcases hproperty s s' p p' hs hp hslot hdata hoff with hcut | hjoined
      · exact Or.inl hcut
      · have hsame : (property (againstUntil reached depth) n s' p').2 = _ := hjoined.states
        have hnever : reached (property (againstUntil reached depth) n s' p').2 = false := by
          rw [hsame]
          exact Bool.eq_false_iff.mpr hoff
        rw [bind_stopWhen_of_false hnever]
        exact Or.inr hjoined
    have hnested := nested_lasts hK.lasting (property_lasts hK.lasting hlast n) n
    rw [against, againstUntil]
    refine .read hK (fun _ _ => rfl) (content_coupled hK rfl) (fun s p v hp => ?_) ?_
    · split
      · exact (hnested s p).1 hp
      · exact hp
    · rintro v _ ⟨rfl, _⟩
      cases v.isMap with
      | true => exact nested_coupled hK rfl hstop
      | false => exact .skip

/-- **Where the condition is not reached, nothing stops.**  An ordinary run that ends without it is
    the run that looks for it. -/
theorem againstUntil_eq (h : Lasting fun p => reached p = true) {depth : Nat} {n : Node} {s : Scope}
    {p : Progress} (hnever : reached (against depth n s p).2 = false) :
    againstUntil reached depth n s p = against depth n s p := by
  have hoff := Bool.eq_false_iff.mp hnever
  rcases againstUntil_coupled h depth n s s p p rfl rfl rfl trivial hoff with ⟨_, _, hcut⟩ | hjoined
  · exact hcut.elim
  · exact Prod.ext hjoined.result.eq hjoined.states

/-! ## Comparing a run that stops with another one -/

variable {K : Coupling} {depth : Nat}

/-- Where runs only correspond short of the condition, and the first one is cut where it is reached,
    a check that stops there is coupled if it reaches the condition or goes on corresponding. -/
theorem Coupled.stopWhen {c d : Check Unit} (hnever : ∀ {p p'}, K.states p p' → reached p = false)
    (hcut : ∀ {p}, reached p = true → K.cut (.fault .mappingChanged) p)
    (h : ∀ s s' p p', K.scopes depth s s' → K.states p p' → p.slot = p'.slot → K.data p.slot →
      (c s p).1 = .ok () ∧ reached (c s p).2 = true ∨ K.Cut (c s p) ∨
        K.Joined Eq p.slot (c s p) (d s' p')) :
    Coupled K depth Eq (c >>= fun _ => Check.stopWhen reached) d := by
  intro s s' p p' hs hp hslot hdata _
  rcases h s s' p p' hs hp hslot hdata with ⟨hok, hreached⟩ | ⟨f, hf, hcut⟩ | hjoined
  · have hrun : c s p = (.ok (), (c s p).2) := Prod.ext hok rfl
    rw [bind_run_ok hrun, stopWhen_of_true hreached]
    exact Or.inl ⟨_, rfl, hcut hreached⟩
  · have hrun : c s p = (.error f, (c s p).2) := Prod.ext hf rfl
    rw [bind_run_error hrun]
    exact Or.inl ⟨f, rfl, hcut⟩
  · rw [bind_stopWhen_of_false (hnever hjoined.states)]
    exact Or.inr hjoined

end Check

end Conformance

import MinEntropy.Assessment.Result
import MinEntropy.Proofs.Figure.Least

/-! Combining the tracks that ran, whatever their figures. The combined figure is the least number
among them where that is finite, and zero where there is no such number. -/

namespace MinEntropy.AssessmentResult

/-- The assessed figures that are numbers. -/
def numbers (modes : List ModeResult) : List Float :=
  (modes.map (·.hAssessed)).filter fun h => !h.isNaN

/-- How a result comes out of the tracks in its two slots. -/
structure Combines (result : AssessmentResult) (requested samples : Nat)
    (iid nonIid : Option ModeResult) : Prop where
  iid_eq : result.iid = iid
  nonIid_eq : result.nonIid = nonIid
  sampleCount_eq : result.sampleCount = samples
  wordSize_of_iid : ∀ m, iid = some m → result.wordSize = m.wordSize.bits
  wordSize_of_nonIid : ∀ m, iid = none → nonIid = some m → result.wordSize = m.wordSize.bits
  wordSize_of_none : iid = none → nonIid = none → result.wordSize = requested
  minEntropy_isLeast : ∀ h, Figure.IsLeast h (numbers result.modes) → h.isFinite = true →
    Figure.IsLeast result.minEntropy (numbers result.modes)
  minEntropy_eq_zero : (∀ h, Figure.IsLeast h (numbers result.modes) → h.isFinite = false) →
    result.minEntropy = 0.0
  isFinite_minEntropy : result.minEntropy.isFinite = true
  /-- A figure that is no number or too great does not hide a finite one. -/
  minEntropy_eq : ∀ m other, result.modes.Perm [m, other] → m.hAssessed.isFinite = true →
    (other.hAssessed.isNaN = true ∨ other.hAssessed = Figure.infinity) →
    result.minEntropy = m.hAssessed
  allPassed_iff : result.allPassed = true ↔
    ∀ m ∈ result.modes, ∀ o ∈ m.outcomes, o.passed = true

section Least

variable {modes others : List ModeResult} {h : Float}

theorem mem_numbers : h ∈ numbers modes ↔ (∃ m ∈ modes, m.hAssessed = h) ∧ h.isNaN = false := by
  simp [numbers]

theorem numbers_subset (hsubset : modes ⊆ others) : numbers modes ⊆ numbers others := by
  intro h hh
  obtain ⟨⟨m, hm, heq⟩, hnumber⟩ := mem_numbers.1 hh
  exact mem_numbers.2 ⟨⟨m, hsubset hm, heq⟩, hnumber⟩

theorem isLeast_fold (modes : List ModeResult) :
    Figure.IsLeast (Figure.least Figure.infinity (modes.map (·.minEntropy)))
      (Figure.infinity :: numbers modes) :=
  Figure.isLeast_least (by decide) _

theorem isFinite_leastEntropy (modes : List ModeResult) :
    (leastEntropy modes).isFinite = true := by
  unfold leastEntropy
  dsimp only
  split
  · assumption
  · decide

theorem isLeast_leastEntropy (hleast : Figure.IsLeast h (numbers modes))
    (hfinite : h.isFinite = true) : Figure.IsLeast (leastEntropy modes) (numbers modes) := by
  have hfold := isLeast_fold modes
  have hle := hfold.le h (List.mem_cons_of_mem _ hleast.mem)
  -- The start of the fold is above every finite figure, so it is not what remains.
  have hmem := (List.mem_cons.1 hfold.mem).resolve_left fun hstart => by
    rw [hstart] at hle
    exact Figure.not_lt_of_le hle (Figure.lt_infinity hfinite)
  have hstands : leastEntropy modes = Figure.least Figure.infinity (modes.map (·.minEntropy)) :=
    if_pos (Figure.isFinite_of_le_of_le (hleast.le _ hmem) hle hfinite)
  rw [hstands]
  exact ⟨hmem, fun x hx => hfold.le x (List.mem_cons_of_mem _ hx)⟩

theorem leastEntropy_eq_zero
    (hnone : ∀ h, Figure.IsLeast h (numbers modes) → h.isFinite = false) :
    leastEntropy modes = 0.0 := by
  have hfold := isLeast_fold modes
  refine if_neg fun hfinite => ?_
  rcases List.mem_cons.1 hfold.mem with hstart | hmem
  · rw [hstart] at hfinite
    exact absurd hfinite (by decide)
  · rw [hnone _ ⟨hmem, fun x hx => hfold.le x (List.mem_cons_of_mem _ hx)⟩] at hfinite
    cases hfinite

/-- The order of the tracks counts for nothing but the sign of zero. -/
theorem leastEntropy_beq (hperm : modes.Perm others) :
    (leastEntropy modes == leastEntropy others) = true := by
  have hsame (x : Float) : x ∈ numbers modes ↔ x ∈ numbers others :=
    ⟨fun hx => numbers_subset hperm.subset hx, fun hx => numbers_subset hperm.symm.subset hx⟩
  by_cases hsome : ∃ h, Figure.IsLeast h (numbers modes) ∧ h.isFinite = true
  · obtain ⟨h, hleast, hfinite⟩ := hsome
    have hfirst := isLeast_leastEntropy hleast hfinite
    have hsecond := isLeast_leastEntropy (hleast.congr hsame) hfinite
    have hsecond := hsecond.congr fun x => (hsame x).symm
    exact Figure.beq_iff.2 ⟨hfirst.le _ hsecond.mem, hsecond.le _ hfirst.mem⟩
  · have hnone (h : Float) (hleast : Figure.IsLeast h (numbers modes)) : h.isFinite = false :=
      Bool.eq_false_iff.2 fun hfinite => hsome ⟨h, hleast, hfinite⟩
    rw [leastEntropy_eq_zero hnone,
      leastEntropy_eq_zero fun h hleast => hnone h (hleast.congr fun x => (hsame x).symm)]
    decide

theorem leastEntropy_eq_of_hidden {m other : ModeResult} (hmodes : modes.Perm [m, other])
    (hfinite : m.hAssessed.isFinite = true)
    (hother : other.hAssessed.isNaN = true ∨ other.hAssessed = Figure.infinity) :
    leastEntropy modes = m.hAssessed := by
  have hnumber := (Figure.isFinite_iff.1 hfinite).1
  have hmem (x : Float) (hx : x ∈ numbers modes) :
      x = m.hAssessed ∨ x = Figure.infinity := by
    obtain ⟨⟨m', hm', rfl⟩, hx⟩ := mem_numbers.1 hx
    rcases List.mem_pair.1 (hmodes.subset hm') with rfl | rfl
    · exact .inl rfl
    · refine .inr (hother.resolve_left fun hnan => ?_)
      rw [hx] at hnan
      cases hnan
  have hleast : Figure.IsLeast m.hAssessed (numbers modes) := by
    refine ⟨mem_numbers.2 ⟨⟨m, hmodes.symm.subset List.mem_cons_self, rfl⟩, hnumber⟩, ?_⟩
    intro x hx
    rcases hmem x hx with rfl | rfl
    · exact Figure.le_refl hnumber
    · exact Figure.le_of_lt (Figure.lt_infinity hfinite)
  refine (hmem _ (isLeast_leastEntropy hleast hfinite).mem).resolve_right fun hgreat => ?_
  have hends := isFinite_leastEntropy modes
  rw [hgreat] at hends
  exact absurd hends (by decide)

end Least

theorem combines_combine (requested samples : Nat) (iid nonIid : Option ModeResult) :
    (combine requested samples iid nonIid).Combines requested samples iid nonIid where
  iid_eq := rfl
  nonIid_eq := rfl
  sampleCount_eq := rfl
  wordSize_of_iid := by
    rintro m rfl
    rfl
  wordSize_of_nonIid := by
    rintro m rfl rfl
    rfl
  wordSize_of_none := by
    rintro rfl rfl
    rfl
  minEntropy_isLeast _ := isLeast_leastEntropy
  minEntropy_eq_zero := leastEntropy_eq_zero
  isFinite_minEntropy := isFinite_leastEntropy _
  minEntropy_eq _ _ := leastEntropy_eq_of_hidden
  allPassed_iff := by
    unfold allPassed ModeResult.allPassed
    simp only [List.all_eq_true]

/-- Both tracks are kept as they are, and the figure is the least finite one that they have. It is
the same number when the tracks change places. -/
theorem combine_takes_least (requested samples : Nat) (iid nonIid : Option ModeResult) :
    (combine requested samples iid nonIid).Combines requested samples iid nonIid ∧
    ((combine requested samples nonIid iid).minEntropy ==
      (combine requested samples iid nonIid).minEntropy) = true :=
  ⟨combines_combine .., leastEntropy_beq List.perm_append_comm⟩

/-- What is no number leaves the figure to the other track, whichever slot that is in. -/
theorem combine_takes_least_not_a_number :
    let w : WordSize := ⟨3, by decide, by decide⟩
    let broken : ModeResult := ⟨.iid, w, 5, 3.0, 1.0, 0.0 / 0.0, []⟩
    let sound : ModeResult := ⟨.nonIid, w, 5, 2.5, 1.0, 2.5, []⟩
    (combine 0 9 (some broken) (some sound)).minEntropy = 2.5 ∧
      ((combine 0 9 (some sound) (some broken)).minEntropy == 2.5) = true := by
  intro w broken sound
  obtain ⟨hcombines, hswap⟩ := combine_takes_least 0 9 (some broken) (some sound)
  have heq := hcombines.minEntropy_eq sound broken (.swap ..) (by decide) (.inl (by decide))
  rw [heq] at hswap
  exact ⟨heq, hswap⟩

end MinEntropy.AssessmentResult

import MinEntropy.Proofs.Assessment.Figures
import MinEntropy.Proofs.Figure.Scaling

/-! A track over any batches of outcomes, whatever their estimates. Its figures depend on the set of
valid estimates alone: order, batches and repetition do not count, and more outcomes never raise a
figure. -/

namespace MinEntropy

/-- Outcomes on one representation that are recorded together. -/
structure Batch where
  view : Representation
  outcomes : List Outcome

/-- The outcomes of all batches, each with its representation. -/
def Batch.recorded (batches : List Batch) : List RecordedOutcome :=
  batches.flatMap fun b => b.outcomes.map (⟨·, b.view⟩)

/-- The valid estimates for one representation. -/
def RecordedOutcome.figures (view : Representation) (os : List RecordedOutcome) : List Float :=
  (os.filter (·.view = view)).filterMap (·.validEstimate)

namespace Aggregate

def recordAll (a : Aggregate) (batches : List Batch) : Aggregate :=
  batches.foldl (fun a b => a.record b.view b.outcomes) a

end Aggregate

namespace RecordedOutcome

variable {view : Representation} {os others : List RecordedOutcome}

theorem mem_figures {h : Float} :
    h ∈ figures view os ↔ ∃ o ∈ os, o.view = view ∧ o.validEstimate = some h := by
  simp [figures, and_assoc]

theorem isValid_of_mem_figures {h : Float} (hh : h ∈ figures view os) :
    Figure.isValid h = true := by
  obtain ⟨o, -, -, hestimate⟩ := mem_figures.1 hh
  exact (Option.filter_eq_some_iff.1 hestimate).2

theorem figures_subset (hsubset : os ⊆ others) : figures view os ⊆ figures view others := by
  intro h hh
  obtain ⟨o, ho, hview, hestimate⟩ := mem_figures.1 hh
  exact mem_figures.2 ⟨o, hsubset ho, hview, hestimate⟩

theorem figures_append (view : Representation) (os others : List RecordedOutcome) :
    figures view (os ++ others) = figures view os ++ figures view others := by
  simp [figures]

theorem figures_map (view view' : Representation) (outcomes : List Outcome) :
    figures view (outcomes.map (⟨·, view'⟩)) =
      if view' = view then outcomes.filterMap Outcome.validEstimate else [] := by
  unfold figures
  rw [List.filter_map, List.filterMap_map]
  split
  · rename_i hview
    simp [hview, Function.comp_def]
  · rename_i hview
    simp [hview, Function.comp_def]

end RecordedOutcome

open RecordedOutcome (figures)

namespace Batch

variable {view : Representation} {batches : List Batch}

theorem recorded_cons (b : Batch) (rest : List Batch) :
    recorded (b :: rest) = b.outcomes.map (⟨·, b.view⟩) ++ recorded rest :=
  rfl

theorem recorded_append (batches more : List Batch) :
    recorded (batches ++ more) = recorded batches ++ recorded more :=
  List.flatMap_append

/-- Batches on another representation come and go without touching the estimates for this one. -/
theorem figures_recorded_filter {views : List Representation} (hview : view ∈ views) :
    figures view (recorded (batches.filter (·.view ∈ views))) =
      figures view (recorded batches) := by
  induction batches with
  | nil => rfl
  | cons b rest ih =>
    rw [recorded_cons, RecordedOutcome.figures_append, RecordedOutcome.figures_map, ← ih]
    by_cases hb : b.view ∈ views
    · rw [List.filter_cons_of_pos (by simpa using hb), recorded_cons,
        RecordedOutcome.figures_append, RecordedOutcome.figures_map]
    · have hne : b.view ≠ view := by
        rintro rfl
        exact hb hview
      rw [List.filter_cons_of_neg (by simpa using hb), if_neg hne, List.nil_append]

end Batch

namespace Aggregate

theorem recordAll_eq (a : Aggregate) (batches : List Batch) :
    a.recordAll batches = { a with
      hOriginal := Figure.least a.hOriginal (figures .literal (Batch.recorded batches))
      hBitstring := Figure.least a.hBitstring (figures .bitstring (Batch.recorded batches))
      outcomes := a.outcomes ++ Batch.recorded batches } := by
  induction batches generalizing a with
  | nil => simp [recordAll, Batch.recorded, figures]
  | cons b rest ih =>
    have hstep : a.recordAll (b :: rest) = (a.record b.view b.outcomes).recordAll rest := rfl
    rw [hstep, ih, record_eq, Batch.recorded_cons]
    simp only [RecordedOutcome.figures_append, RecordedOutcome.figures_map, Figure.least_append,
      List.append_assoc]

end Aggregate

namespace ModeResult

/-- What a track makes of batches. -/
def ofBatches (mode : Mode) (w : WordSize) (n : Nat) (d : Dispatch) (batches : List Batch) :
    ModeResult :=
  ((Aggregate.start mode w n d).recordAll batches).finish

/-- What the representations that run amount to, in bits per sample. -/
def caps (m : ModeResult) (d : Dispatch) : List Float :=
  (if d.bitstring then [m.hBitstring * m.wordSize.ceiling] else []) ++
    (if d.literal then [m.hOriginal] else [])

/-- The figures of a track are the least of what was recorded, and no outcome is lost. -/
structure Totals (m : ModeResult) (d : Dispatch) (os : List RecordedOutcome) : Prop where
  hOriginal : Figure.IsLeast m.hOriginal (m.wordSize.ceiling :: figures .literal os)
  hBitstring : Figure.IsLeast m.hBitstring (1.0 :: figures .bitstring os)
  hAssessed : Figure.IsLeast m.hAssessed (m.wordSize.ceiling :: m.caps d)
  isFinite_hOriginal : m.hOriginal.isFinite = true
  isFinite_hBitstring : m.hBitstring.isFinite = true
  isFinite_hAssessed : m.hAssessed.isFinite = true
  zero_le_hAssessed : 0.0 ≤ m.hAssessed
  hAssessed_le : m.hAssessed ≤ Float.ofNat m.wordSize.bits
  outcomes_eq : m.outcomes = os
  allPassed_iff : m.allPassed = true ↔ ∀ o ∈ os, o.passed = true

/-- No figure of a track is above that of another. -/
structure AtMost (m m' : ModeResult) : Prop where
  hOriginal : m.hOriginal ≤ m'.hOriginal
  hBitstring : m.hBitstring ≤ m'.hBitstring
  hAssessed : m.hAssessed ≤ m'.hAssessed

/-- The figures of two tracks are the same numbers. -/
structure Agrees (m m' : ModeResult) : Prop where
  hOriginal : (m.hOriginal == m'.hOriginal) = true
  hBitstring : (m.hBitstring == m'.hBitstring) = true
  hAssessed : (m.hAssessed == m'.hAssessed) = true

theorem AtMost.agrees {m m' : ModeResult} (h : m.AtMost m') (h' : m'.AtMost m) : m.Agrees m' where
  hOriginal := Figure.beq_iff.2 ⟨h.hOriginal, h'.hOriginal⟩
  hBitstring := Figure.beq_iff.2 ⟨h.hBitstring, h'.hBitstring⟩
  hAssessed := Figure.beq_iff.2 ⟨h.hAssessed, h'.hAssessed⟩

section Track

variable (mode : Mode) (w : WordSize) (n : Nat) (d : Dispatch) (batches : List Batch)

theorem ofBatches_eq :
    ofBatches mode w n d batches = Aggregate.finish { Aggregate.start mode w n d with
      hOriginal := Figure.least w.ceiling (figures .literal (Batch.recorded batches))
      hBitstring := Figure.least 1.0 (figures .bitstring (Batch.recorded batches))
      outcomes := Batch.recorded batches } := by
  unfold ofBatches
  rw [Aggregate.recordAll_eq]
  rfl

@[simp] theorem wordSize_ofBatches : (ofBatches mode w n d batches).wordSize = w := by
  rw [ofBatches_eq]
  rfl

theorem outcomes_ofBatches :
    (ofBatches mode w n d batches).outcomes = Batch.recorded batches := by
  rw [ofBatches_eq]
  rfl

theorem hOriginal_ofBatches :
    (ofBatches mode w n d batches).hOriginal =
      Figure.least w.ceiling (figures .literal (Batch.recorded batches)) := by
  rw [ofBatches_eq]
  rfl

theorem hBitstring_ofBatches :
    (ofBatches mode w n d batches).hBitstring =
      Figure.least 1.0 (figures .bitstring (Batch.recorded batches)) := by
  rw [ofBatches_eq]
  rfl

theorem hAssessed_ofBatches :
    (ofBatches mode w n d batches).hAssessed =
      let ceiling := if d.bitstring then
        Figure.lesser w.ceiling ((ofBatches mode w n d batches).hBitstring * w.ceiling)
      else w.ceiling
      if d.literal then Figure.lesser ceiling (ofBatches mode w n d batches).hOriginal
      else ceiling := by
  rw [ofBatches_eq]
  rfl

theorem isLeast_hOriginal :
    Figure.IsLeast (ofBatches mode w n d batches).hOriginal
      (w.ceiling :: figures .literal (Batch.recorded batches)) := by
  rw [hOriginal_ofBatches]
  exact Figure.isLeast_least_of_isValid w.isNaN_ceiling
    fun _ => RecordedOutcome.isValid_of_mem_figures

theorem isLeast_hBitstring :
    Figure.IsLeast (ofBatches mode w n d batches).hBitstring
      (1.0 :: figures .bitstring (Batch.recorded batches)) := by
  rw [hBitstring_ofBatches]
  exact Figure.isLeast_least_of_isValid (by decide)
    fun _ => RecordedOutcome.isValid_of_mem_figures

theorem isValid_hOriginal : Figure.isValid (ofBatches mode w n d batches).hOriginal = true := by
  rcases List.mem_cons.1 (isLeast_hOriginal mode w n d batches).mem with hceiling | hmem
  · rw [hceiling]
    exact Figure.isValid_iff.2 ⟨w.isFinite_ceiling, w.zero_le_ceiling⟩
  · exact RecordedOutcome.isValid_of_mem_figures hmem

theorem isValid_hBitstring : Figure.isValid (ofBatches mode w n d batches).hBitstring = true := by
  rcases List.mem_cons.1 (isLeast_hBitstring mode w n d batches).mem with hone | hmem
  · rw [hone]
    decide
  · exact RecordedOutcome.isValid_of_mem_figures hmem

theorem zero_le_of_mem_caps {h : Float} (hh : h ∈ (ofBatches mode w n d batches).caps d) :
    0.0 ≤ h := by
  simp only [caps, wordSize_ofBatches, List.mem_append, List.mem_ite_nil_right,
    List.mem_singleton] at hh
  rcases hh with ⟨-, rfl⟩ | ⟨-, rfl⟩
  · exact w.zero_le_mul_ceiling (isValid_hBitstring ..)
  · exact (Figure.isValid_iff.1 (isValid_hOriginal ..)).2

theorem isLeast_hAssessed :
    Figure.IsLeast (ofBatches mode w n d batches).hAssessed
      (w.ceiling :: (ofBatches mode w n d batches).caps d) := by
  have hceiling := Figure.isLeast_singleton w.isNaN_ceiling
  have hbits := Figure.isLeast_singleton
    (Figure.isNaN_right (w.zero_le_mul_ceiling (isValid_hBitstring mode w n d batches)))
  have hliteral := Figure.isLeast_singleton
    (Figure.isNaN_right (Figure.isValid_iff.1 (isValid_hOriginal mode w n d batches)).2)
  rw [hAssessed_ofBatches, caps, wordSize_ofBatches]
  obtain ⟨literal, bitstring⟩ := d
  cases bitstring <;> cases literal
  case false.false => exact hceiling
  case false.true => exact (hceiling.lesser hliteral).congr fun h => by simp [or_comm]
  case true.false => exact (hceiling.lesser hbits).congr fun h => by simp [or_comm]
  case true.true =>
    refine ((hceiling.lesser hbits).lesser hliteral).congr fun h => ?_
    simp only [List.mem_append, List.mem_cons, List.not_mem_nil, ↓reduceIte]
    tauto

theorem totals_ofBatches : (ofBatches mode w n d batches).Totals d (Batch.recorded batches) := by
  obtain ⟨hfiniteOriginal, -⟩ := Figure.isValid_iff.1 (isValid_hOriginal mode w n d batches)
  obtain ⟨hfiniteBitstring, -⟩ := Figure.isValid_iff.1 (isValid_hBitstring mode w n d batches)
  have hle : (ofBatches mode w n d batches).hAssessed ≤ w.ceiling :=
    (isLeast_hAssessed ..).le _ List.mem_cons_self
  have hzero : 0.0 ≤ (ofBatches mode w n d batches).hAssessed := by
    rcases List.mem_cons.1 (isLeast_hAssessed mode w n d batches).mem with hceiling | hmem
    · rw [hceiling]
      exact w.zero_le_ceiling
    · exact zero_le_of_mem_caps mode w n d batches hmem
  exact {
    hOriginal := by
      rw [wordSize_ofBatches]
      exact isLeast_hOriginal ..
    hBitstring := isLeast_hBitstring ..
    hAssessed := by
      rw [wordSize_ofBatches]
      exact isLeast_hAssessed ..
    isFinite_hOriginal := hfiniteOriginal
    isFinite_hBitstring := hfiniteBitstring
    isFinite_hAssessed := Figure.isFinite_of_le hzero hle w.isFinite_ceiling
    zero_le_hAssessed := hzero
    hAssessed_le := by
      rw [wordSize_ofBatches]
      exact hle
    outcomes_eq := outcomes_ofBatches ..
    allPassed_iff := by
      unfold allPassed
      rw [outcomes_ofBatches]
      simp }

end Track

variable {mode : Mode} {w : WordSize} {n : Nat} {d : Dispatch} {batches others : List Batch}

/-- More outcomes give more estimates to be the least of, and rounding keeps the order of what the
bits amount to. -/
theorem atMost_of_subset (hsubset : Batch.recorded batches ⊆ Batch.recorded others) :
    (ofBatches mode w n d others).AtMost (ofBatches mode w n d batches) := by
  have horiginal := (isLeast_hOriginal mode w n d batches).le_of_subset
    (isLeast_hOriginal mode w n d others)
    (List.cons_subset_cons _ (RecordedOutcome.figures_subset hsubset))
  have hbitstring := (isLeast_hBitstring mode w n d batches).le_of_subset
    (isLeast_hBitstring mode w n d others)
    (List.cons_subset_cons _ (RecordedOutcome.figures_subset hsubset))
  refine ⟨horiginal, hbitstring, ?_⟩
  have hle := (isLeast_hAssessed mode w n d others).le
  have hmem := (isLeast_hAssessed mode w n d batches).mem
  simp only [caps, wordSize_ofBatches, List.mem_cons, List.mem_append, List.mem_ite_nil_right,
    List.not_mem_nil, or_false] at hle hmem
  rcases hmem with hceiling | ⟨hruns, hbits⟩ | ⟨hruns, hliteral⟩
  · rw [hceiling]
    exact hle _ (.inl rfl)
  · rw [hbits]
    have hscaled := Figure.mul_le_mul_of_nonneg
      (Figure.isValid_iff.1 (isValid_hBitstring mode w n d others)).2 hbitstring
      (Figure.isValid_iff.1 (isValid_hBitstring mode w n d batches)).1
      w.zero_le_ceiling w.isFinite_ceiling
    exact Figure.le_trans (hle _ (.inr (.inl ⟨hruns, rfl⟩))) hscaled
  · rw [hliteral]
    exact Figure.le_trans (hle _ (.inr (.inr ⟨hruns, rfl⟩))) horiginal

/-- Batches on a representation that does not run leave the assessed figure alone. -/
theorem hAssessed_filter :
    (ofBatches mode w n d (batches.filter (·.view ∈ d.views))).hAssessed =
      (ofBatches mode w n d batches).hAssessed := by
  have hbits (hruns : d.bitstring = true) :
      (ofBatches mode w n d (batches.filter (·.view ∈ d.views))).hBitstring =
        (ofBatches mode w n d batches).hBitstring := by
    rw [hBitstring_ofBatches, hBitstring_ofBatches,
      Batch.figures_recorded_filter (by simp [Dispatch.views, hruns])]
  have hliteral (hruns : d.literal = true) :
      (ofBatches mode w n d (batches.filter (·.view ∈ d.views))).hOriginal =
        (ofBatches mode w n d batches).hOriginal := by
    rw [hOriginal_ofBatches, hOriginal_ofBatches,
      Batch.figures_recorded_filter (by simp [Dispatch.views, hruns])]
  rw [hAssessed_ofBatches, hAssessed_ofBatches]
  by_cases hruns : d.bitstring = true <;> by_cases hruns' : d.literal = true <;>
    simp [hruns, hruns', hbits, hliteral]

/-- The figures of a track are the least valid estimates under their ceilings. Batches do not count,
order counts for nothing but the outcomes, what does not run is never assessed, and more outcomes
raise nothing. -/
theorem ofBatches_figures (mode : Mode) (w : WordSize) (n : Nat) (d : Dispatch)
    (batches : List Batch) :
    let m := ofBatches mode w n d batches
    (m.mode = mode ∧ m.wordSize = w ∧ m.alphabetSize = n) ∧
    m.Totals d (Batch.recorded batches) ∧
    (∀ others, Batch.recorded others = Batch.recorded batches →
      ofBatches mode w n d others = m) ∧
    (∀ others, (Batch.recorded others).Perm (Batch.recorded batches) →
      (ofBatches mode w n d others).Agrees m) ∧
    (ofBatches mode w n d (batches.filter (·.view ∈ d.views))).hAssessed = m.hAssessed ∧
    ∀ more, Batch.recorded batches ⊆ Batch.recorded more →
      (ofBatches mode w n d more).AtMost m := by
  intro m
  refine ⟨?_, totals_ofBatches .., ?_, ?_, hAssessed_filter, fun more => atMost_of_subset⟩
  · unfold m
    rw [ofBatches_eq]
    exact ⟨rfl, rfl, rfl⟩
  · intro others hrecorded
    unfold m
    rw [ofBatches_eq, ofBatches_eq, hrecorded]
  · intro others hperm
    exact (atMost_of_subset hperm.symm.subset).agrees (atMost_of_subset hperm.subset)

/-- Only bits run: what is recorded on literal samples lowers its own figure and no other. -/
theorem ofBatches_figures_undispatched :
    let w : WordSize := ⟨2, by decide, by decide⟩
    let d : Dispatch := ⟨false, true⟩
    let bits : Batch := ⟨.bitstring, [⟨"undefined", some (0.0 / 0.0), true⟩,
      ⟨"half", some 0.5, true⟩, ⟨"unbounded", some Figure.infinity, true⟩]⟩
    let literal : Batch := ⟨.literal, [⟨"low", some 0.25, true⟩, ⟨"negative", some (-1.0), false⟩,
      ⟨"test", none, true⟩]⟩
    let m := ofBatches .nonIid w 4 d [literal, bits]
    m.Totals d (Batch.recorded [literal, bits]) ∧
      (ofBatches .nonIid w 4 d [bits, literal]).Agrees m ∧
      (ofBatches .nonIid w 4 d [literal, bits, literal]).AtMost m ∧
      m.hOriginal = 0.25 ∧ m.hBitstring = 0.5 ∧ m.hAssessed = 0.5 * 2.0 ∧ m.allPassed = false := by
  intro w d bits literal m
  obtain ⟨-, htotals, -, horder, -, hmore⟩ := ofBatches_figures .nonIid w 4 d [literal, bits]
  refine ⟨htotals, horder [bits, literal] ?_, hmore [literal, bits, literal] ?_, by decide +kernel⟩
  · change (Batch.recorded ([bits] ++ [literal])).Perm (Batch.recorded ([literal] ++ [bits]))
    rw [Batch.recorded_append, Batch.recorded_append]
    exact List.perm_append_comm
  · change Batch.recorded [literal, bits] ⊆ Batch.recorded ([literal, bits] ++ [literal])
    rw [Batch.recorded_append]
    exact List.subset_append_left _ _

end ModeResult

/-- What an exchange brings to its track: nothing where it failed. -/
def Exchange.batch (x : Exchange) : Batch where
  view := x.call.view
  outcomes := x.reply.guarded.toOption.getD []

theorem Aggregate.hear_eq_record (a : Aggregate) (x : Exchange) :
    a.hear x = a.record x.batch.view x.batch.outcomes := by
  unfold hear Exchange.batch
  cases x.reply.guarded with
  | ok outcomes => rfl
  | error e => rfl

/-- A track that runs is one over batches, so all of the above holds of it. -/
theorem Prepared.conclude_eq_ofBatches (p : Prepared) (mode : Mode) (xs : List Exchange) :
    p.conclude mode xs = ModeResult.ofBatches mode p.wordSize p.alphabetSize (p.dispatch mode)
      ((Exchange.track mode xs).map Exchange.batch) := by
  have hstep : Aggregate.hear = fun a x => a.record x.batch.view x.batch.outcomes := by
    funext a x
    exact a.hear_eq_record x
  unfold conclude ModeResult.ofBatches Aggregate.recordAll
  rw [List.foldl_map, hstep]
  rfl

end MinEntropy

import MinEntropy.Proofs.Assessment.Batches
import MinEntropy.Proofs.Estimator.Guard

/-! A track over outcomes as the suite gave them, and over what the guard leaves of them. The filter
of the guard and the one of the track agree, so the two results have the same figures and differ in
the invalid estimates alone. -/

namespace MinEntropy

namespace Figure

/-- No figure of an estimate: not a number, infinite or below zero. -/
def IsInvalid (h : Float) : Prop := h.isNaN = true ∨ h.isInf = true ∨ h < 0.0

theorem isInvalid_iff {h : Float} : IsInvalid h ↔ isValid h = false := by
  rw [IsInvalid, Bool.eq_false_iff, Ne, isValid_iff, isFinite_eq]
  cases hnumber : h.isNaN with
  | true => simp
  | false =>
    have hzero : h < 0.0 ↔ ¬ 0.0 ≤ h :=
      ⟨fun hlt hle => not_lt_of_le hle hlt, fun hle => by
        by_contra hlt
        exact hle (le_of_not_lt (by decide) hnumber hlt)⟩
    cases h.isInf <;> simp [hzero]

end Figure

/-- What the guard leaves of a batch. -/
def Batch.guarded (b : Batch) : Batch := { b with outcomes := b.outcomes.map Outcome.normalise }

/-- The same outcome, but for an estimate that is no figure. -/
structure RecordedOutcome.Cleared (o kept : RecordedOutcome) : Prop where
  view_eq : kept.view = o.view
  name_eq : kept.name = o.name
  passed_eq : kept.passed = o.passed
  estimate_of_invalid : ∀ h, o.estimate = some h → Figure.IsInvalid h → kept.estimate = none
  estimate_of_valid : (∀ h, o.estimate = some h → ¬ Figure.IsInvalid h) →
    kept.estimate = o.estimate

/-- The same result of a track, but for estimates that are no figures. -/
structure ModeResult.Cleared (m kept : ModeResult) : Prop where
  mode_eq : kept.mode = m.mode
  wordSize_eq : kept.wordSize = m.wordSize
  alphabetSize_eq : kept.alphabetSize = m.alphabetSize
  hOriginal_eq : kept.hOriginal = m.hOriginal
  hBitstring_eq : kept.hBitstring = m.hBitstring
  hAssessed_eq : kept.hAssessed = m.hAssessed
  allPassed_eq : kept.allPassed = m.allPassed
  outcomes : List.Forall₂ RecordedOutcome.Cleared m.outcomes kept.outcomes

namespace Outcome

theorem normalise_normalise (o : Outcome) : o.normalise.normalise = o.normalise :=
  congrArg (fun estimate => { o with estimate := estimate }) o.validEstimate_normalise

theorem cleared_normalise (o : Outcome) (view : Representation) :
    RecordedOutcome.Cleared ⟨o, view⟩ ⟨o.normalise, view⟩ where
  view_eq := rfl
  name_eq := rfl
  passed_eq := rfl
  estimate_of_invalid h hh hinvalid := by
    have hfilter := o.estimate_normalise hh
    rwa [if_neg (fun hvalid => ?_)] at hfilter
    rw [Figure.isInvalid_iff, Figure.isValid_iff.2 hvalid] at hinvalid
    cases hinvalid
  estimate_of_valid hvalid := by
    change o.estimate.filter Figure.isValid = o.estimate
    cases hh : o.estimate with
    | none => rfl
    | some h =>
      have hfigure := hvalid h hh
      rw [Figure.isInvalid_iff, Bool.not_eq_false] at hfigure
      rw [Option.filter_some, if_pos hfigure]

end Outcome

namespace Batch

variable (batches : List Batch)

theorem guarded_guarded (b : Batch) : b.guarded.guarded = b.guarded := by
  simp [guarded, Outcome.normalise_normalise]

theorem recorded_guarded :
    recorded (batches.map guarded) =
      (recorded batches).map fun o => ⟨o.toOutcome.normalise, o.view⟩ := by
  induction batches with
  | nil => rfl
  | cons b rest ih =>
    rw [List.map_cons, recorded_cons, recorded_cons, List.map_append, ← ih]
    simp [guarded, Function.comp_def]

theorem figures_guarded (view : Representation) :
    RecordedOutcome.figures view (recorded (batches.map guarded)) =
      RecordedOutcome.figures view (recorded batches) := by
  rw [recorded_guarded, RecordedOutcome.figures, List.filter_map, List.filterMap_map]
  exact List.filterMap_congr fun o _ => o.toOutcome.validEstimate_normalise

end Batch

namespace ModeResult

variable (mode : Mode) (w : WordSize) (n : Nat) (d : Dispatch) (batches : List Batch)

/-- Only the outcomes tell whether the guard has seen a batch. -/
theorem ofBatches_map_guarded :
    ofBatches mode w n d (batches.map Batch.guarded) =
      { ofBatches mode w n d batches with
        outcomes := (Batch.recorded batches).map fun o => ⟨o.toOutcome.normalise, o.view⟩ } := by
  rw [ofBatches_eq, ofBatches_eq, Batch.figures_guarded, Batch.figures_guarded,
    Batch.recorded_guarded]
  rfl

theorem cleared_ofBatches :
    (ofBatches mode w n d batches).Cleared (ofBatches mode w n d (batches.map Batch.guarded)) := by
  rw [ofBatches_map_guarded]
  exact {
    mode_eq := rfl
    wordSize_eq := rfl
    alphabetSize_eq := rfl
    hOriginal_eq := rfl
    hBitstring_eq := rfl
    hAssessed_eq := rfl
    allPassed_eq := by
      rw [allPassed, allPassed, outcomes_ofBatches, List.all_map]
      rfl
    outcomes := by
      rw [outcomes_ofBatches, List.forall₂_map_right_iff, List.forall₂_same]
      exact fun o _ => o.toOutcome.cleared_normalise o.view }

/-- It makes no difference to the figures and verdicts of a track whether the guard has taken out
invalid estimates before. It takes out these and nothing else, and a second time finds none. -/
theorem ofBatches_guarded :
    (∀ b : Batch, b.guarded.view = b.view ∧
      (Reply.outcomes b.outcomes).guarded = .ok b.guarded.outcomes ∧
      b.guarded.guarded = b.guarded) ∧
    (ofBatches mode w n d batches).outcomes = Batch.recorded batches ∧
    (ofBatches mode w n d batches).Cleared (ofBatches mode w n d (batches.map Batch.guarded)) :=
  ⟨fun b => ⟨rfl, rfl, b.guarded_guarded⟩, outcomes_ofBatches .., cleared_ofBatches ..⟩

end ModeResult

/-- What an exchange would bring to its track without a guard. -/
def Exchange.rawBatch (x : Exchange) : Batch where
  view := x.call.view
  outcomes := match x.reply with
    | .outcomes list => list
    | .failure _ | .breakdown _ => []

theorem Exchange.guarded_rawBatch (x : Exchange) : x.rawBatch.guarded = x.batch := by
  obtain ⟨call, reply⟩ := x
  cases reply <;> rfl

/-- An assessment concludes what the replies of the suite amount to as they came. -/
theorem Prepared.cleared_conclude (p : Prepared) (mode : Mode) (xs : List Exchange) :
    (ModeResult.ofBatches mode p.wordSize p.alphabetSize (p.dispatch mode)
      ((Exchange.track mode xs).map Exchange.rawBatch)).Cleared (p.conclude mode xs) := by
  have hbatches : ((Exchange.track mode xs).map Exchange.rawBatch).map Batch.guarded =
      (Exchange.track mode xs).map Exchange.batch := by
    rw [List.map_map]
    exact List.map_congr_left fun x _ => x.guarded_rawBatch
  rw [p.conclude_eq_ofBatches, ← hbatches]
  exact ModeResult.cleared_ofBatches ..

end MinEntropy

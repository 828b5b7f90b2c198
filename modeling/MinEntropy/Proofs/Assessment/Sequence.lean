import MinEntropy.Proofs.Assessment.Run
import MinEntropy.Proofs.Assessment.Validation
import MinEntropy.Proofs.Samples.Preparation

/-! An assessment as a sequence of single tracks. That the samples are prepared once for all tracks
cannot be told from preparing them for each. -/

namespace MinEntropy

namespace Coordinator

/-- A track by itself, or none where it is switched off. -/
def assessSelected (c : Coordinator σ τ) (r : Request) (mode : Mode) (selected : Bool)
    (st : σ × τ) : Except AssessmentError (Option ModeResult) × (σ × τ) :=
  if selected then
    match c.assessMode r.data r.wordSize mode st with
    | (.ok m, st') => (.ok (some m), st')
    | (.error e, st') => (.error e, st')
  else (.ok none, st)

/-- The selected tracks by themselves, one after the other; the first error ends the sequence. -/
def assessInTurn (c : Coordinator σ τ) (r : Request) (st : σ × τ) :
    Except AssessmentError AssessmentResult × (σ × τ) :=
  match c.assessSelected r .iid r.runIid st with
  | (.error e, st₁) => (.error e, st₁)
  | (.ok iid, st₁) =>
    match c.assessSelected r .nonIid r.runNonIid st₁ with
    | (.error e, st₂) => (.error e, st₂)
    | (.ok nonIid, st₂) => (.ok (.combine r.wordSize r.data.length iid nonIid), st₂)

section Track

variable (c : Coordinator σ τ) {data : List UInt8} {wordSize : Nat}

theorem assessMode_of_prepared {p : Prepared} (hp : Samples.prepare data wordSize = .ok p)
    (mode : Mode) (st : σ × τ) :
    c.assessMode data wordSize mode st =
      ((c.suite.runMode p mode st.1).1, (c.suite.runMode p mode st.1).2, st.2) := by
  simp [assessMode, Suite.assessMode, hp]

theorem assessMode_of_unprepared {e : PrepareError}
    (he : Samples.prepare data wordSize = .error e) (mode : Mode) (st : σ × τ) :
    c.assessMode data wordSize mode st = (.error (.failed mode (.preparation e)), st) := by
  simp [assessMode, Suite.assessMode, he]

end Track

section Sequence

variable (c : Coordinator σ τ) {r : Request}

theorem assessSelected_of_prepared {p : Prepared}
    (hp : Samples.prepare r.data r.wordSize = .ok p) (mode : Mode) (selected : Bool)
    (st : σ × τ) :
    c.assessSelected r mode selected st =
      ((c.suite.runSelected p mode selected st.1).1,
        (c.suite.runSelected p mode selected st.1).2, st.2) := by
  cases selected with
  | false => rfl
  | true =>
    unfold assessSelected Suite.runSelected
    rw [if_pos rfl, if_pos rfl, c.assessMode_of_prepared hp]
    rcases c.suite.runMode p mode st.1 with ⟨e | m, st'⟩
    · rfl
    · rfl

/-- The samples are prepared with the same outcome every time, and where they cannot be prepared the
first selected track meets that. -/
theorem assessInTurn_eq {selection : Selection}
    (hflags : Selection.ofFlags? r.runIid r.runNonIid = some selection) (st : σ × τ) :
    c.assessInTurn r st =
      ((c.suite.runRequest r st.1).1, (c.suite.runRequest r st.1).2, st.2) := by
  unfold assessInTurn Suite.runRequest
  cases hp : Samples.prepare r.data r.wordSize with
  | ok p =>
    dsimp only
    rw [c.assessSelected_of_prepared hp]
    rcases c.suite.runSelected p .iid r.runIid st.1 with ⟨e | iid, st₁⟩
    · rfl
    · dsimp only
      rw [c.assessSelected_of_prepared hp]
      rcases c.suite.runSelected p .nonIid r.runNonIid st₁ with ⟨e | nonIid, st₂⟩
      · rfl
      · rfl
  | error e =>
    unfold assessSelected Request.firstMode
    simp only [c.assessMode_of_unprepared hp]
    cases hiid : r.runIid with
    | true => rfl
    | false =>
      cases hnonIid : r.runNonIid with
      | true => rfl
      | false => simp [hiid, hnonIid, Selection.ofFlags?] at hflags

theorem assessInTurn_transcribed {selection : Selection}
    (hflags : Selection.ofFlags? r.runIid r.runNonIid = some selection) (st : σ × τ)
    (log : List Exchange) :
    c.transcribed.assessInTurn r ((st.1, log), st.2) =
      ((c.assessInTurn r st).1,
        ((c.assessInTurn r st).2.1, log ++ c.suite.exchanges r st.1), st.2) := by
  rw [c.transcribed.assessInTurn_eq hflags, c.assessInTurn_eq hflags]
  simp only [transcribed, Suite.runRequest_transcribed]

end Sequence

end Coordinator

namespace Request

variable {r : Request}

/-- There is nothing to assess, or the width does not fit a byte. -/
def IsUnfit (r : Request) : Prop := r.data = [] ∨ maxWordSize < r.wordSize

theorem validate_of_unfit (hunfit : r.IsUnfit) :
    r.validate =
      .error (if r.data = [] then .emptyData else .invalidWordSize r.wordSize) := by
  by_cases hdata : r.data = []
  · rw [validate_of_empty hdata, if_pos hdata]
  · rw [validate_of_wide hdata (hunfit.resolve_left hdata), if_neg hdata]

theorem prepare_of_unfit (hunfit : r.IsUnfit) :
    Samples.prepare r.data r.wordSize =
      .error (if r.data = [] then .emptySamples else .invalidWordSize r.wordSize) := by
  by_cases hdata : r.data = []
  · rw [if_pos hdata, hdata]
    rfl
  · rw [Samples.prepare_of_ne_nil hdata, Samples.resolve_eq_none (hunfit.resolve_left hdata),
      if_neg hdata]

end Request

namespace Coordinator

/-- An assessment makes the calls of its tracks run by themselves one after the other, and comes to
what they come to. A request with a bad buffer or width is rejected, where each track by itself
would fail; the suite hears of neither. -/
theorem assess_in_sequence (c : Coordinator σ τ) (r : Request) (took : Duration) (st : σ × τ)
    {selection : Selection} (hflags : Selection.ofFlags? r.runIid r.runNonIid = some selection) :
    (r.data ≠ [] → r.wordSize ≤ maxWordSize →
      (c.observer.breaksAtStart = none →
        (c.assess r took st).1 = .ok (c.assessInTurn r st).1 ∧
        (c.assess r took st).2.1 = (c.assessInTurn r st).2.1 ∧
        ∀ log, c.transcribed.assessInTurn r ((st.1, log), st.2) =
          ((c.assessInTurn r st).1,
            ((c.assessInTurn r st).2.1, log ++ c.transcript r took st), st.2)) ∧
      (∀ text, c.observer.breaksAtStart = some text →
        c.assess r took st = (.error text, st) ∧ c.transcript r took st = [])) ∧
    (r.data = [] ∨ maxWordSize < r.wordSize →
      ∃ e, (c.assess r took st).1 = .ok (.error (.rejected e)) ∧
        (AssessmentError.rejected e).kind = .invalidInput ∧
        (c.assess r took st).2.1 = st.1 ∧ c.transcript r took st = [] ∧
        ∃ cause, ∀ mode,
          c.assessMode r.data r.wordSize mode st =
            (.error (.failed mode (.preparation cause)), st) ∧
          (AssessmentError.failed mode (.preparation cause)).kind = .invalidInput ∧
          ∀ log, c.transcribed.assessMode r.data r.wordSize mode ((st.1, log), st.2) =
            (.error (.failed mode (.preparation cause)), (st.1, log), st.2)) := by
  constructor
  · intro hdata hwidth
    have hr := Request.validate_eq_ok_iff.2 ⟨hdata, hwidth, hflags⟩
    constructor
    · intro hcalm
      rw [c.assess_of_running _ _ hr hcalm, c.transcript_of_running _ _ hr hcalm]
      refine ⟨?_, ?_, c.assessInTurn_transcribed hflags st⟩
      · rw [c.assessInTurn_eq hflags]
      · rw [c.assessInTurn_eq hflags]
    · intro text hbreaks
      exact ⟨c.assess_of_breaking _ _ hr hbreaks, c.transcript_of_breaking _ _ hr hbreaks⟩
  · intro hunfit
    have hr := Request.validate_of_unfit hunfit
    have hp := Request.prepare_of_unfit hunfit
    rw [c.assess_of_rejected _ _ hr, c.transcript_of_rejected _ _ hr]
    refine ⟨_, rfl, rfl, rfl, rfl, _, fun mode => ⟨c.assessMode_of_unprepared hp mode st, ?_,
      fun log => c.transcribed.assessMode_of_unprepared hp mode _⟩⟩
    -- neither fault is a lack of memory
    by_cases hdata : r.data = []
    · rw [if_pos hdata]
      rfl
    · rw [if_neg hdata]
      rfl

set_option maxRecDepth 2000 in
/-- The second track breaks down in its first call and leaves the last reply to later. At nine bits
the request does not get as far. -/
theorem assess_in_sequence_breakdown :
    let c : Coordinator (List Reply) Unit := ⟨.replaying "trial", .silent⟩
    let r : Request := ⟨[0, 1, 2], 0, true, true⟩
    let wide : Request := ⟨[0, 1, 2], 9, true, true⟩
    let st : List Reply × Unit :=
      ([.outcomes [⟨"literal", some 1.5, true⟩], .breakdown (some "worn out"), .outcomes []], ())
    Selection.ofFlags? r.runIid r.runNonIid = some .mixed ∧ r.data ≠ [] ∧
      r.wordSize ≤ maxWordSize ∧ c.observer.breaksAtStart = none ∧
      (c.assess r ⟨0, 0⟩ st).1 = .ok (c.assessInTurn r st).1 ∧
      (c.assessInTurn r st).1 =
        .error (.failed .nonIid (.suite (.exception (-2) "worn out"))) ∧
      (c.assess r ⟨0, 0⟩ st).2.1 = [.outcomes []] ∧
      (c.transcribed.assessInTurn r ((st.1, []), ())).2.1.2 = c.transcript r ⟨0, 0⟩ st ∧
      maxWordSize < wide.wordSize ∧
      ∃ e, (c.assess wide ⟨0, 0⟩ st).1 = .ok (.error (.rejected e)) := by
  intro c r wide st
  obtain ⟨hvalue, hstate, hcalls⟩ :=
    ((c.assess_in_sequence r ⟨0, 0⟩ st rfl).1 (by decide) (by decide)).1 rfl
  obtain ⟨e, hrejected, -⟩ := (c.assess_in_sequence wide ⟨0, 0⟩ st rfl).2 (.inr (by decide))
  have hp : Samples.prepare r.data r.wordSize =
      .ok ⟨[0, 1, 2], some [0, 0, 0, 1, 1, 0], 3, ⟨2, by decide, by decide⟩⟩ := by
    decide +kernel
  have hturn := c.assessInTurn_eq (r := r) rfl st
  rw [Suite.runRequest_eq _ hp] at hturn
  refine ⟨rfl, by decide, by decide, rfl, hvalue, ?_, ?_, ?_, by decide, e, hrejected⟩
  · rw [hturn]
    rfl
  · rw [hstate, hturn]
    rfl
  · exact congrArg (·.2.1.2) (hcalls [])

end Coordinator

end MinEntropy

import Mathlib.Data.List.Induction
import MinEntropy.Report.Basic

/-! A report to which any number of results and errors are applied, in whatever order, and which of
them its parts come from in the end. Results never clear an error, and the parts that are about a
track come from one track. -/

namespace MinEntropy

/-- The first track that ran. -/
def AssessmentResult.first? (r : AssessmentResult) : Option ModeResult := r.iid <|> r.nonIid

theorem AssessmentResult.head?_modes (r : AssessmentResult) : r.modes.head? = r.first? := by
  unfold modes first?
  cases r.iid with
  | none => cases r.nonIid <;> rfl
  | some m => rfl

namespace Report

/-- What is applied to a report: a result or an error. -/
abbrev Answer := Except AssessmentError AssessmentResult

/-- The results among some answers. -/
def results (answers : List Answer) : List AssessmentResult :=
  answers.filterMap fun
    | .ok result => some result
    | .error _ => none

/-- The errors among some answers. -/
def errors (answers : List Answer) : List AssessmentError :=
  answers.filterMap fun
    | .ok _ => none
    | .error e => some e

/-- The first track of the last result that has any. -/
def lastTrack? (answers : List Answer) : Option ModeResult :=
  ((results answers).filterMap (·.first?)).getLast?

/-- The parts of a report that are about a track. -/
structure TrackPart where
  hOriginal : Option Float
  hBitstring : Option Float
  hAssessed : Float
  estimators : List RecordedOutcome

/-- The figure of the bits belongs to a track with an outcome on bits. -/
def TrackPart.ofMode (m : ModeResult) : TrackPart where
  hOriginal := some m.hOriginal
  hBitstring := if m.outcomes.any (·.view = .bitstring) then some m.hBitstring else none
  hAssessed := m.hAssessed
  estimators := m.outcomes

def trackPart (r : Report) : TrackPart := ⟨r.hOriginal, r.hBitstring, r.hAssessed, r.estimators⟩

/-- The parts of a report that say what was assessed. -/
structure Subject where
  filename : String
  mode : Mode
  bitsPerSymbol : Nat
  dataSize : Nat
  digest : String
  assessedAt : String

def subject (r : Report) : Subject :=
  ⟨r.filename, r.mode, r.bitsPerSymbol, r.dataSize, r.digest, r.assessedAt⟩

/-- A report after some answers, part by part. What no answer bears on is as it was at the start. -/
structure Shows (start : Report) (answers : List Answer) (report : Report) : Prop where
  subject : report.subject = start.subject
  failed_iff : report.isSuccess = false ↔ start.isSuccess = false ∨ ∃ e, .error e ∈ answers
  errorMessage : report.errorMessage =
    (((errors answers).getLast?.map (·.message)) <|> start.errorMessage)
  minEntropy : report.minEntropy =
    ((results answers).getLast?.map (·.minEntropy)).getD start.minEntropy
  wordSize : report.wordSize = (((results answers).getLast?.map (·.wordSize)) <|> start.wordSize)
  trackPart : report.trackPart = ((lastTrack? answers).map .ofMode).getD start.trackPart

section Lists

variable (answers : List Answer)

@[simp] theorem results_concat_ok (result : AssessmentResult) :
    results (answers ++ [.ok result]) = results answers ++ [result] := by
  simp [results]

@[simp] theorem results_concat_error (e : AssessmentError) :
    results (answers ++ [.error e]) = results answers := by
  simp [results]

@[simp] theorem errors_concat_ok (result : AssessmentResult) :
    errors (answers ++ [.ok result]) = errors answers := by
  simp [errors]

@[simp] theorem errors_concat_error (e : AssessmentError) :
    errors (answers ++ [.error e]) = errors answers ++ [e] := by
  simp [errors]

variable {answers} in
theorem errors_eq_nil_iff : errors answers = [] ↔ ∀ e, .error e ∉ answers := by
  unfold errors
  rw [List.filterMap_eq_nil_iff]
  constructor
  · intro hnone e he
    cases hnone _ he
  · intro hnone answer hanswer
    cases answer with
    | ok result => rfl
    | error e => exact absurd hanswer (hnone e)

@[simp] theorem lastTrack?_concat_ok (result : AssessmentResult) :
    lastTrack? (answers ++ [.ok result]) = (result.first? <|> lastTrack? answers) := by
  unfold lastTrack?
  cases hfirst : result.first? <;> simp [hfirst]

@[simp] theorem lastTrack?_concat_error (e : AssessmentError) :
    lastTrack? (answers ++ [.error e]) = lastTrack? answers := by
  simp [lastTrack?]

end Lists

section Steps

variable {start report : Report} {answers : List Answer}

/-- A result replaces the part about a track as a whole, or leaves it alone. -/
theorem withResult_eq (report : Report) (result : AssessmentResult) :
    report.withResult result =
      let part := (result.first?.map .ofMode).getD report.trackPart
      { report with
        minEntropy := result.minEntropy
        wordSize := some result.wordSize
        hOriginal := part.hOriginal
        hBitstring := part.hBitstring
        hAssessed := part.hAssessed
        estimators := part.estimators } := by
  rw [← result.head?_modes]
  unfold withResult
  cases result.modes <;> rfl

theorem shows_nil (start : Report) : start.Shows [] start :=
  ⟨rfl, by simp, rfl, rfl, rfl, rfl⟩

theorem Shows.withResult (hshows : start.Shows answers report) (result : AssessmentResult) :
    start.Shows (answers ++ [.ok result]) (report.withResult result) := by
  obtain ⟨hsubject, hfailed, hmessage, -, -, hpart⟩ := hshows
  rw [withResult_eq]
  refine ⟨hsubject, ?_, ?_, ?_, ?_, ?_⟩
  · simpa [isSuccess] using hfailed
  · simpa using hmessage
  · simp
  · simp
  · rw [lastTrack?_concat_ok]
    cases result.first? with
    | none => exact hpart
    | some m => rfl

theorem Shows.withError (hshows : start.Shows answers report) (e : AssessmentError) :
    start.Shows (answers ++ [.error e]) (report.withError e) := by
  obtain ⟨hsubject, -, -, hentropy, hwidth, hpart⟩ := hshows
  refine ⟨hsubject, iff_of_true rfl (.inr ⟨e, by simp⟩), by simp [Report.withError], ?_, ?_, ?_⟩
  · rw [results_concat_error]
    exact hentropy
  · rw [results_concat_error]
    exact hwidth
  · rw [lastTrack?_concat_error]
    exact hpart

/-- One step more. -/
theorem Shows.withAnswer (hshows : start.Shows answers report) (answer : Answer) :
    start.Shows (answers ++ [answer]) (report.withAnswer answer) := by
  cases answer with
  | ok result => exact hshows.withResult result
  | error e => exact hshows.withError e

/-- All steps, the last one outermost. -/
theorem shows_foldl (start : Report) (answers : List Answer) :
    start.Shows answers (answers.foldl Report.withAnswer start) := by
  induction answers using List.reverseRecOn with
  | nil => exact start.shows_nil
  | append_singleton answers answer ih =>
    rw [List.foldl_append]
    exact ih.withAnswer answer

end Steps

/-- Whatever is applied to a report, and in whatever order: it is one of failure once an error was
applied, the last error gives the message, the last result gives the figures of the whole, and one
track, the first of the last result that has any, gives all of the rest. The subject stays. -/
theorem answers_applied (start : Report) (answers : List Answer) :
    start.Shows answers (answers.foldl Report.withAnswer start) ∧
    ∀ filename mode bits data assessedAt,
      let report := answers.foldl Report.withAnswer (new filename mode bits data assessedAt)
      (report.isSuccess = false ↔ ∃ e, .error e ∈ answers) ∧
      report.errorMessage = (errors answers).getLast?.map (·.message) ∧
      (report.errorMessage = none ↔ ∀ e, .error e ∉ answers) := by
  refine ⟨start.shows_foldl answers, fun filename mode bits data assessedAt => ?_⟩
  have hmade : (new filename mode bits data assessedAt).isSuccess = true := rfl
  have hsilent : (new filename mode bits data assessedAt).errorMessage = none := rfl
  obtain ⟨-, hfailed, hmessage, -, -, -⟩ :=
    (new filename mode bits data assessedAt).shows_foldl answers
  simp only [hmade, Bool.true_eq_false, false_or] at hfailed
  simp only [hsilent, Option.orElse_eq_orElse, Option.orElse_eq_or, Option.or_none] at hmessage
  refine ⟨hfailed, hmessage, ?_⟩
  rw [hmessage, Option.map_eq_none_iff, List.getLast?_eq_none_iff, errors_eq_nil_iff]

end Report

end MinEntropy

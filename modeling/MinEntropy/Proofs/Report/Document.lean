import MinEntropy.Proofs.Json.Layout
import MinEntropy.Proofs.Report.Answers
import MinEntropy.Proofs.Service.Documents
import MinEntropy.Report.Text

/-! The document of a report on one answer, member by member, and the texts of it, line by line. -/

namespace MinEntropy.Report

open Service (outcomeEntry)

/-- The members about the first track. -/
def trackMembers : Option ModeResult → List (String × Json)
  | none => [("h_assessed", .num 0.0)]
  | some m =>
    [("h_original", .num m.hOriginal)] ++
    (if ∃ o ∈ m.outcomes, o.view = .bitstring then [("h_bitstring", .num m.hBitstring)] else []) ++
    [("h_assessed", .num m.hAssessed)] ++
    if m.outcomes.isEmpty then [] else [("estimators", .arr (m.outcomes.map outcomeEntry))]

/-- What was assessed. -/
def subjectMembers (filename : String) (mode : Mode) (bits : Nat) : List (String × Json) :=
  [("version", .str "0.1.0"), ("filename", .str filename),
    ("test_type", .str (if mode = .iid then "IID" else "Non-IID")), ("bits_per_symbol", .nat bits)]

def sampleMembers (data : List UInt8) (now : String) : List (String × Json) :=
  [("data_size", .nat data.length), ("sample_sha256", .str (Sha256.text data)),
    ("assessed_at", .str now)]

/-- What the report on some samples says of an answer. -/
def members (filename : String) (mode : Mode) (bits : Nat) (data : List UInt8) (now : String) :
    Answer → List (String × Json)
  | .error e =>
    subjectMembers filename mode bits ++ sampleMembers data now ++
    [("min_entropy", .num 0.0), ("h_assessed", .num 0.0), ("error_code", .nat 1),
      ("error_message", .str e.message)]
  | .ok result =>
    subjectMembers filename mode bits ++ [("word_size", .nat result.wordSize)] ++
    sampleMembers data now ++ [("min_entropy", .num result.minEntropy)] ++
    trackMembers result.first? ++ [("error_code", .nat 0)]

section Members

variable (filename : String) (mode : Mode) (bits : Nat) (data : List UInt8) (now : String)
variable (answer : Answer)

theorem label_eq : mode.label = if mode = .iid then "IID" else "Non-IID" := by
  cases mode <;> rfl

theorem estimatorMembers_eq (outcomes : List RecordedOutcome) : estimatorMembers outcomes =
    if outcomes.isEmpty then [] else [("estimators", .arr (outcomes.map outcomeEntry))] := by
  rw [← funext Service.json_outcome]
  cases outcomes <;> rfl

/-- The first track shows in the members about it. -/
theorem trackMembers_withMode (r : Report) (m : ModeResult) : trackMembers (some m) =
    member? "h_original" .num (r.withMode m).hOriginal ++
      member? "h_bitstring" .num (r.withMode m).hBitstring ++
      [("h_assessed", .num (r.withMode m).hAssessed)] ++
      estimatorMembers (r.withMode m).estimators := by
  have hbits : member? "h_bitstring" .num (r.withMode m).hBitstring =
      if ∃ o ∈ m.outcomes, o.view = .bitstring then [("h_bitstring", .num m.hBitstring)]
      else [] := by
    simp only [withMode, List.any_eq_true, decide_eq_true_eq]
    split <;> rfl
  rw [hbits, trackMembers, ← estimatorMembers_eq]
  rfl

theorem json_withAnswer : ((new filename mode bits data now).withAnswer answer).json =
    .obj (members filename mode bits data now answer) := by
  cases answer with
  | error e => rw [members, subjectMembers, ← label_eq]; rfl
  | ok result =>
    have hmodes := result.head?_modes
    rw [members, subjectMembers, ← label_eq, withAnswer, withResult]
    cases hlist : result.modes with
    | nil =>
      rw [hlist] at hmodes
      rw [← hmodes]
      rfl
    | cons m rest =>
      rw [hlist, List.head?_cons] at hmodes
      rw [← hmodes, trackMembers_withMode (new filename mode bits data now) m]
      simp [json, withMode, new, member?, version, sampleMembers]

theorem isPlain_trackMembers (track : Option ModeResult) :
    ∀ m ∈ trackMembers track, Json.IsPlain m.1 := by
  have hplain : ∀ key ∈ ["h_original", "h_bitstring", "h_assessed", "estimators"],
      Json.IsPlain key := by decide +kernel
  simp only [List.forall_mem_cons] at hplain
  cases track with
  | none => simp [trackMembers, hplain]
  | some m =>
    simp only [trackMembers, List.forall_mem_append, List.forall_mem_singleton]
    refine ⟨⟨⟨hplain.1, ?_⟩, hplain.2.2.1⟩, ?_⟩
    · split <;> simp [hplain]
    · split <;> simp [hplain]

theorem isPlain_members : ∀ m ∈ members filename mode bits data now answer, Json.IsPlain m.1 := by
  have hplain : ∀ key ∈ ["version", "filename", "test_type", "bits_per_symbol", "word_size",
      "data_size", "sample_sha256", "assessed_at", "min_entropy", "h_assessed", "error_code",
      "error_message"], Json.IsPlain key := by decide +kernel
  simp only [List.forall_mem_cons] at hplain
  cases answer with
  | error e => simp [members, subjectMembers, sampleMembers, hplain]
  | ok result =>
    simp only [members, subjectMembers, sampleMembers, List.forall_mem_append,
      List.forall_mem_cons, List.not_mem_nil, false_implies, implies_true, and_true, hplain,
      true_and]
    exact isPlain_trackMembers _

/-- The text of a report has its members on lines of their own. -/
theorem indentedText_withAnswer :
    ((new filename mode bits data now).withAnswer answer).json.indentedText =
      Json.layout (members filename mode bits data now answer) := by
  have hne : members filename mode bits data now answer ≠ [] := by
    cases answer <;> simp [members, subjectMembers]
  rw [json_withAnswer]
  exact Json.indentedText_obj hne (isPlain_members filename mode bits data now answer)

end Members

/-! ### For people -/

/-- A figure with six places after the point. -/
def places (h : Float) : String := String.ofList (Decimal.fixed 6 h)

section Sheet

end Sheet

end MinEntropy.Report

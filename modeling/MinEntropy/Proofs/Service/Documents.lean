import MinEntropy.Service.Basic

/-! The documents that the service answers with, member by member. -/

namespace MinEntropy.Service

/-- The name of a track in documents. -/
def trackName : Mode → String
  | .iid => "iid"
  | .nonIid => "non_iid"

/-- The response that tells of an error: what it is, its class, the track that it is blamed on if
there is one, whether to try again, and the name of the request. -/
def errorResponse (status : Nat) (id message kind : String) (retryable : Bool) :
    Option Mode → Response
  | none =>
    ⟨status, some "application/json", none, id, .document (.obj
      [("error", .str message), ("kind", .str kind), ("retryable", .bool retryable),
        ("request_id", .str (shownId id))])⟩
  | some mode =>
    ⟨status, some "application/json", none, id, .document (.obj
      [("error", .str message), ("kind", .str kind), ("mode", .str (trackName mode)),
        ("retryable", .bool retryable), ("request_id", .str (shownId id))])⟩

/-- An outcome as it stands under its track. Without an estimate there is a null. -/
def outcomeEntry (o : RecordedOutcome) : Json :=
  .obj
    [ ("representation", .str (if o.view = .literal then "literal" else "bitstring")),
      ("name", .str o.name),
      ("entropy_estimate", o.estimate.elim .null .num),
      ("passed", .bool o.passed)]

/-- The figures of a track, or a null for one that did not run. -/
def trackEntry : Option ModeResult → Json
  | none => .null
  | some r =>
    .obj
      [ ("mode", .str (trackName r.mode)),
        ("word_size", .nat r.wordSize.bits),
        ("alphabet_size", .nat r.alphabetSize),
        ("h_original", .num r.hOriginal),
        ("h_bitstring", .num r.hBitstring),
        ("h_assessed", .num r.hAssessed),
        ("outcomes", .arr (r.outcomes.map outcomeEntry))]

/-- The response with the figures of a result. -/
def resultResponse (id : String) (r : AssessmentResult) : Response :=
  ⟨200, some "application/json", none, id, .document (.obj
    [ ("request_id", .str (shownId id)),
      ("passed", .bool r.allPassed),
      ("summary", .str (summary r)),
      ("min_entropy", .num r.minEntropy),
      ("word_size", .nat r.wordSize),
      ("sample_count", .nat r.sampleCount),
      ("iid", trackEntry r.iid),
      ("non_iid", trackEntry r.nonIid)])⟩

@[simp] theorem status_errorResponse (status : Nat) (id message kind : String) (retryable : Bool)
    (mode : Option Mode) :
    (errorResponse status id message kind retryable mode).status = status := by
  cases mode <;> rfl

@[simp] theorem status_resultResponse (id : String) (r : AssessmentResult) :
    (resultResponse id r).status = 200 :=
  rfl

theorem json_mode (mode : Mode) : mode.json = .str (trackName mode) := by
  cases mode <;> rfl

theorem documentResponse_error (status : Nat) (id message : String) (kind : ErrorKind)
    (mode : Option Mode) (retryable : Bool) :
    documentResponse status id (errorDocument (shownId id) message kind mode retryable) =
      errorResponse status id message kind.label retryable mode := by
  cases mode with
  | none => rfl
  | some mode =>
    rw [errorResponse, ← json_mode]
    rfl

theorem json_outcome (o : RecordedOutcome) : o.json = outcomeEntry o := by
  obtain ⟨⟨name, estimate, passed⟩, view⟩ := o
  cases view <;> cases estimate <;> rfl

theorem slot_eq (r : Option ModeResult) : AssessmentResult.slot r = trackEntry r := by
  cases r with
  | none => rfl
  | some r =>
    rw [trackEntry, ← json_mode, ← funext json_outcome]
    rfl

section Endings

variable (s : Service σ τ) (id : String)

theorem response_result (r : AssessmentResult) :
    (Ending.answered (.ok r)).response s id = resultResponse id r := by
  rw [resultResponse, ← slot_eq, ← slot_eq]
  rfl

theorem response_error (e : AssessmentError) :
    (Ending.answered (.error e)).response s id =
      errorResponse (statusOf e) id e.message e.kind.label e.kind.isRetryable e.mode? :=
  documentResponse_error ..

theorem response_expired :
    Ending.expired.response s id =
      errorResponse 504 id s.deadlineMessage "resource_exhausted" true none :=
  documentResponse_error ..

theorem response_aborted (text : String) :
    (Ending.aborted text).response s id =
      errorResponse 500 id (breakdownMessage text) "foreign" false none :=
  documentResponse_error ..

end Endings

end MinEntropy.Service

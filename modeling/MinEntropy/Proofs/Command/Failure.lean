import MinEntropy.Command.Assess
import MinEntropy.Estimator.Specimen
import MinEntropy.Proofs.Assessment.Failure
import MinEntropy.Proofs.Report.Document
import MinEntropy.Proofs.Service.Documents
import MinEntropy.Proofs.Service.Hanging

/-! Errors as they are told: in the response of the service, and in the report and the message of
the command. -/

namespace MinEntropy

open Service (Ending HttpRequest Occasion errorResponse idOf routeOf shownId statusOf trackName)

/-! ### Classes -/

/-- The classes and statuses of an error, by its cause. -/
structure AssessmentError.IsClassified (e : AssessmentError) (status : Nat) : Prop where
  exhausted_iff : e.kind = .resourceExhausted ↔ e.IsExhaustion
  retryable_iff : e.kind.isRetryable = true ↔ e.IsExhaustion
  unavailable_iff : status = 503 ↔ e.IsExhaustion
  foreignCode_iff : e.foreignCode?.isSome = true ↔ e.kind = .foreign
  internal_iff : status = 500 ↔ e.kind = .foreign
  mode_iff : e.mode? = none ↔ ∃ cause, e = .rejected cause
  badRequest_iff : status = 400 ↔ ∃ cause, e = .rejected cause
  remaining : ¬ e.IsExhaustion → e.kind ≠ .foreign → e.mode? ≠ none →
    (∃ mode cause, e = .failed mode (.preparation cause)) ∧ e.kind = .invalidInput ∧ status = 422

namespace AssessmentError

theorem isClassified_statusOf (e : AssessmentError) : e.IsClassified (statusOf e) := by
  cases e with
  | rejected cause =>
    constructor <;> simp [IsExhaustion, statusOf, kind, ErrorKind.isRetryable, foreignCode?, mode?]
  | failed mode source =>
    cases source with
    | preparation cause =>
      cases cause <;> constructor <;>
        simp [IsExhaustion, statusOf, kind, ModeError.kind, ErrorKind.isRetryable, foreignCode?,
          mode?]
    | suite e =>
      cases e <;> constructor <;>
        simp [IsExhaustion, statusOf, kind, ModeError.kind, ErrorKind.isRetryable, foreignCode?,
          mode?, SuiteError.code?]

end AssessmentError

/-! ### The service -/

namespace Service

variable {s : Service σ τ} {r : HttpRequest} {o : Occasion} {st : σ × τ} {x : Exchange}
variable {e : SuiteError}

theorem asked_of_reads {p : Query.Parameters} (hroute : routeOf r = .ok .assess)
    (hreads : s.Reads r p) :
    s.asked r o st = s.coordinator.transcript (r.assessment p) o.took st := by
  rw [asked, s.watched.handle_of_assess _ _ hroute, assess_of_reads o _ (reads_watched.2 hreads)]
  exact s.coordinator.calls_watched (r.assessment p) o.took st

/-- The suite is asked over a request to assess, as the coordinator asks it, and over no other. -/
theorem reads_of_mem_asked (hx : x ∈ s.asked r o st) :
    routeOf r = .ok .assess ∧ ∃ p, s.Reads r p ∧
      x ∈ s.coordinator.transcript (r.assessment p) o.took st := by
  by_cases hroute : routeOf r = .ok .assess
  · refine ⟨hroute, ?_⟩
    rcases s.stages r with hlimit | ⟨fault, hlimit, hquery⟩ | ⟨p, hreads⟩
    · rw [asked, s.watched.handle_of_assess _ _ hroute,
        s.watched.assess_of_tooLarge o _ hlimit] at hx
      cases hx
    · rw [asked, s.watched.handle_of_assess _ _ hroute,
        s.watched.assess_of_malformed o _ hlimit hquery] at hx
      cases hx
    · rw [asked_of_reads hroute hreads] at hx
      exact ⟨p, hreads, hx⟩
  · rw [asked, state_of_other hroute] at hx
    cases hx

theorem handle_of_failure (hx : x ∈ s.asked r o st) (hfail : x.failure? = some e) :
    let ending := o.ending (.ok (.error (.failed x.call.mode (.suite e))))
    (s.handle r o st).1 = ⟨ending.response s (idOf r o), some ending⟩ := by
  obtain ⟨hroute, p, hreads, hmem⟩ := reads_of_mem_asked hx
  rw [s.handle_of_assess o st hroute, assess_of_reads o st hreads,
    Coordinator.assess_of_failure hmem hfail]

variable (s) in
theorem response_foreign (mode : Mode) (code : Int) (text id : String) :
    (Ending.answered (.error (.foreign mode code text))).response s id =
      errorResponse 500 id (AssessmentError.foreignMessage mode code text) "foreign" false
        (some mode) := by
  have hkind := AssessmentError.kind_foreign mode code text
  have hstatus : statusOf (.foreign mode code text) = 500 :=
    (AssessmentError.isClassified_statusOf _).internal_iff.2 hkind
  rw [response_error, hstatus, hkind, AssessmentError.message_foreign]
  rfl

end Service

/-! ### The command -/

/-- A report of failure, in which the message stands last, on a line of its own. -/
structure Report.TellsOf (report : Report) (message : String) : Prop where
  isSuccess : report.isSuccess = false
  errorMessage : report.errorMessage = some message
  json : ∃ before, report.json = .obj (before ++ [("error_message", .str message)]) ∧
    report.json.indentedText = Json.layout (before ++ [("error_message", .str message)])

theorem Report.tellsOf_withAnswer (filename : String) (mode : Mode) (bits : Nat)
    (data : List UInt8) (now : String) (e : AssessmentError) :
    ((new filename mode bits data now).withAnswer (.error e)).TellsOf e.message := by
  have hmembers : members filename mode bits data now (.error e) =
      subjectMembers filename mode bits ++ sampleMembers data now ++
        [("min_entropy", .num 0.0), ("h_assessed", .num 0.0), ("error_code", .nat 1)] ++
        [("error_message", .str e.message)] := by
    simp [members]
  exact ⟨rfl, rfl, _, (json_withAnswer ..).trans (congrArg Json.obj hmembers),
    (indentedText_withAnswer ..).trans (congrArg Json.layout hmembers)⟩

namespace Command

variable {x : Exchange} {e : SuiteError}

/-- The request for the samples of a command. -/
def AssessArguments.request (a : AssessArguments) (data : List UInt8) : Request :=
  ⟨data, a.bits, a.mode = .iid, a.mode = .nonIid⟩

/-- The exchanges of a command with its suite. -/
def ReadySuite.asked (s : ReadySuite) (a : AssessArguments) (data : List UInt8) : List Exchange :=
  (s.suite.transcribed.answerRequest (a.request data) (s.start, [])).2.2

section Answer

variable {s : ReadySuite} {a : AssessArguments} {data : List UInt8}

theorem asked_of_rejected {cause : RequestError} (hr : (a.request data).validate = .error cause) :
    s.asked a data = [] := by
  rw [ReadySuite.asked, Suite.answerRequest, hr]

theorem asked_of_sound {selection : Selection} (hr : (a.request data).validate = .ok selection) :
    s.asked a data = s.suite.exchanges (a.request data) s.start := by
  rw [ReadySuite.asked, Suite.answerRequest, hr]
  dsimp only
  rw [Suite.runRequest_transcribed, List.nil_append]

theorem answer_of_failure (hx : x ∈ s.asked a data) (hfail : x.failure? = some e) :
    s.answer a data = .error (.failed x.call.mode (.suite e)) := by
  cases hr : (a.request data).validate with
  | error cause =>
    rw [asked_of_rejected hr] at hx
    cases hx
  | ok selection =>
    rw [asked_of_sound hr] at hx
    have hanswer : s.answer a data = (s.suite.answerRequest (a.request data) s.start).1 := rfl
    rw [hanswer, Suite.answerRequest, hr]
    exact s.suite.runRequest_of_failure hx hfail

end Answer

section Assess

variable {w : World ω} {settings : Settings} {a : AssessArguments} {ready : ReadySuite}
variable {line : Log.Line} {filename : String} {data : List UInt8}

theorem exists_conclude
    (hsuite : chooseSuite w a.suite settings (a.verbose.getD settings.verbosity) =
      .ok (ready, line))
    (hsamples : readSamples w a.file = .ok (filename, data)) :
    ∃ log, assess w settings a =
      conclude w a (a.verbose.getD settings.verbosity) filename data (ready.answer a data) log := by
  unfold assess
  dsimp only
  rw [hsuite, hsamples]
  exact ⟨_, rfl⟩

/-- A failed assessment is told on its own, or written as a report. -/
theorem conclude_of_error (w : World ω) (a : AssessArguments) (verbose : Nat) (filename : String)
    (data : List UInt8) (e : AssessmentError) (log : List Log.Line) :
    let outcome := conclude w a verbose filename data (.error e) log
    (a.output = none → outcome.error = some (.assessment e)) ∧
    ∀ path, a.output = some path → w.destination path = .file →
      outcome.written = some (path,
        ((Report.new filename a.mode a.bits data w.now).withError e).json.indentedText) := by
  refine ⟨fun hnone => ?_, fun path hpath hfile => ?_⟩
  · unfold conclude
    rw [hnone]
    rfl
  · unfold conclude
    rw [hpath]
    simp only [writeReport, hfile]
    rfl

end Assess

end Command

/-! ### All of them -/

open Service Command in
/-- A code and a text come out of an assessment as the suite gave them, and the service and the
command tell them in the same words. The classes of all errors agree with their statuses. -/
theorem failure_told (code : Int) (text : String) (c : Coordinator σ τ) (r : Request)
    (took : Duration) (st : σ × τ) (s : Service σ τ) (q : HttpRequest) (o : Occasion)
    (w : World ω) (settings : Settings) (a : AssessArguments) (ready : ReadySuite)
    (filename : String) (data : List UInt8) :
    (∀ x ∈ c.transcript r took st, x.FailsWith code text →
      ∃ e, (c.assess r took st).1 = .ok (.error e) ∧ e = .foreign x.call.mode code text ∧
        e.foreignCode? = some code ∧
        e.message = AssessmentError.foreignMessage x.call.mode code text) ∧
    (∀ x ∈ s.asked q o st, x.FailsWith code text →
      (o.hangs = true → (s.handle q o st).1.ending = some .expired) ∧
      (o.hangs = false → (s.handle q o st).1.response =
        errorResponse 500 (idOf q o) (AssessmentError.foreignMessage x.call.mode code text)
          "foreign" false (some x.call.mode))) ∧
    (∀ x ∈ ready.asked a data, x.FailsWith code text →
      let report := (Report.new filename a.mode a.bits data w.now).withAnswer (ready.answer a data)
      report.TellsOf (AssessmentError.foreignMessage x.call.mode code text) ∧
      ∀ line, chooseSuite w a.suite settings (a.verbose.getD settings.verbosity) =
          .ok (ready, line) →
        readSamples w a.file = .ok (filename, data) →
        (a.output = none → (Command.assess w settings a).error.map (·.message) =
          some (AssessmentError.foreignMessage x.call.mode code text)) ∧
        ∀ path, a.output = some path → w.destination path = .file →
          (Command.assess w settings a).written = some (path, report.json.indentedText)) ∧
    ∀ e id, AssessmentError.IsClassified e ((Ending.answered (.error e)).response s id).status := by
  refine ⟨fun x hx hfails => ?_, fun x hx hfails => ?_, fun x hx hfails => ?_,
    fun e id => e.isClassified_statusOf⟩
  · exact ⟨_, Coordinator.assess_of_failure hx hfails.failure?_eq, rfl,
      AssessmentError.foreignCode?_foreign _ code text, AssessmentError.message_foreign _ code text⟩
  · rw [handle_of_failure hx hfails.failure?_eq]
    refine ⟨fun hhangs => ?_, fun hhangs => ?_⟩
    · simp [Occasion.ending, hhangs, askedSuite]
    · rw [ending_of_calm hhangs]
      exact s.response_foreign x.call.mode code text (idOf q o)
  · rw [answer_of_failure hx hfails.failure?_eq, ← AssessmentError.message_foreign]
    refine ⟨Report.tellsOf_withAnswer .., fun line hsuite hsamples => ?_⟩
    obtain ⟨log, hassess⟩ := exists_conclude hsuite hsamples
    rw [hassess, answer_of_failure hx hfails.failure?_eq]
    obtain ⟨htold, hwritten⟩ := conclude_of_error w a (a.verbose.getD settings.verbosity) filename
      data (.foreign x.call.mode code text) log
    refine ⟨fun hnone => ?_, hwritten⟩
    exact congrArg (Option.map Failure.message) (htold hnone)

set_option maxRecDepth 4000 in
open Service Command in
/-- A library ends its first call with a positive code. -/
theorem failure_told_by_library :
    let script : Specimen.Script := .result (Specimen.failure 7 "odd")
    let suite : Suite (Usage × Specimen.Script) := Binding.suite ⟨Specimen.run, 1⟩
    let st := (Usage.none, script)
    let c : Coordinator (Usage × Specimen.Script) Unit := ⟨suite, .silent⟩
    let r : Request := ⟨[0, 1, 2], 0, false, true⟩
    let s : Service (Usage × Specimen.Script) Unit := ⟨.default, c, none⟩
    let q : HttpRequest := ⟨"POST", "/api/v1/assess?non_iid=true", [], r.data⟩
    let o : Occasion := ⟨"one", ⟨0, 0⟩, false⟩
    let w : World Specimen.Script :=
      ⟨fun _ => .error "", fun _ => .file, Specimen.named?, script, .ok r.data, fun _ => true,
        fun _ => none, ""⟩
    let a : AssessArguments :=
      ⟨.nonIid, 0, some 1, some "report.json", .json, ⟨some "stub", false⟩, none⟩
    let message := "Non-IID assessment failed: estimator suite raised an exception (code 7): odd"
    (∃ e, (c.assess r ⟨0, 0⟩ (st, ())).1 = .ok (.error e) ∧ e.message = message) ∧
    (s.handle q o (st, ())).1.response =
      ⟨500, some "application/json", none, "one", .document (.obj
        [("error", .str message), ("kind", .str "foreign"), ("mode", .str "non_iid"),
          ("retryable", .bool false), ("request_id", .str "one")])⟩ ∧
    ∃ before, (Command.assess w .default a).written = some ("report.json",
      Json.layout (before ++ [("error_message", .str message)])) := by
  intro script suite st c r s q o w a message
  let x : Exchange := ⟨⟨.nonIid, .bitstring, [0, 0, 0, 1, 1, 0], 2⟩, .failure (.ofCode 7 "odd")⟩
  have hp : Samples.prepare [0, 1, 2] 0 =
      .ok ⟨[0, 1, 2], some [0, 0, 0, 1, 1, 0], 3, ⟨2, by decide, by decide⟩⟩ := by
    decide +kernel
  have htext : Text.Utf8.untilZero (fixedBytes 512 (Specimen.bytes "odd")).toList = "odd" := by
    decide +kernel
  have hreply : (suite.answer x.call st).1 = x.reply :=
    congrArg (Reply.failure <| SuiteError.ofCode 7 ·) htext
  have hfail : Exchange.failure? ⟨x.call, (suite.answer x.call st).1⟩ = some (.ofCode 7 "odd") := by
    rw [hreply]
    rfl
  have hexchanges : suite.exchanges r st = [x] := by
    rw [Suite.exchanges, hp]
    change (suite.converse (x.call :: _) st).1 = [x]
    rw [suite.converse_of_failure _ hfail, hreply]
  have hr : r.validate = .ok .nonIid := rfl
  have htranscript : c.transcript r ⟨0, 0⟩ (st, ()) = [x] :=
    (c.transcript_of_running _ _ hr rfl).trans hexchanges
  have hreads : s.Reads q ⟨0, false, true⟩ := ⟨by decide, by decide +kernel⟩
  have hserved : s.asked q o (st, ()) = [x] :=
    (asked_of_reads (by decide +kernel) hreads).trans htranscript
  let ready : ReadySuite := ⟨_, suite, st⟩
  have hcommanded : ready.asked a r.data = [x] :=
    (@asked_of_sound ready a r.data _ hr).trans hexchanges
  have hmessage : AssessmentError.foreignMessage .nonIid 7 "odd" = message := by decide +kernel
  obtain ⟨hassess, hserve, hcommand, -⟩ :=
    failure_told 7 "odd" c r ⟨0, 0⟩ (st, ()) s q o w .default a ready "-" r.data
  have hfails : x.FailsWith 7 "odd" := .inl rfl
  refine ⟨?_, ?_, ?_⟩
  · obtain ⟨e, hanswer, -, -, htold⟩ := hassess x (by rw [htranscript]; exact .head _) hfails
    exact ⟨e, hanswer, htold.trans hmessage⟩
  · have hname : idOf q o = "one" := by decide +kernel
    have hshown : shownId "one" = "one" := by decide +kernel
    rw [(hserve x (by rw [hserved]; exact .head _) hfails).2 rfl, hmessage, hname]
    simp only [x, errorResponse, hshown, trackName]
  · obtain ⟨⟨-, -, before, -, htext⟩, houtput⟩ :=
      hcommand x (by rw [hcommanded]; exact .head _) hfails
    refine ⟨before, ?_⟩
    rw [← hmessage]
    exact ((houtput _ rfl rfl).2 "report.json" rfl rfl).trans (by rw [htext])

end MinEntropy

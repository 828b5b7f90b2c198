import MinEntropy.Log.Basic
import MinEntropy.Service.Basic

/-! What the service writes into its log. -/

namespace MinEntropy.Service

/-- The part of the program that the service speaks for. -/
def target : String := "sp800_90b_assess::server"

/-- What the service itself says. -/
def spoken (level : Log.Level) (message : String) (fields : Log.Fields) : Log.Line :=
  ⟨level, target, message, fields, none⟩

/-- The time in milliseconds. -/
def millis (took : Duration) : Nat := took.seconds * 1000 + took.nanos / 1000000

def failureFields (e : AssessmentError) : Log.Fields :=
  [("error", e.message), ("kind", e.kind.label), ("status", toString (statusOf e))]

def resultFields (r : AssessmentResult) (sampleBytes : Nat) (took : Duration) : Log.Fields :=
  [("sample_bytes", toString sampleBytes),
    ("min_entropy", String.ofList (Json.figureText r.minEntropy)),
    ("word_size", toString r.wordSize), ("elapsed_ms", toString (millis took))]

/-- The line for a body that is not read to its end. -/
def rejectedBody : Log.Line :=
  ⟨.trace, "axum::rejection", "rejecting request",
    [("status", "413"), ("body", Text.Quoted.text tooLargeMessage),
      ("rejection_type", Text.Quoted.text "axum_core::extract::rejection::LengthLimitError")],
    none⟩

/-- The line for what a request came to. -/
def Ending.line (s : Service σ τ) (r : HttpRequest) (id : String) (took : Duration) :
    Ending → Log.Line
  | tooLarge => rejectedBody
  | answered (.ok result) =>
    spoken .info "Assessment completed"
      (("request_id", shownId id) :: resultFields result r.body.length took)
  | answered (.error e) =>
    match e with
    | .rejected (.malformedQuery _) =>
      spoken .warn "Assessment rejected" [("request_id", shownId id), ("error", e.message)]
    | _ => spoken .warn "Assessment failed" (("request_id", shownId id) :: failureFields e)
  | expired =>
    spoken .warn "Assessment exceeded deadline"
      [("request_id", shownId id), ("timeout_secs", s!"{s.settings.timeoutSeconds}.0")]
  | aborted text =>
    spoken .error "Assessment task aborted"
      [("request_id", shownId id), ("error", breakdownCause text)]

/-- The part of the program that follows requests from their arrival to their response. -/
def follower (part : String) : String := "tower_http::trace::" ++ part

/-- A request as the work that lines belong to. -/
def HttpRequest.span (r : HttpRequest) : Log.Span :=
  ⟨.debug, follower "make_span", "request",
    [("method", r.method), ("uri", r.target), ("version", "HTTP/1.1")]⟩

def arrived : Log.Line :=
  ⟨.debug, follower "on_request", "started processing request", [], none⟩

def latencyField (took : Duration) : String × String :=
  ("latency", s!"{millis took} ms")

def answeredLine (status : Nat) (took : Duration) : Log.Line :=
  ⟨.debug, follower "on_response", "finished processing request",
    [latencyField took, ("status", toString status)], none⟩

/-- The meaning of the statuses that a service is to blame for. -/
def statusPhrase : Nat → String
  | 500 => "500 Internal Server Error"
  | 503 => "503 Service Unavailable"
  | 504 => "504 Gateway Timeout"
  | status => toString status

/-- A line for every response that the service is to blame for. -/
def failureLine? (status : Nat) (took : Duration) : Option Log.Line :=
  if status < 500 then none
  else some ⟨.error, follower "on_failure", "response failed",
    [("classification", s!"Status code: {statusPhrase status}"), latencyField took], none⟩

/-- The lines for a request that has been handled, from its arrival on. -/
def Handled.lines (s : Service σ τ) (h : Handled) (r : HttpRequest) (took : Duration) :
    List Log.Line :=
  (arrived :: (h.ending.map (Ending.line s r h.response.requestId took)).toList ++
    answeredLine h.response.status took :: (failureLine? h.response.status took).toList).map
      fun l => { l with span := some r.span }

def listening (address suite : String) (metrics : Bool) : Log.Line :=
  spoken .info "Assessment server listening"
    [("addr", address), ("suite", Text.Quoted.text suite), ("metrics", toString metrics)]

def signalReceived : Log.Line := spoken .info "Shutdown signal received" []

def stopped : Log.Line := spoken .info "Assessment server stopped" []

end MinEntropy.Service

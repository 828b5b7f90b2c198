import MinEntropy.Assessment.Document
import MinEntropy.Report.Basic
import MinEntropy.Report.Text
import MinEntropy.Service.Exchange
import MinEntropy.Service.Query
import MinEntropy.Settings.Basic

/-! The assessment service: its routes, what an assessment request comes to, and the response to
each ending. -/

namespace MinEntropy

/-- A service around a coordinator. -/
structure Service (σ τ : Type) where
  settings : ServiceSettings
  coordinator : Coordinator σ τ
  /-- The account that is given out, if any. -/
  metrics : Option (τ → Metrics.Registry)

namespace Service

/-- What the settings of a service are refused with. -/
def refusal (e : SettingsError) : String := s!"invalid server configuration: {e.message}"

/-- A service with settings that have been checked. -/
def createWith (resolve : Resolver) (settings : ServiceSettings) (coordinator : Coordinator σ τ)
    (metrics : Option (τ → Metrics.Registry)) : Except SettingsError (Service σ τ) :=
  match settings.fault? resolve with
  | some e => .error e
  | none => .ok ⟨settings, coordinator, metrics⟩

def create (settings : ServiceSettings) (coordinator : Coordinator σ τ)
    (metrics : Option (τ → Metrics.Registry)) : Except SettingsError (Service σ τ) :=
  createWith Net.Address.ofHost? settings coordinator metrics

/-- What happens around a request and is not decided by it. -/
structure Occasion where
  /-- The name of the request, should it not have one. -/
  generatedId : String
  took : Duration
  /-- The suite does not return before the deadline. -/
  hangs : Bool

/-! ### Endings -/

/-- What an assessment request comes to. -/
inductive Ending where
  | tooLarge
  | answered (answer : Except AssessmentError AssessmentResult)
  /-- The deadline passed. -/
  | expired
  /-- The observer broke down. -/
  | aborted (text : String)

/-- The suite has been asked at least once. -/
def askedSuite : Except AssessmentError AssessmentResult → Bool
  | .ok _ => true
  | .error (.failed _ (.suite _)) => true
  | .error _ => false

/-- Why a query cannot be used. -/
def queryRefusal (e : Query.Fault) : RequestError :=
  .malformedQuery s!"Failed to deserialize query string: {e.message}"

/-- A body within the limit and a readable query make an assessment. A suite that hangs still ends
its work, but nobody waits for it. -/
def assess (s : Service σ τ) (r : HttpRequest) (o : Occasion) (st : σ × τ) : Ending × (σ × τ) :=
  if s.settings.maxUploadBytes < r.body.length then (.tooLarge, st)
  else match Query.parameters r.query with
    | .error e =>
      let (e, st) := s.coordinator.reject (queryRefusal e) st
      (.answered (.error e), st)
    | .ok p =>
      match s.coordinator.assess ⟨r.body, p.wordSize, p.iid, p.nonIid⟩ o.took st with
      | (.error text, st) => (.aborted text, st)
      | (.ok answer, st) =>
        (if o.hangs && askedSuite answer then .expired else .answered answer, st)

/-! ### Responses -/

/-- The status for an error: the request's fault, the samples' fault, a lack of resources, or the
suite's fault. -/
def statusOf (e : AssessmentError) : Nat :=
  match e, e.kind with
  | .rejected _, _ => 400
  | _, .invalidInput => 422
  | _, .resourceExhausted => 503
  | _, .foreign => 500

/-- A result in one sentence. -/
def summary (r : AssessmentResult) : String :=
  "min-entropy " ++ Report.figureText r.minEntropy ++ s!" bits per {r.wordSize}-bit sample over " ++
    s!"{r.sampleCount} samples"

def resultDocument (id : String) (r : AssessmentResult) : Json :=
  .obj ([("request_id", .str id), ("passed", .bool r.allPassed), ("summary", .str (summary r))] ++
    r.members)

def errorDocument (id message : String) (kind : ErrorKind) (mode : Option Mode)
    (retryable : Bool) : Json :=
  .obj ([("error", .str message), ("kind", .str kind.label)] ++
    Report.member? "mode" Mode.json mode ++
    [("retryable", .bool retryable), ("request_id", .str id)])

def jsonType : String := "application/json"

def textType : String := "text/plain; charset=utf-8"

def metricsType : String := "text/plain; version=0.0.4; charset=utf-8"

def documentResponse (status : Nat) (id : String) (document : Json) : Response :=
  ⟨status, some jsonType, none, id, .document document⟩

def tooLargeMessage : String := "Failed to buffer the request body: length limit exceeded"

/-- The message for a request that was not answered in time. -/
def deadlineMessage (s : Service σ τ) : String :=
  s!"assessment did not finish within {s.settings.timeoutSeconds}s"

/-- A breakdown of the observer, without the number of the task. -/
def breakdownCause (text : String) : String :=
  "task N panicked with message " ++ Text.Quoted.text text

/-- The message for a breakdown of the observer. -/
def breakdownMessage (text : String) : String := "assessment task aborted: " ++ breakdownCause text

/-- The response to an ending, for a request of the given name. -/
def Ending.response (s : Service σ τ) (id : String) : Ending → Response
  | tooLarge => ⟨413, some textType, none, id, .text tooLargeMessage⟩
  | answered (.ok r) => documentResponse 200 id (resultDocument (shownId id) r)
  | answered (.error e) =>
    documentResponse (statusOf e) id
      (errorDocument (shownId id) e.message e.kind e.mode? e.kind.isRetryable)
  | expired =>
    documentResponse 504 id
      (errorDocument (shownId id) s.deadlineMessage .resourceExhausted none true)
  | aborted text =>
    documentResponse 500 id (errorDocument (shownId id) (breakdownMessage text) .foreign none false)

/-! ### Routes -/

inductive Route where
  | assess
  | health
  | metrics
  deriving DecidableEq, Repr

namespace Route

def path : Route → String
  | assess => "/api/v1/assess"
  | health => "/health"
  | metrics => "/metrics"

def all : List Route := [.assess, .health, .metrics]

def ofPath? (path : String) : Option Route := all.find? fun r => r.path = path

/-- The methods of a route. -/
def methods : Route → List String
  | assess => ["POST"]
  | health | metrics => ["GET", "HEAD"]

end Route

def healthDocument : Json := .obj [("status", .str "ok"), ("version", .str version)]

def metricsResponse (s : Service σ τ) (id : String) (seen : τ) : Response :=
  match s.metrics with
  | none => ⟨404, some textType, none, id, .text "metrics disabled"⟩
  | some account => ⟨200, some metricsType, none, id, .account (account seen)⟩

/-- A response, and what an assessment request came to. -/
structure Handled where
  response : Response
  ending : Option Ending

/-- The response of a route to one of its methods. -/
def serveRoute (s : Service σ τ) (route : Route) (id : String) (r : HttpRequest) (o : Occasion)
    (st : σ × τ) : Handled × (σ × τ) :=
  match route with
  | .assess =>
    let (ending, st) := s.assess r o st
    (⟨ending.response s id, some ending⟩, st)
  | .health => (⟨documentResponse 200 id healthDocument, none⟩, st)
  | .metrics => (⟨s.metricsResponse id st.2, none⟩, st)

/-- A response to a request for the headers alone. -/
def withoutBody (r : Response) : Response := { r with body := .empty }

/-- The name of a request: its own, or the generated one. -/
def idOf (r : HttpRequest) (o : Occasion) : String :=
  (r.header? HttpRequest.idHeader).getD o.generatedId

/-- The response where there is no route, or none for the method. -/
def unserved (id : String) : Option Route → Handled
  | none => ⟨⟨404, none, none, id, .empty⟩, none⟩
  | some route => ⟨⟨405, none, some (",".intercalate route.methods), id, .empty⟩, none⟩

/-- Handles a request. -/
def handle (s : Service σ τ) (r : HttpRequest) (o : Occasion) (st : σ × τ) :
    Handled × (σ × τ) :=
  let id := idOf r o
  match Route.ofPath? r.path with
  | none => (unserved id none, st)
  | some route =>
    if r.method ∈ route.methods then
      let (h, st) := s.serveRoute route id r o st
      (if r.method = "HEAD" then { h with response := withoutBody h.response } else h, st)
    else (unserved id (some route), st)

/-- Handles requests one after the other; each stands with the state that follows it. -/
def handleAll (s : Service σ τ) :
    List (HttpRequest × Occasion) → σ × τ → List (Handled × (σ × τ))
  | [], _ => []
  | (r, o) :: rest, st =>
    let (h, st) := s.handle r o st
    (h, st) :: s.handleAll rest st

end Service

end MinEntropy

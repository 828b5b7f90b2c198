import MinEntropy.Command.World
import MinEntropy.Service.Journal

/-! The command that runs the assessment service until it is told to stop. -/

namespace MinEntropy.Command

/-- The requests of one run of the service. -/
structure Visit where
  /-- Another program listens at the address. -/
  addressTaken : Bool
  requests : List (Service.HttpRequest × Service.Occasion)

/-- What a run of the service leaves behind, and its responses if it could be started. -/
structure Served where
  outcome : Outcome
  responses : Option (List Service.Response)

namespace Served

def failed (log : List Log.Line) (e : Failure) : Served := ⟨.failed log e, none⟩

end Served

/-- A service that accounts for its assessments, unless it is set up not to. -/
def makeService (s : Settings) (suite : Suite σ) :
    Except SettingsError (Service σ Metrics.Registry) :=
  Service.create s.service ⟨suite, if s.service.metricsEnabled then .accounting else .deaf⟩
    (if s.service.metricsEnabled then some id else none)

/-- A run of the service on a suite: it starts, answers, and is told to stop. -/
def runService (s : Settings) (ready : ReadySuite) (log : List Log.Line) (v : Visit) : Served :=
  match makeService s ready.suite with
  | .error e => .failed log (.refused e)
  | .ok service =>
    if v.addressTaken then .failed log .addressInUse
    else
      let handled := (service.handleAll v.requests (ready.start, .empty)).map (·.1)
      let start := Service.listening (s.service.bindAddress?.getD "") ready.suite.name
        s.service.metricsEnabled
      let told := (v.requests.zip handled).flatMap fun ((r, o), h) => h.lines service r o.took
      let log := log ++ start :: told ++ [Service.signalReceived, Service.stopped]
      ⟨⟨0, "", none, log, none⟩, some (handled.map (·.response))⟩

/-- The suite is set up before the service. -/
def serve (w : World σ) (s : Settings) (a : SuiteArguments) (v : Visit) : Served :=
  match chooseSuite w a s s.verbosity with
  | .error e => .failed [] e
  | .ok (ready, line) => runService s ready [line] v

end MinEntropy.Command

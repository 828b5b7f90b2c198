import MinEntropy.Command.Assess
import MinEntropy.Command.Serve
import MinEntropy.Report.Basic

/-! The whole tool: arguments, settings, and the command they ask for. -/

namespace MinEntropy.Command

/-- The name of the tool. -/
def toolName : String := "ea-tool"

/-- What comes of arguments that ask for nothing to be done. It need not be printed. -/
def Halt.outcome (takes : Stream → Bool) : Halt → Outcome
  | help => .silent 0
  | version =>
    { Outcome.silent 0 with
      output := if takes .output then s!"{toolName} {MinEntropy.version}\n" else "" }
  | misuse => .silent 2

/-- What a command leaves behind, and the filter for its log. -/
structure Finished where
  outcome : Outcome
  filter : Log.Filter
  /-- The responses of a service that could be started. -/
  responses : Option (List Service.Response)

/-- The lines of the log that are let through. -/
def Finished.log (f : Finished) : List Log.Line := f.filter.apply f.outcome.log

/-- A command with its settings and the filter for its log. -/
def runTask (w : World σ) (s : Settings) (f : Log.Filter) (v : Visit) : Task → Finished
  | .assess a => ⟨assess w s a, f, none⟩
  | .serve a =>
    let served := serve w s a v
    ⟨served.outcome, f, served.responses⟩

/-- Settings come before the filter, and the filter before everything else. -/
def perform (w : World σ) (a : Arguments) (v : Visit) : Finished :=
  match loadSettings w a.config with
  | .error e => ⟨.failed [] (.settings e), .errors, none⟩
  | .ok s =>
    match filter w s with
    | none => ⟨.silent breakdownExit, .errors, none⟩
    | some f => runTask w s f v a.task

/-- Arguments come before everything else, and the streams decide in the end. -/
def run (w : World σ) (tokens : List String) (v : Visit) : Finished :=
  match parse tokens with
  | .error halt => ⟨halt.outcome w.takes, .errors, none⟩
  | .ok a =>
    let f := perform w a v
    { f with outcome := f.outcome.through w.takes }

end MinEntropy.Command

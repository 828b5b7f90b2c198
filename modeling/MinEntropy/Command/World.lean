import MinEntropy.Assessment.Error
import MinEntropy.Command.Arguments
import MinEntropy.Command.Directory
import MinEntropy.Estimator.Mock
import MinEntropy.Log.Filter
import MinEntropy.Settings.Environment

/-! What a command finds around it, what it leaves behind, and the suite it works with. -/

namespace MinEntropy.Command

/-- The standard streams that a command writes to. -/
inductive Stream where
  | output
  | errors
  deriving DecidableEq, Repr

/-- What a command finds around it. -/
structure World (σ : Type) where
  read : String → Except String (List UInt8)
  /-- Where a text goes that is written to a path. -/
  destination : String → Directory.Destination
  library? : String → Option (Library σ)
  /-- The state in which libraries begin. -/
  libraryStart : σ
  /-- The bytes of the standard input, or why it cannot be read. -/
  input : Except String (List UInt8)
  /-- A stream takes all that is written to it. -/
  takes : Stream → Bool
  environment : Settings.Environment
  now : String

/-- Why a command fails. -/
inductive Failure where
  | settings (e : SettingsError)
  | noSuite
  | library (e : LibraryError)
  | unreadable (path reason : String)
  | unwritable (path reason : String)
  | assessment (e : AssessmentError)
  | refused (e : SettingsError)
  | addressInUse

namespace Failure

def message : Failure → String
  | settings e => e.message
  | noSuite =>
    "no estimator library configured (use --library, EA_ESTIMATOR_LIBRARY or --mock)"
  | library e => e.message
  | unreadable path reason => s!"failed to read {path}: {reason}"
  | unwritable path reason => s!"failed to write {path}: {reason}"
  | assessment e => e.message
  | refused e => s!"invalid server configuration: {e.message}"
  | addressInUse => "failed to bind to address: Address already in use (os error 98)"

/-- Two when the command was not set up rightly, one when it could not be done. -/
def exitCode : Failure → Nat
  | settings _ | noSuite => 2
  | _ => 1

end Failure

/-- The exit code of a breakdown. -/
def breakdownExit : Nat := 101

/-- What a command leaves behind. -/
structure Outcome where
  exitCode : Nat
  output : String
  error : Option Failure
  /-- Every line, whether it is let through or not. -/
  log : List Log.Line
  /-- A path and the text written to it. -/
  written : Option (String × String)

namespace Outcome

/-- Nothing was done. -/
def silent (exitCode : Nat) : Outcome := ⟨exitCode, "", none, [], none⟩

def failed (log : List Log.Line) (e : Failure) : Outcome := ⟨e.exitCode, "", some e, log, none⟩

/-- The streams take what is printed and what is told. -/
def isTaken (takes : Stream → Bool) (o : Outcome) : Bool :=
  (o.output.isEmpty || takes .output) && (o.error.isNone || takes .errors)

/-- A command breaks down when it cannot print or tell something. What it has written stays. -/
def through (takes : Stream → Bool) (o : Outcome) : Outcome :=
  if o.isTaken takes then o else { o with exitCode := breakdownExit, output := "", error := none }

end Outcome

/-- The part of the program that commands speak for. -/
def tool : String := "ea_tool"

/-- A suite with its first state. -/
structure ReadySuite where
  State : Type
  suite : Suite State
  start : State

def mockWarning : Log.Line :=
  ⟨.warn, tool, "Using the mock estimator suite; results are NOT entropy assessments", [], none⟩

def loaded (path : String) : Log.Line :=
  ⟨.info, "sp800_90b_assess::estimators::native", "Loaded native estimator library",
    [("path", path), ("abi_version", toString libraryVersion)], none⟩

/-- The stand-in, or else the library named in the arguments or in the settings. -/
def chooseSuite (w : World σ) (a : SuiteArguments) (s : Settings) (verbose : Nat) :
    Except Failure (ReadySuite × Log.Line) :=
  if a.mock then .ok (⟨_, Mock.suite .estimates, []⟩, mockWarning)
  else match a.library <|> s.library with
    | none => .error .noSuite
    | some path =>
      match Binding.load path (w.library? path) verbose with
      | .error e => .error (.library e)
      | .ok b => .ok (⟨_, b.suite, (Usage.none, w.libraryStart)⟩, loaded path)

/-- The settings of the file named, changed by the environment. -/
def loadSettings (w : World σ) (config : Option String) : Except SettingsError Settings :=
  Settings.load (config.map w.read) w.environment

/-- The filter for log lines, unless reading it breaks down. -/
def filter (w : World σ) (s : Settings) : Option Log.Filter :=
  Log.Filter.choose (w.environment "RUST_LOG") s.level

end MinEntropy.Command

import MinEntropy.Net.Address
import MinEntropy.Text.Quoted

/-! The settings of the tool, their defaults, and when they are valid. -/

namespace MinEntropy

/-- Why settings are refused. -/
inductive SettingsError where
  | invalidPort
  | invalidHost (host : String)
  | uploadLimitTooSmall (bytes : Nat)
  | invalidTimeout
  | invalidLogLevel (level : String)
  /-- A variable of the environment holds no value of the right kind. -/
  | invalidVariable (key value : String)
  | unreadableFile (reason : String)
  | unparsableFile
  deriving DecidableEq, Repr

def SettingsError.message : SettingsError → String
  | invalidPort => "invalid server port (must be 1-65535)"
  | invalidHost host => s!"invalid server host: {host}"
  | uploadLimitTooSmall bytes =>
    s!"max upload size too small: {bytes} (must be at least 1024 bytes)"
  | invalidTimeout => "timeout must be at least one second"
  | invalidLogLevel level =>
    s!"invalid log level: {level} (must be trace, debug, info, warn, or error)"
  | invalidVariable key value => "invalid value for " ++ key ++ ": " ++ Text.Quoted.text value
  | unreadableFile reason => s!"failed to read config file: {reason}"
  | unparsableFile => "failed to parse config file"

/-- How the text of a host is resolved. -/
abbrev Resolver := String → Option Net.Address

/-- The settings of the service. -/
structure ServiceSettings where
  host : String
  port : Nat
  metricsEnabled : Bool
  /-- The longest request body. -/
  maxUploadBytes : Nat
  /-- How long a request waits for its assessment. -/
  timeoutSeconds : Nat
  deriving DecidableEq, Repr

namespace ServiceSettings

def default : ServiceSettings := ⟨"0.0.0.0", 9091, true, 100 * 1024 * 1024, 300⟩

/-- The least upload limit. -/
def minUploadBytes : Nat := 1024

/-- The address to bind. -/
def address? (s : ServiceSettings) : Option Net.Address := Net.Address.ofHost? s.host

def bindAddress? (s : ServiceSettings) : Option String :=
  s.address?.map (·.withPort s.port)

/-- The first fault, in the order port, upload limit, timeout, host. -/
def fault? (s : ServiceSettings) (resolve : Resolver) : Option SettingsError :=
  if s.port = 0 then some .invalidPort
  else if s.maxUploadBytes < minUploadBytes then some (.uploadLimitTooSmall s.maxUploadBytes)
  else if s.timeoutSeconds = 0 then some .invalidTimeout
  else if (resolve s.host).isNone then some (.invalidHost s.host)
  else none

end ServiceSettings

structure Settings where
  service : ServiceSettings
  /-- The estimator library. -/
  library : Option String
  /-- How much the estimator library tells. -/
  verbose : Nat
  /-- Fewer samples than these give unreliable figures. -/
  minRecommendedSamples : Nat
  /-- Log messages below this level are left out. -/
  level : String
  deriving DecidableEq, Repr

namespace Settings

def default : Settings := ⟨.default, none, 1, 1000000, "info"⟩

/-- The highest verbosity that a library knows. -/
def maxVerbosity : Nat := 3

def verbosity (s : Settings) : Nat := min s.verbose maxVerbosity

def levels : List String := ["trace", "debug", "info", "warn", "error"]

/-- The service is looked at before the log level. -/
def fault? (s : Settings) (resolve : Resolver) : Option SettingsError :=
  match s.service.fault? resolve with
  | some e => some e
  | none => if s.level ∈ levels then none else some (.invalidLogLevel s.level)

def validate (s : Settings) (resolve : Resolver) : Except SettingsError Settings :=
  match s.fault? resolve with
  | some e => .error e
  | none => .ok s

end Settings

end MinEntropy

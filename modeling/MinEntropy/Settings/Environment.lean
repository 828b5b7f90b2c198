import MinEntropy.Settings.File
import MinEntropy.Text.Blank

/-! Settings from the environment. Variables override the file; blank ones count as not set. -/

namespace MinEntropy.Settings

/-- The values of the variables that are set. -/
abbrev Environment := String → Option String

/-- The value of a variable that is not blank. -/
def Environment.value? (env : Environment) (key : String) : Option String :=
  (env key).filter fun v => !Text.isBlankText v.toList

/-- Reads a value without the blanks around it. -/
def readVariable (key : String) (read : List Char → Option α) (value : String) :
    Except SettingsError α :=
  match read (Text.trim value.toList) with
  | some a => .ok a
  | none => .error (.invalidVariable key value)

/-- The value of a variable, or the setting as it is. -/
def override (env : Environment) (key : String) (read : List Char → Option α) (current : α) :
    Except SettingsError α :=
  match env.value? key with
  | some value => readVariable key read value
  | none => .ok current

/-- The letters of ASCII in lower case. -/
def lowerCase (s : String) : String := s.map Char.toLower

/-- The variables are looked at in this order; the first bad one decides. -/
def overrideAll (env : Environment) (s : Settings) : Except SettingsError Settings := do
  let port ← override env "EA_SERVER_PORT" (Text.nat? maxPort) s.service.port
  let metricsEnabled ← override env "EA_METRICS_ENABLED" Text.bool? s.service.metricsEnabled
  let maxUploadBytes ← override env "EA_MAX_UPLOAD_BYTES" (Text.nat? maxWord)
    s.service.maxUploadBytes
  let timeoutSeconds ← override env "EA_TIMEOUT_SECS" (Text.nat? maxWord) s.service.timeoutSeconds
  let verbose ← override env "EA_VERBOSE" (Text.nat? maxByte) s.verbose
  return {
    service := {
      host := (env.value? "EA_SERVER_HOST").getD s.service.host
      port := port
      metricsEnabled := metricsEnabled
      maxUploadBytes := maxUploadBytes
      timeoutSeconds := timeoutSeconds }
    library := env.value? "EA_ESTIMATOR_LIBRARY" <|> s.library
    verbose := verbose
    minRecommendedSamples := s.minRecommendedSamples
    level := ((env.value? "EA_LOG_LEVEL").map lowerCase).getD s.level }

/-- The settings of an optional file. -/
def ofFile? : Option (Except String (List UInt8)) → Except SettingsError Settings
  | none => .ok .default
  | some file => ofFile file

/-- File, then environment, then the check of what came out. -/
def loadWith (resolve : Resolver) (file : Option (Except String (List UInt8)))
    (env : Environment) : Except SettingsError Settings := do
  let s ← ofFile? file
  let s ← overrideAll env s
  s.validate resolve

/-- A file alone, checked. -/
def loadFileWith (resolve : Resolver) (file : Except String (List UInt8)) :
    Except SettingsError Settings := do
  let s ← ofFile file
  s.validate resolve

def load : Option (Except String (List UInt8)) → Environment → Except SettingsError Settings :=
  loadWith Net.Address.ofHost?

def loadFile : Except String (List UInt8) → Except SettingsError Settings :=
  loadFileWith Net.Address.ofHost?

end MinEntropy.Settings

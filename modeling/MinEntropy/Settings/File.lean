import MinEntropy.Settings.Basic
import MinEntropy.Text.Utf8
import MinEntropy.Toml.Document

/-! Settings from a file. A section is a table with named settings or a list with the settings in
their order; what it does not hold keeps its default, and what nobody knows is passed over. -/

namespace MinEntropy.Settings

/-- A part of the file. -/
inductive Section where
  | named (entries : Toml.Entries)
  | listed (elements : List Toml.Item)

namespace Section

def empty : Section := named []

/-- A date stands for a section without settings; other scalars are none. -/
def ofItem? : Toml.Item → Option Section
  | .table _ entries => some (named entries)
  | .list elements => some (listed elements)
  | .tables members => some (listed (members.map (Toml.Item.table .header)))
  | .date => some empty
  | _ => none

/-- The setting with a name, or at a place of a list. -/
def item? (s : Section) (place : Nat) (name : String) : Option Toml.Item :=
  match s with
  | named entries => entries.lookup name
  | listed elements => elements[place]?

end Section

def text? : Toml.Item → Option String
  | .text s => some s
  | _ => none

def boolean? : Toml.Item → Option Bool
  | .boolean b => some b
  | _ => none

/-- A natural number up to a limit. -/
def natural? (limit : Nat) : Toml.Item → Option Nat
  | .integer n => if 0 ≤ n ∧ n.toNat ≤ limit then some n.toNat else none
  | _ => none

/-- The value of a setting, or its default. A value of the wrong kind is refused. -/
def valueOr (default : α) (read : Toml.Item → Option α) : Option Toml.Item → Option α
  | none => some default
  | some item => read item

def maxPort : Nat := 0xffff

def maxWord : Nat := 0xffffffffffffffff

def maxByte : Nat := 0xff

def serviceOf? (s : Section) : Option ServiceSettings := do
  let d := ServiceSettings.default
  return {
    host := ← valueOr d.host text? (s.item? 0 "host")
    port := ← valueOr d.port (natural? maxPort) (s.item? 1 "port")
    metricsEnabled := ← valueOr d.metricsEnabled boolean? (s.item? 2 "metrics_enabled")
    maxUploadBytes := ← valueOr d.maxUploadBytes (natural? maxWord) (s.item? 3 "max_upload_bytes")
    timeoutSeconds := ← valueOr d.timeoutSeconds (natural? maxWord) (s.item? 4 "timeout_secs") }

/-- A section of the file, empty where it is missing. -/
def section? (name : String) (root : Toml.Entries) : Option Section :=
  match root.lookup name with
  | none => some .empty
  | some item => Section.ofItem? item

/-- The settings of a document, with defaults for what it leaves out. -/
def ofEntries? (root : Toml.Entries) : Option Settings := do
  let d := Settings.default
  let service ← section? "server" root
  let estimators ← section? "estimators" root
  let logging ← section? "logging" root
  return {
    service := ← serviceOf? service
    library := ← valueOr d.library (fun i => (text? i).map some) (estimators.item? 0 "library")
    verbose := ← valueOr d.verbose (natural? maxByte) (estimators.item? 1 "verbose")
    minRecommendedSamples := ← valueOr d.minRecommendedSamples (natural? maxWord)
      (estimators.item? 2 "min_recommended_samples")
    level := ← valueOr d.level text? (logging.item? 0 "level") }

/-- Why bytes that are no text cannot be read. -/
def notText : String := "stream did not contain valid UTF-8"

/-- The settings in a file, whose bytes are given or the reason why there are none. -/
def ofFile : Except String (List UInt8) → Except SettingsError Settings
  | .error reason => .error (.unreadableFile reason)
  | .ok bytes =>
    match Text.Utf8.decode? bytes with
    | none => .error (.unreadableFile notText)
    | some text =>
      match (Toml.parse? text).bind ofEntries? with
      | none => .error .unparsableFile
      | some s => .ok s

end MinEntropy.Settings

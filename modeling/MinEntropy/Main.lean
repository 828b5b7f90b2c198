import MinEntropy.Command.Run
import Std.Time.DateTime.Timestamp

/-! The command line. Files, standard input, the environment and the clock are looked at here; what
they come to is decided elsewhere. Libraries cannot be loaded and no service can listen here. -/

namespace MinEntropy.Main

/-- How a failed file operation is told. -/
def reason : IO.Error → String
  | .noFileOrDirectory .. => Directory.PathFault.noEntry.message
  | .inappropriateType .. => Directory.PathFault.isADirectory.message
  | e => toString e

def readFile (path : String) : IO (Except String (List UInt8)) := do
  try
    return .ok (← IO.FS.readBinFile path).toList
  catch e => return .error (reason e)

/-- Writes a text, or tells why it cannot. -/
def writeFile (path text : String) : IO (Option String) := do
  try
    IO.FS.writeFile path text
    return none
  catch e => return some (reason e)

def readInput : IO (Except String (List UInt8)) := do
  try
    return .ok (← (← IO.getStdin).readBinToEnd).toList
  catch e => return .error (reason e)

def now : IO Timestamp := do
  let t ← Std.Time.Timestamp.now
  return ⟨t.val.second.val, t.val.nano.val.toNat⟩

/-- The variables that the tool looks at. -/
def variableNames : List String :=
  ["EA_SERVER_HOST", "EA_SERVER_PORT", "EA_METRICS_ENABLED", "EA_MAX_UPLOAD_BYTES",
    "EA_TIMEOUT_SECS", "EA_ESTIMATOR_LIBRARY", "EA_VERBOSE", "EA_LOG_LEVEL", "RUST_LOG"]

def environment : IO Settings.Environment := do
  let values ← variableNames.mapM fun name => do return (name, ← IO.getEnv name)
  return fun name => (values.lookup name).join

/-- The files that arguments name for reading. -/
def namedFiles : Except Command.Halt Command.Arguments → List String
  | .ok ⟨config, .assess a⟩ => config.toList ++ a.file.toList
  | .ok ⟨config, .serve _⟩ => config.toList
  | .error _ => []

/-- Standard input is wanted. -/
def wantsInput : Except Command.Halt Command.Arguments → Bool
  | .ok ⟨_, .assess a⟩ => a.file.isNone
  | _ => false

def world (tokens : List String) : IO (Command.World Unit) := do
  let arguments := Command.parse tokens
  let files ← (namedFiles arguments).mapM fun path => do return (path, ← readFile path)
  let input ← if wantsInput arguments then readInput else pure (.ok [])
  return {
    read := fun path => (files.lookup path).getD (.error Directory.PathFault.noEntry.message)
    destination := fun _ => .file
    library? := fun _ => none
    libraryStart := ()
    input := input
    takes := fun _ => true
    environment := ← environment
    now := (← now).text }

/-- Nobody can reach the service. -/
def noVisit : Command.Visit := ⟨true, []⟩

/-- Puts a text on a stream, and tells whether the stream took it. -/
def put (stream : IO.FS.Stream) (text : String) : IO Bool := do
  try
    stream.putStr text
    stream.flush
    return true
  catch _ => return false

/-- Tells what a command came to, and which streams took it. A log that is not taken is lost. -/
def tell (f : Command.Finished) : IO (Command.Stream → Bool) := do
  let errors ← IO.getStderr
  for line in f.log do
    discard <| put errors (line.text ++ "\n")
  let told ← match f.outcome.error with
    | some e => put errors ("Error: " ++ e.message ++ "\n")
    | none => pure true
  let printed ← put (← IO.getStdout) f.outcome.output
  return fun
    | .output => printed
    | .errors => told

end MinEntropy.Main

open MinEntropy in
/-- A file that cannot be written changes the ending, so it is written before anything is told. A
stream that takes nothing changes only the exit code. -/
def main (tokens : List String) : IO UInt32 := do
  let w ← Main.world tokens
  let planned := Command.run w tokens Main.noVisit
  let fault ← match planned.outcome.written with
    | some (path, text) => Main.writeFile path text
    | none => pure none
  let destination := (fault.map Directory.Destination.refused).getD .file
  let finished := Command.run { w with destination := fun _ => destination } tokens Main.noVisit
  let takes ← Main.tell finished
  return UInt32.ofNat (finished.outcome.through takes).exitCode

import MinEntropy.Assessment.Coordinator
import MinEntropy.Command.World
import MinEntropy.Report.Text

/-! The command that assesses samples on one track and reports on them. -/

namespace MinEntropy.Command

/-- The name of standard input in reports. -/
def inputName : String := "-"

/-- The name of standard input where it cannot be read. -/
def inputSource : String := "stdin"

/-- The samples and the name they go by. -/
def readSamples (w : World σ) : Option String → Except Failure (String × List UInt8)
  | none =>
    match w.input with
    | .ok bytes => .ok (inputName, bytes)
    | .error reason => .error (.unreadable inputSource reason)
  | some path =>
    match w.read path with
    | .ok bytes => .ok (path, bytes)
    | .error reason => .error (.unreadable path reason)

/-- A warning when there are fewer samples than recommended. -/
def countWarning (samples recommended : Nat) : List Log.Line :=
  if samples < recommended then
    [⟨.warn, tool, "Sample count below recommended minimum; estimates may be unreliable",
      [("samples", toString samples), ("recommended", toString recommended)], none⟩]
  else []

def announcement (filename : String) (a : AssessArguments) (suite : String) : Log.Line :=
  ⟨.info, tool, "Starting assessment",
    [("file", filename), ("mode", a.mode.label), ("bits", toString a.bits),
      ("suite", Text.Quoted.text suite)], none⟩

/-- The answer of a suite in its first state to a request for one track. -/
def ReadySuite.answer (s : ReadySuite) (a : AssessArguments) (data : List UInt8) :
    Except AssessmentError AssessmentResult :=
  (s.suite.answerRequest ⟨data, a.bits, a.mode = .iid, a.mode = .nonIid⟩ s.start).1

/-- Zero for a report of success. -/
def reportExit (r : Report) : Nat := if r.isSuccess then 0 else 1

/-- The report goes to a file, which is named unless the tool is to be quiet. What is written to
standard output by its path comes before that. -/
def writeReport (w : World σ) (r : Report) (path : String) (verbose : Nat)
    (log : List Log.Line) : Outcome :=
  let text := r.json.indentedText
  let notice := if r.isSuccess && 0 < verbose then s!"Results written to {path}\n" else ""
  match w.destination path with
  | .refused reason => .failed log (.unwritable path reason)
  | .output => ⟨reportExit r, text ++ notice, none, log, none⟩
  | .nowhere => ⟨reportExit r, notice, none, log, none⟩
  | .file => ⟨reportExit r, notice, none, log, some (path, text)⟩

/-- The report is printed; of a failure only the error is told. -/
def printReport (r : Report) (answer : Except AssessmentError AssessmentResult) (format : Format)
    (verbose : Nat) (log : List Log.Line) : Outcome :=
  match answer with
  | .error e => .failed log (.assessment e)
  | .ok _ =>
    let text :=
      match format with
      | .json => r.json.indentedText ++ "\n"
      | .text => if 1 ≤ verbose then r.render verbose else ""
    ⟨reportExit r, text, none, log, none⟩

/-- Reports on an answer, in a file or on standard output. -/
def conclude (w : World σ) (a : AssessArguments) (verbose : Nat) (filename : String)
    (data : List UInt8) (answer : Except AssessmentError AssessmentResult)
    (log : List Log.Line) : Outcome :=
  let r := (Report.new filename a.mode a.bits data w.now).withAnswer answer
  match a.output with
  | some path => writeReport w r path verbose log
  | none => printReport r answer a.format verbose log

/-- The suite is set up before the samples are read. -/
def assess (w : World σ) (s : Settings) (a : AssessArguments) : Outcome :=
  let verbose := a.verbose.getD s.verbosity
  match chooseSuite w a.suite s verbose with
  | .error e => .failed [] e
  | .ok (suite, line) =>
    match readSamples w a.file with
    | .error e => .failed [line] e
    | .ok (filename, data) =>
      let log := line :: countWarning data.length s.minRecommendedSamples ++
        [announcement filename a suite.suite.name]
      conclude w a verbose filename data (suite.answer a data) log

end MinEntropy.Command

import MinEntropy.Assessment.Document
import MinEntropy.Assessment.Error
import MinEntropy.Report.Digest
import MinEntropy.Report.Timestamp

/-! The report of one assessment of one track. A failed assessment has a report too. -/

namespace MinEntropy

/-- The version that reports and the service give. -/
def version : String := "0.1.0"

structure Report where
  filename : String
  mode : Mode
  /-- The width asked for, zero to detect it. -/
  bitsPerSymbol : Nat
  /-- The width of the last result. -/
  wordSize : Option Nat
  dataSize : Nat
  digest : String
  assessedAt : String
  minEntropy : Float
  hOriginal : Option Float
  /-- Present when there are outcomes on bits. -/
  hBitstring : Option Float
  hAssessed : Float
  estimators : List RecordedOutcome
  /-- Zero for success. -/
  errorCode : Nat
  /-- The message of the last error. -/
  errorMessage : Option String
  deriving Repr

namespace Report

/-- A report before any result: nothing is known and nothing has failed. -/
def new (filename : String) (mode : Mode) (bitsPerSymbol : Nat) (data : List UInt8)
    (assessedAt : String) : Report where
  filename := filename
  mode := mode
  bitsPerSymbol := bitsPerSymbol
  wordSize := none
  dataSize := data.length
  digest := Sha256.text data
  assessedAt := assessedAt
  minEntropy := 0.0
  hOriginal := none
  hBitstring := none
  hAssessed := 0.0
  estimators := []
  errorCode := 0
  errorMessage := none

/-- The figures and outcomes of a track. -/
def withMode (r : Report) (m : ModeResult) : Report :=
  { r with
    hOriginal := some m.hOriginal
    hBitstring := if m.outcomes.any (·.view = .bitstring) then some m.hBitstring else none
    hAssessed := m.hAssessed
    estimators := m.outcomes }

/-- The result with the figures of its first track. -/
def withResult (r : Report) (result : AssessmentResult) : Report :=
  let r := { r with minEntropy := result.minEntropy, wordSize := some result.wordSize }
  match result.modes with
  | [] => r
  | m :: _ => r.withMode m

def withError (r : Report) (e : AssessmentError) : Report :=
  { r with errorCode := 1, errorMessage := some e.message }

/-- The report of how an assessment ended. -/
def withAnswer (r : Report) : Except AssessmentError AssessmentResult → Report
  | .ok result => r.withResult result
  | .error e => r.withError e

def isSuccess (r : Report) : Bool := r.errorCode = 0

/-- A member that is left out when there is nothing to say. -/
def member? (key : String) (encode : α → Json) : Option α → List (String × Json)
  | some a => [(key, encode a)]
  | none => []

/-- The outcomes, left out when there are none. -/
def estimatorMembers : List RecordedOutcome → List (String × Json)
  | [] => []
  | outcomes => [("estimators", .arr (outcomes.map (·.json)))]

def json (r : Report) : Json :=
  .obj (
    [("version", .str version), ("filename", .str r.filename), ("test_type", .str r.mode.label),
      ("bits_per_symbol", .nat r.bitsPerSymbol)] ++
    member? "word_size" .nat r.wordSize ++
    [("data_size", .nat r.dataSize), ("sample_sha256", .str r.digest),
      ("assessed_at", .str r.assessedAt), ("min_entropy", .num r.minEntropy)] ++
    member? "h_original" .num r.hOriginal ++
    member? "h_bitstring" .num r.hBitstring ++
    [("h_assessed", .num r.hAssessed)] ++
    estimatorMembers r.estimators ++
    [("error_code", .nat r.errorCode)] ++
    member? "error_message" .str r.errorMessage)

end Report

end MinEntropy

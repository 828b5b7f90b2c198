import MinEntropy.Assessment.Result
import MinEntropy.Estimator.Document
import MinEntropy.Samples.Document

/-! Results in JSON documents. A track that did not run is null. -/

namespace MinEntropy

def RecordedOutcome.json (o : RecordedOutcome) : Json :=
  .obj (("representation", o.view.json) :: o.toOutcome.members)

def ModeResult.json (r : ModeResult) : Json :=
  .obj [
    ("mode", r.mode.json),
    ("word_size", r.wordSize.json),
    ("alphabet_size", .nat r.alphabetSize),
    ("h_original", .num r.hOriginal),
    ("h_bitstring", .num r.hBitstring),
    ("h_assessed", .num r.hAssessed),
    ("outcomes", .arr (r.outcomes.map (·.json)))]

namespace AssessmentResult

def slot : Option ModeResult → Json
  | some r => r.json
  | none => .null

def members (r : AssessmentResult) : List (String × Json) :=
  [ ("min_entropy", .num r.minEntropy),
    ("word_size", .nat r.wordSize),
    ("sample_count", .nat r.sampleCount),
    ("iid", slot r.iid),
    ("non_iid", slot r.nonIid)]

def json (r : AssessmentResult) : Json := .obj r.members

end AssessmentResult

end MinEntropy

import MinEntropy.Assessment.Aggregate

/-! The combined result of the tracks that ran. -/

namespace MinEntropy

structure AssessmentResult where
  /-- The least figure of the tracks, always finite. -/
  minEntropy : Float
  wordSize : Nat
  sampleCount : Nat
  iid : Option ModeResult
  nonIid : Option ModeResult
  deriving Repr

namespace AssessmentResult

/-- The tracks that ran, the IID slot first. -/
def modes (r : AssessmentResult) : List ModeResult := r.iid.toList ++ r.nonIid.toList

def allPassed (r : AssessmentResult) : Bool := r.modes.all (·.allPassed)

/-- The least finite figure, or zero where there is none. -/
def leastEntropy (modes : List ModeResult) : Float :=
  let h := Figure.least Figure.infinity (modes.map (·.minEntropy))
  if h.isFinite then h else 0.0

/-- The word size is the one that the first track used. -/
def combine (requestedWordSize sampleCount : Nat) (iid nonIid : Option ModeResult) :
    AssessmentResult where
  minEntropy := leastEntropy (iid.toList ++ nonIid.toList)
  wordSize := ((iid <|> nonIid).map (·.wordSize.bits)).getD requestedWordSize
  sampleCount := sampleCount
  iid := iid
  nonIid := nonIid

end AssessmentResult

end MinEntropy

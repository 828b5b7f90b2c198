import MinEntropy.Estimator.Catalogue
import MinEntropy.Estimator.Suite

/-! A stand-in suite for dry runs: every estimate is a fixed part of the greatest possible entropy,
so equal input gives equal outcomes. Its figures assess nothing. -/

namespace MinEntropy.Mock

/-- What the stand-in does with every call. -/
inductive Behaviour where
  | estimates
  | noEstimates
  | failing (code : Int) (message : String)
  | breaking (message : String)
  deriving DecidableEq, Repr

/-- What the stand-in remembers of a call. -/
structure Record where
  mode : Mode
  view : Representation
  length : Nat
  alphabetSize : Nat
  deriving DecidableEq, Repr

def Record.ofCall (c : Call) : Record := ⟨c.mode, c.view, c.symbols.length, c.alphabetSize⟩

/-- The part of the greatest entropy that a procedure reports. -/
def fraction : Procedure → Float
  | .mostCommonValue => 0.95
  | .collision => 0.90
  | .markov => 0.93
  | .compression => 0.85
  | .tTuple => 0.91
  | .lrs => 0.97
  | .multiMostCommonInWindow => 0.94
  | .lagPrediction => 0.92
  | .multiMarkovModelCounting => 0.96
  | .lz78y => 0.89
  | .chiSquare | .longestRepeatedSubstring | .permutation => 0.0

/-- The greatest entropy of a symbol; an empty alphabet counts as one letter. -/
def scale (alphabetSize : Nat) : Float := (Float.ofNat (max alphabetSize 1)).log2

def estimate? (withEstimates : Bool) (alphabetSize : Nat) (p : Procedure) : Option Float :=
  if p.isTest || !withEstimates then none else some (fraction p * scale alphabetSize)

/-- Every applicable procedure of the track, in order; all of them pass. -/
def outcomes (withEstimates : Bool) (c : Call) : List Outcome :=
  (c.mode.procedures.filter (·.appliesTo c.view c.alphabetSize)).map fun p =>
    ⟨p.name, estimate? withEstimates c.alphabetSize p, true⟩

def reply : Behaviour → Call → Reply
  | .estimates, c => .outcomes (outcomes true c)
  | .noEstimates, c => .outcomes (outcomes false c)
  | .failing code message, _ => .failure (.ofCode code message)
  | .breaking message, _ => .breakdown (some message)

/-- The stand-in with the calls received so far as its state. -/
def suite (b : Behaviour) : Suite (List Record) where
  name := "mock"
  answer c seen := (reply b c, seen ++ [.ofCall c])

end MinEntropy.Mock

import MinEntropy.Estimator.Mode

/-! The procedures of SP 800-90B, by track and in the order in which they run. -/

namespace MinEntropy

inductive Procedure where
  | mostCommonValue
  | chiSquare
  | longestRepeatedSubstring
  | permutation
  | collision
  | markov
  | compression
  | tTuple
  | lrs
  | multiMostCommonInWindow
  | lagPrediction
  | multiMarkovModelCounting
  | lz78y
  deriving DecidableEq, Repr

namespace Procedure

/-- The name under which results are reported. -/
def name : Procedure → String
  | mostCommonValue => "Most Common Value"
  | chiSquare => "Chi-Square Tests"
  | longestRepeatedSubstring => "Length of Longest Repeated Substring Test"
  | permutation => "Permutation Tests"
  | collision => "Collision Test"
  | markov => "Markov Test"
  | compression => "Compression Test"
  | tTuple => "t-Tuple Test"
  | lrs => "LRS Test"
  | multiMostCommonInWindow => "Multi Most Common in Window Test"
  | lagPrediction => "Lag Prediction Test"
  | multiMarkovModelCounting => "Multi Markov Model with Counting Test"
  | lz78y => "LZ78Y Test"

/-- A statistical test passes or fails and yields no estimate. -/
def isTest : Procedure → Bool
  | chiSquare | longestRepeatedSubstring | permutation => true
  | _ => false

/-- Defined over an alphabet of two symbols only. -/
def binaryOnly : Procedure → Bool
  | collision | markov | compression => true
  | _ => false

/-- A procedure for two symbols needs the bits or an alphabet of two. -/
def appliesTo (p : Procedure) (view : Representation) (alphabetSize : Nat) : Bool :=
  !p.binaryOnly || view = .bitstring || alphabetSize = 2

end Procedure

/-- The procedures of a track in execution order. -/
def Mode.procedures : Mode → List Procedure
  | iid => [.mostCommonValue, .chiSquare, .longestRepeatedSubstring, .permutation]
  | nonIid => [.mostCommonValue, .collision, .markov, .compression, .tTuple, .lrs,
      .multiMostCommonInWindow, .lagPrediction, .multiMarkovModelCounting, .lz78y]

end MinEntropy

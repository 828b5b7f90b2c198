import MinEntropy.Estimator.Suite
import MinEntropy.Samples.WordSize

/-! The running minimums of one track: which representations count, how outcomes lower a minimum,
and the figure that remains. -/

namespace MinEntropy

/-- The representations that run for a track. -/
structure Dispatch where
  literal : Bool
  bitstring : Bool
  deriving DecidableEq, Repr

namespace Dispatch

/-- Literal symbols run for an unconditioned source. Bits run on the second track only, and there
unless literal symbols over two letters say the same. -/
def decide (mode : Mode) (alphabetSize : Nat) (initialEntropy : Bool) : Dispatch where
  literal := initialEntropy
  bitstring := mode = .nonIid && (2 < alphabetSize || !initialEntropy)

/-- The representations that run, bits first. -/
def views (d : Dispatch) : List Representation :=
  (if d.bitstring then [.bitstring] else []) ++ (if d.literal then [.literal] else [])

end Dispatch

/-- An outcome and the representation it was computed on. -/
structure RecordedOutcome extends Outcome where
  view : Representation
  deriving Repr

/-- The result of one track. -/
structure ModeResult where
  mode : Mode
  wordSize : WordSize
  alphabetSize : Nat
  /-- Least literal estimate, bits per sample. -/
  hOriginal : Float
  /-- Least bitstring estimate, bits per bit. -/
  hBitstring : Float
  /-- What the track is worth, bits per sample. -/
  hAssessed : Float
  outcomes : List RecordedOutcome
  deriving Repr

namespace ModeResult

def minEntropy (r : ModeResult) : Float := r.hAssessed

def allPassed (r : ModeResult) : Bool := r.outcomes.all (·.passed)

end ModeResult

/-- The minimums of one track so far, with every outcome seen. -/
structure Aggregate where
  mode : Mode
  wordSize : WordSize
  alphabetSize : Nat
  dispatch : Dispatch
  hOriginal : Float
  hBitstring : Float
  outcomes : List RecordedOutcome
  deriving Repr

/-- The most that a sample of this width can carry. -/
def WordSize.ceiling (w : WordSize) : Float := Float.ofNat w.bits

namespace Aggregate

/-- Both minimums start at their ceilings. -/
def start (mode : Mode) (wordSize : WordSize) (alphabetSize : Nat) (dispatch : Dispatch) :
    Aggregate :=
  ⟨mode, wordSize, alphabetSize, dispatch, wordSize.ceiling, 1.0, []⟩

/-- A valid estimate may lower the minimum of its representation. -/
def lower (a : Aggregate) (view : Representation) : Option Float → Aggregate
  | none => a
  | some h =>
    match view with
    | .literal => { a with hOriginal := Figure.lesser a.hOriginal h }
    | .bitstring => { a with hBitstring := Figure.lesser a.hBitstring h }

def recordOne (view : Representation) (a : Aggregate) (o : Outcome) : Aggregate :=
  let a := a.lower view o.validEstimate
  { a with outcomes := a.outcomes ++ [⟨o, view⟩] }

/-- Outcomes are kept whatever their estimate. -/
def record (a : Aggregate) (view : Representation) (outcomes : List Outcome) : Aggregate :=
  outcomes.foldl (recordOne view) a

/-- The word size capped by every representation that ran. -/
def assessed (a : Aggregate) : Float :=
  let h := a.wordSize.ceiling
  let h := if a.dispatch.bitstring then
    Figure.lesser h (a.hBitstring * a.wordSize.ceiling) else h
  if a.dispatch.literal then Figure.lesser h a.hOriginal else h

def finish (a : Aggregate) : ModeResult :=
  ⟨a.mode, a.wordSize, a.alphabetSize, a.hOriginal, a.hBitstring, a.assessed, a.outcomes⟩

end Aggregate

end MinEntropy

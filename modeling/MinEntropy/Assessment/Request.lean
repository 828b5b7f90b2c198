import MinEntropy.Assessment.Error

/-! Assessment requests and the check that comes before any work. -/

namespace MinEntropy

/-- The tracks that a request selects: at least one. -/
inductive Selection where
  | iid
  | nonIid
  | mixed
  deriving DecidableEq, Repr

namespace Selection

def ofFlags? : Bool → Bool → Option Selection
  | true, true => some mixed
  | true, false => some iid
  | false, true => some nonIid
  | false, false => none

def label : Selection → String
  | iid => "IID"
  | nonIid => "Non-IID"
  | mixed => "mixed"

/-- In the order of their labels. -/
def all : List Selection := [.iid, .nonIid, .mixed]

end Selection

/-- One assessment request. -/
structure Request where
  data : List UInt8
  /-- Bits per symbol, zero to detect them. -/
  wordSize : Nat
  runIid : Bool
  runNonIid : Bool
  deriving DecidableEq, Repr

namespace Request

/-- Empty data is noticed first, then the word size, then the selection. -/
def validate (r : Request) : Except RequestError Selection :=
  if r.data.isEmpty then .error .emptyData
  else if maxWordSize < r.wordSize then .error (.invalidWordSize r.wordSize)
  else match Selection.ofFlags? r.runIid r.runNonIid with
    | some selection => .ok selection
    | none => .error .noModeSelected

/-- The track blamed for samples that cannot be prepared. -/
def firstMode (r : Request) : Mode := if r.runIid then .iid else .nonIid

end Request

end MinEntropy

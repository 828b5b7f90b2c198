import MinEntropy.Estimator.Suite
import MinEntropy.Samples.Prepared

/-! What can go wrong with an assessment, and whose fault it is. -/

namespace MinEntropy

/-- The class of an error. -/
inductive ErrorKind where
  | invalidInput
  | resourceExhausted
  | foreign
  deriving DecidableEq, Repr

namespace ErrorKind

def label : ErrorKind → String
  | invalidInput => "invalid_input"
  | resourceExhausted => "resource_exhausted"
  | foreign => "foreign"

/-- Estimation is deterministic, so only a lack of resources may pass. -/
def isRetryable (k : ErrorKind) : Bool := k = resourceExhausted

def all : List ErrorKind := [.foreign, .invalidInput, .resourceExhausted]

end ErrorKind

/-- Why a request is turned away before any work. -/
inductive RequestError where
  | emptyData
  | invalidWordSize (bits : Nat)
  | noModeSelected
  | malformedQuery (text : String)
  deriving DecidableEq, Repr

namespace RequestError

def reason : RequestError → String
  | emptyData => "empty_data"
  | invalidWordSize _ => "invalid_word_size"
  | noModeSelected => "no_mode_selected"
  | malformedQuery _ => "malformed_query"

/-- Every reason, in alphabetical order. -/
def reasons : List String :=
  ["empty_data", "invalid_word_size", "malformed_query", "no_mode_selected"]

def message : RequestError → String
  | emptyData => "sample data is empty"
  | invalidWordSize bits => s!"invalid word size {bits} (must be 0-8, 0 to auto-detect)"
  | noModeSelected => "at least one of IID or Non-IID must be selected"
  | malformedQuery text => s!"malformed request parameters: {text}"

end RequestError

/-- Why one track failed. -/
inductive ModeError where
  | preparation (error : PrepareError)
  | suite (error : SuiteError)
  deriving DecidableEq, Repr

namespace ModeError

def message : ModeError → String
  | preparation e => e.message
  | suite e => e.message

def kind : ModeError → ErrorKind
  | preparation (.allocation ..) => .resourceExhausted
  | preparation _ => .invalidInput
  | suite (.outOfMemory _) => .resourceExhausted
  | suite _ => .foreign

end ModeError

inductive AssessmentError where
  | rejected (error : RequestError)
  | failed (mode : Mode) (source : ModeError)
  deriving DecidableEq, Repr

namespace AssessmentError

def message : AssessmentError → String
  | rejected e => s!"request rejected: {e.message}"
  | failed mode source => s!"{mode.label} assessment failed: {source.message}"

/-- A rejected request is the caller's fault. -/
def kind : AssessmentError → ErrorKind
  | rejected _ => .invalidInput
  | failed _ source => source.kind

def mode? : AssessmentError → Option Mode
  | rejected _ => none
  | failed mode _ => some mode

/-- The suite's own error code, where it reported one. -/
def foreignCode? : AssessmentError → Option Int
  | failed _ (.suite e) => e.code?
  | _ => none

end AssessmentError

end MinEntropy

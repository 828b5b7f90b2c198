import MinEntropy.Estimator.Suite
import MinEntropy.Text.Utf8

/-! Estimator libraries: what they export, the results they hand over, and the suite made of one. -/

namespace MinEntropy

/-- Bytes of a fixed width; those not given are zero. -/
def fixedBytes (width : Nat) (bytes : List UInt8) : Vector UInt8 width :=
  Vector.ofFn fun i => bytes.getD i 0

/-- An outcome as a library hands it over. -/
structure RawOutcome where
  name : Vector UInt8 64
  /-- Negative when there is no estimate. -/
  estimate : Float
  /-- Zero for a failed test. -/
  passed : UInt8

/-- The most outcomes of one run. -/
def maxOutcomes : Nat := 16

/-- A result as a library hands it over. -/
structure RawResult where
  /-- Zero for success. -/
  errorCode : Int
  errorMessage : Vector UInt8 512
  outcomeCount : Nat
  outcomes : Vector RawOutcome maxOutcomes

namespace RawOutcome

/-- An outcome with nothing in it. -/
def blank : RawOutcome := ⟨fixedBytes 64 [], 0.0, 0⟩

/-- Texts end at their first zero byte. What is not at least zero is no estimate. -/
def outcome (o : RawOutcome) : Outcome where
  name := Text.Utf8.untilZero o.name.toList
  estimate := if 0.0 ≤ o.estimate then some o.estimate else none
  passed := o.passed ≠ 0

end RawOutcome

namespace RawResult

/-- A nonzero code is an error; otherwise as many outcomes count as are announced and there. -/
def answer (r : RawResult) : Except SuiteError (List Outcome) :=
  if r.errorCode ≠ 0 then
    .error (.ofCode r.errorCode (Text.Utf8.untilZero r.errorMessage.toList))
  else .ok ((r.outcomes.toList.take r.outcomeCount).map RawOutcome.outcome)

end RawResult

/-- What a library is told when it is run. -/
structure Invocation where
  mode : Mode
  view : Representation
  symbols : List UInt8
  alphabetSize : Nat
  verbosity : Nat
  deriving DecidableEq, Repr

namespace Invocation

def modeCode (i : Invocation) : Nat :=
  match i.mode with
  | .iid => 0
  | .nonIid => 1

def viewCode (i : Invocation) : Nat :=
  match i.view with
  | .literal => 0
  | .bitstring => 1

end Invocation

/-- What a library exports. -/
structure Library (σ : Type) where
  version : Option Nat
  /-- Runs the estimators; without memory for a result there is none. -/
  run : Option (Invocation → σ → Option RawResult × σ)
  /-- Results can be given back. -/
  frees : Bool

/-- Why a library cannot be used. -/
inductive LibraryError where
  | unloadable (path : String)
  | missingSymbol (name : String)
  | versionMismatch (found : Nat)
  deriving DecidableEq, Repr

/-- The version of the interface that is understood. -/
def libraryVersion : Nat := 1

def LibraryError.message : LibraryError → String
  | unloadable path => s!"failed to load estimator library {path}"
  | missingSymbol name => s!"estimator library is missing symbol {name}"
  | versionMismatch found =>
    s!"estimator library ABI version {found} is not supported (expected {libraryVersion})"

/-- A library ready for use. -/
structure Binding (σ : Type) where
  run : Invocation → σ → Option RawResult × σ
  verbosity : Nat

/-- How a library has been used. -/
structure Usage where
  runs : Nat
  frees : Nat
  last : Option Invocation
  deriving Repr

def Usage.none : Usage := ⟨0, 0, Option.none⟩

namespace Binding

/-- The highest verbosity that is passed on. -/
def maxVerbosity : Nat := 3

/-- The symbols are looked for in turn, and then the version is compared. -/
def load (path : String) (library : Option (Library σ)) (verbose : Nat) :
    Except LibraryError (Binding σ) :=
  match library with
  | none => .error (.unloadable path)
  | some l =>
    match l.version, l.run with
    | none, _ => .error (.missingSymbol "ea_abi_version")
    | some _, none => .error (.missingSymbol "ea_run_estimators")
    | some version, some run =>
      if !l.frees then .error (.missingSymbol "ea_free_result")
      else if version ≠ libraryVersion then .error (.versionMismatch version)
      else .ok ⟨run, min verbose maxVerbosity⟩

/-- The largest alphabet that a library can be told. -/
def maxAlphabetSize : Nat := 0x7fffffff

def alphabetTooLarge (size : Nat) : SuiteError :=
  .ofCode SuiteError.rejectedCode s!"alphabet size {size} out of range"

def lackOfMemory : SuiteError := .outOfMemory "estimator result"

def reply : Except SuiteError (List Outcome) → Reply
  | .ok outcomes => .outcomes outcomes
  | .error e => .failure e

/-- Runs the library once. Every result is given back when it has been read. -/
def runOnce (b : Binding σ) (i : Invocation) (st : Usage × σ) : Reply × (Usage × σ) :=
  match b.run i st.2 with
  | (none, lib) => (.failure lackOfMemory, ⟨st.1.runs + 1, st.1.frees, some i⟩, lib)
  | (some r, lib) => (reply r.answer, ⟨st.1.runs + 1, st.1.frees + 1, some i⟩, lib)

/-- The suite of the library. Alphabets that it cannot be told are rejected without running it. -/
def suite (b : Binding σ) : Suite (Usage × σ) where
  name := "native"
  answer c st :=
    if maxAlphabetSize < c.alphabetSize then (.failure (alphabetTooLarge c.alphabetSize), st)
    else b.runOnce ⟨c.mode, c.view, c.symbols, c.alphabetSize, b.verbosity⟩ st

end Binding

end MinEntropy

import MinEntropy.Estimator.Library

/-! A library for trials. It hands over a prepared result, or one made up from the number of
symbols, and it comes in versions that cannot be used. -/

namespace MinEntropy.Specimen

/-- What the library hands over on its next runs. -/
inductive Script where
  | nothing
  | result (r : RawResult)
  /-- A result made up from what it is told. -/
  | improvise

/-- The bytes of an ASCII text. -/
def bytes (s : String) : List UInt8 := s.toUTF8.toList

def rawOutcome (name : String) (estimate : Float) (passed : Bool) : RawOutcome :=
  ⟨fixedBytes 64 (bytes name), estimate, if passed then 1 else 0⟩

/-- A result with the given outcomes; those not given are blank. -/
def success (outcomes : List RawOutcome) : RawResult :=
  ⟨0, fixedBytes 512 [], outcomes.length, Vector.ofFn fun i => outcomes.getD i .blank⟩

def failure (code : Int) (message : String) : RawResult :=
  ⟨code, fixedBytes 512 (bytes message), 0, Vector.ofFn fun _ => .blank⟩

def rejects (n : Nat) : String := s!"stub rejects {n} symbols"

def summary (i : Invocation) : String :=
  s!"Stub m={i.modeCode} r={i.viewCode} a={i.alphabetSize} v={i.verbosity}"

/-- Seven symbols are rejected, nine raise an exception, and for eleven there is no memory. -/
def improvised (i : Invocation) : Option RawResult :=
  let n := i.symbols.length
  if n = 11 then none
  else if n = 7 then some (failure (-1) (rejects n))
  else if n = 9 then some (failure (-2) (rejects n))
  else some (success [
    rawOutcome (summary i) (if i.view = .literal then 1.25 else 0.375) true,
    rawOutcome "Stub Parity" (-1.0) (n % 2 = 0)])

def run (i : Invocation) (script : Script) : Option RawResult × Script :=
  match script with
  | .nothing => (none, script)
  | .result r => (some r, script)
  | .improvise => (improvised i, script)

/-- The library with a version of its choice. -/
def library (version : Nat) : Library Script := ⟨some version, some run, true⟩

/-- The libraries by name. Under other names there is none that could be loaded. -/
def named? (name : String) : Option (Library Script) :=
  if name = "stub" then some (library 1)
  else if name = "abi0" then some (library 0)
  else if name = "abi2" then some (library 2)
  else if name = "noversion" then some { library 1 with version := none }
  else if name = "norun" then some { library 1 with run := none }
  else if name = "nofree" then some { library 1 with frees := false }
  else none

end MinEntropy.Specimen

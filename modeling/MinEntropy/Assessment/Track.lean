import MinEntropy.Assessment.Request
import MinEntropy.Assessment.Result

/-! Running the tracks of a request on a suite. The first failing call ends the run. -/

namespace MinEntropy

/-- Samples count as an unconditioned noise source. -/
def initialEntropy : Bool := true

namespace Prepared

/-- What the suite is asked about a representation of the prepared samples. -/
def call (p : Prepared) (mode : Mode) : Representation → Call
  | .literal => ⟨mode, .literal, p.symbols, p.alphabetSize⟩
  | .bitstring => ⟨mode, .bitstring, p.bitstring, 2⟩

def dispatch (p : Prepared) (mode : Mode) : Dispatch :=
  Dispatch.decide mode p.alphabetSize initialEntropy

end Prepared

namespace Suite

/-- Runs the representations in turn and records what comes back. -/
def runViews (s : Suite σ) (p : Prepared) (mode : Mode) :
    List Representation → Aggregate → σ → Except AssessmentError Aggregate × σ
  | [], a, st => (.ok a, st)
  | view :: rest, a, st =>
    match s.invoke (p.call mode view) st with
    | (.error e, st') => (.error (.failed mode (.suite e)), st')
    | (.ok outcomes, st') => s.runViews p mode rest (a.record view outcomes) st'

/-- One track over prepared samples. -/
def runMode (s : Suite σ) (p : Prepared) (mode : Mode) (st : σ) :
    Except AssessmentError ModeResult × σ :=
  let d := p.dispatch mode
  let start := Aggregate.start mode p.wordSize p.alphabetSize d
  match s.runViews p mode d.views start st with
  | (.ok a, st') => (.ok a.finish, st')
  | (.error e, st') => (.error e, st')

/-- A track that may be switched off. -/
def runSelected (s : Suite σ) (p : Prepared) (mode : Mode) (selected : Bool) (st : σ) :
    Except AssessmentError (Option ModeResult) × σ :=
  if selected then
    match s.runMode p mode st with
    | (.ok r, st') => (.ok (some r), st')
    | (.error e, st') => (.error e, st')
  else (.ok none, st)

/-- Prepares the samples once, runs the selected tracks and combines them. -/
def runRequest (s : Suite σ) (r : Request) (st : σ) :
    Except AssessmentError AssessmentResult × σ :=
  match Samples.prepare r.data r.wordSize with
  | .error e => (.error (.failed r.firstMode (.preparation e)), st)
  | .ok p =>
    match s.runSelected p .iid r.runIid st with
    | (.error e, st₁) => (.error e, st₁)
    | (.ok iid, st₁) =>
      match s.runSelected p .nonIid r.runNonIid st₁ with
      | (.error e, st₂) => (.error e, st₂)
      | (.ok nonIid, st₂) =>
        (.ok (AssessmentResult.combine r.wordSize r.data.length iid nonIid), st₂)

/-- A request that is checked before it is run. -/
def answerRequest (s : Suite σ) (r : Request) (st : σ) :
    Except AssessmentError AssessmentResult × σ :=
  match r.validate with
  | .error e => (.error (.rejected e), st)
  | .ok _ => s.runRequest r st

/-- A single track, without the checks of a request. -/
def assessMode (s : Suite σ) (data : List UInt8) (wordSize : Nat) (mode : Mode) (st : σ) :
    Except AssessmentError ModeResult × σ :=
  match Samples.prepare data wordSize with
  | .error e => (.error (.failed mode (.preparation e)), st)
  | .ok p => s.runMode p mode st

end Suite

end MinEntropy

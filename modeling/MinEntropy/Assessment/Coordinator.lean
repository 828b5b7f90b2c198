import MinEntropy.Assessment.Track
import MinEntropy.Text.Quoted

/-! The coordinator: checks a request, runs it, and tells an observer. -/

namespace MinEntropy

/-- Elapsed time in whole seconds and the nanoseconds beyond them. -/
structure Duration where
  seconds : Nat
  nanos : Nat
  deriving DecidableEq, Repr

/-- What an observer is told. -/
inductive Event where
  | rejected (error : RequestError)
  | started (selection : Selection) (bytes : Nat)
  | completed (selection : Selection) (result : AssessmentResult) (took : Duration)
  | failed (selection : Selection) (error : AssessmentError) (took : Duration)
  deriving Repr

/-- Receives the events of a coordinator. -/
structure Observer (τ : Type) where
  note : Event → τ → τ
  /-- The text with which the observer breaks down when it is told that an assessment starts. -/
  breaksAtStart : Option String

namespace Observer

def silent : Observer Unit := ⟨fun _ _ => (), none⟩

/-- Hears nothing. -/
def deaf : Observer τ := ⟨fun _ st => st, none⟩

def recording : Observer (List Event) := ⟨fun e log => log ++ [e], none⟩

/-- Breaks down at every start and ignores everything else. -/
def breaking (text : String) : Observer Unit := ⟨fun _ _ => (), some text⟩

end Observer

/-- A suite and the observer of its assessments. -/
structure Coordinator (σ τ : Type) where
  suite : Suite σ
  observer : Observer τ

namespace Coordinator

/-- The coordinator as shown when debugging. -/
def description (c : Coordinator σ τ) : String :=
  "AssessmentCoordinator \x7b suite: " ++ Text.Quoted.text c.suite.name ++ ", .. \x7d"

/-- How the end of a run is reported. -/
def ending (selection : Selection) (took : Duration) :
    Except AssessmentError AssessmentResult → Event
  | .ok result => .completed selection result took
  | .error e => .failed selection e took

/-- An invalid request is reported and refused; a valid one is announced, run and reported. The
outer error is the text of an observer that broke down at the announcement. -/
def assess (c : Coordinator σ τ) (r : Request) (took : Duration) (st : σ × τ) :
    Except String (Except AssessmentError AssessmentResult) × (σ × τ) :=
  match r.validate with
  | .error e => (.ok (.error (.rejected e)), st.1, c.observer.note (.rejected e) st.2)
  | .ok selection =>
    match c.observer.breaksAtStart with
    | some text => (.error text, st)
    | none =>
      let seen := c.observer.note (.started selection r.data.length) st.2
      let (answer, st') := c.suite.runRequest r st.1
      (.ok answer, st', c.observer.note (ending selection took answer) seen)

/-- A request that could not even be read. -/
def reject (c : Coordinator σ τ) (e : RequestError) (st : σ × τ) : AssessmentError × (σ × τ) :=
  (.rejected e, st.1, c.observer.note (.rejected e) st.2)

/-- A single track; the observer hears nothing of it. -/
def assessMode (c : Coordinator σ τ) (data : List UInt8) (wordSize : Nat) (mode : Mode)
    (st : σ × τ) : Except AssessmentError ModeResult × (σ × τ) :=
  let (answer, st') := c.suite.assessMode data wordSize mode st.1
  (answer, st', st.2)

end Coordinator

end MinEntropy

import MinEntropy.Assessment.Coordinator

/-! Sessions: several steps on one coordinator, each with its answer. -/

namespace MinEntropy

inductive Step where
  | assess (request : Request) (took : Duration)
  | assessMode (data : List UInt8) (wordSize : Nat) (mode : Mode)
  | reject (error : RequestError)
  deriving Repr

inductive Answer where
  | result (r : AssessmentResult)
  | modeResult (r : ModeResult)
  | error (e : AssessmentError)
  /-- The observer broke down with this text. -/
  | breakdown (text : String)
  deriving Repr

namespace Answer

def ofResult : Except String (Except AssessmentError AssessmentResult) → Answer
  | .ok (.ok r) => result r
  | .ok (.error e) => error e
  | .error text => breakdown text

def ofModeResult : Except AssessmentError ModeResult → Answer
  | .ok r => modeResult r
  | .error e => error e

end Answer

namespace Coordinator

def step (c : Coordinator σ τ) : Step → σ × τ → Answer × (σ × τ)
  | .assess r took, st =>
    let (answer, st') := c.assess r took st
    (.ofResult answer, st')
  | .assessMode data wordSize mode, st =>
    let (answer, st') := c.assessMode data wordSize mode st
    (.ofModeResult answer, st')
  | .reject e, st =>
    let (answer, st') := c.reject e st
    (.error answer, st')

/-- The answers of the steps in turn, each with the state that follows it. -/
def run (c : Coordinator σ τ) : List Step → σ × τ → List (Answer × (σ × τ))
  | [], _ => []
  | s :: rest, st =>
    let (answer, st') := c.step s st
    (answer, st') :: c.run rest st'

end Coordinator

end MinEntropy

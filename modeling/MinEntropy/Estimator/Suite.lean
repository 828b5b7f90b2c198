import MinEntropy.Estimator.Mode
import MinEntropy.Figure

/-! Estimator suites: what they are asked, what they answer, and the guard around every call.

A suite is a machine whose state may change with each call, so that suites that count, log or wear
out are covered. It may also break down in the middle of a call. -/

namespace MinEntropy

/-- The verdict of one procedure. -/
structure Outcome where
  name : String
  /-- Bits per symbol of the representation, if the procedure gives an estimate. -/
  estimate : Option Float
  passed : Bool
  deriving Repr

namespace Outcome

/-- The estimate, if there is one that is finite and not negative. -/
def validEstimate (o : Outcome) : Option Float := o.estimate.filter Figure.isValid

/-- The outcome with an invalid estimate taken out. -/
def normalise (o : Outcome) : Outcome := { o with estimate := o.validEstimate }

end Outcome

/-- What a suite is asked about one representation of one track. -/
structure Call where
  mode : Mode
  view : Representation
  symbols : List UInt8
  /-- Two for bits. -/
  alphabetSize : Nat
  deriving DecidableEq, Repr

/-- An error that a suite reports. -/
inductive SuiteError where
  | invalidInput (code : Int) (message : String)
  | exception (code : Int) (message : String)
  | outOfMemory (what : String)
  deriving DecidableEq, Repr

namespace SuiteError

/-- The code with which a suite rejects its input. -/
def rejectedCode : Int := -1

/-- The code of an exception inside a suite, and of a breakdown. -/
def exceptionCode : Int := -2

/-- Any code but the one for rejected input counts as an exception; the message is kept as it is. -/
def ofCode (code : Int) (message : String) : SuiteError :=
  if code = rejectedCode then invalidInput code message else exception code message

def code? : SuiteError → Option Int
  | invalidInput code _ | exception code _ => some code
  | outOfMemory _ => none

def message : SuiteError → String
  | invalidInput code text => s!"estimator suite rejected input (code {code}): {text}"
  | exception code text => s!"estimator suite raised an exception (code {code}): {text}"
  | outOfMemory what => s!"estimator suite could not allocate {what}"

end SuiteError

/-- How a call to a suite ends. -/
inductive Reply where
  | outcomes (list : List Outcome)
  | failure (error : SuiteError)
  /-- The suite broke down, leaving a text or nothing readable. -/
  | breakdown (text : Option String)
  deriving Repr

/-- A call and the reply to it. -/
structure Exchange where
  call : Call
  reply : Reply
  deriving Repr

structure Suite (σ : Type) where
  name : String
  answer : Call → σ → Reply × σ

namespace Reply

/-- The message for a breakdown that left no text. -/
def unknownBreakdown : String := "unknown panic in estimator suite"

/-- A breakdown becomes an exception, and invalid estimates are taken out. -/
def guarded : Reply → Except SuiteError (List Outcome)
  | outcomes list => .ok (list.map Outcome.normalise)
  | failure e => .error e
  | breakdown text => .error (.exception SuiteError.exceptionCode (text.getD unknownBreakdown))

end Reply

namespace Suite

/-- The guarded call: no breakdown escapes it. -/
def invoke (s : Suite σ) (call : Call) (st : σ) : Except SuiteError (List Outcome) × σ :=
  let (reply, st') := s.answer call st
  (reply.guarded, st')

/-- Guarded calls one after the other. -/
def invokeAll (s : Suite σ) : List Call → σ → List (Except SuiteError (List Outcome)) × σ
  | [], st => ([], st)
  | call :: rest, st =>
    let (answer, st₁) := s.invoke call st
    let (answers, st₂) := s.invokeAll rest st₁
    (answer :: answers, st₂)

/-- The same suite, keeping a record of what it was asked and what it replied. -/
def transcribed (s : Suite σ) : Suite (σ × List Exchange) where
  name := s.name
  answer call st :=
    let (reply, st') := s.answer call st.1
    (reply, st', st.2 ++ [⟨call, reply⟩])

/-- A suite that answers from a list and then reports no outcomes. -/
def replaying (name : String) : Suite (List Reply) where
  name := name
  answer
    | _, [] => (.outcomes [], [])
    | _, reply :: rest => (reply, rest)

end Suite

end MinEntropy

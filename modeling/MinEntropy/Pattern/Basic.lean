import MinEntropy.Pattern.CharSet

/-! Patterns of text, and the text they cover. A choice prefers its first branch and an eager
repetition its longest run, and the preferred reading of a pattern has to cover a text to its end:
where that reading stops early, no other one is tried. -/

namespace MinEntropy

/-- What a pattern asks of a place between two characters. -/
inductive Assertion where
  | textStart
  | textEnd
  /-- The start of a line; carriage returns may count as ends of lines as well. -/
  | lineStart (returns : Bool)
  | lineEnd (returns : Bool)
  | wordEdge
  | noWordEdge
  | wordStart
  | wordEnd
  deriving DecidableEq, Repr

namespace Assertion

def isWordLetter (c : Option Char) : Bool := c.any CharSet.wordLetters.contains

/-- The assertion holds between two characters, either of which may be missing. -/
def holds (a : Assertion) (before after : Option Char) : Bool :=
  match a with
  | textStart => before.isNone
  | textEnd => after.isNone
  | lineStart returns =>
    before.isNone || before = some '\n' || (returns && before = some '\r' && after ≠ some '\n')
  | lineEnd returns =>
    after.isNone || (after = some '\n' && !(returns && before = some '\r')) ||
      (returns && after = some '\r')
  | wordEdge => isWordLetter before != isWordLetter after
  | noWordEdge => isWordLetter before == isWordLetter after
  | wordStart => !isWordLetter before && isWordLetter after
  | wordEnd => isWordLetter before && !isWordLetter after

end Assertion

inductive Pattern where
  /-- Covers the empty text. -/
  | nothing
  | one (s : CharSet)
  | place (a : Assertion)
  | sequence (p q : Pattern)
  | choice (p q : Pattern)
  | optional (eager : Bool) (p : Pattern)
  /-- Once or several times. -/
  | repeated (eager : Bool) (p : Pattern)
  /-- After one run of a repetition: no further run, or some. -/
  | again (eager : Bool) (p : Pattern)
  deriving DecidableEq, Repr

namespace Pattern

/-- A way in which the reading of a pattern goes on: it is complete, or the next character is one of
a set and a pattern is left. -/
inductive Course where
  | complete
  | next (s : CharSet) (left : Pattern)
  deriving DecidableEq, Repr

/-- The pattern, and another one after it. -/
def andThen (p q : Pattern) : Pattern :=
  if p = nothing then q else if q = nothing then p else sequence p q

def Course.andThen : Course → Pattern → Course
  | complete, _ => complete
  | next s left, q => next s (left.andThen q)

/-- The courses of a pattern between two characters, the preferred one first. A run of a repetition
that reads nothing is not followed by another one. -/
def courses (before after : Option Char) : Pattern → List Course
  | nothing => [.complete]
  | one s => [.next s nothing]
  | place a => if a.holds before after then [.complete] else []
  | sequence p q =>
    ((courses before after p).flatMap fun c =>
      if c = .complete then courses before after q else [c.andThen q]).eraseDups
  | choice p q => (courses before after p ++ courses before after q).eraseDups
  | optional eager p =>
    let inside := courses before after p
    (if eager then inside ++ [.complete] else .complete :: inside).eraseDups
  | repeated eager p => (courses before after p).map fun c => c.andThen (again eager p)
  | again eager p =>
    let further := ((courses before after p).filter (· ≠ .complete)).map fun c =>
      c.andThen (again eager p)
    if eager then further ++ [.complete] else .complete :: further

/-- What is left after a character. -/
def Course.after? (c : Char) : Course → Option Pattern
  | complete => none
  | next s left => if s.contains c then some left else none

/-- One of several readings covers the rest of a text; those that come after a complete one are
given up. -/
def cover (readings : List Pattern) (before : Option Char) : List Char → Bool
  | [] => (readings.flatMap (courses before none)).contains .complete
  | c :: rest =>
    let going := (readings.flatMap (courses before (some c))).takeWhile (· ≠ .complete)
    cover (going.filterMap (Course.after? c)).eraseDups (some c) rest

/-- The preferred reading of the pattern covers the whole text. -/
def covers (p : Pattern) (text : String) : Bool := cover [p] none text.toList

end Pattern

end MinEntropy

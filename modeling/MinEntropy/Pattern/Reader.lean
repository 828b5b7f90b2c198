import MinEntropy.Pattern.Brackets
import MinEntropy.Text.Alphanumeric

/-! Reading patterns: alternatives between bars, repetitions, groups in parentheses, points,
assertions, escapes, and sets in brackets. Counted repetitions, looking ahead or back, and
references to groups are refused. -/

namespace MinEntropy.Pattern

/-- How deep the parts of a pattern may be nested. -/
def depthLimit : Nat := 250

/-- A part of a branch. Flags count as one too, but are not repeated. -/
structure Part where
  body : Nested Pattern
  isFlags : Bool

/-- The branches that are complete and the parts of the branch at hand, both last first. -/
structure Branches where
  complete : List (Nested Pattern)
  parts : List Part

namespace Branches

def none : Branches := ⟨[], []⟩

def push (b : Branches) (p : Nested Pattern) : Branches :=
  { b with parts := ⟨p, false⟩ :: b.parts }

def pushFlags (b : Branches) : Branches :=
  { b with parts := ⟨.flat .nothing, true⟩ :: b.parts }

def sequences (ps : List Pattern) : Pattern := ps.foldr andThen nothing

def choices : List Pattern → Pattern
  | [] => nothing
  | [p] => p
  | p :: ps => choice p (choices ps)

/-- The branch at hand. -/
def branch (b : Branches) : Nested Pattern :=
  Nested.join sequences (b.parts.reverse.map (·.body))

/-- A bar ends a branch. -/
def bar (b : Branches) : Branches := ⟨b.branch :: b.complete, []⟩

/-- All branches together. -/
def close (b : Branches) : Nested Pattern := Nested.join choices b.bar.complete.reverse

/-- Repeats the last part, which there must be. -/
def repeat? (b : Branches) (sign : Char) (eager : Bool) : Option Branches :=
  match b.parts with
  | [] => Option.none
  | p :: before =>
    if p.isFlags then Option.none
    else
      let once := p.body.value
      let pattern :=
        if sign = '?' then optional eager once
        else if sign = '+' then repeated eager once
        else optional eager (repeated eager once)
      some { b with parts := ⟨.ofParts [p.body] pattern, false⟩ :: before }

end Branches

/-- What has been read of a pattern. -/
structure Reading where
  flags : Flags
  branches : Branches
  /-- The open groups around it, with the flags outside of each, the innermost one first. -/
  outer : List (Flags × Branches)
  /-- The names of groups. -/
  names : List (List Char)

namespace Reading

def start : Reading := ⟨.start, .none, [], []⟩

def push (r : Reading) (p : Nested Pattern) : Reading := { r with branches := r.branches.push p }

def pushSet (r : Reading) (s : CharSet) : Reading := r.push (.flat (one s))

def pushPlace (r : Reading) (a : Assertion) : Reading := r.push (.flat (place a))

/-! ### Groups -/

/-- Opens a group in which the given flags hold. -/
def enter (r : Reading) (inside : Flags) : Reading :=
  { r with flags := inside, branches := .none, outer := (r.flags, r.branches) :: r.outer }

/-- Closes the innermost group. -/
def leave? (r : Reading) : Option Reading :=
  match r.outer with
  | [] => none
  | (flags, branches) :: outer =>
    let p := r.branches.close
    some { r with flags, branches := branches.push (.ofParts [p] p.value), outer }

def isNameStart (c : Char) : Bool := c = '_' || Text.isLetter c

def isNamePart (c : Char) : Bool := c ∈ ['_', '.', '[', ']'] || Text.isLetterOrNumber c

/-- Opens a group with a name that no other one has, from the start of the name. -/
def enterNamed? (r : Reading) (cs : List Char) : Option (Reading × List Char) :=
  match cs.takeWhile (· ≠ '>'), cs.dropWhile (· ≠ '>') with
  | c :: name, _ :: rest =>
    if isNameStart c && name.all isNamePart && (c :: name) ∉ r.names then
      some ({ r.enter r.flags with names := (c :: name) :: r.names }, rest)
    else none
  | _, _ => none

/-- Flags for the rest of the group that is open, or for a group of their own. -/
def changeFlags? (r : Reading) (cs : List Char) : Option (Reading × List Char) :=
  match r.flags.read [] cs with
  | some (flags, _, ':' :: rest) => some (r.enter flags, rest)
  | some (flags, _ :: _, ')' :: rest) =>
    some ({ r with flags, branches := r.branches.pushFlags }, rest)
  | _ => none

/-- What an opening parenthesis begins. -/
def group? (r : Reading) (cs : List Char) : Option (Reading × List Char) :=
  match cs with
  | '?' :: 'P' :: '<' :: rest => r.enterNamed? rest
  | '?' :: '<' :: rest => r.enterNamed? rest
  | '?' :: rest => r.changeFlags? rest
  | _ => some (r.enter r.flags, cs)

/-! ### The whole -/

/-- A repetition, which a question mark makes lazy. -/
def repeat? (r : Reading) (sign : Char) (rest : List Char) : Option (Reading × List Char) :=
  let lazy := rest.head? = some '?'
  (r.branches.repeat? sign (lazy == r.flags.swapped)).map fun branches =>
    ({ r with branches }, if lazy then rest.tail else rest)

def pushEscape? (r : Reading) : Escaped → Option Reading
  | .char c byte => (r.flags.literal? c byte).map r.pushSet
  | .set s => some (r.pushSet s)
  | .place a => some (r.pushPlace a)

/-- Reads on after a character. -/
def step? (r : Reading) (c : Char) (rest : List Char) : Option (Reading × List Char) :=
  match c with
  | '(' => r.group? (r.flags.skip rest)
  | ')' => r.leave?.map fun r => (r, rest)
  | '|' => some ({ r with branches := r.branches.bar }, rest)
  | '[' => (readBrackets r.flags rest).map fun (s, rest) => (r.push ⟨one s.value, s.depth⟩, rest)
  | '\x7b' => none
  | '\\' => do
    let (e, rest) ← Escaped.read r.flags rest
    return (← r.pushEscape? e, rest)
  | '.' => r.flags.point?.map fun s => (r.pushSet s, rest)
  | '^' => some (r.pushPlace r.flags.lineStart, rest)
  | '$' => some (r.pushPlace r.flags.lineEnd, rest)
  | c =>
    if c ∈ ['?', '*', '+'] then r.repeat? c rest
    else (r.flags.literal? c false).map fun s => (r.pushSet s, rest)

/-- The pattern, when no group is open. -/
def finish? (r : Reading) : Option Pattern :=
  let p := r.branches.close
  if r.outer.isEmpty ∧ p.depth ≤ depthLimit then some p.value else none

/-- Reads a text to its end; at most as many steps as the fuel. -/
def toEnd? : Nat → Reading → List Char → Option Pattern
  | 0, _, _ => none
  | fuel + 1, r, cs =>
    match r.flags.skip cs with
    | [] => r.finish?
    | c :: rest => (r.step? c rest).bind fun (r, rest) => toEnd? fuel r rest

end Reading

/-- The pattern that a text describes. -/
def read? (text : List Char) : Option Pattern := Reading.toEnd? (text.length + 1) .start text

end MinEntropy.Pattern

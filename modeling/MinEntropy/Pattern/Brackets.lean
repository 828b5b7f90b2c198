import MinEntropy.Pattern.Escape
import MinEntropy.Pattern.Nested

/-! Sets of characters in brackets: characters, ranges, named classes, brackets within brackets, and
operators between them. -/

namespace MinEntropy.Pattern

/-- What two ampersands, minus signs or tildes do with the sets around them. -/
inductive SetOperator where
  | inter
  | diff
  | symmDiff

namespace SetOperator

def ofSign? (c : Char) : Option SetOperator :=
  if c = '&' then some inter
  else if c = '-' then some diff
  else if c = '~' then some symmDiff
  else none

def apply : SetOperator → CharSet → CharSet → CharSet
  | inter => CharSet.inter
  | diff => CharSet.diff
  | symmDiff => CharSet.symmDiff

end SetOperator

/-- Brackets that have been opened. -/
structure Bracket where
  negated : Bool
  /-- Nothing has been read but minus signs. -/
  fresh : Bool
  /-- What an operator has on its left. -/
  left : Option (SetOperator × Nested CharSet)
  /-- The sets after the operator, the last one first. -/
  items : List (Nested CharSet)

namespace Bracket

/-- After an opening bracket, and a circumflex that may follow it. -/
def opening (f : Flags) (cs : List Char) : Bracket × List Char :=
  match f.skip cs with
  | '^' :: rest => (⟨true, true, none, []⟩, rest)
  | rest => (⟨false, true, none, []⟩, rest)

def push (b : Bracket) (s : Nested CharSet) : Bracket :=
  { b with fresh := false, items := s :: b.items }

/-- A minus sign, or else a closing bracket, for itself at the start. -/
def pushSign (b : Bracket) (c : Char) : Bracket :=
  { b.push (.flat (.single c)) with fresh := c = '-' }

/-- The operator applied to what is on both sides of it. -/
def settle? (b : Bracket) (f : Flags) : Option (Nested CharSet) :=
  let right := Nested.join CharSet.unions b.items.reverse
  match b.left with
  | none => some right
  | some (op, left) => do
    let s ← f.fold? left.value
    let t ← f.fold? right.value
    return .ofParts [left, right] (op.apply s t)

def operate? (b : Bracket) (f : Flags) (op : SetOperator) : Option Bracket :=
  (b.settle? f).map fun s => { b with fresh := false, left := some (op, s), items := [] }

def close? (b : Bracket) (f : Flags) : Option (Nested CharSet) :=
  (b.settle? f).bind fun s => (f.close? b.negated s.value).map (.ofParts [s])

end Bracket

/-! ### Items -/

/-- A character, by itself or by an escape. -/
def readItem (f : Flags) (c : Char) (rest : List Char) : Option (Escaped × List Char) :=
  if c = '\\' then Escaped.read f rest else some (.char c false, rest)

/-- An item that is not the start of a range. -/
def Escaped.set? (f : Flags) : Escaped → Option CharSet
  | char c _ => (f.member? c).map fun n => .range n n
  | set s => some s
  | place _ => none

/-- An item as an end of a range. -/
def Escaped.bound? (f : Flags) : Escaped → Option Nat
  | char c _ => f.member? c
  | _ => none

def range? (f : Flags) (first last : Escaped) : Option CharSet := do
  let m ← first.bound? f
  let n ← last.bound? f
  if m ≤ n then return .range m n else none

/-- An item, or a range of two with a minus sign between them. -/
def readRange (f : Flags) (c : Char) (rest : List Char) : Option (CharSet × List Char) := do
  let (first, rest) ← readItem f c rest
  match f.skip rest with
  | [] => none
  | d :: after =>
    if d ≠ '-' ∨ f.peek? after = some ']' ∨ f.peek? after = some '-' then
      return (← first.set? f, d :: after)
    else match f.skip after with
      | [] => none
      | e :: after =>
        let (last, after) ← readItem f e after
        return (← range? f first last, after)

/-- A named class between colons, from after the bracket that opens it: whether it is negated, the
class, and what follows the bracket that closes it. -/
def readNamed : List Char → Option (Bool × CharSet × List Char)
  | ':' :: cs =>
    let negated := cs.head? = some '^'
    let cs := if negated then cs.tail else cs
    match cs.dropWhile (· ≠ ':') with
    | ':' :: ']' :: rest =>
      (CharSet.named? (String.ofList (cs.takeWhile (· ≠ ':')))).map fun s => (negated, s, rest)
    | _ => none
  | _ => none

/-- Two equal signs are an operator. -/
def operator? (c : Char) (rest : List Char) : Option SetOperator :=
  if rest.head? = some c then SetOperator.ofSign? c else none

/-- The set in brackets that are open, with those around them; at most as many items as the fuel. -/
def readBracket (f : Flags) : Nat → Bracket → List Bracket → List Char →
    Option (Nested CharSet × List Char)
  | 0, _, _, _ => none
  | fuel + 1, b, outer, cs =>
    match f.skip cs with
    | [] => none
    | c :: rest =>
      if b.fresh && (c = '-' || (c = ']' && b.items.isEmpty)) then
        readBracket f fuel (b.pushSign c) outer rest
      else if c = '[' then
        match readNamed rest with
        | some (negated, s, rest) => do
          readBracket f fuel (b.push (.flat (← f.close? negated s))) outer rest
        | none =>
          let (inner, rest) := Bracket.opening f rest
          readBracket f fuel inner (b :: outer) rest
      else if c = ']' then
        match b.close? f, outer with
        | none, _ => none
        | some s, [] => some (s, rest)
        | some s, o :: outer => readBracket f fuel (o.push s) outer rest
      else match operator? c rest with
        | some op => do readBracket f fuel (← b.operate? f op) outer rest.tail
        | none => do
          let (s, rest) ← readRange f c rest
          readBracket f fuel (b.push (.flat s)) outer rest

/-- The set in brackets, from after the bracket that opens it. -/
def readBrackets (f : Flags) (cs : List Char) : Option (Nested CharSet × List Char) :=
  let (b, rest) := Bracket.opening f cs
  readBracket f cs.length b [] rest

end MinEntropy.Pattern

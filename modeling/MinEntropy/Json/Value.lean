import MinEntropy.Decimal.Style

/-! JSON documents and their two layouts: on one line, and indented. Members stand in the order in
which they are listed. -/

namespace MinEntropy

inductive Json where
  | null
  | bool (b : Bool)
  | nat (n : Nat)
  | num (x : Float)
  | str (s : String)
  | arr (elements : List Json)
  | obj (members : List (String × Json))

namespace Json

/-- Figures in documents: positional between 10⁻⁵ and 10¹⁶, always with a point or an exponent; what
is no finite number is null. -/
def figure : Decimal.Style := ⟨some (-5, 15), true, .even, "null", "null"⟩

/-- A figure as text. The infinities have no sign, for they are no numbers. -/
def figureText (x : Float) : List Char := if x.isFinite then figure.write x else "null".toList

def hexDigit (n : Nat) : Char := (Nat.digitChar n)

/-- Quotes, backslashes and control characters are escaped, everything else stands for itself. -/
def escape (c : Char) : List Char :=
  if c = '"' then ['\\', '"']
  else if c = '\\' then ['\\', '\\']
  else if c = '\x08' then ['\\', 'b']
  else if c = '\x0c' then ['\\', 'f']
  else if c = '\n' then ['\\', 'n']
  else if c = '\r' then ['\\', 'r']
  else if c = '\t' then ['\\', 't']
  else if c.toNat < 0x20 then
    ['\\', 'u', '0', '0', hexDigit (c.toNat / 16), hexDigit (c.toNat % 16)]
  else [c]

def quote (s : String) : List Char := '"' :: s.toList.flatMap escape ++ ['"']

/-- Values that are written the same way in both layouts. -/
def scalar : Json → List Char
  | null => "null".toList
  | bool b => (if b then "true" else "false").toList
  | nat n => Nat.toDigits 10 n
  | num x => figureText x
  | str s => quote s
  | arr _ | obj _ => []

mutual

/-- The document without blanks. -/
def compact : Json → List Char
  | arr [] => ['[', ']']
  | arr (v :: rest) => '[' :: compact v ++ compactElements rest
  | obj [] => ['\x7b', '\x7d']
  | obj ((k, v) :: rest) => '\x7b' :: quote k ++ ':' :: compact v ++ compactMembers rest
  | v => v.scalar

/-- The elements after the first, and the bracket. -/
def compactElements : List Json → List Char
  | [] => [']']
  | v :: rest => ',' :: compact v ++ compactElements rest

/-- The members after the first, and the brace. -/
def compactMembers : List (String × Json) → List Char
  | [] => ['\x7d']
  | (k, v) :: rest => ',' :: quote k ++ ':' :: compact v ++ compactMembers rest

end

/-- A new line, two spaces deeper for each level. -/
def newline (depth : Nat) : List Char := '\n' :: List.replicate (2 * depth) ' '

mutual

/-- The document with one element or member to a line. -/
def indented (depth : Nat) : Json → List Char
  | arr [] => ['[', ']']
  | arr (v :: rest) =>
    '[' :: newline (depth + 1) ++ indented (depth + 1) v ++ indentedElements depth rest
  | obj [] => ['\x7b', '\x7d']
  | obj ((k, v) :: rest) =>
    '\x7b' :: newline (depth + 1) ++ quote k ++ ':' :: ' ' :: indented (depth + 1) v ++
      indentedMembers depth rest
  | v => v.scalar

def indentedElements (depth : Nat) : List Json → List Char
  | [] => newline depth ++ [']']
  | v :: rest =>
    ',' :: newline (depth + 1) ++ indented (depth + 1) v ++ indentedElements depth rest

def indentedMembers (depth : Nat) : List (String × Json) → List Char
  | [] => newline depth ++ ['\x7d']
  | (k, v) :: rest =>
    ',' :: newline (depth + 1) ++ quote k ++ ':' :: ' ' :: indented (depth + 1) v ++
      indentedMembers depth rest

end

def compactText (v : Json) : String := String.ofList v.compact

def indentedText (v : Json) : String := String.ofList (v.indented 0)

/-- A figure that may be missing. -/
def num? : Option Float → Json
  | some x => num x
  | none => null

end Json

end MinEntropy

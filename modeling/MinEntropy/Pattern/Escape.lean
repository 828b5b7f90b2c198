import MinEntropy.Pattern.Flags
import MinEntropy.Text.CodePoint
import MinEntropy.Text.Integer

/-! Escapes in patterns: what stands after a backslash. -/

namespace MinEntropy.Pattern

/-- What an escape stands for. -/
inductive Escaped where
  /-- A character; `byte` when it was given as a byte. -/
  | char (c : Char) (byte : Bool)
  | set (s : CharSet)
  | place (a : Assertion)

namespace Escaped

/-- A number of the given count of hexadecimal digits, with blanks between them and after them. -/
def readDigits (f : Flags) : Nat → Nat → List Char → Option (Nat × List Char)
  | 0, n, cs => some (n, cs)
  | _ + 1, _, [] => none
  | digits + 1, n, c :: rest =>
    (Text.hexDigit? c).bind fun d => readDigits f digits (16 * n + d) (f.skip rest)

/-- A character by its number. -/
def readNumber (f : Flags) (digits : Nat) (cs : List Char) : Option (Escaped × List Char) :=
  (readDigits f digits 0 (f.skip cs)).bind fun (n, rest) =>
    (Text.charOf? n).map fun c => (char c (digits = 2), rest)

/-- Classes are those of ASCII, and nothing is known about other ones. -/
def ascii? (f : Flags) (s : CharSet) : Option Escaped := if f.unicode then none else some (set s)

/-- Assertions about words are those of ASCII as well. -/
def edge? (f : Flags) (a : Assertion) : Option Escaped := if f.unicode then none else some (place a)

/-- A letter that does not stand for itself. -/
def ofLetter? (f : Flags) (c : Char) : Option Escaped :=
  match c with
  | 'a' => some (char '\x07' false)
  | 'f' => some (char '\x0c' false)
  | 't' => some (char '\t' false)
  | 'n' => some (char '\n' false)
  | 'r' => some (char '\r' false)
  | 'v' => some (char '\x0b' false)
  | 'A' => some (place .textStart)
  | 'z' => some (place .textEnd)
  | 'b' => edge? f .wordEdge
  | 'B' => edge? f .noWordEdge
  | '<' => edge? f .wordStart
  | '>' => edge? f .wordEnd
  | 'd' => ascii? f CharSet.digits
  | 's' => ascii? f CharSet.blanks
  | 'w' => ascii? f CharSet.wordLetters
  | _ => none

/-- A character of ASCII that is no letter, no digit and no angle bracket. -/
def standsForItself (c : Char) : Bool :=
  c.toNat < 0x80 && !c.isAlphanum && c ≠ '<' && c ≠ '>'

/-- An escape, from the character after the backslash. -/
def read (f : Flags) : List Char → Option (Escaped × List Char)
  | [] => none
  | c :: rest =>
    if c = 'x' then readNumber f 2 rest
    else if c = 'u' then readNumber f 4 rest
    else if c = 'U' then readNumber f 8 rest
    else if standsForItself c then some (char c false, rest)
    else if c = 'b' ∧ rest.head? = some '\x7b' then none
    else (ofLetter? f c).map fun e => (e, rest)

end Escaped

end MinEntropy.Pattern

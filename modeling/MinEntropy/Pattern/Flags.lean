import MinEntropy.Pattern.Basic
import MinEntropy.Text.Blank

/-! Flags of a pattern, and what they make of blanks, letters and sets. Where characters are those
of Unicode, only what needs no knowledge about them can be read: no letter in either case, no class
of digits, blanks or words. Where they are bytes, no set may go beyond ASCII. -/

namespace MinEntropy.Pattern

structure Flags where
  /-- Letters count in either case. -/
  caseless : Bool
  /-- Starts and ends of lines count as those of the text. -/
  multiline : Bool
  /-- A point stands for line breaks too. -/
  pointsAnywhere : Bool
  /-- A repetition is eager when it is marked as lazy. -/
  swapped : Bool
  unicode : Bool
  /-- Carriage returns are line breaks too. -/
  returns : Bool
  /-- Blanks and comments between the parts of a pattern are left out. -/
  spaced : Bool
  deriving DecidableEq, Repr

namespace Flags

def start : Flags := ⟨false, false, false, false, true, false, false⟩

/-- The flags with one of them changed, by its letter. -/
def set? (f : Flags) (letter : Char) (on : Bool) : Option Flags :=
  if letter = 'i' then some { f with caseless := on }
  else if letter = 'm' then some { f with multiline := on }
  else if letter = 's' then some { f with pointsAnywhere := on }
  else if letter = 'U' then some { f with swapped := on }
  else if letter = 'u' then some { f with unicode := on }
  else if letter = 'R' then some { f with returns := on }
  else if letter = 'x' then some { f with spaced := on }
  else none

/-- Changes flags up to a colon or a closing parenthesis; after a minus sign they are switched off.
No letter comes twice, and no minus sign comes last. -/
def read (f : Flags) (seen : List Char) : List Char → Option (Flags × List Char × List Char)
  | [] => none
  | c :: rest =>
    if c = ':' ∨ c = ')' then
      if seen.head? = some '-' then none else some (f, seen, c :: rest)
    else if c ∈ seen then none
    else if c = '-' then f.read (c :: seen) rest
    else (f.set? c ('-' ∉ seen)).bind fun f => f.read (c :: seen) rest

/-! ### Blanks -/

/-- The text after blanks and comments, perhaps from within a comment. -/
def dropSpace : Bool → List Char → List Char
  | _, [] => []
  | true, c :: rest => dropSpace (c ≠ '\n') rest
  | false, c :: rest =>
    if Text.isBlank c then dropSpace false rest
    else if c = '#' then dropSpace true rest
    else c :: rest

def skip (f : Flags) (cs : List Char) : List Char := if f.spaced then dropSpace false cs else cs

/-- The character ahead, after blanks and the sign of a comment. -/
def peek? (f : Flags) (cs : List Char) : Option Char :=
  if f.spaced then
    let ahead := cs.dropWhile Text.isBlank
    if ahead.head? = some '#' then (ahead.tail.dropWhile Text.isBlank).head? else ahead.head?
  else cs.head?

/-! ### Sets -/

/-- The set with its letters in either case, where that is asked for. -/
def fold? (f : Flags) (s : CharSet) : Option CharSet :=
  if !f.caseless then some s
  else if f.unicode then (if s.isVoid then some s else none)
  else some (.caseless s)

/-- The set, or what is outside of it. -/
def close? (f : Flags) (negated : Bool) (s : CharSet) : Option CharSet :=
  (f.fold? s).bind fun s =>
    if !negated then some s else if f.unicode then some (.complement s) else none

/-- Any character, line breaks left out unless they are included. -/
def point? (f : Flags) : Option CharSet :=
  if !f.unicode then none
  else if f.pointsAnywhere then some .any
  else if f.returns then some (.complement (.union (.single '\n') (.single '\r')))
  else some (.complement (.single '\n'))

/-- A character by itself; `byte` when it was given as a byte. -/
def literal? (f : Flags) (c : Char) (byte : Bool) : Option CharSet :=
  if byte && !f.unicode && 0x80 ≤ c.toNat then none else f.fold? (.single c)

/-- A character in brackets. -/
def member? (f : Flags) (c : Char) : Option Nat :=
  if f.unicode || c.toNat < 0x80 then some c.toNat else none

def lineStart (f : Flags) : Assertion := if f.multiline then .lineStart f.returns else .textStart

def lineEnd (f : Flags) : Assertion := if f.multiline then .lineEnd f.returns else .textEnd

end Flags

end MinEntropy.Pattern

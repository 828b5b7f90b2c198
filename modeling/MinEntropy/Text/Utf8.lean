/-! UTF-8 read byte by byte. Where the bytes are no text, each maximal piece that could still have
begun a character becomes one replacement character. -/

namespace MinEntropy.Text.Utf8

/-- What stands for bytes that are no character. -/
def replacement : Char := '\ufffd'

/-- A character that has begun: how many bytes must follow, the range of the next one, and the bits
read so far. -/
structure Pending where
  more : Nat
  lo : UInt8
  hi : UInt8
  bits : Nat
  deriving DecidableEq, Repr

/-- The byte that follows, where it is an ordinary continuation byte. -/
def Pending.next (p : Pending) (b : UInt8) : Pending :=
  ⟨p.more - 1, 0x80, 0xbf, p.bits * 64 + (b.toNat - 0x80)⟩

/-- The first byte of a character of several bytes. Overlong forms, surrogates and values past the
last character are excluded by the range of the second byte. -/
def lead? (b : UInt8) : Option Pending :=
  let n := b.toNat
  if n < 0xc2 then none
  else if n < 0xe0 then some ⟨1, 0x80, 0xbf, n - 0xc0⟩
  else if n < 0xf0 then
    some ⟨2, if n = 0xe0 then 0xa0 else 0x80, if n = 0xed then 0x9f else 0xbf, n - 0xe0⟩
  else if n < 0xf5 then
    some ⟨3, if n = 0xf0 then 0x90 else 0x80, if n = 0xf4 then 0x8f else 0xbf, n - 0xf0⟩
  else none

/-- A byte where a character may begin. -/
def begin (b : UInt8) : List Char × Option Pending :=
  if b < 0x80 then ([Char.ofNat b.toNat], none)
  else match lead? b with
    | some p => ([], some p)
    | none => ([replacement], none)

/-- The characters completed by a byte, and what is pending after it. -/
def step : Option Pending → UInt8 → List Char × Option Pending
  | none, b => begin b
  | some p, b =>
    if p.lo ≤ b ∧ b ≤ p.hi then
      let q := p.next b
      if q.more = 0 then ([Char.ofNat q.bits], none) else ([], some q)
    else
      let (cs, q) := begin b
      (replacement :: cs, q)

def decodeFrom : Option Pending → List UInt8 → List Char
  | none, [] => []
  | some _, [] => [replacement]
  | p, b :: rest =>
    let (cs, q) := step p b
    cs ++ decodeFrom q rest

/-- The text of any bytes. -/
def lossy (bytes : List UInt8) : String := String.ofList (decodeFrom none bytes)

/-- The text of bytes that are UTF-8 throughout. -/
def decode? (bytes : List UInt8) : Option String := String.fromUTF8? ⟨bytes.toArray⟩

def encode (s : String) : List UInt8 := s.toUTF8.toList

/-- How many bytes a text takes. -/
def size (cs : List Char) : Nat := (cs.map Char.utf8Size).foldl (· + ·) 0

/-- The characters of the first bytes, and the others, unless one of them would be divided. -/
def splitAt? : Nat → List Char → Option (List Char × List Char)
  | 0, cs => some ([], cs)
  | _ + 1, [] => none
  | n + 1, c :: rest =>
    if n + 1 < c.utf8Size then none
    else (splitAt? (n + 1 - c.utf8Size) rest).map fun (front, back) => (c :: front, back)

/-- The text before the first zero byte, or of all bytes where there is none. -/
def untilZero (bytes : List UInt8) : String := lossy (bytes.takeWhile (· != 0))

end MinEntropy.Text.Utf8

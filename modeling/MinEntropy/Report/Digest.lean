/-! The SHA-256 digest of the samples. -/

namespace MinEntropy.Sha256

def rotate (x : UInt32) (n : UInt32) : UInt32 := x >>> n ||| x <<< (32 - n)

def bigSigma0 (x : UInt32) : UInt32 := rotate x 2 ^^^ rotate x 13 ^^^ rotate x 22

def bigSigma1 (x : UInt32) : UInt32 := rotate x 6 ^^^ rotate x 11 ^^^ rotate x 25

def smallSigma0 (x : UInt32) : UInt32 := rotate x 7 ^^^ rotate x 18 ^^^ x >>> 3

def smallSigma1 (x : UInt32) : UInt32 := rotate x 17 ^^^ rotate x 19 ^^^ x >>> 10

def choose (x y z : UInt32) : UInt32 := (x &&& y) ^^^ (~~~x &&& z)

def majority (x y z : UInt32) : UInt32 := (x &&& y) ^^^ (x &&& z) ^^^ (y &&& z)

/-- The constants of the 64 rounds. -/
def constants : List UInt32 :=
  [ 0x428a2f98, 0x71374491, 0xb5c0fbcf, 0xe9b5dba5, 0x3956c25b, 0x59f111f1, 0x923f82a4, 0xab1c5ed5,
    0xd807aa98, 0x12835b01, 0x243185be, 0x550c7dc3, 0x72be5d74, 0x80deb1fe, 0x9bdc06a7, 0xc19bf174,
    0xe49b69c1, 0xefbe4786, 0x0fc19dc6, 0x240ca1cc, 0x2de92c6f, 0x4a7484aa, 0x5cb0a9dc, 0x76f988da,
    0x983e5152, 0xa831c66d, 0xb00327c8, 0xbf597fc7, 0xc6e00bf3, 0xd5a79147, 0x06ca6351, 0x14292967,
    0x27b70a85, 0x2e1b2138, 0x4d2c6dfc, 0x53380d13, 0x650a7354, 0x766a0abb, 0x81c2c92e, 0x92722c85,
    0xa2bfe8a1, 0xa81a664b, 0xc24b8b70, 0xc76c51a3, 0xd192e819, 0xd6990624, 0xf40e3585, 0x106aa070,
    0x19a4c116, 0x1e376c08, 0x2748774c, 0x34b0bcb5, 0x391c0cb3, 0x4ed8aa4a, 0x5b9cca4f, 0x682e6ff3,
    0x748f82ee, 0x78a5636f, 0x84c87814, 0x8cc70208, 0x90befffa, 0xa4506ceb, 0xbef9a3f7, 0xc67178f2]

/-- The eight words that a block changes. -/
structure Registers where
  a : UInt32
  b : UInt32
  c : UInt32
  d : UInt32
  e : UInt32
  f : UInt32
  g : UInt32
  h : UInt32
  deriving DecidableEq, Repr

namespace Registers

def initial : Registers :=
  ⟨0x6a09e667, 0xbb67ae85, 0x3c6ef372, 0xa54ff53a, 0x510e527f, 0x9b05688c, 0x1f83d9ab, 0x5be0cd19⟩

def add (r s : Registers) : Registers :=
  ⟨r.a + s.a, r.b + s.b, r.c + s.c, r.d + s.d, r.e + s.e, r.f + s.f, r.g + s.g, r.h + s.h⟩

/-- One round with its constant and its word of the message. -/
def round (r : Registers) (constant word : UInt32) : Registers :=
  let t₁ := r.h + bigSigma1 r.e + choose r.e r.f r.g + constant + word
  let t₂ := bigSigma0 r.a + majority r.a r.b r.c
  ⟨t₁ + t₂, r.a, r.b, r.c, r.d + t₁, r.e, r.f, r.g⟩

def words (r : Registers) : List UInt32 := [r.a, r.b, r.c, r.d, r.e, r.f, r.g, r.h]

end Registers

/-- The sixteen words of the schedule from which the next ones follow, as a ring. -/
abbrev Ring := Vector UInt32 16

def Ring.word (w : Ring) (i : Nat) : UInt32 := w.get ⟨i % 16, Nat.mod_lt _ (by decide)⟩

/-- The word sixteen places on takes the place of word `i`. -/
def Ring.advance (w : Ring) (i : Nat) : Ring :=
  w.set (i % 16)
    (smallSigma1 (w.word (i + 14)) + w.word (i + 9) + smallSigma0 (w.word (i + 1)) + w.word i)
    (Nat.mod_lt _ (by decide))

/-- The rounds from `i` on. -/
def rounds : List UInt32 → Nat → Ring → Registers → Registers
  | [], _, _, r => r
  | k :: rest, i, w, r => rounds rest (i + 1) (w.advance i) (r.round k (w.word i))

/-- A number in bytes, the most significant first. -/
def bigEndian (bytes n : Nat) : List UInt8 :=
  (List.range bytes).reverse.map fun i => UInt8.ofNat (n >>> (8 * i))

/-- The bytes of a block, four to a word. -/
def wordsOf : List UInt8 → List UInt32
  | a :: b :: c :: d :: rest =>
    (a.toUInt32 <<< 24 ||| b.toUInt32 <<< 16 ||| c.toUInt32 <<< 8 ||| d.toUInt32) :: wordsOf rest
  | _ => []

/-- Sixteen words; those missing are zero. -/
def ringOf (words : List UInt32) : Ring := Vector.ofFn fun i : Fin 16 => words.getD i 0

def block (r : Registers) (bytes : List UInt8) : Registers :=
  r.add (rounds constants 0 (ringOf (wordsOf bytes)) r)

/-- What follows the message: a one bit, zeros, and the number of bits in eight bytes. -/
def padding (length : Nat) : List UInt8 :=
  0x80 :: List.replicate ((119 - length % 64) % 64) 0 ++ bigEndian 8 (8 * length)

/-- Goes through whole blocks, at most as many as the fuel. -/
def blocks : Nat → Registers → List UInt8 → Registers
  | 0, r, _ => r
  | fuel + 1, r, bytes =>
    if bytes.isEmpty then r else blocks fuel (block r (bytes.take 64)) (bytes.drop 64)

def digest (data : List UInt8) : List UInt8 :=
  let message := data ++ padding data.length
  (blocks (message.length / 64) .initial message).words.flatMap fun w => bigEndian 4 w.toNat

def hexByte (b : UInt8) : List Char := [Nat.digitChar (b.toNat / 16), Nat.digitChar (b.toNat % 16)]

/-- The digest in hexadecimal. -/
def text (data : List UInt8) : String := String.ofList ((digest data).flatMap hexByte)

end MinEntropy.Sha256

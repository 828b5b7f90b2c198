import MinEntropy.Samples.WordSize

/-! Samples made ready for estimation: masked to the word size, renamed to consecutive symbols, and
expanded to bits. -/

namespace MinEntropy

/-- Why samples cannot be prepared. -/
inductive PrepareError where
  | emptySamples
  | invalidWordSize (bits : Nat)
  | singleSymbolAlphabet
  | allocation (what : String) (bytes : Nat)
  deriving DecidableEq, Repr

def PrepareError.message : PrepareError → String
  | emptySamples => "sample buffer is empty"
  | invalidWordSize bits => s!"invalid word size {bits} (must be 0-8, 0 to auto-detect)"
  | singleSymbolAlphabet => "Symbol alphabet consists of 1 symbol. No entropy awarded."
  | allocation what bytes => s!"failed to allocate {bytes} bytes for {what}"

namespace Samples

/-- The samples cut down to the low bits of the width. -/
def masked (w : WordSize) (data : List UInt8) : List UInt8 := data.map (· &&& w.mask)

/-- Which byte values occur. -/
def presence (values : List UInt8) : Vector Bool 256 :=
  values.foldl (fun seen v => seen.set v.toNat true v.toNat_lt) (Vector.replicate 256 false)

/-- The greatest value, or zero. -/
def greatest (values : List UInt8) : UInt8 := values.foldl max 0

/-- The letters of an alphabet, numbered. -/
structure Index where
  /-- The number of every letter; other values have none and stay at zero. -/
  place : Vector UInt8 256
  /-- How many letters there are. -/
  size : Nat

namespace Index

def empty : Index := ⟨Vector.replicate 256 0, 0⟩

/-- The next letter gets the next number. -/
def add (ix : Index) (letter : Fin 256) : Index :=
  ⟨ix.place.set letter (UInt8.ofNat ix.size), ix.size + 1⟩

/-- The number of a value. -/
def find (ix : Index) (v : UInt8) : UInt8 :=
  have := v.toNat_lt
  ix.place[v.toNat]

/-- The values of the width that occur, in increasing order. -/
def observed (w : WordSize) (seen : Vector Bool 256) : List (Fin 256) :=
  ((List.finRange 256).take w.maxSymbols).filter (seen[·])

/-- Numbers the values that occur in their order. -/
def ofPresence (w : WordSize) (seen : Vector Bool 256) : Index :=
  (observed w seen).foldl add empty

end Index

/-- Every value is renamed to its number. Where every value up to the greatest occurs, the numbers
are the values themselves and nothing is renamed. -/
def compact (ix : Index) (values : List UInt8) : List UInt8 :=
  if ix.size < (greatest values).toNat + 1 then values.map ix.find else values

/-- The low bits of a value, the most significant first, one to an element. -/
def bitsOf (width : Nat) (v : UInt8) : List UInt8 :=
  (List.range width).reverse.map fun shift => (v >>> UInt8.ofNat shift) &&& 1

/-- The value with the given bits, the most significant first. -/
def ofBits (bits : List UInt8) : UInt8 := bits.foldl (fun v b => v <<< 1 ||| b) 0

/-- The values written bit by bit. -/
def expand (w : WordSize) (values : List UInt8) : List UInt8 := values.flatMap (bitsOf w.bits)

end Samples

/-- Samples ready for an estimator suite. -/
structure Prepared where
  /-- The renamed samples, each below the alphabet size. -/
  symbols : List UInt8
  /-- The bits of the masked samples; not built where the symbols are the bits. -/
  expanded : Option (List UInt8)
  alphabetSize : Nat
  wordSize : WordSize
  deriving DecidableEq, Repr

/-- One bit to an element. -/
def Prepared.bitstring (p : Prepared) : List UInt8 := p.expanded.getD p.symbols

namespace Samples

/-- The width asked for, or the detected one for zero. -/
def resolve (data : List UInt8) (requested : Nat) : Option WordSize :=
  if requested = 0 then some (WordSize.detect data) else WordSize.ofNat? requested

/-- Samples of at most one distinct value carry no entropy and are refused. -/
def prepareAt (w : WordSize) (data : List UInt8) : Except PrepareError Prepared :=
  let values := masked w data
  let ix := Index.ofPresence w (presence values)
  if ix.size ≤ 1 then .error .singleSymbolAlphabet
  else
    let expanded := if w.bits = 1 then none else some (expand w values)
    .ok ⟨compact ix values, expanded, ix.size, w⟩

/-- An empty sample buffer is refused before a bad word size. -/
def prepare (data : List UInt8) (requested : Nat) : Except PrepareError Prepared :=
  if data.isEmpty then .error .emptySamples
  else match resolve data requested with
    | none => .error (.invalidWordSize requested)
    | some w => prepareAt w data

end Samples

end MinEntropy

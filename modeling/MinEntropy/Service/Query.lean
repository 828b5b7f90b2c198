import MinEntropy.Text.Integer
import MinEntropy.Text.Utf8

/-! The parameters of an assessment in the query of a request. -/

namespace MinEntropy.Query

/-! ### Pairs of a query

A query is a list of pairs between ampersands. A plus stands for a blank, and a percent sign with
two hexadecimal digits for a byte; other percent signs stand for themselves. -/

/-- The pieces between bytes of one value. -/
def splitAt (separator : UInt8) : List UInt8 → List (List UInt8)
  | [] => [[]]
  | b :: bs =>
    if b = separator then [] :: splitAt separator bs
    else match splitAt separator bs with
      | piece :: rest => (b :: piece) :: rest
      | [] => [[b]]

/-- The value of a byte that is a hexadecimal digit. -/
def hexValue? (b : UInt8) : Option Nat := Text.hexDigit? (Char.ofNat b.toNat)

/-- The byte that two hexadecimal digits stand for. -/
def hexByte? (high low : UInt8) : Option UInt8 := do
  return UInt8.ofNat (16 * (← hexValue? high) + (← hexValue? low))

def plusToBlank (b : UInt8) : UInt8 := if b = 0x2b then 0x20 else b

def percentDecode : List UInt8 → List UInt8
  | 0x25 :: high :: low :: rest =>
    match hexByte? high low with
    | some b => b :: percentDecode rest
    | none => 0x25 :: percentDecode (high :: low :: rest)
  | b :: rest => b :: percentDecode rest
  | [] => []

def decodeText (bytes : List UInt8) : String :=
  Text.Utf8.lossy (percentDecode (bytes.map plusToBlank))

/-- The key before the first equals sign and the value after it. -/
def pairOf (piece : List UInt8) : String × String :=
  (decodeText (piece.takeWhile (· ≠ 0x3d)), decodeText ((piece.dropWhile (· ≠ 0x3d)).drop 1))

/-- The pairs of a query; empty pieces are passed over. -/
def pairs (query : String) : List (String × String) :=
  ((splitAt 0x26 (Text.Utf8.encode query)).filter (!·.isEmpty)).map pairOf

/-! ### Parameters -/

/-- Why a query is refused. -/
inductive Fault where
  | badWordSize (cause : Text.IntegerError)
  | badFlag
  | duplicate (name : String)
  deriving DecidableEq, Repr

def Fault.message : Fault → String
  | badWordSize cause => cause.message
  | badFlag => "provided string was not \x60true\x60 or \x60false\x60"
  | duplicate name => "duplicate field \x60" ++ name ++ "\x60"

/-- What an assessment is asked for. -/
structure Parameters where
  wordSize : Nat
  iid : Bool
  nonIid : Bool
  deriving DecidableEq, Repr

/-- The parameters given so far. -/
structure Draft where
  wordSize : Option Nat
  iid : Option Bool
  nonIid : Option Bool
  deriving DecidableEq, Repr

namespace Draft

def empty : Draft := ⟨none, none, none⟩

/-- What is not given is zero or false. -/
def finish (d : Draft) : Parameters := ⟨d.wordSize.getD 0, d.iid.getD false, d.nonIid.getD false⟩

/-- A value that may be given once. -/
def once (name : String) (seen : Option α) (read : String → Except Fault α) (value : String) :
    Except Fault α :=
  if seen.isSome then .error (.duplicate name) else read value

end Draft

/-- The largest word size that is understood. -/
def maxWordSizeValue : Nat := 0xffffffff

def readWordSize (value : String) : Except Fault Nat :=
  match Text.readNat maxWordSizeValue value.toList with
  | .ok n => .ok n
  | .error cause => .error (.badWordSize cause)

def readFlag (value : String) : Except Fault Bool :=
  match Text.bool? value.toList with
  | some b => .ok b
  | none => .error .badFlag

/-- Takes in a pair. Keys that nobody knows are passed over. -/
def take (d : Draft) (pair : String × String) : Except Fault Draft :=
  if pair.1 = "word_size" then
    (Draft.once pair.1 d.wordSize readWordSize pair.2).map fun n => { d with wordSize := some n }
  else if pair.1 = "iid" then
    (Draft.once pair.1 d.iid readFlag pair.2).map fun b => { d with iid := some b }
  else if pair.1 = "non_iid" then
    (Draft.once pair.1 d.nonIid readFlag pair.2).map fun b => { d with nonIid := some b }
  else .ok d

/-- Takes in pairs from the left; the first bad one decides. -/
def takeAll : Draft → List (String × String) → Except Fault Draft
  | d, [] => .ok d
  | d, pair :: rest =>
    match take d pair with
    | .ok d => takeAll d rest
    | .error e => .error e

/-- The parameters that some pairs give. -/
def ofPairs (list : List (String × String)) : Except Fault Parameters :=
  (takeAll .empty list).map Draft.finish

/-- The parameters of a query. -/
def parameters (query : String) : Except Fault Parameters := ofPairs (pairs query)

end MinEntropy.Query

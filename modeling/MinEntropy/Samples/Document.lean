import MinEntropy.Json.Decode
import MinEntropy.Json.Value
import MinEntropy.Samples.WordSize

/-! Word sizes in JSON documents: a plain number. -/

namespace MinEntropy.WordSize

def json (w : WordSize) : Json := .nat w.bits

/-- A width is written as a whole number without sign, point or exponent. -/
def ofNumber? : Json.Number → Option WordSize
  | .nat n => ofNat? n
  | .negative _ | .double _ => none

def read (cs : List Char) : Json.Reading WordSize :=
  match Json.readNumeral cs with
  | .error e => .error e
  | .ok (n, rest) =>
    match ofNumber? n with
    | some w => .ok (w, rest)
    | none => .error .unfit

end MinEntropy.WordSize

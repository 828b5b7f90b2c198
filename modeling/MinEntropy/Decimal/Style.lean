import MinEntropy.Decimal.Shortest

/-! Writing doubles: a style says how the shortest digits are laid out; amounts have a fixed number
of places. -/

namespace MinEntropy.Decimal

/-- How a double is laid out. -/
structure Style where
  /-- The powers of ten of the leading digit that are written without an exponent; all of them where
  no range is given. -/
  plain : Option (Int × Int)
  /-- A whole number is followed by a point and a zero. -/
  keepsPoint : Bool
  tie : Tie
  infinite : String
  notANumber : String

def digitsOf (n : Nat) : List Char := Nat.toDigits 10 n

/-- Digits with the point after the first `whole` of them. -/
def placePoint (keepsPoint : Bool) (s : Scaled) : List Char :=
  let digits := digitsOf s.digits
  if 0 ≤ s.exponent then
    digits ++ List.replicate s.exponent.toNat '0' ++ (if keepsPoint then ['.', '0'] else [])
  else
    let places := (-s.exponent).toNat
    let padded := List.replicate (places + 1 - digits.length) '0' ++ digits
    padded.take (padded.length - places) ++ '.' :: padded.drop (padded.length - places)

/-- One digit before the point, and a power of ten with its sign. -/
def withPower (s : Scaled) : List Char :=
  let digits := digitsOf s.digits
  let power := s.exponent + (digits.length - 1 : Nat)
  let mantissa := match digits with
    | [d] => [d]
    | d :: rest => d :: '.' :: rest
    | [] => []
  mantissa ++ 'e' :: (if power < 0 then '-' else '+') :: digitsOf power.natAbs

/-- The power of ten of the leading digit. -/
def Scaled.leading (s : Scaled) : Int := s.exponent + ((digitsOf s.digits).length - 1 : Nat)

def Style.isPlain (style : Style) (s : Scaled) : Bool :=
  match style.plain with
  | none => true
  | some (low, high) => low ≤ s.leading && s.leading ≤ high

def signed (negative : Bool) (cs : List Char) : List Char := if negative then '-' :: cs else cs

/-- The double in the style. Zero keeps its sign. -/
def Style.write (style : Style) (x : Float) : List Char :=
  match Double.ofFloat x with
  | .notANumber => style.notANumber.toList
  | .infinite negative => signed negative style.infinite.toList
  | .finite negative b =>
    let s := shortest b style.tie
    signed negative (if style.isPlain s then placePoint style.keepsPoint s else withPower s)

/-- A quotient rounded to the nearest integer, a half to the even neighbour. -/
def roundHalfEven (num den : Nat) : Nat :=
  let q := num / den
  let r := 2 * (num % den)
  if den < r ∨ (r = den ∧ q % 2 = 1) then q + 1 else q

/-- A double with a fixed number of places, rounded from its exact value. -/
def fixed (places : Nat) (x : Float) : List Char :=
  match Double.ofFloat x with
  | .notANumber => "NaN".toList
  | .infinite negative => signed negative "inf".toList
  | .finite negative b =>
    let num := b.mantissa * Nat.pow 2 b.exponent.toNat * Nat.pow 10 places
    let units := roundHalfEven num (Nat.pow 2 (-b.exponent).toNat)
    signed negative (placePoint false ⟨units, -(places : Int)⟩)

end MinEntropy.Decimal

/-! The fewest decimal digits that read back as a given double, in exact arithmetic. -/

namespace MinEntropy.Decimal

/-- A finite double without its sign: `mantissa * 2 ^ exponent`. -/
structure Binary where
  mantissa : Nat
  exponent : Int
  /-- The double below is only half as far away as the one above. -/
  narrow : Bool
  deriving DecidableEq, Repr

/-- A decimal number: `digits * 10 ^ exponent`. -/
structure Scaled where
  digits : Nat
  exponent : Int
  deriving DecidableEq, Repr

/-- Which of two equally near decimals is taken. -/
inductive Tie where
  | even
  | up
  deriving DecidableEq, Repr

/-- What the bits of a double stand for. -/
inductive Double where
  | notANumber
  | infinite (negative : Bool)
  | finite (negative : Bool) (magnitude : Binary)
  deriving DecidableEq, Repr

/-- The leading bit of a mantissa, which is not stored. -/
def hiddenBit : Nat := 0x10000000000000

def Double.ofBits (bits : Nat) : Double :=
  let negative : Bool := bits / 0x8000000000000000 % 2 = 1
  let field : Nat := bits / hiddenBit % 2048
  let fraction : Nat := bits % hiddenBit
  if field = 2047 then
    if fraction = 0 then .infinite negative else .notANumber
  else if field = 0 then .finite negative ⟨fraction, -1074, false⟩
  else .finite negative ⟨hiddenBit + fraction, (field : Int) - 1075, fraction = 0 && 1 < field⟩

def Double.ofFloat (x : Float) : Double := .ofBits x.toBits.toNat

namespace Binary

/-- The doubled-twice value and the ends of the interval that rounds to it, as fractions over one
denominator: `(value, low, high, denominator)`. -/
def interval (b : Binary) : Nat × Nat × Nat × Nat :=
  let up := Nat.pow 2 (b.exponent - 2).toNat
  let down := Nat.pow 2 (2 - b.exponent).toNat
  let below := if b.narrow then 1 else 2
  (4 * b.mantissa * up, (4 * b.mantissa - below) * up, (4 * b.mantissa + 2) * up, down)

/-- The ends of the interval round to the value when its mantissa is even. -/
def endsIncluded (b : Binary) : Bool := b.mantissa % 2 = 0

end Binary

/-- The power of ten of the leading digit of `num / den`, for a positive fraction. -/
def leadingPower (num den : Nat) : Int :=
  if den ≤ num then ((Nat.toDigits 10 (num / den)).length : Int) - 1
  else
    let d := (Nat.toDigits 10 (den / num)).length
    if den ≤ num * Nat.pow 10 (d - 1) then -((d : Int) - 1) else -(d : Int)

/-- The two neighbours of `num / den` on the grid of multiples of `10 ^ power` are the result and
the number after it. -/
def floorAt (num den : Nat) (power : Int) : Nat :=
  num * Nat.pow 10 (-power).toNat / (den * Nat.pow 10 power.toNat)

/-- Compares `digits * 10 ^ power` with `num / den`. -/
def compareAt (digits : Nat) (power : Int) (num den : Nat) : Ordering :=
  compare (digits * Nat.pow 10 power.toNat * den) (num * Nat.pow 10 (-power).toNat)

/-- A decimal of the grid lies in the interval of the double. -/
def inInterval (b : Binary) (digits : Nat) (power : Int) : Bool :=
  let (_, low, high, den) := b.interval
  let above := compareAt digits power low den
  let under := compareAt digits power high den
  (above == .gt || (above == .eq && b.endsIncluded)) &&
    (under == .lt || (under == .eq && b.endsIncluded))

/-- The nearest decimal of the grid inside the interval, if there is one. -/
def onGrid (b : Binary) (tie : Tie) (power : Int) : Option Nat :=
  let (value, _, _, den) := b.interval
  let low := floorAt value den power
  let high := low + 1
  match inInterval b low power, inInterval b high power with
  | true, true =>
    -- twice the value against the sum of both neighbours
    match compareAt (low + high) power (2 * value) den with
    | .gt => some low
    | .lt => some high
    | .eq => some (if tie = .up || low % 2 = 1 then high else low)
  | true, false => some low
  | false, true => some high
  | false, false => none

/-- Drops zeros at the end of a number, at most `fuel` of them. -/
def stripZeros : Nat → Scaled → Scaled
  | 0, s => s
  | fuel + 1, s =>
    if s.digits ≠ 0 ∧ s.digits % 10 = 0 then stripZeros fuel ⟨s.digits / 10, s.exponent + 1⟩ else s

/-- Tries grids from coarse to fine, `left` of them. -/
def firstGrid (b : Binary) (tie : Tie) (power : Int) : Nat → Option Scaled
  | 0 => none
  | left + 1 =>
    match onGrid b tie power with
    | some digits => some (stripZeros 20 ⟨digits, power⟩)
    | none => firstGrid b tie (power - 1) left

/-- The most digits that a double can need. -/
def maxDigits : Nat := 17

/-- The shortest decimal that rounds to the double, and of those the nearest one. -/
def shortest (b : Binary) (tie : Tie) : Scaled :=
  if b.mantissa = 0 then ⟨0, 0⟩
  else
    let (value, _, _, den) := b.interval
    let power := leadingPower value den
    match firstGrid b tie power maxDigits with
    | some s => s
    | none => ⟨floorAt value den (power - 16), power - 16⟩

end MinEntropy.Decimal

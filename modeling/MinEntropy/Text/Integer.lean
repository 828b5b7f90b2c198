/-! Digits, and decimal integers as written by people: digits after an optional sign, within a
limit. -/

namespace MinEntropy.Text

/-- Why a text is no integer of the wanted range. -/
inductive IntegerError where
  | empty
  | invalidDigit
  | tooLarge
  deriving DecidableEq, Repr

def IntegerError.message : IntegerError → String
  | empty => "cannot parse integer from empty string"
  | invalidDigit => "invalid digit found in string"
  | tooLarge => "number too large to fit in target type"

/-- The value of a decimal digit of ASCII. -/
def digit? (c : Char) : Option Nat := if c.isDigit then some (c.toNat - '0'.toNat) else none

/-- The value of a hexadecimal digit of ASCII, in either case. -/
def hexDigit? (c : Char) : Option Nat :=
  if c.isDigit then some (c.toNat - '0'.toNat)
  else if 'a' ≤ c ∧ c ≤ 'f' then some (c.toNat - 'a'.toNat + 10)
  else if 'A' ≤ c ∧ c ≤ 'F' then some (c.toNat - 'A'.toNat + 10)
  else none

/-- The value of a digit in a base up to sixteen. -/
def digitIn? (base : Nat) (c : Char) : Option Nat := (hexDigit? c).filter (· < base)

/-- Reads digits from the left; the first bad digit or overflow decides. -/
def readDigits (limit : Nat) : List Char → Nat → Except IntegerError Nat
  | [], n => .ok n
  | c :: rest, n =>
    match digit? c with
    | none => .error .invalidDigit
    | some d => if limit < 10 * n + d then .error .tooLarge else readDigits limit rest (10 * n + d)

/-- A natural number up to the limit, with an optional plus sign. -/
def readNat (limit : Nat) : List Char → Except IntegerError Nat
  | [] => .error .empty
  | ['+'] => .error .invalidDigit
  | '+' :: digits => readDigits limit digits 0
  | digits => readDigits limit digits 0

def nat? (limit : Nat) (cs : List Char) : Option Nat := (readNat limit cs).toOption

/-- How many negative integers there are in 64 bits. -/
def int64Bound : Nat := 0x8000000000000000

/-- An integer of 64 bits with an optional sign. -/
def int64? : List Char → Option Int
  | '-' :: rest =>
    match rest with
    | [] => none
    | digits => ((readDigits int64Bound digits 0).toOption).map fun n => -(n : Int)
  | cs => (nat? (int64Bound - 1) cs).map fun n => (n : Int)

/-- Exactly the words for the two truth values. -/
def bool? (cs : List Char) : Option Bool :=
  if cs = "true".toList then some true
  else if cs = "false".toList then some false
  else none

end MinEntropy.Text

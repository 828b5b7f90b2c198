import MinEntropy.Text.Integer

/-! Reading JSON text piece by piece. Each reader takes a value of one shape off the front and
leaves the rest; faults are found in the order of the text. -/

namespace MinEntropy.Json

/-- What kind of fault a text has. -/
inductive Fault where
  /-- It is no JSON. -/
  | malformed
  /-- It is JSON of the wrong shape or value. -/
  | unfit
  /-- It ends too early. -/
  | incomplete
  deriving DecidableEq, Repr

/-- A value and the text after it. -/
abbrev Reading (α : Type) := Except Fault (α × List Char)

def isSpace (c : Char) : Bool := c = ' ' || c = '\n' || c = '\t' || c = '\r'

def skipSpace (cs : List Char) : List Char := cs.dropWhile isSpace

/-- The given letters stand next. -/
def readWord : List Char → List Char → Reading Unit
  | [], cs => .ok ((), cs)
  | _ :: _, [] => .error .incomplete
  | w :: word, c :: cs => if c = w then readWord word cs else .error .malformed

/-! ### Strings -/

def hex4? (a b c d : Char) : Option Nat := do
  let a ← Text.hexDigit? a
  let b ← Text.hexDigit? b
  let c ← Text.hexDigit? c
  let d ← Text.hexDigit? d
  return a * 4096 + b * 256 + c * 16 + d

/-- Bytes of a text in UTF-8. -/
def byteCount (cs : List Char) : Nat := (String.ofList cs).utf8ByteSize

/-- Four hexadecimal digits. With fewer than four bytes left the text has ended too early. -/
def readHex4 : List Char → Reading Nat
  | a :: b :: c :: d :: rest =>
    match hex4? a b c d with
    | some n => .ok (n, rest)
    | none => .error .malformed
  | cs => if byteCount cs < 4 then .error .incomplete else .error .malformed

theorem readHex4_length {cs rest : List Char} {n : Nat} (h : readHex4 cs = .ok (n, rest)) :
    rest.length < cs.length := by
  unfold readHex4 at h
  split at h
  · split at h
    · cases h; simp only [List.length_cons]; omega
    · cases h
  · split at h <;> cases h

def isHighSurrogate (n : Nat) : Bool := 0xd800 ≤ n && n ≤ 0xdbff

def isLowSurrogate (n : Nat) : Bool := 0xdc00 ≤ n && n ≤ 0xdfff

/-- The character of a pair of surrogates. -/
def joinSurrogates (high low : Nat) : Char :=
  Char.ofNat (0x10000 + (high - 0xd800) * 0x400 + (low - 0xdc00))

/-- A low surrogate by number. -/
def readLowHex4 (cs : List Char) : Reading Nat :=
  match readHex4 cs with
  | .ok (low, rest) => if isLowSurrogate low then .ok (low, rest) else .error .malformed
  | .error e => .error e

/-- The low surrogate that has to follow a high one. -/
def readLowSurrogate : List Char → Reading Nat
  | [] => .error .incomplete
  | [c] => .error (if c = '\\' then .incomplete else .malformed)
  | c :: u :: cs => if c = '\\' ∧ u = 'u' then readLowHex4 cs else .error .malformed

/-- A character by number. Halves of a surrogate pair must come together. -/
def readCodeUnit (cs : List Char) : Reading Char :=
  match readHex4 cs with
  | .error e => .error e
  | .ok (n, rest) =>
    if isLowSurrogate n then .error .malformed
    else if isHighSurrogate n then
      match readLowSurrogate rest with
      | .ok (low, rest) => .ok (joinSurrogates n low, rest)
      | .error e => .error e
    else .ok (Char.ofNat n, rest)

/-- The escapes of one letter. -/
def simpleEscape? (c : Char) : Option Char :=
  if c = '"' then some '"'
  else if c = '\\' then some '\\'
  else if c = '/' then some '/'
  else if c = 'b' then some '\x08'
  else if c = 'f' then some '\x0c'
  else if c = 'n' then some '\n'
  else if c = 'r' then some '\r'
  else if c = 't' then some '\t'
  else none

theorem readLowHex4_length {cs rest : List Char} {n : Nat}
    (h : readLowHex4 cs = .ok (n, rest)) : rest.length < cs.length := by
  unfold readLowHex4 at h
  split at h
  · next hr =>
    split at h
    · cases h; exact readHex4_length hr
    · cases h
  · cases h

theorem readLowSurrogate_length {cs rest : List Char} {n : Nat}
    (h : readLowSurrogate cs = .ok (n, rest)) : rest.length < cs.length := by
  match cs with
  | [] => cases h
  | [_] => cases h
  | c :: u :: cs =>
    rw [readLowSurrogate] at h
    split at h
    · have := readLowHex4_length h
      simp only [List.length_cons]; omega
    · cases h

theorem readCodeUnit_length {cs rest : List Char} {c : Char}
    (h : readCodeUnit cs = .ok (c, rest)) : rest.length < cs.length := by
  unfold readCodeUnit at h
  split at h
  · cases h
  · next hr =>
    have h₁ := readHex4_length hr
    split at h
    · cases h
    · split at h
      · split at h
        · next hl =>
          simp only [Except.ok.injEq, Prod.mk.injEq] at h
          have h₂ := readLowSurrogate_length hl
          simp only [← h.2]
          omega
        · cases h
      · simp only [Except.ok.injEq, Prod.mk.injEq] at h
        simp only [← h.2]
        omega

/-- What an escape stands for, read from the letter after the backslash. -/
def readEscape : List Char → Reading Char
  | [] => .error .incomplete
  | e :: cs =>
    if e = 'u' then readCodeUnit cs
    else match simpleEscape? e with
      | some c => .ok (c, cs)
      | none => .error .malformed

theorem readEscape_length {cs rest : List Char} {c : Char} (h : readEscape cs = .ok (c, rest)) :
    rest.length < cs.length := by
  match cs with
  | [] => cases h
  | e :: cs =>
    rw [readEscape] at h
    split at h
    · have := readCodeUnit_length h
      simp only [List.length_cons]; omega
    · split at h
      · simp only [Except.ok.injEq, Prod.mk.injEq] at h
        simp [h.2]
      · cases h

/-- The characters of a string up to its closing quote. -/
def readChars : List Char → Reading (List Char)
  | [] => .error .incomplete
  | c :: cs =>
    if c = '"' then .ok ([], cs)
    else if c = '\\' then
      match h : readEscape cs with
      | .error e => .error e
      | .ok (d, rest) =>
        have := readEscape_length h
        (readChars rest).map fun (s, after) => (d :: s, after)
    else if c.toNat < 0x20 then .error .malformed
    else (readChars cs).map fun (s, after) => (c :: s, after)
termination_by cs => cs.length
decreasing_by all_goals simp_all only [List.length_cons]; omega

/-! ### Numbers -/

/-- A number as read: integers keep their value, everything else is a double. -/
inductive Number where
  | nat (n : Nat)
  | negative (n : Nat)
  | double (x : Float)

/-- The largest integer that is kept as such. -/
def maxInteger : Nat := 0xffffffffffffffff

/-- The greatest power of ten within the doubles. -/
def maxPower : Nat := 308

def powerOfTen (n : Nat) : Float := Float.ofScientific 1 false n

/-- Scales a double down by steps that stay within the powers of ten. -/
def scaleDown : Nat → Float → Nat → Float
  | 0, x, _ => x
  | fuel + 1, x, e =>
    if e ≤ maxPower then x / powerOfTen e
    else if x == 0.0 then x
    else scaleDown fuel (x / powerOfTen maxPower) (e - maxPower)

/-- The double for `digits * 10 ^ power`: the digits are rounded first, then scaled. -/
def scale (digits : Nat) (power : Int) : Option Float :=
  let x := Float.ofNat digits
  if power < 0 then some (scaleDown (power.natAbs / maxPower + 1) x power.natAbs)
  else if power.toNat ≤ maxPower then
    let y := x * powerOfTen power.toNat
    if y.isInf then none else some y
  else if x == 0.0 then some x
  else none

def withSign (negative : Bool) (x : Float) : Float := if negative then -x else x

def scaled (negative : Bool) (digits : Nat) (power : Int) (rest : List Char) : Reading Number :=
  match scale digits power with
  | some x => .ok (.double (withSign negative x), rest)
  | none => .error .malformed

/-- Takes digits while the value stays within 64 bits: the value, how many were taken, the rest. -/
def takeDigits : List Char → Nat → Nat → Nat × Nat × List Char
  | [], n, k => (n, k, [])
  | c :: cs, n, k =>
    match Text.digit? c with
    | none => (n, k, c :: cs)
    | some d =>
      if maxInteger < 10 * n + d then (n, k, c :: cs) else takeDigits cs (10 * n + d) (k + 1)

def countDigits (cs : List Char) : Nat := (cs.takeWhile Char.isDigit).length

def dropDigits (cs : List Char) : List Char := cs.dropWhile Char.isDigit

/-- The greatest exponent that is read digit by digit. -/
def maxExponent : Nat := 0x7fffffff

/-- The value of an exponent, unless it grows too large. -/
def exponentValue? (digits : List Char) : Option Nat := Text.nat? maxExponent digits

/-- The sign of an exponent. -/
def exponentSign : List Char → Bool × List Char
  | '+' :: cs => (false, cs)
  | '-' :: cs => (true, cs)
  | cs => (false, cs)

/-- An exponent after its letter. -/
def readExponent (negative : Bool) (digits : Nat) (power : Int) (cs : List Char) :
    Reading Number :=
  let (down, cs) := exponentSign cs
  match cs with
  | [] => .error .incomplete
  | c :: _ =>
    if c.isDigit then
      match exponentValue? (cs.takeWhile Char.isDigit) with
      | some e => scaled negative digits (if down then power - e else power + e) (dropDigits cs)
      | none =>
        if digits ≠ 0 ∧ !down then .error .malformed
        else .ok (.double (withSign negative 0.0), dropDigits cs)
    else .error .malformed

/-- What may follow the digits of a number: an exponent or nothing. -/
def readScale (negative : Bool) (digits : Nat) (power : Int) : List Char → Reading Number
  | 'e' :: cs => readExponent negative digits power cs
  | 'E' :: cs => readExponent negative digits power cs
  | cs => scaled negative digits power cs

/-- Decimals after the point. Digits beyond 64 bits are passed over. -/
def readDecimals (negative : Bool) (digits : Nat) (power : Int) (cs : List Char) :
    Reading Number :=
  let (n, taken, rest) := takeDigits cs digits 0
  let after := dropDigits rest
  if taken = 0 ∧ countDigits rest = 0 then
    if rest.isEmpty then .error .incomplete else .error .malformed
  else readScale negative n (power - taken) after

/-- A number without point and exponent. Minus zero is a double. -/
def integer (negative : Bool) (n : Nat) : Number :=
  if !negative then .nat n
  else if n = 0 ∨ Text.int64Bound < n then .double (-(Float.ofNat n))
  else .negative n

/-- A number after its sign. -/
def readUnsigned (negative : Bool) : List Char → Reading Number
  | [] => .error .incomplete
  | '0' :: cs =>
    match cs with
    | '.' :: cs => readDecimals negative 0 0 cs
    | 'e' :: cs => readExponent negative 0 0 cs
    | 'E' :: cs => readExponent negative 0 0 cs
    | c :: _ => if c.isDigit then .error .malformed else .ok (integer negative 0, cs)
    | [] => .ok (integer negative 0, [])
  | c :: cs =>
    if c.isDigit then
      let (n, _, rest) := takeDigits (c :: cs) 0 0
      let extra := countDigits rest
      match dropDigits rest with
      | '.' :: cs => readDecimals negative n extra cs
      | 'e' :: cs => readExponent negative n extra cs
      | 'E' :: cs => readExponent negative n extra cs
      | after =>
        if extra = 0 then .ok (integer negative n, after) else scaled negative n extra after
    else .error .malformed

def readNumber : List Char → Reading Number
  | '-' :: cs => readUnsigned true cs
  | cs => readUnsigned false cs

def Number.toFloat : Number → Float
  | nat n => Float.ofNat n
  | negative n => -(Float.ofNat n)
  | double x => x

end MinEntropy.Json

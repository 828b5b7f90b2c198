import MinEntropy.Text.CodePoint
import MinEntropy.Text.Integer
import MinEntropy.Toml.Table

/-! The scalars of a TOML document: strings, numbers, dates and times. Each reader takes a value off
the front of a text and leaves the rest, or refuses. -/

namespace MinEntropy.Toml

def isBlank (c : Char) : Bool := c = ' ' || c = '\t'

def skipBlanks (cs : List Char) : List Char := cs.dropWhile isBlank

/-- A line break with or without a carriage return. -/
def newline? : List Char → Option (List Char)
  | [] => none
  | c :: cs =>
    if c = '\n' then some cs
    else if c = '\r' ∧ cs.head? = some '\n' then some cs.tail
    else none

/-- Any character but a control character; a tab is none. -/
def isPlain (c : Char) : Bool := c = '\t' || (0x20 ≤ c.toNat && c.toNat ≠ 0x7f)

/-! ### Strings -/

/-- A character by a fixed number of hexadecimal digits. -/
def readCode (digits : Nat) (cs : List Char) : Option (Char × List Char) :=
  let code := cs.take digits
  if code.length < digits then none
  else do
    let values ← code.mapM Text.hexDigit?
    let c ← Text.charOf? (values.foldl (fun n d => 16 * n + d) 0)
    return (c, cs.drop digits)

/-- The escapes of one letter. -/
def simpleEscape? (c : Char) : Option Char :=
  if c = 'b' then some '\x08'
  else if c = 't' then some '\t'
  else if c = 'n' then some '\n'
  else if c = 'f' then some '\x0c'
  else if c = 'r' then some '\r'
  else if c = '"' then some '"'
  else if c = '\\' then some '\\'
  else none

/-- What an escape stands for, read from the letter after the backslash. -/
def readEscape : List Char → Option (Char × List Char)
  | [] => none
  | e :: cs =>
    if e = 'u' then readCode 4 cs
    else if e = 'U' then readCode 8 cs
    else (simpleEscape? e).map fun c => (c, cs)

theorem readCode_length {digits : Nat} {cs rest : List Char} {c : Char}
    (h : readCode digits cs = some (c, rest)) : rest.length ≤ cs.length := by
  unfold readCode at h
  dsimp only at h
  split at h
  · cases h
  · simp only [Option.bind_eq_bind, Option.pure_def, Option.bind_eq_some_iff, Option.some.injEq,
      Prod.mk.injEq] at h
    obtain ⟨_, _, _, _, _, h⟩ := h
    simp [← h]

theorem readEscape_length {cs rest : List Char} {c : Char}
    (h : readEscape cs = some (c, rest)) : rest.length < cs.length := by
  match cs with
  | [] => cases h
  | e :: cs =>
    rw [readEscape] at h
    split at h
    · have := readCode_length h
      simp only [List.length_cons]; omega
    · split at h
      · have := readCode_length h
        simp only [List.length_cons]; omega
      · simp only [Option.map_eq_some_iff, Prod.mk.injEq] at h
        obtain ⟨_, _, _, h⟩ := h
        simp [h]

/-- A string on one line up to its quote. -/
def readBasic : List Char → Option (List Char × List Char)
  | [] => none
  | c :: cs =>
    if c = '"' then some ([], cs)
    else if c = '\\' then
      match h : readEscape cs with
      | none => none
      | some (d, rest) =>
        have := readEscape_length h
        (readBasic rest).map fun (s, after) => (d :: s, after)
    else if isPlain c then (readBasic cs).map fun (s, after) => (c :: s, after)
    else none
termination_by cs => cs.length
decreasing_by all_goals simp_all only [List.length_cons]; omega

/-- A string without escapes up to its apostrophe. -/
def readLiteral : List Char → Option (List Char × List Char)
  | [] => none
  | c :: cs =>
    if c = '\'' then some ([], cs)
    else if isPlain c then (readLiteral cs).map fun (s, after) => (c :: s, after)
    else none

/-- Three quotes end a string of several lines; one or two more in front of them belong to it. -/
def closing? (quote : Char) (cs : List Char) : Option (List Char × List Char) :=
  let run := (cs.takeWhile (· = quote)).length
  if run < 3 then none
  else
    let extra := min (run - 3) 2
    some (List.replicate extra quote, cs.drop (3 + extra))

/-- The text after blanks and line breaks. -/
def skipLines : List Char → List Char
  | [] => []
  | c :: cs =>
    if c = '\r' then (if cs.head? = some '\n' then skipLines cs else c :: cs)
    else if isBlank c ∨ c = '\n' then skipLines cs
    else c :: cs

theorem skipLines_length (cs : List Char) : (skipLines cs).length ≤ cs.length := by
  induction cs with
  | nil => simp [skipLines]
  | cons c cs ih =>
    rw [skipLines]
    split
    · split
      · simp only [List.length_cons]; omega
      · simp
    · split
      · simp only [List.length_cons]; omega
      · simp

/-- A backslash at the end of a line takes away everything up to the next text. -/
def continued? (cs : List Char) : Option (List Char) :=
  (newline? (skipBlanks cs)).map skipLines

theorem newline?_length {cs rest : List Char} (h : newline? cs = some rest) :
    rest.length < cs.length := by
  match cs with
  | [] => cases h
  | c :: cs =>
    rw [newline?] at h
    split at h
    · cases h; simp
    · split at h
      · cases h; simp only [List.length_cons, List.length_tail]; omega
      · cases h

theorem skipBlanks_length (cs : List Char) : (skipBlanks cs).length ≤ cs.length :=
  (List.dropWhile_sublist _).length_le

theorem continued?_length {cs rest : List Char} (h : continued? cs = some rest) :
    rest.length < cs.length := by
  simp only [continued?, Option.map_eq_some_iff] at h
  obtain ⟨after, h₁, rfl⟩ := h
  have h₁ := newline?_length h₁
  have h₂ := skipBlanks_length cs
  have h₃ := skipLines_length after
  omega

/-- A string of several lines up to its three quotes. -/
def readBasicLines (cs : List Char) : Option (List Char × List Char) :=
  match closing? '"' cs with
  | some closed => some closed
  | none =>
    match cs with
    | [] => none
    | c :: cs =>
      if c = '\\' then
        match hc : continued? cs with
        | some rest =>
          have := continued?_length hc
          readBasicLines rest
        | none =>
          match h : readEscape cs with
          | none => none
          | some (d, rest) =>
            have := readEscape_length h
            (readBasicLines rest).map fun (s, after) => (d :: s, after)
      else if c = '\r' then
        if cs.head? = some '\n' then readBasicLines cs else none
      else if isPlain c ∨ c = '\n' then
        (readBasicLines cs).map fun (s, after) => (c :: s, after)
      else none
termination_by cs.length
decreasing_by all_goals simp_all only [List.length_cons]; omega

/-- The same without escapes, up to three apostrophes. -/
def readLiteralLines (cs : List Char) : Option (List Char × List Char) :=
  match closing? '\'' cs with
  | some closed => some closed
  | none =>
    match cs with
    | [] => none
    | c :: cs =>
      if c = '\r' then
        if cs.head? = some '\n' then readLiteralLines cs else none
      else if isPlain c ∨ c = '\n' then
        (readLiteralLines cs).map fun (s, after) => (c :: s, after)
      else none
termination_by cs.length
decreasing_by all_goals simp_all only [List.length_cons]; omega

/-- A line break right after the opening quotes does not count. -/
def skipFirstBreak (cs : List Char) : List Char := (newline? cs).getD cs

/-- A string of any of the four forms. -/
def readString (cs : List Char) : Option (List Char × List Char) :=
  match cs with
  | [] => none
  | quote :: rest =>
    let long := rest.take 2 = [quote, quote]
    if quote = '"' then
      if long then readBasicLines (skipFirstBreak (rest.drop 2)) else readBasic rest
    else if quote = '\'' then
      if long then readLiteralLines (skipFirstBreak (rest.drop 2)) else readLiteral rest
    else none

/-! ### Numbers -/

/-- Digits, with single underscores between them. -/
def readDigits (isDigit : Char → Bool) : List Char → Option (List Char × List Char)
  | [] => none
  | c :: cs =>
    if !isDigit c then none
    else match cs with
      | [] => some ([c], [])
      | d :: rest =>
        if d = '_' then (readDigits isDigit rest).map fun (ds, after) => (c :: ds, after)
        else if isDigit d then
          (readDigits isDigit (d :: rest)).map fun (ds, after) => (c :: ds, after)
        else some ([c], d :: rest)

/-- The value of digits in a base. -/
def valueOf (base : Nat) (digits : List Char) : Nat :=
  digits.foldl (fun n c => base * n + (Text.hexDigit? c).getD 0) 0

/-- A whole number of 64 bits. -/
def integer? (negative : Bool) (n : Nat) : Option Item :=
  if n < Text.int64Bound ∨ (negative ∧ n = Text.int64Bound) then
    some (.integer (if negative then -(n : Int) else n))
  else none

def isDigitIn (base : Nat) (c : Char) : Bool := (Text.digitIn? base c).isSome

/-- A whole number in another base. -/
def readBased (base : Nat) (cs : List Char) : Option (Item × List Char) := do
  let (digits, rest) ← readDigits (isDigitIn base) cs
  return (← integer? false (valueOf base digits), rest)

/-- The digits of a whole decimal number, which has no leading zeros. -/
def readWhole : List Char → Option (List Char × List Char)
  | [] => none
  | c :: cs => if c = '0' then some ([c], cs) else readDigits Char.isDigit (c :: cs)

/-- The digits after a point, if there is one. -/
def readFraction : List Char → Option (List Char × List Char)
  | [] => some ([], [])
  | c :: cs => if c = '.' then readDigits Char.isDigit cs else some ([], c :: cs)

/-- A sign, if there is one: whether it is a minus. -/
def readSign : List Char → Bool × List Char
  | [] => (false, [])
  | c :: cs => if c = '-' then (true, cs) else if c = '+' then (false, cs) else (false, c :: cs)

/-- An exponent, if there is one. -/
def readExponent : List Char → Option (Option Int × List Char)
  | [] => some (none, [])
  | c :: cs =>
    if c = 'e' ∨ c = 'E' then
      let (negative, cs) := readSign cs
      (readDigits Char.isDigit cs).map fun (digits, rest) =>
        let n := valueOf 10 digits
        (some (if negative then -(n : Int) else n), rest)
    else some (none, c :: cs)

/-- The greatest power of ten below the greatest double. -/
def maxPower : Int := 308

/-- The least number that rounds to no double. -/
def overflowBound : Nat := Nat.pow 2 1024 - Nat.pow 2 970

/-- `digits * 10 ^ power` is too large for a double. -/
def overflows (digits : Nat) (power : Int) : Bool :=
  let leading := ((Nat.toDigits 10 digits).length : Int) - 1 + power
  if digits = 0 ∨ leading < maxPower then false
  else if maxPower < leading then true
  else overflowBound * Nat.pow 10 (-power).toNat ≤ digits * Nat.pow 10 power.toNat

/-- A decimal number. A positive one must not be too large for a double. -/
def readDecimal (negative : Bool) (cs : List Char) : Option (Item × List Char) := do
  let (whole, cs) ← readWhole cs
  let (fraction, cs) ← readFraction cs
  let (exponent, cs) ← readExponent cs
  if fraction.isEmpty && exponent.isNone then
    return (← integer? negative (valueOf 10 whole), cs)
  else if !negative && overflows (valueOf 10 (whole ++ fraction))
      (exponent.getD 0 - fraction.length) then none
  else return (.real, cs)

/-- The text after a given word. -/
def afterWord? : List Char → List Char → Option (List Char)
  | [], cs => some cs
  | _ :: _, [] => none
  | w :: word, c :: cs => if c = w then afterWord? word cs else none

/-- The words for what is no finite number. -/
def special? (cs : List Char) : Option (List Char) :=
  afterWord? "inf".toList cs <|> afterWord? "nan".toList cs

/-- A number after its sign, if it has one. -/
def readNumber (cs : List Char) : Option (Item × List Char) :=
  let (negative, body) := readSign cs
  match special? body with
  | some rest => some (.real, rest)
  | none =>
    match cs with
    | '0' :: 'x' :: digits => readBased 16 digits
    | '0' :: 'o' :: digits => readBased 8 digits
    | '0' :: 'b' :: digits => readBased 2 digits
    | _ => readDecimal negative body

/-! ### Dates and times -/

/-- A number of exactly so many digits. -/
def readFixed (digits : Nat) (cs : List Char) : Option (Nat × List Char) :=
  let taken := cs.take digits
  if taken.length = digits ∧ taken.all Char.isDigit then some (valueOf 10 taken, cs.drop digits)
  else none

def readWithin (low high digits : Nat) (cs : List Char) : Option (Nat × List Char) := do
  let (n, rest) ← readFixed digits cs
  if low ≤ n ∧ n ≤ high then some (n, rest) else none

def afterChar? (c : Char) (cs : List Char) : Option (List Char) := afterWord? [c] cs

def isLeap (year : Nat) : Bool := year % 4 = 0 && (year % 100 ≠ 0 || year % 400 = 0)

def daysIn (year month : Nat) : Nat :=
  if month = 2 then (if isLeap year then 29 else 28)
  else if month = 4 ∨ month = 6 ∨ month = 9 ∨ month = 11 then 30
  else 31

/-- A day of the calendar. -/
def afterDay? (cs : List Char) : Option (List Char) := do
  let (year, cs) ← readFixed 4 cs
  let (month, cs) ← readWithin 1 12 2 (← afterChar? '-' cs)
  let (_, cs) ← readWithin 1 (daysIn year month) 2 (← afterChar? '-' cs)
  return cs

/-- Decimals of a second, if there are any. -/
def afterDecimals? (cs : List Char) : Option (List Char) :=
  match afterChar? '.' cs with
  | none => some cs
  | some digits =>
    if (digits.head?.map Char.isDigit).getD false then some (digits.dropWhile Char.isDigit)
    else none

/-- A time of day; there may be a leap second. -/
def afterTime? (cs : List Char) : Option (List Char) := do
  let (_, cs) ← readWithin 0 23 2 cs
  let (_, cs) ← readWithin 0 59 2 (← afterChar? ':' cs)
  let (_, cs) ← readWithin 0 60 2 (← afterChar? ':' cs)
  afterDecimals? cs

/-- An offset from UTC, if there is one. -/
def afterOffset? : List Char → Option (List Char)
  | [] => some []
  | c :: cs =>
    if c = 'Z' ∨ c = 'z' then some cs
    else if c = '+' ∨ c = '-' then do
      let (_, cs) ← readWithin 0 23 2 cs
      let (_, cs) ← readWithin 0 59 2 (← afterChar? ':' cs)
      return cs
    else some (c :: cs)

/-- The time of a day and its offset, if there is a time. -/
def afterClock? : List Char → Option (List Char)
  | [] => some []
  | c :: cs =>
    if c = 'T' ∨ c = 't' ∨ c = ' ' then
      match afterTime? cs with
      | some rest => afterOffset? rest
      | none => some (c :: cs)
    else some (c :: cs)

/-- A day, a day with a time, or a time. -/
def afterDate? (cs : List Char) : Option (List Char) :=
  match afterDay? cs with
  | some rest => afterClock? rest
  | none => afterTime? cs

/-- A date, a time or a number. -/
def readNumeral (cs : List Char) : Option (Item × List Char) :=
  match afterDate? cs with
  | some rest => some (.date, rest)
  | none => readNumber cs

end MinEntropy.Toml

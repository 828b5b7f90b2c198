import MinEntropy.Json.Reader

/-! Passing over values that nobody asked for. Their grammar is checked, their content is not: an
escape may be half of a pair, and a number may be too large. -/

namespace MinEntropy.Json

/-- An escape, after the backslash. -/
def skipEscape : List Char → Reading Unit
  | [] => .error .incomplete
  | e :: cs =>
    if e = 'u' then (readHex4 cs).map fun (_, rest) => ((), rest)
    else if (simpleEscape? e).isSome then .ok ((), cs)
    else .error .malformed

theorem skipEscape_length {cs rest : List Char} (h : skipEscape cs = .ok ((), rest)) :
    rest.length < cs.length := by
  cases cs with
  | nil => cases h
  | cons e cs =>
    rw [skipEscape] at h
    split at h
    · cases hr : readHex4 cs with
      | error => rw [hr] at h; cases h
      | ok p =>
        rw [hr] at h
        simp only [Except.map, Except.ok.injEq, Prod.mk.injEq, true_and] at h
        have := readHex4_length hr
        simp only [← h, List.length_cons]
        omega
    · split at h
      · simp only [Except.ok.injEq, Prod.mk.injEq, true_and] at h
        simp [h]
      · cases h

/-- A string up to its closing quote. -/
def skipChars : List Char → Reading Unit
  | [] => .error .incomplete
  | c :: cs =>
    if c = '"' then .ok ((), cs)
    else if c = '\\' then
      match h : skipEscape cs with
      | .error e => .error e
      | .ok (_, rest) =>
        have := skipEscape_length h
        skipChars rest
    else if c.toNat < 0x20 then .error .malformed
    else skipChars cs
termination_by cs => cs.length
decreasing_by all_goals simp_all only [List.length_cons]; omega

/-- At least one digit. -/
def skipDigits (cs : List Char) : Reading Unit :=
  if countDigits cs = 0 then .error .malformed else .ok ((), dropDigits cs)

/-- An exponent after its letter. -/
def skipExponent (cs : List Char) : Reading Unit := skipDigits (exponentSign cs).2

def skipScale : List Char → Reading Unit
  | [] => .ok ((), [])
  | c :: cs => if c = 'e' ∨ c = 'E' then skipExponent cs else .ok ((), c :: cs)

/-- What may follow the whole digits of a number. -/
def skipFraction : List Char → Reading Unit
  | [] => .ok ((), [])
  | c :: cs =>
    if c = '.' then
      match skipDigits cs with
      | .ok (_, rest) => skipScale rest
      | .error e => .error e
    else skipScale (c :: cs)

/-- A number after its sign. -/
def skipUnsigned : List Char → Reading Unit
  | [] => .error .malformed
  | c :: cs =>
    if c = '0' then
      if (cs.head?.map Char.isDigit).getD false then .error .malformed else skipFraction cs
    else if c.isDigit then skipFraction (dropDigits cs)
    else .error .malformed

/-- The colon between a key and its value. -/
def readColon (cs : List Char) : Reading Unit :=
  match skipSpace cs with
  | [] => .error .incomplete
  | c :: rest => if c = ':' then .ok ((), rest) else .error .malformed

/-- A key and its colon. -/
def skipKey (cs : List Char) : Reading Unit :=
  match skipSpace cs with
  | [] => .error .incomplete
  | c :: rest =>
    if c = '"' then
      match skipChars rest with
      | .error e => .error e
      | .ok (_, rest) => readColon rest
    else .error .malformed

mutual

/-- One value; the fuel bounds the depth and the number of pieces. -/
def skipValueWithin : Nat → List Char → Reading Unit
  | 0, _ => .error .incomplete
  | fuel + 1, cs =>
    match skipSpace cs with
    | [] => .error .incomplete
    | c :: rest =>
      if c = 'n' then readWord "ull".toList rest
      else if c = 't' then readWord "rue".toList rest
      else if c = 'f' then readWord "alse".toList rest
      else if c = '-' then skipUnsigned rest
      else if c.isDigit then skipUnsigned (c :: rest)
      else if c = '"' then skipChars rest
      else if c = '[' then skipFirst fuel false rest
      else if c = '\x7b' then skipFirst fuel true rest
      else .error .malformed

/-- What follows an opening bracket or brace. -/
def skipFirst : Nat → Bool → List Char → Reading Unit
  | 0, _, _ => .error .incomplete
  | fuel + 1, keyed, cs =>
    match skipSpace cs with
    | [] => .error .incomplete
    | c :: rest =>
      if c = (if keyed then '\x7d' else ']') then .ok ((), rest)
      else skipElement fuel keyed (c :: rest)

/-- An element or member, and what follows it. -/
def skipElement : Nat → Bool → List Char → Reading Unit
  | 0, _, _ => .error .incomplete
  | fuel + 1, keyed, cs =>
    match (if keyed then skipKey cs else .ok ((), cs)) with
    | .error e => .error e
    | .ok (_, cs) =>
      match skipValueWithin fuel cs with
      | .error e => .error e
      | .ok (_, cs) =>
        match skipSpace cs with
        | [] => .error .incomplete
        | c :: rest =>
          if c = ',' then skipElement fuel keyed rest
          else if c = (if keyed then '\x7d' else ']') then .ok ((), rest)
          else .error .malformed

end

/-- Passes over one value. -/
def skipValue (cs : List Char) : Reading Unit := skipValueWithin (3 * cs.length + 3) cs

end MinEntropy.Json

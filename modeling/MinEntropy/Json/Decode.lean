import MinEntropy.Json.Skip

/-! Decoding JSON text into values of a known shape. -/

namespace MinEntropy.Json

/-- The fault of a value of the wrong shape, whose text is still read where it is a scalar. -/
def refuse : List Char → Fault
  | [] => .incomplete
  | c :: rest =>
    let after (reading : Except Fault Unit) : Fault :=
      match reading with
      | .error e => e
      | .ok () => .unfit
    if c = 'n' then after ((readWord "ull".toList rest).map fun _ => ())
    else if c = 't' then after ((readWord "rue".toList rest).map fun _ => ())
    else if c = 'f' then after ((readWord "alse".toList rest).map fun _ => ())
    else if c = '-' ∨ c.isDigit then after ((readNumber (c :: rest)).map fun _ => ())
    else if c = '"' then after ((readChars rest).map fun _ => ())
    else if c = '[' ∨ c = '\x7b' then .unfit
    else .malformed

/-- A string value. -/
def readString (cs : List Char) : Reading String :=
  match skipSpace cs with
  | [] => .error .incomplete
  | c :: rest =>
    if c = '"' then (readChars rest).map fun (s, after) => (String.ofList s, after)
    else .error (refuse (c :: rest))

def readBool (cs : List Char) : Reading Bool :=
  match skipSpace cs with
  | [] => .error .incomplete
  | c :: rest =>
    if c = 't' then (readWord "rue".toList rest).map fun (_, after) => (true, after)
    else if c = 'f' then (readWord "alse".toList rest).map fun (_, after) => (false, after)
    else .error (refuse (c :: rest))

def readNull (cs : List Char) : Reading Unit :=
  match skipSpace cs with
  | [] => .error .incomplete
  | c :: rest => if c = 'n' then readWord "ull".toList rest else .error (refuse (c :: rest))

def readNumeral (cs : List Char) : Reading Number :=
  match skipSpace cs with
  | [] => .error .incomplete
  | c :: rest =>
    if c = '-' ∨ c.isDigit then readNumber (c :: rest) else .error (refuse (c :: rest))

/-- A figure, or null. -/
def readFigure? (cs : List Char) : Reading (Option Float) :=
  match skipSpace cs with
  | [] => .error .incomplete
  | c :: rest =>
    if c = 'n' then (readWord "ull".toList rest).map fun (_, after) => (none, after)
    else (readNumeral (c :: rest)).map fun (n, after) => (some n.toFloat, after)

/-- A string that is one of some words. -/
def readWordOf (choices : List (String × α)) (cs : List Char) : Reading α :=
  match readString cs with
  | .error e => .error e
  | .ok (word, rest) =>
    match choices.lookup word with
    | some a => .ok (a, rest)
    | none => .error .unfit

/-- One of some words: as a string, or as the only key of an object whose value is null. -/
def readChoice (choices : List (String × α)) (cs : List Char) : Except Fault (α × List Char) :=
  match skipSpace cs with
  | [] => .error .incomplete
  | c :: rest =>
    if c = '"' then readWordOf choices (c :: rest)
    else if c = '\x7b' then do
      let (a, rest) ← readWordOf choices rest
      let (_, rest) ← readColon rest
      let (_, rest) ← readNull rest
      match skipSpace rest with
      | [] => .error .incomplete
      | c :: rest => if c = '\x7d' then .ok (a, rest) else .error .malformed
    else .error .malformed

/-- The key of a member. -/
def readKey (cs : List Char) : Reading String :=
  match skipSpace cs with
  | [] => .error .incomplete
  | c :: rest =>
    if c = '"' then (readChars rest).map fun (s, after) => (String.ofList s, after)
    else .error .malformed

/-- The members of an object after its brace, at most as many as the fuel. Each key is handed to
`member`, which reads on from there. -/
def readMembers (member : String → σ → List Char → Reading σ) :
    Nat → Bool → σ → List Char → Except Fault (σ × List Char)
  | 0, _, _, _ => .error .incomplete
  | fuel + 1, first, st, cs =>
    match skipSpace cs with
    | [] => .error .incomplete
    | c :: rest =>
      if c = '\x7d' then .ok (st, rest)
      else if !first && c ≠ ',' then .error .malformed
      else do
        let (key, cs) ← readKey (if first then c :: rest else rest)
        let (st, cs) ← member key st cs
        readMembers member fuel false st cs

/-- The members of an object after its brace. -/
def readObject (member : String → σ → List Char → Reading σ) (st : σ) (cs : List Char) :
    Reading σ :=
  readMembers member (cs.length + 1) true st cs

/-- The next element of a list: what separates it from the one before. A list that ends here is too
short. -/
def readSeparator (first : Bool) (cs : List Char) : Reading Unit :=
  match skipSpace cs with
  | [] => .error .incomplete
  | c :: rest =>
    if c = ']' then .error .unfit
    else if first then .ok ((), c :: rest)
    else if c = ',' then
      match skipSpace rest with
      | [] => .error .incomplete
      | d :: rest => if d = ']' then .error .malformed else .ok ((), d :: rest)
    else .error .malformed

/-- The end of a list from which nothing more is wanted. -/
def readListEnd (cs : List Char) : Reading Unit :=
  match skipSpace cs with
  | [] => .error .incomplete
  | c :: rest => if c = ']' then .ok ((), rest) else .error .malformed

/-- The one value of a whole text. -/
def decode (read : List Char → Reading α) (text : String) : Except Fault α :=
  match read text.toList with
  | .error e => .error e
  | .ok (a, rest) => if (skipSpace rest).isEmpty then .ok a else .error .malformed

end MinEntropy.Json

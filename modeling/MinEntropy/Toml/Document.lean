import MinEntropy.Toml.Scalar

/-! TOML documents: values, keys, headers and comments, put together into one table. -/

namespace MinEntropy.Toml

/-- How deep lists and tables in braces may be nested, and how many parts a key may have. -/
def nestingLimit : Nat := 80

/-- A comment up to the end of its line, if there is one. -/
def skipComment : List Char → List Char
  | [] => []
  | c :: cs => if c = '#' then cs.dropWhile isPlain else c :: cs

/-- The end of a line after blanks and a comment. -/
def afterLine? (cs : List Char) : Option (List Char) :=
  match skipComment (skipBlanks cs) with
  | [] => some []
  | rest => newline? rest

/-- Blanks, line breaks and comments between the elements of a list; at most as many lines as the
fuel. -/
def skipSpaceWithin : Nat → List Char → List Char
  | 0, cs => cs
  | fuel + 1, cs =>
    let rest := skipBlanks cs
    match newline? (skipComment rest) with
    | some after => skipSpaceWithin fuel after
    | none => rest

def skipSpace (cs : List Char) : List Char := skipSpaceWithin cs.length cs

/-! ### Keys -/

def isBare (c : Char) : Bool := c.isAlphanum || c = '-' || c = '_'

/-- One part of a key. -/
def readPart (cs : List Char) : Option (String × List Char) :=
  match cs with
  | [] => none
  | c :: rest =>
    if c = '"' then (readBasic rest).map fun (s, after) => (String.ofList s, after)
    else if c = '\'' then (readLiteral rest).map fun (s, after) => (String.ofList s, after)
    else
      let bare := cs.takeWhile isBare
      if bare.isEmpty then none else some (String.ofList bare, cs.dropWhile isBare)

/-- The parts of a key after the first; at most as many as the fuel. -/
def readParts : Nat → List Char → Option (List String × List Char)
  | 0, _ => none
  | fuel + 1, cs => do
    let (part, cs) ← readPart (skipBlanks cs)
    match skipBlanks cs with
    | [] => return ([part], [])
    | c :: rest =>
      if c = '.' then
        let (parts, cs) ← readParts fuel rest
        return (part :: parts, cs)
      else return ([part], c :: rest)

/-- A key with dots: the parts before the last one, the last one, and the text after it. -/
def readKey (cs : List Char) : Option (List String × String × List Char) := do
  let (parts, rest) ← readParts (nestingLimit - 1) cs
  return (parts.dropLast, ← parts.getLast?, rest)

/-! ### Values -/

mutual

/-- A value; `room` is how many more levels may be opened. -/
def readValue : Nat → Nat → List Char → Option (Item × List Char)
  | 0, _, _ => none
  | _ + 1, _, [] => none
  | fuel + 1, room, c :: cs =>
    if c = '"' ∨ c = '\'' then
      (readString (c :: cs)).map fun (s, rest) => (.text (String.ofList s), rest)
    else if c = '[' then
      if room = 0 then none else readElements fuel (room - 1) [] (skipSpace cs)
    else if c = '\x7b' then
      if room = 0 then none else readPairs fuel (room - 1) [] true (skipBlanks cs)
    else if c = 't' then (afterWord? "rue".toList cs).map fun rest => (.boolean true, rest)
    else if c = 'f' then (afterWord? "alse".toList cs).map fun rest => (.boolean false, rest)
    else if c = '+' ∨ c = '-' ∨ c.isDigit then readNumeral (c :: cs)
    else (special? (c :: cs)).map fun rest => (.real, rest)

/-- The elements of a list after those read so far. A comma may follow the last one. -/
def readElements : Nat → Nat → List Item → List Char → Option (Item × List Char)
  | 0, _, _, _ => none
  | _ + 1, _, _, [] => none
  | fuel + 1, room, seen, c :: cs =>
    if c = ']' then some (.list seen, cs)
    else
      match readValue fuel room (c :: cs) with
      | none => none
      | some (v, rest) =>
        match skipSpace rest with
        | [] => none
        | c :: rest =>
          if c = ',' then readElements fuel room (seen ++ [v]) (skipSpace rest)
          else if c = ']' then some (.list (seen ++ [v]), rest)
          else none

/-- The pairs of a table in braces after those read so far. No comma follows the last one. -/
def readPairs : Nat → Nat → Entries → Bool → List Char → Option (Item × List Char)
  | 0, _, _, _, _ => none
  | fuel + 1, room, seen, first, cs =>
    match cs with
    | [] => none
    | c :: rest =>
      if first && c = '\x7d' then some (.table .closed seen, rest)
      else
        match readPair fuel room cs with
        | none => none
        | some ((path, key, v), rest) =>
          match seen.addValue? path key v .header with
          | none => none
          | some seen =>
            match skipBlanks rest with
            | [] => none
            | c :: rest =>
              if c = ',' then readPairs fuel room seen false (skipBlanks rest)
              else if c = '\x7d' then some (.table .closed seen, rest)
              else none

/-- A key, the equals sign and a value. -/
def readPair : Nat → Nat → List Char → Option ((List String × String × Item) × List Char)
  | 0, _, _ => none
  | fuel + 1, room, cs =>
    match readKey cs with
    | none => none
    | some (path, key, rest) =>
      match rest with
      | [] => none
      | c :: rest =>
        if c = '=' then
          (readValue fuel room (skipBlanks rest)).map fun (v, after) => ((path, key, v), after)
        else none

end

/-! ### Documents -/

/-- A line with a key and a value. -/
def readAssignment (d : Draft) (cs : List Char) : Option (Draft × List Char) := do
  let ((path, key, v), rest) ← readPair (3 * cs.length + 3) (nestingLimit - 1) cs
  return (← d.addValue? path key v, ← afterLine? rest)

/-- A line with the header of a table, after its first bracket. -/
def readHeader (d : Draft) (cs : List Char) : Option (Draft × List Char) :=
  let repeated := cs.head? = some '['
  let closing := if repeated then [']', ']'] else [']']
  do
    let (path, key, rest) ← readKey (if repeated then cs.tail else cs)
    let rest ← afterWord? closing rest
    return (← d.open? repeated path key, ← afterLine? rest)

/-- The lines of a document, at most as many as the fuel. -/
def readLines : Nat → Draft → List Char → Option Draft
  | 0, _, _ => none
  | fuel + 1, d, cs =>
    match skipBlanks cs with
    | [] => some d
    | c :: rest =>
      if c = '#' ∨ c = '\n' ∨ c = '\r' then
        match afterLine? (c :: rest) with
        | some after => readLines fuel d after
        | none => none
      else
        match (if c = '[' then readHeader d rest else readAssignment d (c :: rest)) with
        | some (d, after) => readLines fuel d after
        | none => none

/-- The character that may stand before everything else. -/
def byteOrderMark : Char := '\ufeff'

/-- The table that a document describes. -/
def parse? (text : String) : Option Entries :=
  let cs := text.toList
  let body := if cs.head? = some byteOrderMark then cs.tail else cs
  (readLines (body.length + 1) .empty body).map (·.root)

end MinEntropy.Toml

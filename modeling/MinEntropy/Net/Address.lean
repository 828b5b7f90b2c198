import MinEntropy.Text.Integer

/-! Internet addresses: the texts that stand for one, and the text that is written. -/

namespace MinEntropy.Net

/-- An address of four bytes. -/
structure Ipv4 where
  a : Nat
  b : Nat
  c : Nat
  d : Nat
  deriving DecidableEq, Repr

namespace Ipv4

/-- The address as one number. -/
def ofNat (n : Nat) : Ipv4 :=
  ⟨n / 0x1000000 % 256, n / 0x10000 % 256, n / 0x100 % 256, n % 256⟩

def text (x : Ipv4) : String := s!"{x.a}.{x.b}.{x.c}.{x.d}"

/-- A byte in decimal without leading zeros. -/
def readOctet (cs : List Char) : Option (Nat × List Char) :=
  let digits := cs.takeWhile Char.isDigit
  if 3 < digits.length ∨ (digits.head? = some '0' ∧ digits ≠ ['0']) then none
  else (Text.nat? 255 digits).map fun n => (n, cs.drop digits.length)

/-- What comes after a point. -/
def afterPoint : List Char → Option (List Char)
  | [] => none
  | c :: cs => if c = '.' then some cs else none

/-- Four bytes with points between them. -/
def read (cs : List Char) : Option (Ipv4 × List Char) := do
  let (a, cs) ← readOctet cs
  let (b, cs) ← readOctet (← afterPoint cs)
  let (c, cs) ← readOctet (← afterPoint cs)
  let (d, cs) ← readOctet (← afterPoint cs)
  return (⟨a, b, c, d⟩, cs)

def parse? (cs : List Char) : Option Ipv4 :=
  match read cs with
  | some (x, []) => some x
  | _ => none

end Ipv4

/-! ### Numbers and points

An address may also be given as one to four numbers in decimal, octal or hexadecimal, of which the
last one fills the bytes that remain. -/

namespace Loose

def valueIn? (base : Nat) : List Char → Nat → Option Nat
  | [], n => some n
  | c :: cs, n =>
    match Text.digitIn? base c with
    | some d => valueIn? base cs (base * n + d)
    | none => none

/-- A number whose first characters tell its base. -/
def number? : List Char → Option Nat
  | [] => none
  | '0' :: rest =>
    match rest with
    | [] => some 0
    | x :: digits =>
      if x = 'x' ∨ x = 'X' then (if digits.isEmpty then none else valueIn? 16 digits 0)
      else valueIn? 8 rest 0
  | digits => valueIn? 10 digits 0

/-- The parts between points. -/
def splitPoints : List Char → List (List Char)
  | [] => [[]]
  | c :: cs =>
    if c = '.' then [] :: splitPoints cs
    else match splitPoints cs with
      | part :: rest => (c :: part) :: rest
      | [] => [[c]]

/-- The value of the parts, each but the last one a byte. -/
def combine : List Nat → Nat → Option Nat
  | [], _ => none
  | [last], left => if last < Nat.pow 256 left then some last else none
  | part :: rest, left =>
    if part < 256 ∧ 1 < left then
      (combine rest (left - 1)).map fun n => part * Nat.pow 256 (left - 1) + n
    else none

def parse? (cs : List Char) : Option Ipv4 := do
  let parts ← (splitPoints cs).mapM number?
  return Ipv4.ofNat (← combine parts 4)

end Loose

/-- An address of eight groups of sixteen bits. -/
structure Ipv6 where
  groups : List Nat
  deriving DecidableEq, Repr

namespace Ipv6

/-- The number of groups. -/
def size : Nat := 8

/-- A group of one to four hexadecimal digits. -/
def readGroup (cs : List Char) : Option (Nat × List Char) :=
  let digits := cs.takeWhile fun c => (Text.digitIn? 16 c).isSome
  if digits.isEmpty ∨ 4 < digits.length then none
  else (Loose.valueIn? 16 digits 0).map fun n => (n, cs.drop digits.length)

/-- The colon before every group but the first. -/
def afterColon (first : Bool) : List Char → Option (List Char)
  | [] => if first then some [] else none
  | c :: cs => if first then some (c :: cs) else if c = ':' then some cs else none

/-- Up to `limit` groups with colons between them. An address of four bytes may end the list and
counts as two groups. Tells whether it did. -/
def readGroups : Nat → Bool → List Char → List Nat × Bool × List Char
  | 0, _, cs => ([], false, cs)
  | left + 1, first, cs =>
    match afterColon first cs with
    | none => ([], false, cs)
    | some body =>
      match (if left = 0 then none else Ipv4.read body) with
      | some (x, rest) => ([x.a * 256 + x.b, x.c * 256 + x.d], true, rest)
      | none =>
        match readGroup body with
        | none => ([], false, cs)
        | some (g, rest) =>
          let (groups, embedded, after) := readGroups left false rest
          (g :: groups, embedded, after)

/-- Eight groups, or fewer with two colons in place of the zeros left out. -/
def parse? (cs : List Char) : Option Ipv6 :=
  match readGroups size true cs with
  | (head, embedded, rest) =>
    if head.length = size then (if rest.isEmpty then some ⟨head⟩ else none)
    else if embedded then none
    else match rest with
      | ':' :: ':' :: rest =>
        let (tail, _, after) := readGroups (size - head.length - 1) true rest
        if after.isEmpty then
          some ⟨head ++ List.replicate (size - head.length - tail.length) 0 ++ tail⟩
        else none
      | _ => none

/-- The start and the length of the first longest run of zeros among the groups from `i` on. -/
def longestZeros : List Nat → Nat → Nat × Nat
  | [], i => (i, 0)
  | g :: rest, i =>
    let run := ((g :: rest).takeWhile (· = 0)).length
    let (start, length) := longestZeros rest (i + 1)
    if length ≤ run then (i, run) else (start, length)

def joinGroups (groups : List Nat) : String :=
  ":".intercalate (groups.map fun g => String.ofList (Nat.toDigits 16 g))

/-- Addresses of four bytes keep their own form. Otherwise the first longest run of at least two
zeros is left out. -/
def text (x : Ipv6) : String :=
  match x.groups with
  | [0, 0, 0, 0, 0, 65535, high, low] =>
    "::ffff:" ++ (Ipv4.ofNat (high * 65536 + low)).text
  | groups =>
    let (start, length) := longestZeros groups 0
    if 1 < length then
      joinGroups (groups.take start) ++ "::" ++ joinGroups (groups.drop (start + length))
    else joinGroups groups

end Ipv6

/-- An address that a service can bind. -/
inductive Address where
  | v4 (address : Ipv4)
  | v6 (address : Ipv6) (zone : Nat)
  deriving DecidableEq, Repr

namespace Address

/-- The part before a percent sign and the part after it. -/
def splitZone (cs : List Char) : List Char × Option (List Char) :=
  match cs.dropWhile (· ≠ '%') with
  | [] => (cs, none)
  | _ :: zone => (cs.takeWhile (· ≠ '%'), some zone)

/-- The largest number of a zone. -/
def maxZone : Nat := 0xffffffff

/-- A zone is a number. -/
def zone? (cs : List Char) : Option Nat :=
  if cs.all Char.isDigit then Text.nat? maxZone cs else none

def zoned? (cs : List Char) : Option Address :=
  match splitZone cs with
  | (address, some zone) => do return .v6 (← Ipv6.parse? address) (← zone? zone)
  | (_, none) => none

/-- The address that a host text stands for. Names stand for none. -/
def ofHost? (host : String) : Option Address :=
  let cs := host.toList
  (Ipv4.parse? cs).map v4 <|> (Ipv6.parse? cs).map (v6 · 0) <|> (Loose.parse? cs).map v4 <|>
    zoned? cs

/-- The address with a port. -/
def withPort (x : Address) (port : Nat) : String :=
  match x with
  | v4 a => a.text ++ ":" ++ toString port
  | v6 a zone =>
    "[" ++ a.text ++ (if zone = 0 then "" else "%" ++ toString zone) ++ "]:" ++ toString port

end Address

end MinEntropy.Net

import MinEntropy.Estimator.Suite
import MinEntropy.Json.Decode
import MinEntropy.Json.Value

/-! Tracks, representations and outcomes in JSON documents. An outcome is written as an object; it
is read from an object with its members in any order and others among them, or from a list of its
three parts. -/

namespace MinEntropy

def Mode.json (m : Mode) : Json := .str m.tag

def Mode.read : List Char → Json.Reading Mode :=
  Json.readChoice (Mode.all.map fun m => (m.tag, m))

def Representation.json (v : Representation) : Json := .str v.tag

def Representation.read : List Char → Json.Reading Representation :=
  Json.readChoice (Representation.all.map fun v => (v.tag, v))

namespace Outcome

def members (o : Outcome) : List (String × Json) :=
  [("name", .str o.name), ("entropy_estimate", .num? o.estimate), ("passed", .bool o.passed)]

def json (o : Outcome) : Json := .obj o.members

/-- The members of an outcome read so far. -/
structure Draft where
  name : Option String
  estimate : Option (Option Float)
  passed : Option Bool

def Draft.empty : Draft := ⟨none, none, none⟩

/-- Name and verdict must be there. -/
def Draft.finish? (d : Draft) : Option Outcome :=
  match d.name, d.passed with
  | some name, some passed => some ⟨name, d.estimate.join, passed⟩
  | _, _ => none

/-- A value that may be given once. -/
def once (seen : Option α) (read : List Char → Json.Reading α) (cs : List Char) :
    Json.Reading α :=
  if seen.isSome then .error .unfit
  else match Json.readColon cs with
    | .error e => .error e
    | .ok (_, rest) => read rest

/-- A member after its key. Members that an outcome does not have are passed over. -/
def readMember (key : String) (d : Draft) (cs : List Char) : Json.Reading Draft :=
  if key = "name" then
    (once d.name Json.readString cs).map fun (v, rest) => ({ d with name := some v }, rest)
  else if key = "entropy_estimate" then
    (once d.estimate Json.readFigure? cs).map fun (v, rest) => ({ d with estimate := some v }, rest)
  else if key = "passed" then
    (once d.passed Json.readBool cs).map fun (v, rest) => ({ d with passed := some v }, rest)
  else match Json.readColon cs with
    | .error e => .error e
    | .ok (_, rest) => (Json.skipValue rest).map fun (_, after) => (d, after)

/-- An outcome as a list, after the bracket. -/
def readList (cs : List Char) : Except Json.Fault (Outcome × List Char) := do
  let (_, cs) ← Json.readSeparator true cs
  let (name, cs) ← Json.readString cs
  let (_, cs) ← Json.readSeparator false cs
  let (estimate, cs) ← Json.readFigure? cs
  let (_, cs) ← Json.readSeparator false cs
  let (passed, cs) ← Json.readBool cs
  let (_, cs) ← Json.readListEnd cs
  return (⟨name, estimate, passed⟩, cs)

/-- An outcome as an object, after the brace. -/
def readObject (cs : List Char) : Json.Reading Outcome :=
  match Json.readObject readMember .empty cs with
  | .error e => .error e
  | .ok (d, rest) =>
    match d.finish? with
    | some o => .ok (o, rest)
    | none => .error .unfit

def read (cs : List Char) : Json.Reading Outcome :=
  match Json.skipSpace cs with
  | [] => .error .incomplete
  | c :: rest =>
    if c = '[' then readList rest
    else if c = '\x7b' then readObject rest
    else .error (Json.refuse (c :: rest))

end Outcome

end MinEntropy

/-! TOML values and tables, and the rules by which a document may extend a table. -/

namespace MinEntropy.Toml

/-- How a table came to be, which decides what may still be added to it. -/
inductive Origin where
  /-- It has a header of its own. -/
  | header
  /-- It is named in the header of a table below it. -/
  | implied
  /-- It is named in a dotted key. -/
  | dotted
  /-- It is written in braces and complete. -/
  | closed
  deriving DecidableEq, Repr

inductive Item where
  | text (s : String)
  | integer (n : Int)
  | boolean (b : Bool)
  /-- A number with a fraction or an exponent, whose value nobody needs. -/
  | real
  /-- A date, a time or both. -/
  | date
  | list (elements : List Item)
  | table (origin : Origin) (entries : List (String × Item))
  /-- Tables under one repeated header. -/
  | tables (members : List (List (String × Item)))

abbrev Entries := List (String × Item)

namespace Entries

/-- Puts an item in the place of the one with the same key. -/
def replace (key : String) (item : Item) (es : Entries) : Entries :=
  es.map fun (k, v) => if k = key then (k, item) else (k, v)

/-- Adds an item under a key that is not taken. -/
def add? (key : String) (item : Item) (es : Entries) : Option Entries :=
  match es.lookup key with
  | some _ => none
  | none => some (es ++ [(key, item)])

/-- Changes the table at a path, which is created where it is missing. A repeated header stands for
its last table. Dotted keys do not enter a table that has a header. -/
def modifyAt (viaDots : Bool) (change : Origin → Entries → Option Entries) :
    List String → Origin → Entries → Option Entries
  | [], origin, es => change origin es
  | key :: path, _, es =>
    match es.lookup key with
    | none =>
      let origin := if viaDots then Origin.dotted else .implied
      (modifyAt viaDots change path origin []).map fun sub => es ++ [(key, .table origin sub)]
    | some (.table origin sub) =>
      if origin = .closed ∨ (viaDots ∧ origin = .header) then none
      else (modifyAt viaDots change path origin sub).map fun sub =>
        es.replace key (.table origin sub)
    | some (.tables members) =>
      match members.getLast? with
      | none => none
      | some last =>
        (modifyAt viaDots change path .header last).map fun last =>
          es.replace key (.tables (members.dropLast ++ [last]))
    | some _ => none

/-- Adds a value under a key with dots, the last part of which is given apart. -/
def addValue? (path : List String) (key : String) (item : Item) (origin : Origin)
    (es : Entries) : Option Entries :=
  modifyAt true
    (fun origin es => if (origin = .dotted) = !path.isEmpty then es.add? key item else none)
    path origin es

/-- A table that a header opens. One that was only implied may be opened once. -/
def openTable? (key : String) (es : Entries) : Option Entries :=
  match es.lookup key with
  | none => some (es ++ [(key, .table .header [])])
  | some (.table .implied sub) => some (es.replace key (.table .header sub))
  | some _ => none

/-- A further table under a repeated header. -/
def openMember? (key : String) (es : Entries) : Option Entries :=
  match es.lookup key with
  | none => some (es ++ [(key, .tables [[]])])
  | some (.tables members) => some (es.replace key (.tables (members ++ [[]])))
  | some _ => none

end Entries

/-- The tables read so far, and the path of the one that is open. -/
structure Draft where
  root : Entries
  path : List String

namespace Draft

def empty : Draft := ⟨[], []⟩

/-- Adds a value to the open table. -/
def addValue? (d : Draft) (path : List String) (key : String) (item : Item) : Option Draft :=
  (Entries.modifyAt false (fun origin es => es.addValue? path key item origin) d.path .header
    d.root).map fun root => { d with root := root }

/-- Opens a table, or the next one of a repeated header. -/
def open? (d : Draft) (repeated : Bool) (path : List String) (key : String) : Option Draft :=
  (Entries.modifyAt false
    (fun _ es => if repeated then es.openMember? key else es.openTable? key) path .header
    d.root).map fun root => ⟨root, path ++ [key]⟩

end Draft

end MinEntropy.Toml

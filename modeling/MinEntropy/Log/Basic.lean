/-! Log lines, and the work during which they are written. -/

namespace MinEntropy.Log

/-- How grave a line is. -/
inductive Level where
  | error
  | warn
  | info
  | debug
  | trace
  deriving DecidableEq, Repr

namespace Level

def label : Level → String
  | error => "ERROR"
  | warn => "WARN"
  | info => "INFO"
  | debug => "DEBUG"
  | trace => "TRACE"

/-- The gravest level comes first. -/
def rank : Level → Nat
  | error => 1
  | warn => 2
  | info => 3
  | debug => 4
  | trace => 5

end Level

/-- Names with texts. -/
abbrev Fields := List (String × String)

def fieldText (field : String × String) : String := field.1 ++ "=" ++ field.2

/-- A piece of work that lines belong to. -/
structure Span where
  level : Level
  target : String
  name : String
  fields : Fields
  deriving DecidableEq, Repr

def Span.text (s : Span) : String :=
  s.name ++ "\x7b" ++ " ".intercalate (s.fields.map fieldText) ++ "\x7d"

structure Line where
  level : Level
  /-- The part of the program that speaks. -/
  target : String
  message : String
  fields : Fields
  /-- The work during which it speaks, if that is to be told. -/
  span : Option Span
  deriving DecidableEq, Repr

namespace Line

/-- The names of everything that a line tells. -/
def fieldNames (l : Line) : List String := "message" :: l.fields.map (·.1)

/-- The line as written, without its time. -/
def text (l : Line) : String :=
  l.level.label ++ " " ++ ((l.span.map (·.text ++ ": ")).getD "") ++ l.target ++ ": " ++
    l.message ++ String.join (l.fields.map fun field => " " ++ fieldText field)

end Line

end MinEntropy.Log

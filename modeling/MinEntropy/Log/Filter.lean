import MinEntropy.Log.Basic
import MinEntropy.Log.Directive

/-! Filters for log lines: directives between commas. A line is judged by the most specific of the
directives that are about lines, and is let through also when the span that it belongs to raises the
rank for what happens in it. -/

namespace MinEntropy.Log

namespace Directive

/-- It is about lines by themselves. -/
def isStatic (d : Directive) : Bool := d.span.isNone && d.field.all (·.value.isNone)

/-- It is about spans. -/
def isDynamic (d : Directive) : Bool := d.span.isSome || d.field.isSome

def coversTarget (d : Directive) (target : String) : Bool :=
  d.target.toList.isPrefixOf target.toList

/-- It is about a line: about its target, and a field that it has. -/
def isAbout (d : Directive) (l : Line) : Bool :=
  d.coversTarget l.target && d.field.all fun f => l.fieldNames.contains f.name

/-- It is about a span: about its target, its name, and a field that it has. -/
def concerns (d : Directive) (s : Span) : Bool :=
  d.coversTarget s.target && d.span.all (· = s.name) &&
    d.field.all fun f => (s.fields.lookup f.name).isSome

/-- The value of the field, where one is asked for, passes the test. -/
def fits (d : Directive) (s : Span) : Bool :=
  d.field.all fun f =>
    match f.value, s.fields.lookup f.name with
    | some test, some value => test.passes value
    | _, _ => true

/-- The directives differ in nothing but their ranks. -/
def replaces (d e : Directive) : Bool :=
  d.target = e.target && d.span = e.span && d.field = e.field

end Directive

/-- The first text comes after the second in the dictionary, or is the same. -/
def followsOrEquals : List Char → List Char → Bool
  | _, [] => true
  | [], _ :: _ => false
  | a :: as, b :: bs => b.toNat < a.toNat || (a = b && followsOrEquals as bs)

/-- A directive is at least as specific as another one: its target is longer, or only it has a
field, or its field comes later in the dictionary. -/
def Directive.outweighs (d e : Directive) : Bool :=
  if d.target.length ≠ e.target.length then e.target.length < d.target.length
  else match e.field, d.field with
    | none, _ => true
    | some _, none => false
    | some f, some g => followsOrEquals g.name.toList f.name.toList

abbrev Filter := List Directive

namespace Filter

/-- Errors only. -/
def errors : Filter := [⟨"", none, none, Level.error.rank⟩]

/-- A filter from its text; a text without directives lets errors through. -/
def read (text : String) : Except DirectiveFault Filter :=
  match (text.splitOn ",").filter (!·.isEmpty) with
  | [] => .ok errors
  | pieces => pieces.mapM fun piece => Directive.read piece.toList

def highestRank (f : Filter) : Nat := (f.map (·.maxRank)).foldl max 0

/-- The directive that decides, of those that are about something; of equal ones the last. -/
def mostSpecific (f : Filter) : Option Directive :=
  f.foldl
    (fun best d =>
      match best with
      | some b => if d.outweighs b then some d else some b
      | none => some d)
    none

/-- The most specific directive lets a level through, if there is one. -/
def grants (f : Filter) (level : Level) : Bool :=
  f.mostSpecific.any fun d => level.rank ≤ d.maxRank

/-! ### Spans -/

/-- The directives about spans, without those that a later one replaces. -/
def dynamic : Filter → Filter
  | [] => []
  | d :: rest =>
    if d.isDynamic && !rest.any (·.replaces d) then d :: dynamic rest else dynamic rest

/-- Spans above this rank are left out. Where values are tested, none is. -/
def spanRank (f : Filter) : Nat :=
  if f.any fun d => d.field.any (·.value.isSome) then anyRank else f.highestRank

/-- A span is told of. -/
def follows (f : Filter) (s : Span) : Bool :=
  s.level.rank ≤ f.spanRank &&
    (f.dynamic.any (·.concerns s) ||
      Filter.grants (f.filter fun d => d.isStatic && d.coversTarget s.target) s.level)

/-- The rank up to which lines are let through within a span. -/
def rankWithin (f : Filter) (s : Span) : Nat :=
  Filter.highestRank (f.dynamic.filter fun d => d.concerns s && d.fits s)

/-! ### Lines -/

/-- The line without its span, unless that is told of. -/
def trim (f : Filter) (l : Line) : Line := { l with span := l.span.filter f.follows }

/-- A line that has been trimmed is let through. -/
def admits (f : Filter) (l : Line) : Bool :=
  Filter.grants (f.filter fun d => d.isStatic && d.isAbout l) l.level ||
    l.span.any fun s => l.level.rank ≤ f.rankWithin s

/-- The lines that are let through. -/
def apply (f : Filter) (lines : List Line) : List Line := (lines.map f.trim).filter f.admits

/-- The filter of the environment where it can be read, or else a level for everything. Nothing can
go on where reading breaks down. -/
def choose (fromEnvironment : Option String) (level : String) : Option Filter :=
  match fromEnvironment.map read with
  | some (.ok f) => some f
  | some (.error .brokenCharacter) => none
  | some (.error .malformed) | none => some ((read level).toOption.getD errors)

end Filter

end MinEntropy.Log

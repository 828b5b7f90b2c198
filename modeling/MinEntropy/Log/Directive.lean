import MinEntropy.Pattern.Reader
import MinEntropy.Text.Utf8

/-! Directives of a log filter. A directive names a target, a span in brackets with a field in
braces, and a level after an equals sign; each part may be left out. What is sought in its text is
sought without the blanks around it, but cut out of the text with them, so that blanks in front move
all of the parts. -/

namespace MinEntropy.Log

/-- What the value of a field is asked for. -/
structure ValueTest where
  text : List Char
  /-- The pattern of texts; truth values and numbers are equal to none. -/
  pattern : Option Pattern
  deriving DecidableEq, Repr

structure FieldTest where
  name : String
  value : Option ValueTest
  deriving DecidableEq, Repr

/-- What lines and spans are let through, up to a rank. -/
structure Directive where
  /-- The beginning of the targets; empty for all of them. -/
  target : String
  /-- The name of a span. -/
  span : Option String
  field : Option FieldTest
  maxRank : Nat
  deriving DecidableEq, Repr

/-- Why a text is no directive. -/
inductive DirectiveFault where
  | malformed
  /-- A part would have to begin or end within a character. -/
  | brokenCharacter
  deriving DecidableEq, Repr

/-! ### Levels -/

/-- The highest rank. -/
def anyRank : Nat := 5

/-- The rank that a number or a word stands for; zero lets nothing through. -/
def rank? (cs : List Char) : Option Nat :=
  match Text.nat? anyRank cs with
  | some n => some n
  | none =>
    [("off", 0), ("error", 1), ("warn", 2), ("info", 3), ("debug", 4), ("trace", 5)].lookup
      (String.ofList (cs.map Char.toLower))

/-! ### Fields -/

/-- Digits with an optional point among them, and an optional exponent. -/
def isUnsigned (cs : List Char) : Bool :=
  let whole := cs.takeWhile Char.isDigit
  let rest := cs.drop whole.length
  let point := rest.head? = some '.'
  let places := if point then rest.tail.takeWhile Char.isDigit else []
  let rest := if point then rest.tail.drop places.length else rest
  let exponent :=
    match rest with
    | [] => true
    | e :: digits =>
      let digits :=
        if digits.head? = some '+' ∨ digits.head? = some '-' then digits.tail else digits
      (e = 'e' || e = 'E') && !digits.isEmpty && digits.all Char.isDigit
  !(whole.isEmpty && places.isEmpty) && exponent

/-- A number with an optional sign, or the name of what is none. -/
def isNumber (cs : List Char) : Bool :=
  let magnitude := if cs.head? = some '+' ∨ cs.head? = some '-' then cs.tail else cs
  isUnsigned magnitude ||
    String.ofList (magnitude.map Char.toLower) ∈ ["inf", "infinity", "nan"]

def ValueTest.read? (cs : List Char) : Option ValueTest :=
  if (Text.bool? cs).isSome || isNumber cs then some ⟨cs, none⟩
  else (Pattern.read? cs).map fun p => ⟨cs, some p⟩

/-- The value of a field, as a text, passes the test. -/
def ValueTest.passes (t : ValueTest) (value : String) : Bool := t.pattern.any (·.covers value)

/-- A name, and a value between the first equals sign and the second. -/
def FieldTest.read? (cs : List Char) : Option FieldTest :=
  let name := String.ofList (cs.takeWhile (· ≠ '='))
  if cs.isEmpty then none
  else match cs.dropWhile (· ≠ '=') with
    | [] => some ⟨name, none⟩
    | _ :: rest => (ValueTest.read? (rest.takeWhile (· ≠ '='))).map fun v => ⟨name, some v⟩

/-! ### Reading -/

/-- How far a directive has been read; parts that are open begin after a number of bytes. -/
inductive Stage where
  | start
  /-- A target, or a level alone. -/
  | word
  | span (first : Nat)
  | field (first : Nat)
  | fieldEnd
  | targetEnd
  | level (first : Nat)

structure Draft where
  stage : Stage
  target : String
  span : Option String
  field : Option FieldTest

/-- The characters between two numbers of bytes. -/
def cut (text : List Char) (first last : Nat) : Except DirectiveFault (List Char) :=
  match (Text.Utf8.splitAt? last text).bind fun (cs, _) => Text.Utf8.splitAt? first cs with
  | some (_, part) => .ok part
  | none => .error .brokenCharacter

def beginsTarget (c : Char) : Bool := c ∈ ['-', ':', '_'] || Text.isLetterOrNumber c

namespace Draft

def start : Draft := ⟨.start, "", none, none⟩

/-- Ends a target before a position. -/
def endTarget (d : Draft) (text : List Char) (i : Nat) (stage : Stage) :
    Except DirectiveFault Draft := do
  let target ← cut text 0 i
  return { d with stage, target := String.ofList target }

def endField (d : Draft) (text : List Char) (first i : Nat) : Except DirectiveFault Draft := do
  match FieldTest.read? (← cut text first i) with
  | some test => return { d with stage := .fieldEnd, field := some test }
  | none => throw .malformed

/-- Reads on after a character at a position. -/
def step (d : Draft) (text : List Char) (i : Nat) (c : Char) : Except DirectiveFault Draft :=
  match d.stage, c with
  | .start, '[' => .ok { d with stage := .span (i + 1) }
  | .start, c => if beginsTarget c then .ok { d with stage := .word } else .error .malformed
  | .word, '=' => d.endTarget text i (.level (i + 1))
  | .word, '[' => d.endTarget text i (.span (i + 1))
  | .word, _ => .ok d
  | .span first, ']' => do
    let name ← cut text first i
    return { d with stage := .targetEnd, span := some (String.ofList name) }
  | .span first, '\x7b' => do
    let name ← cut text first i
    let span := if name.isEmpty then none else some (String.ofList name)
    return { d with stage := .field (i + 1), span }
  | .span _, _ => .ok d
  | .field first, '\x7d' => d.endField text first i
  | .field _, _ => .ok d
  | .fieldEnd, ']' => .ok { d with stage := .targetEnd }
  | .fieldEnd, _ => .error .malformed
  | .targetEnd, '=' => .ok { d with stage := .level (i + 1) }
  | .targetEnd, _ => .error .malformed
  | .level _, _ => .ok d

/-- Reads characters from a position on. -/
def run (text : List Char) : Draft → Nat → List Char → Except DirectiveFault Draft
  | d, _, [] => .ok d
  | d, i, c :: rest => do run text (← d.step text i c) (i + c.utf8Size) rest

/-- A level alone is about every target, and what has no level is about every one. -/
def finish (d : Draft) (text : List Char) : Except DirectiveFault Directive :=
  match d.stage with
  | .word =>
    match rank? text with
    | some rank => .ok ⟨"", none, none, rank⟩
    | none => .ok ⟨String.ofList text, none, none, anyRank⟩
  | .targetEnd => .ok ⟨d.target, d.span, d.field, anyRank⟩
  | .level first => do
    let word ← cut text first (Text.Utf8.size text)
    if word.isEmpty then return ⟨d.target, d.span, d.field, anyRank⟩
    match rank? word with
    | some rank => return ⟨d.target, d.span, d.field, rank⟩
    | none => throw .malformed
  | _ => .error .malformed

end Draft

namespace Directive

def read (text : List Char) : Except DirectiveFault Directive := do
  (← Draft.run text .start 0 (Text.trim text)).finish text

end Directive

end MinEntropy.Log

import MinEntropy.Report.Basic

/-! A report as text for people. -/

namespace MinEntropy.Report

/-- A figure with six places. -/
def figureText (h : Float) : String := String.ofList (Decimal.fixed 6 h)

/-- Text with blanks after it up to a width. -/
def padRight (width : Nat) (s : String) : String :=
  s ++ String.ofList (List.replicate (width - s.length) ' ')

/-- Text with blanks before it up to a width. -/
def padLeft (width : Nat) (s : String) : String :=
  String.ofList (List.replicate (width - s.length) ' ') ++ s

/-- A row of the table of estimators. -/
def estimatorRow (o : RecordedOutcome) : String :=
  "  [" ++ padRight 9 o.view.label ++ "] " ++ padRight 40 o.name ++ " " ++
    padLeft 10 ((o.estimate.map figureText).getD "-") ++ "  " ++ if o.passed then "pass" else "FAIL"

/-- A line with a name and a value. -/
def row (name value : String) : String := "  " ++ padRight 17 (name ++ ":") ++ value

def figureRow? (name : String) : Option Float → List String
  | some h => [row name (figureText h)]
  | none => []

/-- The outcomes in a table, from the second level of detail on. -/
def table (r : Report) (detail : Nat) : List String :=
  if 2 ≤ detail && !r.estimators.isEmpty then
    "" :: "Estimators:" :: r.estimators.map estimatorRow
  else []

def lines (r : Report) (detail : Nat) : List String :=
  ["", "Entropy Assessment Results:",
    row "Test Type" r.mode.label,
    row "Bits/Symbol" (toString (r.wordSize.getD r.bitsPerSymbol)),
    row "Samples" (toString r.dataSize),
    row "SHA-256" r.digest] ++
  figureRow? "H_original" r.hOriginal ++
  figureRow? "H_bitstring" r.hBitstring ++
  [row "H_assessed" (figureText r.hAssessed), row "Min Entropy" (figureText r.minEntropy)] ++
  table r detail

def render (r : Report) (detail : Nat) : String := String.join ((r.lines detail).map (· ++ "\n"))

end MinEntropy.Report

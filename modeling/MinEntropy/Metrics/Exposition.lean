import MinEntropy.Decimal.Style
import MinEntropy.Metrics.Registry

/-! The account as text: families in the order of their names, within a family the series in the
order of their labels. What has never happened is left out. -/

namespace MinEntropy.Metrics

/-- The value of a series. -/
inductive Reading where
  | counter (n : Nat)
  | histogram (h : Histogram)

structure Series where
  labels : List (String × String)
  value : Reading

inductive FamilyKind where
  | counter
  | histogram
  deriving DecidableEq, Repr

def FamilyKind.label : FamilyKind → String
  | counter => "counter"
  | histogram => "histogram"

structure Family where
  name : String
  help : String
  kind : FamilyKind
  series : List Series

/-- Something has been counted or observed. -/
def Reading.occurred : Reading → Bool
  | counter n => n ≠ 0
  | histogram h => h.count ≠ 0

namespace Registry

/-- The series of some keys that have occurred. -/
def seriesOf (keys : List κ) (labels : κ → List (String × String)) (value : κ → Reading) :
    List Series :=
  (keys.map fun k => Series.mk (labels k) (value k)).filter (·.value.occurred)

def selectionLabel (s : Selection) : List (String × String) := [("test_type", s.label)]

def countersBySelection (counts : Selection → Nat) : List Series :=
  seriesOf Selection.all selectionLabel fun s => .counter (counts s)

def histogramsBySelection (table : Selection → Histogram) : List Series :=
  seriesOf Selection.all selectionLabel fun s => .histogram (table s)

/-- Failures are sorted by kind and then by selection. -/
def failureKeys : List (Selection × ErrorKind) :=
  ErrorKind.all.flatMap fun k => Selection.all.map fun s => (s, k)

def failureLabels (key : Selection × ErrorKind) : List (String × String) :=
  [("error_type", key.2.label), ("test_type", key.1.label)]

/-- All families, with data or without. -/
def allFamilies (r : Registry) : List Family :=
  [ ⟨"entropy_data_size_bytes", "Size of data being assessed in bytes", .histogram,
      histogramsBySelection r.sizes⟩,
    ⟨"entropy_duration_seconds", "Duration of entropy assessment in seconds", .histogram,
      histogramsBySelection r.durations⟩,
    ⟨"entropy_errors_total", "Total number of entropy assessment errors", .counter,
      seriesOf failureKeys failureLabels fun k => .counter (r.errors k)⟩,
    ⟨"entropy_min_entropy_value", "Minimum entropy values calculated", .histogram,
      histogramsBySelection r.entropies⟩,
    ⟨"entropy_rejected_total", "Total number of requests rejected before assessment", .counter,
      seriesOf RequestError.reasons (fun reason => [("reason", reason)])
        fun reason => .counter (r.rejections reason)⟩,
    ⟨"entropy_requests_total", "Total number of entropy assessment requests", .counter,
      countersBySelection r.requests⟩ ]

/-- The families with data. -/
def families (r : Registry) : List Family := r.allFamilies.filter fun f => !f.series.isEmpty

end Registry

/-- Values are written in full, without exponents. -/
def valueStyle : Decimal.Style := ⟨none, false, .up, "inf", "NaN"⟩

def valueText (x : Float) : String := String.ofList (valueStyle.write x)

/-- Labels between braces, each with its value in quotes. -/
def labelText (labels : List (String × String)) : String :=
  "\x7b" ++ ",".intercalate (labels.map fun (name, value) => name ++ "=\"" ++ value ++ "\"") ++
    "\x7d"

def line (name : String) (labels : List (String × String)) (value : String) : String :=
  name ++ labelText labels ++ " " ++ value

/-- A histogram has a line for each bucket, the last one without bound, and its sum and count. -/
def Series.lines (name : String) (s : Series) : List String :=
  match s.value with
  | .counter n => [line name s.labels (toString n)]
  | .histogram h =>
    let bucket (bound : String) (n : Nat) :=
      line (name ++ "_bucket") (s.labels ++ [("le", bound)]) (toString n)
    h.buckets.map (fun (b, n) => bucket (valueText b) n) ++
      [bucket "+Inf" h.count,
        line (name ++ "_sum") s.labels (valueText h.sum),
        line (name ++ "_count") s.labels (toString h.count)]

def Family.lines (f : Family) : List String :=
  ("# HELP " ++ f.name ++ " " ++ f.help) :: ("# TYPE " ++ f.name ++ " " ++ f.kind.label) ::
    f.series.flatMap (Series.lines f.name)

/-- All lines of the account. -/
def Registry.lines (r : Registry) : List String := r.families.flatMap Family.lines

/-- The account as one text. -/
def Registry.text (r : Registry) : String := String.join (r.lines.map (· ++ "\n"))

/-- A line that does not depend on how long anything took. -/
def isStable (line : String) : Bool :=
  !line.startsWith "entropy_duration_seconds_bucket" &&
    !line.startsWith "entropy_duration_seconds_sum"

def Registry.stableLines (r : Registry) : List String := r.lines.filter isStable

end MinEntropy.Metrics

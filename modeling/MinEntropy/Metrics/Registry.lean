import MinEntropy.Assessment.Coordinator
import MinEntropy.Metrics.Histogram

/-! What is counted of the assessments: an account of the events that an observer hears. -/

namespace MinEntropy

/-- Elapsed seconds as a figure. -/
def Duration.toFloat (d : Duration) : Float :=
  Float.ofNat d.seconds + Float.ofNat d.nanos / 1000000000.0

namespace Metrics

/-- One more at a key of a table of counts. -/
def bump [DecidableEq κ] (key : κ) (counts : κ → Nat) : κ → Nat :=
  fun k => if k = key then counts k + 1 else counts k

/-- One more observation at a key of a table of histograms. -/
def observeAt [DecidableEq κ] (key : κ) (x : Float) (table : κ → Histogram) : κ → Histogram :=
  fun k => if k = key then (table k).observe x else table k

structure Registry where
  /-- Assessments started. -/
  requests : Selection → Nat
  /-- Assessments that failed, by the kind of error. -/
  errors : Selection × ErrorKind → Nat
  /-- Requests turned away, by reason. -/
  rejections : String → Nat
  /-- Bytes of every assessment started. -/
  sizes : Selection → Histogram
  /-- Seconds of every assessment ended. -/
  durations : Selection → Histogram
  /-- Figures of the assessments completed. -/
  entropies : Selection → Histogram

namespace Registry

/-- Sizes up to 1 KiB, and five more bounds of ten times each. -/
def sizeBounds : List Float := Histogram.geometric 1024.0 10.0 6

/-- Ten milliseconds, and nine more bounds of twice each. -/
def durationBounds : List Float := Histogram.geometric 0.01 2.0 10

/-- Zero to eight bits in halves. -/
def entropyBounds : List Float := Histogram.arithmetic 0.0 0.5 17

def empty : Registry where
  requests _ := 0
  errors _ := 0
  rejections _ := 0
  sizes _ := .empty sizeBounds
  durations _ := .empty durationBounds
  entropies _ := .empty entropyBounds

/-- Accounts for an event. A figure that is not finite is not observed. -/
def note : Event → Registry → Registry
  | .rejected e, r => { r with rejections := bump e.reason r.rejections }
  | .started s bytes, r =>
    { r with
      requests := bump s r.requests
      sizes := observeAt s (Float.ofNat bytes) r.sizes }
  | .completed s result took, r =>
    { r with
      durations := observeAt s took.toFloat r.durations
      entropies :=
        if result.minEntropy.isFinite then observeAt s result.minEntropy r.entropies
        else r.entropies }
  | .failed s e took, r =>
    { r with
      durations := observeAt s took.toFloat r.durations
      errors := bump (s, e.kind) r.errors }

/-- The account of a history. -/
def ofEvents (events : List Event) : Registry := events.foldl (fun r e => note e r) empty

end Registry

end Metrics

/-- An observer that accounts for what it hears. -/
def Observer.accounting : Observer Metrics.Registry := ⟨Metrics.Registry.note, none⟩

end MinEntropy

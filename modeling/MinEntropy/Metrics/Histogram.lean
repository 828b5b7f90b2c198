/-! Histograms: for each bound, how many observations do not exceed it. -/

namespace MinEntropy.Metrics

structure Histogram where
  /-- Each bound with the number of observations up to and including it. -/
  buckets : List (Float × Nat)
  sum : Float
  count : Nat

namespace Histogram

def empty (bounds : List Float) : Histogram := ⟨bounds.map (·, 0), 0.0, 0⟩

def observe (x : Float) (h : Histogram) : Histogram :=
  ⟨h.buckets.map fun (b, n) => (b, if x ≤ b then n + 1 else n), h.sum + x, h.count + 1⟩

/-- The first bound and the following ones, each computed from the one before. -/
def boundsFrom (next : Float → Float) : Nat → Float → List Float
  | 0, _ => []
  | n + 1, b => b :: boundsFrom next n (next b)

/-- Bounds that grow by a factor. -/
def geometric (first factor : Float) (count : Nat) : List Float :=
  boundsFrom (· * factor) count first

/-- Bounds that grow by a step. -/
def arithmetic (first step : Float) (count : Nat) : List Float :=
  boundsFrom (· + step) count first

end Histogram

end MinEntropy.Metrics

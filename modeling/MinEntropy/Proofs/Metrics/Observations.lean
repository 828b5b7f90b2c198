import MinEntropy.Proofs.Figure.Order
import MinEntropy.Proofs.Metrics.Tally

/-! Histograms as what was observed: every bucket holds the number of observations up to its bound,
whatever their order, and only the sum is added up as they come. -/

namespace MinEntropy

namespace Event

/-- The size that an event brings to a selection. -/
def size? (s : Selection) : Event → Option Float
  | started s' bytes => if s' = s then some (Float.ofNat bytes) else none
  | _ => none

/-- The seconds that an event brings to a selection. -/
def seconds? (s : Selection) : Event → Option Float
  | completed s' _ took | failed s' _ took => if s' = s then some took.toFloat else none
  | _ => none

/-- The figure that an event brings to a selection. -/
def figure? (s : Selection) : Event → Option Float
  | completed s' result _ =>
    if s' = s ∧ result.minEntropy.isFinite = true then some result.minEntropy else none
  | _ => none

end Event

namespace Metrics

namespace Histogram

/-- How many observations do not exceed a bound. -/
def upTo (bound : Float) (values : List Float) : Nat := values.countP (· ≤ bound)

/-- The histogram of some observations. -/
def ofList (bounds values : List Float) : Histogram where
  buckets := bounds.map fun b => (b, upTo b values)
  sum := values.foldl (· + ·) 0.0
  count := values.length

variable {bounds values others : List Float}

theorem ofList_nil (bounds : List Float) : ofList bounds [] = empty bounds := rfl

theorem observe_ofList (x : Float) :
    (ofList bounds values).observe x = ofList bounds (values ++ [x]) := by
  have hbucket (b : Float) :
      (if x ≤ b then upTo b values + 1 else upTo b values) = upTo b (values ++ [x]) := by
    by_cases hx : x ≤ b <;> simp [upTo, hx]
  simp [observe, ofList, hbucket, Function.comp_def]

theorem upTo_mono {b b' : Float} (hbb' : b ≤ b') (values : List Float) :
    upTo b values ≤ upTo b' values := by
  refine List.countP_mono_left fun x _ hx => ?_
  exact decide_eq_true (Figure.le_trans (of_decide_eq_true hx) hbb')

theorem upTo_le_length (b : Float) (values : List Float) : upTo b values ≤ values.length :=
  List.countP_le_length

theorem upTo_perm (b : Float) (hperm : values.Perm others) : upTo b values = upTo b others :=
  hperm.countP_eq _

/-- Later buckets hold no less than earlier ones, and all together no less than any. -/
def IsCumulative (h : Histogram) : Prop :=
  h.buckets.Pairwise (fun x y => x.1 ≤ y.1 ∧ x.2 ≤ y.2) ∧ ∀ x ∈ h.buckets, x.2 ≤ h.count

theorem isCumulative_ofList (hbounds : bounds.Pairwise (· ≤ ·)) (values : List Float) :
    (ofList bounds values).IsCumulative := by
  refine ⟨List.pairwise_map.2 (hbounds.imp fun hle => ⟨hle, upTo_mono hle values⟩), ?_⟩
  intro x hx
  obtain ⟨b, -, rfl⟩ := List.mem_map.1 hx
  exact upTo_le_length b values

end Histogram

namespace Registry

theorem bounds_sorted :
    sizeBounds.Pairwise (· ≤ ·) ∧ durationBounds.Pairwise (· ≤ ·) ∧
      entropyBounds.Pairwise (· ≤ ·) := by decide +kernel

section Tables

variable (table : Registry → Histogram) (value? : Event → Option Float)
variable (hstep : ∀ e r, table (note e r) = (value? e).elim (table r) ((table r).observe ·))

include hstep in
/-- A histogram that takes at most one value from each event holds these values in the end. -/
theorem histogram_foldl {r : Registry} {bounds values : List Float}
    (hr : table r = .ofList bounds values) (events : List Event) :
    table (events.foldl (fun r e => note e r) r) =
      .ofList bounds (values ++ events.filterMap value?) := by
  induction events generalizing r values with
  | nil => simpa using hr
  | cons e rest ih =>
    have hnext := hstep e r
    rw [hr] at hnext
    cases hvalue : value? e with
    | none =>
      rw [hvalue] at hnext
      simpa [hvalue] using ih hnext
    | some x =>
      rw [hvalue, Option.elim_some, Histogram.observe_ofList] at hnext
      simpa [hvalue] using ih hnext

include hstep in
theorem histogram_ofEvents {bounds : List Float} (hempty : table empty = .empty bounds)
    (events : List Event) : table (ofEvents events) = .ofList bounds (events.filterMap value?) :=
  histogram_foldl table value? hstep (hempty.trans (Histogram.ofList_nil bounds).symm) events

end Tables

section Events

variable (s : Selection)

theorem sizes_note (e : Event) (r : Registry) :
    (note e r).sizes s = (e.size? s).elim (r.sizes s) ((r.sizes s).observe ·) := by
  cases e with
  | started s' bytes => by_cases hs : s' = s <;> simp [note, observeAt_apply, Event.size?, hs]
  | _ => rfl

theorem durations_note (e : Event) (r : Registry) :
    (note e r).durations s = (e.seconds? s).elim (r.durations s) ((r.durations s).observe ·) := by
  cases e with
  | completed s' result took =>
    by_cases hs : s' = s <;> simp [note, observeAt_apply, Event.seconds?, hs]
  | failed s' e took => by_cases hs : s' = s <;> simp [note, observeAt_apply, Event.seconds?, hs]
  | _ => rfl

theorem entropies_note (e : Event) (r : Registry) :
    (note e r).entropies s = (e.figure? s).elim (r.entropies s) ((r.entropies s).observe ·) := by
  cases e with
  | completed s' result took =>
    by_cases hs : s' = s <;> by_cases hfinite : result.minEntropy.isFinite = true <;>
      simp [note, observeAt_apply, Event.figure?, hs, hfinite]
  | _ => rfl

variable (events : List Event)

theorem sizes_ofEvents :
    (ofEvents events).sizes s = .ofList sizeBounds (events.filterMap (·.size? s)) :=
  histogram_ofEvents (·.sizes s) (·.size? s) (sizes_note s) rfl events

theorem durations_ofEvents :
    (ofEvents events).durations s = .ofList durationBounds (events.filterMap (·.seconds? s)) :=
  histogram_ofEvents (·.durations s) (·.seconds? s) (durations_note s) rfl events

theorem entropies_ofEvents :
    (ofEvents events).entropies s = .ofList entropyBounds (events.filterMap (·.figure? s)) :=
  histogram_ofEvents (·.entropies s) (·.figure? s) (entropies_note s) rfl events

end Events

end Registry

end Metrics

end MinEntropy

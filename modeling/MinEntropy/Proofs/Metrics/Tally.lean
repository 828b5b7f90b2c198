import MinEntropy.Metrics.Registry

/-! An account tallies a history: every count in it is the number of the events of one kind. -/

namespace MinEntropy

namespace Event

def starts (s : Selection) : Event → Bool
  | started s' _ => s' = s
  | _ => false

def ends (s : Selection) : Event → Bool
  | completed s' _ _ | failed s' _ _ => s' = s
  | _ => false

/-- A completion whose figure can be observed. -/
def yields (s : Selection) : Event → Bool
  | completed s' result _ => s' = s && result.minEntropy.isFinite
  | _ => false

def failsAs (key : Selection × ErrorKind) : Event → Bool
  | failed s e _ => (s, e.kind) = key
  | _ => false

def isRefusal (reason : String) : Event → Bool
  | rejected e => e.reason = reason
  | _ => false

end Event

namespace Metrics

section Tables

variable [DecidableEq κ] (key k : κ)

@[simp] theorem bump_apply (counts : κ → Nat) :
    bump key counts k = counts k + if key = k then 1 else 0 := by
  unfold bump
  by_cases h : key = k
  · simp [h]
  · simp [h, Ne.symm h]

theorem observeAt_apply (x : Float) (table : κ → Histogram) :
    observeAt key x table k = if key = k then (table k).observe x else table k := by
  unfold observeAt
  by_cases h : key = k
  · simp [h]
  · simp [h, Ne.symm h]

@[simp] theorem count_observeAt (x : Float) (table : κ → Histogram) :
    (observeAt key x table k).count = (table k).count + if key = k then 1 else 0 := by
  rw [observeAt_apply]
  split
  · rfl
  · rfl

end Tables

namespace Registry

section Note

variable (e : Event) (r : Registry) (s : Selection)

theorem requests_note :
    (note e r).requests s = r.requests s + if e.starts s then 1 else 0 := by
  cases e <;> simp [note, Event.starts]

theorem count_sizes_note :
    ((note e r).sizes s).count = (r.sizes s).count + if e.starts s then 1 else 0 := by
  cases e <;> simp [note, Event.starts]

theorem count_durations_note :
    ((note e r).durations s).count = (r.durations s).count + if e.ends s then 1 else 0 := by
  cases e <;> simp [note, Event.ends]

theorem count_entropies_note :
    ((note e r).entropies s).count = (r.entropies s).count + if e.yields s then 1 else 0 := by
  cases e with
  | completed _ result _ =>
    by_cases hfinite : result.minEntropy.isFinite <;> simp [note, Event.yields, hfinite]
  | _ => simp [note, Event.yields]

theorem errors_note (key : Selection × ErrorKind) :
    (note e r).errors key = r.errors key + if e.failsAs key then 1 else 0 := by
  cases e <;> simp [note, Event.failsAs]

theorem rejections_note (reason : String) :
    (note e r).rejections reason = r.rejections reason + if e.isRefusal reason then 1 else 0 := by
  cases e <;> simp [note, Event.isRefusal]

end Note

/-- Every count is the number of the events of its kind. -/
structure Tallies (r : Registry) (events : List Event) : Prop where
  requests : ∀ s, r.requests s = events.countP (·.starts s)
  sizes : ∀ s, (r.sizes s).count = events.countP (·.starts s)
  durations : ∀ s, (r.durations s).count = events.countP (·.ends s)
  entropies : ∀ s, (r.entropies s).count = events.countP (·.yields s)
  errors : ∀ key, r.errors key = events.countP (·.failsAs key)
  rejections : ∀ reason, r.rejections reason = events.countP (·.isRefusal reason)

theorem tallies_empty : empty.Tallies [] := by
  constructor <;> intros <;> rfl

variable {r : Registry} {events : List Event}

theorem Tallies.note (hr : r.Tallies events) (e : Event) :
    (Registry.note e r).Tallies (events ++ [e]) where
  requests s := by simp [requests_note, hr.requests]
  sizes s := by simp [count_sizes_note, hr.sizes]
  durations s := by simp [count_durations_note, hr.durations]
  entropies s := by simp [count_entropies_note, hr.entropies]
  errors key := by simp [errors_note, hr.errors]
  rejections reason := by simp [rejections_note, hr.rejections]

theorem Tallies.foldl (hr : r.Tallies events) (later : List Event) :
    (later.foldl (fun r e => Registry.note e r) r).Tallies (events ++ later) := by
  induction later generalizing r events with
  | nil => simpa using hr
  | cons e rest ih => simpa using ih (hr.note e)

/-- The order of the events does not matter. -/
theorem Tallies.perm (hr : r.Tallies events) {late : List Event} (hlate : late.Perm events) :
    r.Tallies late where
  requests s := by rw [hr.requests, hlate.countP_eq]
  sizes s := by rw [hr.sizes, hlate.countP_eq]
  durations s := by rw [hr.durations, hlate.countP_eq]
  entropies s := by rw [hr.entropies, hlate.countP_eq]
  errors key := by rw [hr.errors, hlate.countP_eq]
  rejections reason := by rw [hr.rejections, hlate.countP_eq]

/-- The account of a history tallies it. -/
theorem tallies_ofEvents (events : List Event) : (ofEvents events).Tallies events :=
  tallies_empty.foldl events

end Registry

end Metrics

end MinEntropy

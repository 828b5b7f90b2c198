import MinEntropy.Proofs.Metrics.Lines

/-! Accounts apart from time: how long an assessment took shows in the durations alone. -/

namespace MinEntropy

def Event.untimed : Event → Event
  | .completed selection result _ => .completed selection result ⟨0, 0⟩
  | .failed selection error _ => .failed selection error ⟨0, 0⟩
  | e => e

namespace Metrics

/-- What remains of durations apart from time: how many there are. -/
def Histogram.untimed (h : Histogram) : Histogram := ⟨[], 0.0, h.count⟩

namespace Registry

def untimed (r : Registry) : Registry :=
  { r with durations := fun s => (r.durations s).untimed }

theorem untimed_observeAt (key : Selection) (x y : Float) (table : Selection → Histogram) :
    (fun s => (observeAt key x table s).untimed) =
      fun s => (observeAt key y (fun s => (table s).untimed) s).untimed := by
  funext s
  unfold observeAt
  split
  · rfl
  · rfl

theorem untimed_note (e : Event) (r : Registry) :
    (note e r).untimed = (note e.untimed r.untimed).untimed := by
  cases e with
  | rejected e => rfl
  | started selection bytes => rfl
  | completed selection result took =>
    unfold note untimed Event.untimed
    rw [untimed_observeAt selection took.toFloat (Duration.toFloat ⟨0, 0⟩)]
  | failed selection error took =>
    unfold note untimed Event.untimed
    rw [untimed_observeAt selection took.toFloat (Duration.toFloat ⟨0, 0⟩)]

end Registry

/-! ### The text apart from time -/

theorem startsWith_entry (name labels number : String) :
    (entry name labels number).startsWith name = true := by
  rw [entry, String.startsWith_string_iff]
  simp only [String.toList_append, List.append_assoc]
  exact List.prefix_append _ _

theorem isStable_bucket (labels number : String) :
    isStable (entry "entropy_duration_seconds_bucket" labels number) = false := by
  simp [isStable, startsWith_entry "entropy_duration_seconds_bucket"]

theorem isStable_sum (labels number : String) :
    isStable (entry "entropy_duration_seconds_sum" labels number) = false := by
  simp [isStable, startsWith_entry "entropy_duration_seconds_sum"]

theorem filter_isStable_durations (s : Selection) (h : Histogram) :
    (Series.lines "entropy_duration_seconds"
        ⟨Registry.selectionLabel s, .histogram h⟩).filter isStable =
      [entry "entropy_duration_seconds_count" (typeLabel s) (toString h.count)].filter
        isStable := by
  have hbuckets : (bucketLines "entropy_duration_seconds_bucket" s h.buckets h.count).filter
      isStable = [] := by
    apply List.filter_eq_nil_iff.2
    simp only [bucketLines, List.forall_mem_append, List.forall_mem_map,
      List.forall_mem_singleton, isStable_bucket, Bool.false_eq_true, not_false_eq_true,
      implies_true, and_self]
  rw [lines_histogram, List.filter_append]
  simp only [String.reduceAppend, hbuckets, List.nil_append]
  rw [List.filter_cons_of_neg (by simp [isStable_sum])]

/-- The stable lines are those of the account apart from time. -/
theorem Registry.stableLines_untimed (r : Registry) : r.untimed.stableLines = r.stableLines := by
  have hlines (help : String) (kind : FamilyKind) :
      (Family.lines ⟨"entropy_duration_seconds", help, kind,
        histogramsBySelection fun s => (r.durations s).untimed⟩).filter isStable =
      (Family.lines ⟨"entropy_duration_seconds", help, kind,
        histogramsBySelection r.durations⟩).filter isStable := by
    simp only [Family.lines, List.filter_cons, histogramsBySelection, lines_seriesOf,
      List.filter_flatMap, filter_isStable_durations]
    rfl
  have hempty : (histogramsBySelection fun s => (r.durations s).untimed) = [] ↔
      histogramsBySelection r.durations = [] := by
    simp [histogramsBySelection, seriesOf, Reading.occurred, Histogram.untimed]
  rw [stableLines, stableLines, filter_lines, filter_lines, allFamilies, allFamilies]
  simp only [List.flatMap_cons, untimed, hempty, hlines]

end Metrics

end MinEntropy

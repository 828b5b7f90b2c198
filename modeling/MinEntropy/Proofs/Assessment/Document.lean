import MinEntropy.Assessment.Document
import MinEntropy.Proofs.Json.Likeness

/-! What the document of a result tells. Two results have one text exactly where they agree in
everything but figures that are no finite numbers, for all of these are null. -/

namespace MinEntropy

open Json

/-- Outcomes that a document does not tell apart. -/
structure RecordedOutcome.Same (o o' : RecordedOutcome) : Prop where
  view : o.view = o'.view
  name : o.name = o'.name
  estimate : Figure.written o.estimate = Figure.written o'.estimate
  passed : o.passed = o'.passed

/-- Results of a track that a document does not tell apart. -/
structure ModeResult.Same (r r' : ModeResult) : Prop where
  mode : r.mode = r'.mode
  wordSize : r.wordSize = r'.wordSize
  alphabetSize : r.alphabetSize = r'.alphabetSize
  hOriginal : Figure.written (some r.hOriginal) = Figure.written (some r'.hOriginal)
  hBitstring : Figure.written (some r.hBitstring) = Figure.written (some r'.hBitstring)
  hAssessed : Figure.written (some r.hAssessed) = Figure.written (some r'.hAssessed)
  outcomes : List.Forall₂ RecordedOutcome.Same r.outcomes r'.outcomes

/-- Results that a document does not tell apart. -/
structure AssessmentResult.Same (r r' : AssessmentResult) : Prop where
  minEntropy : Figure.written (some r.minEntropy) = Figure.written (some r'.minEntropy)
  wordSize : r.wordSize = r'.wordSize
  sampleCount : r.sampleCount = r'.sampleCount
  iid : Option.Rel ModeResult.Same r.iid r'.iid
  nonIid : Option.Rel ModeResult.Same r.nonIid r'.nonIid

/-! ### Words -/

theorem Mode.compact_json_eq_iff {m m' : Mode} : m.json.compact = m'.json.compact ↔ m = m' := by
  rw [json, json, compact_str_eq_iff]
  cases m <;> cases m' <;> decide

theorem Representation.compact_json_eq_iff {v v' : Representation} :
    v.json.compact = v'.json.compact ↔ v = v' := by
  rw [json, json, compact_str_eq_iff]
  cases v <;> cases v' <;> decide

theorem WordSize.compact_json_eq_iff {w w' : WordSize} :
    w.json.compact = w'.json.compact ↔ w = w' := by
  rw [json, json, compact_nat_eq_iff]
  cases w
  cases w'
  simp

/-! ### Results -/

theorem RecordedOutcome.compact_json_eq_iff {o o' : RecordedOutcome} :
    o.json.compact = o'.json.compact ↔ o.Same o' := by
  simp only [json, Outcome.members, compact_obj_eq_iff, List.forall₂_cons,
    List.forall₂_nil_left_iff, SameMember, true_and, and_true, Representation.compact_json_eq_iff,
    compact_str_eq_iff, compact_num?_eq_iff, compact_bool_eq_iff]
  exact ⟨fun ⟨hview, hname, hestimate, hpassed⟩ => ⟨hview, hname, hestimate, hpassed⟩,
    fun h => ⟨h.view, h.name, h.estimate, h.passed⟩⟩

theorem ModeResult.compact_json_eq_iff {r r' : ModeResult} :
    r.json.compact = r'.json.compact ↔ r.Same r' := by
  simp only [json, compact_obj_eq_iff, compact_arr_eq_iff, List.forall₂_cons,
    List.forall₂_nil_left_iff, List.forall₂_map_left_iff, List.forall₂_map_right_iff,
    SameMember, true_and, and_true, Mode.compact_json_eq_iff, WordSize.compact_json_eq_iff,
    compact_nat_eq_iff, compact_num_eq_iff, RecordedOutcome.compact_json_eq_iff]
  exact ⟨fun ⟨hmode, hword, halphabet, horiginal, hbitstring, hassessed, houtcomes⟩ =>
      ⟨hmode, hword, halphabet, horiginal, hbitstring, hassessed, houtcomes⟩,
    fun h => ⟨h.mode, h.wordSize, h.alphabetSize, h.hOriginal, h.hBitstring, h.hAssessed,
      h.outcomes⟩⟩

namespace AssessmentResult

/-- A track that did not run is no object. -/
theorem compact_slot_eq_iff {m m' : Option ModeResult} :
    (slot m).compact = (slot m').compact ↔ Option.Rel ModeResult.Same m m' := by
  cases m with
  | none =>
    cases m' with
    | none => exact ⟨fun _ => .none, fun _ => rfl⟩
    | some r' =>
      refine ⟨fun h => ?_, fun h => by cases h⟩
      cases (List.cons.inj h).1
  | some r =>
    cases m' with
    | none =>
      refine ⟨fun h => ?_, fun h => by cases h⟩
      cases (List.cons.inj h).1
    | some r' =>
      refine ModeResult.compact_json_eq_iff.trans ⟨.some, fun h => ?_⟩
      cases h
      assumption

/-- The text of a result tells all of it: sizes, counts, tracks, outcomes in their order, and every
finite figure to the last bit. -/
theorem compactText_json_eq_iff (r r' : AssessmentResult) :
    compactText r.json = compactText r'.json ↔ r.Same r' := by
  rw [compactText, compactText, String.ofList_inj]
  simp only [json, members, compact_obj_eq_iff, List.forall₂_cons, List.forall₂_nil_left_iff,
    SameMember, true_and, and_true, compact_num_eq_iff, compact_nat_eq_iff, compact_slot_eq_iff]
  exact ⟨fun ⟨hentropy, hword, hcount, hiid, hnonIid⟩ => ⟨hentropy, hword, hcount, hiid, hnonIid⟩,
    fun h => ⟨h.minEntropy, h.wordSize, h.sampleCount, h.iid, h.nonIid⟩⟩

end AssessmentResult

end MinEntropy

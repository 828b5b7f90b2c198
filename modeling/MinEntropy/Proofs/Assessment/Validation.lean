import MinEntropy.Assessment.Request

/-! The check of a request, fault by fault. -/

namespace MinEntropy

theorem Selection.ofFlags?_eq_none_iff {iid nonIid : Bool} :
    ofFlags? iid nonIid = none ↔ iid = false ∧ nonIid = false := by
  cases iid <;> cases nonIid <;> simp [ofFlags?]

namespace Request

/-- The request passes its check. -/
structure IsSound (q : Request) (selection : Selection) : Prop where
  data_ne_nil : q.data ≠ []
  wordSize_le : q.wordSize ≤ maxWordSize
  flags_eq : Selection.ofFlags? q.runIid q.runNonIid = some selection

variable {q : Request} {selection : Selection}

theorem validate_of_empty (hdata : q.data = []) : q.validate = .error .emptyData := by
  simp [validate, hdata]

theorem validate_of_wide (hdata : q.data ≠ []) (hwide : maxWordSize < q.wordSize) :
    q.validate = .error (.invalidWordSize q.wordSize) := by
  simp [validate, hdata, hwide]

theorem validate_of_unselected (hdata : q.data ≠ []) (hwidth : q.wordSize ≤ maxWordSize)
    (hiid : q.runIid = false) (hnonIid : q.runNonIid = false) :
    q.validate = .error .noModeSelected := by
  simp [validate, hdata, Nat.not_lt.2 hwidth, Selection.ofFlags?_eq_none_iff.2 ⟨hiid, hnonIid⟩]

theorem validate_eq_ok_iff : q.validate = .ok selection ↔ q.IsSound selection := by
  constructor
  · intro hr
    by_cases hdata : q.data = []
    · simp [validate, hdata] at hr
    · by_cases hwide : maxWordSize < q.wordSize
      · simp [validate, hdata, hwide] at hr
      · cases hflags : Selection.ofFlags? q.runIid q.runNonIid with
        | none => simp [validate, hdata, hwide, hflags] at hr
        | some selection' =>
          simp [validate, hdata, hwide, hflags] at hr
          exact ⟨hdata, Nat.not_lt.1 hwide, hr ▸ hflags⟩
  · rintro ⟨hdata, hwidth, hflags⟩
    simp [validate, hdata, Nat.not_lt.2 hwidth, hflags]

end Request

end MinEntropy

import MinEntropy.Estimator.Library
import MinEntropy.Proofs.Estimator.Guard
import MinEntropy.Proofs.Text.Utf8

/-! Results handed over by a library. Whatever their memory holds, one answer can be read from them,
and what is not announced is not looked at. -/

namespace MinEntropy

/-- The text of the bytes before the first zero, or of all bytes where there is none. -/
inductive Text.Utf8.ReadsUntilZero : List UInt8 → String → Prop
  | ended {before after : List UInt8} {text : String} (hbefore : 0 ∉ before)
    (htext : Lossy before text.toList) : ReadsUntilZero (before ++ 0 :: after) text
  | unended {bytes : List UInt8} {text : String} (hbytes : 0 ∉ bytes)
    (htext : Lossy bytes text.toList) : ReadsUntilZero bytes text

namespace Text.Utf8

variable {bytes before after : List UInt8} {text : String}

theorem untilZero_of_not_mem (hbytes : 0 ∉ bytes) : untilZero bytes = lossy bytes := by
  have hall : ∀ b ∈ bytes, (b != 0) = true := fun b hb => by
    rw [bne_iff_ne]
    rintro rfl
    exact hbytes hb
  rw [untilZero, List.takeWhile_eq_self_iff.2 hall]

theorem untilZero_append (hbefore : 0 ∉ before) :
    untilZero (before ++ 0 :: after) = lossy before := by
  have hall : ∀ b ∈ before, (b != 0) = true := fun b hb => by
    rw [bne_iff_ne]
    rintro rfl
    exact hbefore hb
  rw [untilZero, List.takeWhile_append_of_pos hall]
  simp

theorem readsUntilZero_iff : ReadsUntilZero bytes text ↔ untilZero bytes = text := by
  constructor
  · rintro (⟨hbefore, htext⟩ | ⟨hbytes, htext⟩)
    · rw [untilZero_append hbefore, lossy_iff.1 htext]
    · rw [untilZero_of_not_mem hbytes, lossy_iff.1 htext]
  · rintro rfl
    by_cases hzero : (0 : UInt8) ∈ bytes
    · obtain ⟨before, after, rfl, hbefore⟩ := List.eq_append_cons_of_mem hzero
      rw [untilZero_append hbefore]
      exact .ended hbefore (lossy_iff.2 rfl)
    · rw [untilZero_of_not_mem hzero]
      exact .unended hzero (lossy_iff.2 rfl)

end Text.Utf8

/-- An outcome as it was handed over, with its estimate where that is admitted. -/
structure RawOutcome.Reads (Admitted : Float → Prop) (raw : RawOutcome) (o : Outcome) : Prop where
  name : Text.Utf8.ReadsUntilZero raw.name.toList o.name
  passed_iff : o.passed = true ↔ raw.passed ≠ 0
  estimate_iff : ∀ h, o.estimate = some h ↔ raw.estimate = h ∧ Admitted h

/-- What a result says: an error, or as many outcomes as are announced and there. -/
inductive RawResult.Answers (Admitted : Float → Prop) (r : RawResult) :
    Except SuiteError (List Outcome) → Prop
  | rejected {text : String} (hcode : r.errorCode = -1)
    (htext : Text.Utf8.ReadsUntilZero r.errorMessage.toList text) :
    Answers Admitted r (.error (.invalidInput (-1) text))
  | raised {text : String} (hcode : r.errorCode ≠ 0) (hother : r.errorCode ≠ -1)
    (htext : Text.Utf8.ReadsUntilZero r.errorMessage.toList text) :
    Answers Admitted r (.error (.exception r.errorCode text))
  | outcomes {list : List Outcome} (hcode : r.errorCode = 0)
    (hlist : List.Forall₂ (RawOutcome.Reads Admitted)
      (r.outcomes.toList.take (min r.outcomeCount 16)) list) :
    Answers Admitted r (.ok list)

namespace RawOutcome

variable {Admitted : Float → Prop} {raw : RawOutcome} {o o' : Outcome}

theorem Reads.eq (h : raw.Reads Admitted o) (h' : raw.Reads Admitted o') : o = o' := by
  have hname : o.name = o'.name :=
    (Text.Utf8.readsUntilZero_iff.1 h.name).symm.trans (Text.Utf8.readsUntilZero_iff.1 h'.name)
  have hpassed : o.passed = o'.passed := Bool.eq_iff_iff.2 (h.passed_iff.trans h'.passed_iff.symm)
  have hestimate : o.estimate = o'.estimate :=
    Option.ext fun x => (h.estimate_iff x).trans (h'.estimate_iff x).symm
  cases o
  cases o'
  simp_all

/-- The library itself holds back what is below zero or no number. -/
theorem reads_outcome (raw : RawOutcome) : raw.Reads (0.0 ≤ ·) raw.outcome where
  name := Text.Utf8.readsUntilZero_iff.2 rfl
  passed_iff := decide_eq_true_iff
  estimate_iff h := by
    rw [outcome, Option.ite_none_right_eq_some, Option.some.injEq]
    constructor
    · rintro ⟨hzero, rfl⟩
      exact ⟨rfl, hzero⟩
    · rintro ⟨rfl, hzero⟩
      exact ⟨hzero, rfl⟩

/-- Behind the guard no infinite estimate is left. -/
theorem reads_normalise_outcome (raw : RawOutcome) :
    raw.Reads (fun h => h.isFinite = true ∧ 0.0 ≤ h) raw.outcome.normalise where
  name := raw.reads_outcome.name
  passed_iff := raw.reads_outcome.passed_iff
  estimate_iff h := by
    change raw.outcome.estimate.filter Figure.isValid = some h ↔ _
    rw [Option.filter_eq_some_iff, raw.reads_outcome.estimate_iff, Figure.isValid_iff]
    tauto

end RawOutcome

namespace RawResult

variable {Admitted : Float → Prop} {r : RawResult}
variable {answer answer' : Except SuiteError (List Outcome)}

theorem forall₂_reads_eq {raws : List RawOutcome} {list list' : List Outcome}
    (h : List.Forall₂ (RawOutcome.Reads Admitted) raws list)
    (h' : List.Forall₂ (RawOutcome.Reads Admitted) raws list') : list = list' := by
  induction h generalizing list' with
  | nil =>
    cases h'
    rfl
  | cons hread _ ih =>
    cases h' with
    | cons hread' hrest' => rw [hread.eq hread', ih hrest']

/-- There are not two answers to one result. -/
theorem Answers.eq (h : r.Answers Admitted answer) (h' : r.Answers Admitted answer') :
    answer = answer' := by
  cases h <;> cases h'
  case rejected.rejected _ _ htext _ _ htext' =>
    rw [← Text.Utf8.readsUntilZero_iff.1 htext, ← Text.Utf8.readsUntilZero_iff.1 htext']
  case raised.raised _ _ _ htext _ _ _ htext' =>
    rw [← Text.Utf8.readsUntilZero_iff.1 htext, ← Text.Utf8.readsUntilZero_iff.1 htext']
  case outcomes.outcomes _ _ hlist _ _ hlist' => rw [forall₂_reads_eq hlist hlist']
  all_goals simp_all

theorem answer_of_code (hcode : r.errorCode ≠ 0) :
    r.answer = .error (.ofCode r.errorCode (Text.Utf8.untilZero r.errorMessage.toList)) :=
  if_pos hcode

theorem answer_of_success (hcode : r.errorCode = 0) :
    r.answer = .ok ((r.outcomes.toList.take (min r.outcomeCount 16)).map RawOutcome.outcome) := by
  have hlength : r.outcomes.toList.length = 16 := r.outcomes.length_toList
  rw [answer, if_neg (not_not_intro hcode), ← hlength, List.take_eq_take_min]

/-- A filter of outcomes that admits some estimates makes of the answer what it admits. -/
theorem answers_of_reads {change : Outcome → Outcome}
    (hchange : ∀ raw : RawOutcome, raw.Reads Admitted (change raw.outcome)) (r : RawResult) :
    r.Answers Admitted (r.answer.map (List.map change)) := by
  by_cases hcode : r.errorCode = 0
  · rw [answer_of_success hcode]
    refine .outcomes hcode ?_
    rw [List.map_map, List.forall₂_map_right_iff, List.forall₂_same]
    exact fun raw _ => hchange raw
  · rw [answer_of_code hcode]
    by_cases hrejected : r.errorCode = -1
    · rw [SuiteError.ofCode, SuiteError.rejectedCode, if_pos hrejected, hrejected]
      exact .rejected hrejected (Text.Utf8.readsUntilZero_iff.2 rfl)
    · rw [SuiteError.ofCode, SuiteError.rejectedCode, if_neg hrejected]
      exact .raised hcode hrejected (Text.Utf8.readsUntilZero_iff.2 rfl)

theorem guarded_reply (answer : Except SuiteError (List Outcome)) :
    (Binding.reply answer).guarded = answer.map (List.map Outcome.normalise) := by
  cases answer <;> rfl

theorem answers_iff {change : Outcome → Outcome}
    (hchange : ∀ raw : RawOutcome, raw.Reads Admitted (change raw.outcome)) :
    r.Answers Admitted answer ↔ r.answer.map (List.map change) = answer := by
  constructor
  · exact fun h => (answers_of_reads hchange r).eq h
  · rintro rfl
    exact answers_of_reads hchange r

/-- Outcomes that are not announced may hold anything. -/
theorem answer_congr {r' : RawResult} (hcode : r'.errorCode = r.errorCode)
    (hmessage : r'.errorMessage = r.errorMessage) (hcount : r'.outcomeCount = r.outcomeCount)
    (houtcomes : ∀ i : Fin maxOutcomes, i.val < r.outcomeCount →
      r'.outcomes[i] = r.outcomes[i]) : r'.answer = r.answer := by
  have htake : r'.outcomes.toList.take r'.outcomeCount = r.outcomes.toList.take r.outcomeCount := by
    rw [hcount]
    refine List.ext_getElem (by simp) fun i hi _ => ?_
    simp only [List.length_take, Vector.length_toList, lt_min_iff] at hi
    simpa using houtcomes ⟨i, hi.2⟩ hi.1
  rw [answer, answer, hcode, hmessage, htake]

/-- Every result has its one answer, before the guard and behind it. Only what is announced and
there counts. -/
theorem answer_reads (r : RawResult) :
    (∀ answer, r.Answers (0.0 ≤ ·) answer ↔ r.answer = answer) ∧
    (∀ answer, r.Answers (fun h => h.isFinite = true ∧ 0.0 ≤ h) answer ↔
      (Binding.reply r.answer).guarded = answer) ∧
    ∀ r' : RawResult, r'.errorCode = r.errorCode → r'.errorMessage = r.errorMessage →
      r'.outcomeCount = r.outcomeCount →
      (∀ i : Fin maxOutcomes, i.val < r.outcomeCount → r'.outcomes[i] = r.outcomes[i]) →
      r'.answer = r.answer := by
  refine ⟨fun answer => ?_, fun answer => ?_, fun r' => answer_congr⟩
  · have hanswer : r.answer.map (List.map id) = r.answer := by
      rw [List.map_id_fun]
      exact id_map r.answer
    rw [@answers_iff _ r answer id RawOutcome.reads_outcome, hanswer]
  · rw [guarded_reply]
    exact answers_iff RawOutcome.reads_normalise_outcome

/-- One outcome of sixteen is announced. Its name ends at the zero and is no UTF-8, and its estimate
does not pass the guard; the other fifteen do not count. -/
theorem answer_reads_one_announced :
    let named : RawOutcome := ⟨fixedBytes 64 [0x4d, 0xff, 0, 0x58], Figure.infinity, 2⟩
    let r : RawResult := ⟨0, fixedBytes 512 [0x65], 1, Vector.replicate maxOutcomes named⟩
    let r' : RawResult :=
      ⟨0, fixedBytes 512 [0x65], 1, (Vector.replicate maxOutcomes .blank).set 0 named⟩
    r'.answer = r.answer ∧ r.answer = .ok [⟨"M\ufffd", some Figure.infinity, true⟩] ∧
      (Binding.reply r.answer).guarded = .ok [⟨"M\ufffd", none, true⟩] := by
  intro named r r'
  have hname : Text.Utf8.ReadsUntilZero named.name.toList "M\ufffd" :=
    Text.Utf8.readsUntilZero_iff.2 rfl
  refine ⟨(answer_reads r).2.2 r' rfl rfl rfl fun i hi => ?_,
    ((answer_reads r).1 _).1 (.outcomes rfl (.cons ⟨hname, by decide, fun h => ?_⟩ .nil)),
    ((answer_reads r).2.1 _).1 (.outcomes rfl (.cons ⟨hname, by decide, fun h => ?_⟩ .nil))⟩
  · obtain ⟨i, hlt⟩ := i
    obtain rfl : i = 0 := Nat.lt_one_iff.1 hi
    change (Vector.set _ 0 named)[0] = (Vector.replicate maxOutcomes named)[0]
    rw [Vector.getElem_set_self, Vector.getElem_replicate]
  · rw [Option.some.injEq, iff_self_and]
    rintro rfl
    decide
  · refine ⟨nofun, ?_⟩
    rintro ⟨rfl, hfinite, -⟩
    exact absurd hfinite (by decide)

end RawResult

end MinEntropy

import MinEntropy.Proofs.Assessment.Figures
import MinEntropy.Report.Basic

/-! What a report says of an assessment that succeeded. Bits that ran without an outcome go
unmentioned, and the figures agree with each other even then. -/

namespace MinEntropy

open Exchange

namespace Exchange

variable {view : Representation} {x : Exchange} {xs : List Exchange}

theorem view_of_mem_recorded {o : RecordedOutcome} (ho : o ∈ x.recorded) :
    o.view = x.call.view := by
  obtain ⟨call, reply⟩ := x
  cases reply with
  | outcomes list =>
    obtain ⟨_, -, rfl⟩ := List.mem_map.1 ho
    rfl
  | failure e => cases ho
  | breakdown text => cases ho

theorem recorded_ne_nil_iff :
    x.recorded ≠ [] ↔ ∃ o rest, x.reply = .outcomes (o :: rest) := by
  obtain ⟨call, reply⟩ := x
  cases reply with
  | outcomes list => cases list <;> simp [recorded]
  | failure e => simp [recorded]
  | breakdown text => simp [recorded]

theorem figures_eq_nil_of_recorded (hnone : x.recorded = []) : x.reply.figures = [] := by
  obtain ⟨call, reply⟩ := x
  cases reply with
  | outcomes list =>
    obtain rfl : list = [] := List.map_eq_nil_iff.1 hnone
    rfl
  | failure e => rfl
  | breakdown text => rfl

theorem figures_eq_nil_of_silent (hsilent : ∀ x ∈ xs, x.call.view = view → x.recorded = []) :
    figures view xs = [] := by
  refine List.eq_nil_iff_forall_not_mem.2 fun h hh => ?_
  obtain ⟨x, hx, hview, hmem⟩ := mem_figures.1 hh
  rw [figures_eq_nil_of_recorded (hsilent x hx hview)] at hmem
  cases hmem

/-- An outcome on a representation is recorded exactly when a reply to one of its calls has any. -/
theorem any_view_iff :
    (xs.flatMap recorded).any (·.view = view) = true ↔
      ∃ x ∈ xs, x.call.view = view ∧ x.recorded ≠ [] := by
  rw [List.any_eq_true]
  constructor
  · rintro ⟨o, ho, hview⟩
    obtain ⟨x, hx, ho⟩ := List.mem_flatMap.1 ho
    refine ⟨x, hx, ?_, List.ne_nil_of_mem ho⟩
    rw [← view_of_mem_recorded ho]
    exact of_decide_eq_true hview
  · rintro ⟨x, hx, hview, hsome⟩
    obtain ⟨o, ho⟩ := List.exists_mem_of_ne_nil _ hsome
    exact ⟨o, List.mem_flatMap.2 ⟨x, hx, ho⟩, by simp [view_of_mem_recorded ho, hview]⟩

end Exchange

namespace Prepared

variable (p : Prepared) {mode : Mode} {xs : List Exchange}

theorem conclude_hOriginal :
    (p.conclude mode xs).hOriginal =
      Figure.least p.wordSize.ceiling (figures .literal (track mode xs)) := by
  rw [conclude_eq]
  rfl

/-- Bits without estimates stay at one bit per bit, which caps nothing that the word size does not
cap already. -/
theorem hAssessed_eq_hOriginal (hnone : figures .bitstring (track mode xs) = []) :
    (p.conclude mode xs).hAssessed = (p.conclude mode xs).hOriginal := by
  rw [conclude_hAssessed, conclude_hOriginal, conclude_hBitstring, hnone, Figure.least_nil,
    p.wordSize.one_mul_ceiling, Figure.lesser_self, ite_self,
    Figure.lesser_least p.wordSize.isNaN_ceiling]

/-- The word size itself needs no mention: the literal figure is no greater. -/
theorem isLeast_hAssessed (hruns : (p.dispatch mode).bitstring = true) :
    Figure.IsLeast (p.conclude mode xs).hAssessed
      [(p.conclude mode xs).hOriginal, (p.conclude mode xs).hBitstring * p.wordSize.ceiling] := by
  have hceiling := Figure.isLeast_singleton p.wordSize.isNaN_ceiling
  have hbits := Figure.isLeast_singleton <| Figure.isNaN_right <|
    p.wordSize.zero_le_mul_ceiling (isValid_of_isLeast (p.isLeast_conclude_hBitstring mode xs))
  have horiginal := Figure.least_eq_or_lt p.wordSize.isNaN_ceiling
    (figures .literal (track mode xs))
  rw [← conclude_hOriginal] at horiginal
  have hnumber : (p.conclude mode xs).hOriginal.isNaN = false := by
    rw [conclude_hOriginal]
    exact (Figure.isLeast_least_of_isValid p.wordSize.isNaN_ceiling
      fun _ => isValid_of_mem_figures).isNaN_eq_false
  have hleast := (hceiling.lesser hbits).lesser (Figure.isLeast_singleton hnumber)
  rw [conclude_hAssessed, if_pos hruns, ← conclude_hOriginal]
  refine ⟨?_, fun h hh => hleast.le h ?_⟩
  · have hmem := hleast.mem
    simp only [List.cons_append, List.nil_append, List.mem_cons, List.not_mem_nil, or_false]
      at hmem ⊢
    rcases hmem with hmem | hmem | hmem
    · exact .inl hmem
    · exact .inr hmem
    · rcases horiginal with heq | hlt
      · exact .inl (hmem.trans heq.symm)
      · -- The literal figure is below the word size, so the word size was not the least.
        have hle := hleast.le _ List.mem_cons_self
        rw [hmem] at hle
        exact absurd hlt (Figure.not_lt_of_le hle)
  · simp only [List.cons_append, List.nil_append, List.mem_cons, List.not_mem_nil, or_false]
      at hh ⊢
    tauto

end Prepared

namespace Report

/-- A report that agrees with itself: the figure of the track is what the literal figure and, where
it is shown, the figure of the bits amount to. -/
structure IsConsistent (report : Report) : Prop where
  isSuccess : report.isSuccess = true
  minEntropy : report.minEntropy = report.hAssessed
  explained : ∃ bits h, report.wordSize = some bits ∧ report.hOriginal = some h ∧
    (∀ k, report.hBitstring = some k →
      Figure.IsLeast report.hAssessed [h, k * Float.ofNat bits]) ∧
    (report.hBitstring = none → report.hAssessed = h)

variable (report : Report) {result : AssessmentResult} {m : ModeResult}

theorem withResult_of_modes {rest : List ModeResult} (hmodes : result.modes = m :: rest) :
    report.withResult result =
      { report with minEntropy := result.minEntropy, wordSize := some result.wordSize }.withMode
        m := by
  unfold withResult
  rw [hmodes]

theorem isSuccess_withResult (result : AssessmentResult) :
    (report.withResult result).isSuccess = report.isSuccess := by
  unfold withResult
  cases result.modes <;> rfl

end Report

namespace Request

variable {r : Request} {p : Prepared} {mode : Mode} {xs : List Exchange}

theorem exists_modes (hone : r.runIid ≠ r.runNonIid) : ∃ mode, r.modes = [mode] := by
  obtain ⟨data, wordSize, _ | _, _ | _⟩ := r
  case false.false => exact absurd rfl hone
  case false.true => exact ⟨.nonIid, rfl⟩
  case true.false => exact ⟨.iid, rfl⟩
  case true.true => exact absurd rfl hone

theorem track_of_modes (hmodes : r.modes = [mode]) (hcalls : ∀ x ∈ xs, x.call ∈ r.calls p) :
    track mode xs = xs := by
  refine List.filter_eq_self.2 fun x hx => ?_
  have hmode := (mem_calls (hcalls x hx)).1
  rw [hmodes] at hmode
  simpa using hmode

/-- The report on the only track that ran. -/
theorem report_conclude (report : Report) (hmodes : r.modes = [mode]) :
    report.withResult (r.conclude p xs) =
      { report with
        minEntropy := (r.conclude p xs).minEntropy
        wordSize := some (r.conclude p xs).wordSize }.withMode (p.conclude mode xs) :=
  report.withResult_of_modes ((r.modes_conclude p xs).trans (by rw [hmodes]; rfl))

theorem hBitstring_report_conclude (report : Report) (hmodes : r.modes = [mode])
    (hcalls : ∀ x ∈ xs, x.call ∈ r.calls p) :
    (report.withResult (r.conclude p xs)).hBitstring =
      if (xs.flatMap recorded).any (·.view = .bitstring) then
        some (p.conclude mode xs).hBitstring
      else none := by
  rw [report_conclude report hmodes, Report.withMode, p.conclude_outcomes,
    track_of_modes hmodes hcalls]

theorem minEntropy_conclude (haccounts : (r.conclude p xs).Accounts r xs)
    (hmodes : r.modes = [mode]) :
    (r.conclude p xs).minEntropy = (p.conclude mode xs).hAssessed := by
  have hmem := haccounts.minEntropy.mem
  rw [r.modes_conclude, hmodes] at hmem
  exact List.mem_singleton.1 hmem

/-- A report on one track is consistent, whether or not its bits ran and gave outcomes. -/
theorem isConsistent_conclude {report : Report} (hnew : report.isSuccess = true)
    (haccounts : (r.conclude p xs).Accounts r xs) (hmodes : r.modes = [mode])
    (hcalls : ∀ x ∈ xs, x.call ∈ r.calls p) :
    (report.withResult (r.conclude p xs)).IsConsistent := by
  have hwordSize : (r.conclude p xs).wordSize = p.wordSize.bits :=
    wordSize_conclude (by simp [hmodes])
  have hbitstring := hBitstring_report_conclude report hmodes hcalls
  have hreport := @report_conclude r p mode xs report hmodes
  refine ⟨by rw [Report.isSuccess_withResult, hnew], ?_,
    p.wordSize.bits, (p.conclude mode xs).hOriginal, ?_, ?_, fun k hk => ?_, fun hnone => ?_⟩
  · rw [hreport]
    exact minEntropy_conclude haccounts hmodes
  · rw [hreport, ← hwordSize]
    rfl
  · rw [hreport]
    rfl
  · -- An outcome on bits comes from a call for bits, so the bits were dispatched.
    rw [hbitstring] at hk
    obtain ⟨hany, hk⟩ := Option.ite_none_right_eq_some.1 hk
    obtain ⟨x, hx, hview, -⟩ := any_view_iff.1 hany
    obtain ⟨hmode, hcall⟩ := mem_calls (hcalls x hx)
    rw [hmodes, List.mem_singleton] at hmode
    rw [hmode] at hcall
    rw [hreport, ← Option.some.inj hk]
    exact p.isLeast_hAssessed (p.bitstring_of_mem_calls hcall hview)
  · rw [hbitstring] at hnone
    rw [hreport]
    refine p.hAssessed_eq_hOriginal (figures_eq_nil_of_silent fun x hx hview => ?_)
    rw [track_of_modes hmodes hcalls] at hx
    by_contra hsome
    rw [if_pos (any_view_iff.2 ⟨x, hx, hview, hsome⟩)] at hnone
    cases hnone

theorem minEntropy_le_hAssessed (report : Report) (haccounts : (r.conclude p xs).Accounts r xs)
    (hmodes : r.modes ≠ []) :
    (report.withResult (r.conclude p xs)).minEntropy ≤
      (report.withResult (r.conclude p xs)).hAssessed := by
  obtain ⟨m, rest, hm⟩ := List.exists_cons_of_ne_nil (@modes_conclude_ne_nil r p xs hmodes)
  have hle := haccounts.minEntropy.le m.hAssessed
  rw [report.withResult_of_modes hm]
  exact hle (by simp [hm])

/-- Bits run for the second track over three letters or more. -/
theorem bitstring_mem_plan_iff :
    (∃ call ∈ r.plan p, call.view = .bitstring) ↔ r.runNonIid = true ∧ 2 < p.alphabetSize := by
  obtain ⟨data, wordSize, runIid, runNonIid⟩ := r
  cases runIid <;> cases runNonIid <;> by_cases hmany : 2 < p.alphabetSize <;>
    simp [plan, hmany]

end Request

namespace Coordinator

variable {c : Coordinator σ τ} {r : Request} {took : Duration} {st : σ × τ}
variable {result : AssessmentResult}

/-- A successful assessment makes every planned call. -/
theorem map_call_of_assess {p : Prepared} (hok : (c.assess r took st).1 = .ok (.ok result))
    (hp : Samples.prepare r.data r.wordSize = .ok p) :
    (c.transcript r took st).map (·.call) = r.plan p := by
  obtain ⟨p', hp', -, hxs, hrun⟩ := run_of_assess hok
  obtain rfl : p = p' := Except.ok.inj (hp.symm.trans hp')
  rw [hxs] at hrun ⊢
  rcases c.suite.converse_cases (r.calls p) st.1 with
    ⟨hcalls, -⟩ | ⟨done, x, e, rest, hfailed, hdone, hx, -⟩
  · rw [hcalls, r.calls_eq_plan]
  · rw [hfailed, settle_of_failure hdone hx] at hrun
    cases hrun

/-- Whatever the suite replied, the report on one track can be checked by itself, and the report on
both shows a figure of the first that is not below the result. -/
theorem report_consistent (hok : (c.assess r took st).1 = .ok (.ok result)) (filename : String)
    (mode : Mode) (bits : Nat) (data : List UInt8) (assessedAt : String) :
    let report := (Report.new filename mode bits data assessedAt).withResult result
    (r.runIid ≠ r.runNonIid →
      report.IsConsistent ∧
      report.wordSize =
        some (if r.wordSize = 0 then (WordSize.detect r.data).bits else r.wordSize) ∧
      report.estimators = (c.transcript r took st).flatMap recorded) ∧
    (r.runIid = true → r.runNonIid = true → report.minEntropy ≤ report.hAssessed) := by
  obtain ⟨w, p, hw, hp, hmodes, hcalls, rfl⟩ := conclude_of_assess hok
  have haccounts := Request.accounts_conclude hw hp hmodes hcalls
  refine ⟨fun hone => ?_, fun _ _ => Request.minEntropy_le_hAssessed _ haccounts hmodes⟩
  obtain ⟨only, honly⟩ := Request.exists_modes hone
  refine ⟨Request.isConsistent_conclude rfl haccounts honly hcalls, ?_, ?_⟩
  · rw [Request.report_conclude _ honly, ← haccounts.wordSize]
    rfl
  · rw [Request.report_conclude _ honly, Report.withMode, p.conclude_outcomes,
      Request.track_of_modes honly hcalls]

set_option maxRecDepth 2000 in
/-- Bits that ran without an outcome: the report does not show their figure, which the literal one
makes up for. -/
theorem report_consistent_silent_bits :
    let c : Coordinator (List Reply) Unit := ⟨.replaying "trial", .silent⟩
    let r : Request := ⟨[0, 1, 2], 0, false, true⟩
    let replies : List Reply := [.outcomes [], .outcomes [⟨"literal", some 1.5, true⟩]]
    ∃ result, (c.assess r ⟨0, 0⟩ (replies, ())).1 = .ok (.ok result) ∧
      let report := (Report.new "samples.bin" .nonIid 0 r.data "").withResult result
      report.IsConsistent ∧ report.hBitstring = none ∧ report.minEntropy = 1.5 := by
  refine ⟨_, rfl, ?_, by decide +kernel⟩
  have hreport := @report_consistent _ _ ⟨.replaying "trial", .silent⟩
    ⟨[0, 1, 2], 0, false, true⟩ ⟨0, 0⟩
    ([.outcomes [], .outcomes [⟨"literal", some 1.5, true⟩]], ()) _ rfl "samples.bin" .nonIid 0
    [0, 1, 2] ""
  exact (hreport.1 Bool.false_ne_true).1

/-- The figure of the bits is shown when a call for bits was answered with an outcome. Calls for
bits are made on the second track over three letters or more, whatever the answer. -/
theorem report_bitstring (hok : (c.assess r took st).1 = .ok (.ok result))
    (hone : r.runIid ≠ r.runNonIid) (filename : String) (mode : Mode) (bits : Nat)
    (data : List UInt8) (assessedAt : String) :
    let report := (Report.new filename mode bits data assessedAt).withResult result
    (report.hBitstring.isSome = true ↔ ∃ x ∈ c.transcript r took st,
      x.call.view = .bitstring ∧ ∃ o rest, x.reply = .outcomes (o :: rest)) ∧
    ∃ w, Samples.resolve r.data r.wordSize = some w ∧
      ((∃ x ∈ c.transcript r took st, x.call.view = .bitstring) ↔
        r.runNonIid = true ∧ 2 < (Samples.letters w r.data).card) := by
  obtain ⟨only, honly⟩ := Request.exists_modes hone
  obtain ⟨p, hp, -, -, hrun⟩ := run_of_assess hok
  have hplan := map_call_of_assess hok hp
  have hcalls : ∀ x ∈ c.transcript r took st, x.call ∈ r.calls p := by
    intro x hx
    rw [r.calls_eq_plan, ← hplan]
    exact List.mem_map_of_mem hx
  obtain ⟨-, w, hw, hpw⟩ := Samples.prepare_eq_ok_iff.1 hp
  obtain rfl : r.conclude p (c.transcript r took st) = result := settle_eq_ok hrun
  refine ⟨?_, w, hw, ?_⟩
  · rw [Request.hBitstring_report_conclude _ honly hcalls]
    simp only [← recorded_ne_nil_iff, ← any_view_iff]
    split <;> simp [*]
  · rw [← (Samples.compaction_of_prepareAt hpw).alphabetSize_eq,
      ← Request.bitstring_mem_plan_iff, ← hplan]
    simp

set_option maxRecDepth 2000 in
/-- A reply with outcomes on bits brings their figure into the report. -/
theorem report_bitstring_answered :
    let c : Coordinator (List Reply) Unit := ⟨.replaying "trial", .silent⟩
    let r : Request := ⟨[0, 1, 2], 0, false, true⟩
    let replies : List Reply :=
      [.outcomes [⟨"bits", some 0.375, true⟩], .outcomes [⟨"literal", some 1.5, true⟩]]
    ∃ result, (c.assess r ⟨0, 0⟩ (replies, ())).1 = .ok (.ok result) ∧
      let report := (Report.new "samples.bin" .nonIid 0 r.data "").withResult result
      report.hBitstring.isSome = true ∧
        ∃ x ∈ c.transcript r ⟨0, 0⟩ (replies, ()),
          x.call.view = .bitstring ∧ ∃ o rest, x.reply = .outcomes (o :: rest) :=
  ⟨_, rfl, by decide +kernel,
    (report_bitstring rfl Bool.false_ne_true "samples.bin" .nonIid 0 [0, 1, 2] "").1.1
      (by decide +kernel)⟩

set_option maxRecDepth 2000 in
/-- Bits run, and the report does not say so: the suite had no outcome for them. -/
theorem exists_silent_bitstring :
    let c : Coordinator (List Reply) Unit := ⟨.replaying "trial", .silent⟩
    let r : Request := ⟨[0, 1, 2], 0, false, true⟩
    let replies : List Reply := [.outcomes [], .outcomes [⟨"literal", some 1.5, true⟩]]
    ∃ result, (c.assess r ⟨0, 0⟩ (replies, ())).1 = .ok (.ok result) ∧
      (∃ x ∈ c.transcript r ⟨0, 0⟩ (replies, ()), x.call.view = .bitstring) ∧
      ((Report.new "samples.bin" .nonIid 0 r.data "").withResult result).hBitstring = none :=
  ⟨_, rfl, by decide +kernel, by decide +kernel⟩

end Coordinator

end MinEntropy

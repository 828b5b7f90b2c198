import MinEntropy.Proofs.Assessment.Calls
import MinEntropy.Proofs.Figure.Least
import MinEntropy.Proofs.Figure.Product

/-! What an assessment is worth: the least of the ceiling and of the valid estimates that the suite
returned, and never less than zero. -/

namespace MinEntropy

open Exchange

namespace WordSize

variable (w : WordSize)

theorem exists_ceiling : ∃ bits : Fin 9, w.ceiling = Float.ofNat bits.val :=
  ⟨⟨w.bits, Nat.lt_succ_of_le w.le_max⟩, rfl⟩

theorem isFinite_ceiling : w.ceiling.isFinite = true := by
  obtain ⟨bits, hbits⟩ := w.exists_ceiling
  rw [hbits]
  exact (by decide : ∀ bits : Fin 9, (Float.ofNat bits.val).isFinite = true) bits

theorem zero_le_ceiling : 0.0 ≤ w.ceiling := by
  obtain ⟨bits, hbits⟩ := w.exists_ceiling
  rw [hbits]
  exact (by decide : ∀ bits : Fin 9, 0.0 ≤ Float.ofNat bits.val) bits

theorem isNaN_ceiling : w.ceiling.isNaN = false := Figure.isNaN_right w.zero_le_ceiling

theorem one_mul_ceiling : 1.0 * w.ceiling = w.ceiling := by
  obtain ⟨bits, hbits⟩ := w.exists_ceiling
  rw [hbits]
  exact (by decide +kernel :
    ∀ bits : Fin 9, 1.0 * Float.ofNat bits.val = Float.ofNat bits.val) bits

theorem ceiling_le_one_mul : w.ceiling ≤ 1.0 * w.ceiling := by
  rw [one_mul_ceiling]
  exact Figure.le_refl w.isNaN_ceiling

theorem zero_le_mul_ceiling {h : Float} (hh : Figure.isValid h = true) : 0.0 ≤ h * w.ceiling := by
  obtain ⟨hfinite, hzero⟩ := Figure.isValid_iff.1 hh
  exact Figure.zero_le_mul hzero w.zero_le_ceiling hfinite w.isFinite_ceiling

end WordSize

namespace Exchange

variable {h : Float} {view : Representation} {xs : List Exchange}

theorem isValid_of_mem_figures (hh : h ∈ figures view xs) : Figure.isValid h = true := by
  obtain ⟨x, -, -, hmem⟩ := mem_figures.1 hh
  exact Reply.isValid_of_mem_figures hmem

theorem isValid_of_isLeast (hh : Figure.IsLeast h (1.0 :: figures view xs)) :
    Figure.isValid h = true := by
  rcases List.mem_cons.1 hh.mem with hone | hmem
  · rw [hone]
    decide
  · exact isValid_of_mem_figures hmem

end Exchange

/-- The figures of a track: the least valid estimate on bits, and the least of the ceiling, of what
the bits amount to, and of the valid literal estimates. -/
structure ModeResult.Reflects (m : ModeResult) (xs : List Exchange) : Prop where
  hBitstring : Figure.IsLeast m.hBitstring (1.0 :: figures .bitstring (track m.mode xs))
  hAssessed : Figure.IsLeast m.hAssessed
    (m.wordSize.ceiling :: m.hBitstring * m.wordSize.ceiling ::
      figures .literal (track m.mode xs))

namespace ModeResult.Reflects

variable {m : ModeResult} {xs : List Exchange}

theorem hAssessed_le (hm : m.Reflects xs) : m.hAssessed ≤ m.wordSize.ceiling :=
  hm.hAssessed.le _ List.mem_cons_self

theorem zero_le_hAssessed (hm : m.Reflects xs) : 0.0 ≤ m.hAssessed := by
  rcases List.mem_cons.1 hm.hAssessed.mem with hceiling | hmem
  · rw [hceiling]
    exact m.wordSize.zero_le_ceiling
  · rcases List.mem_cons.1 hmem with hbits | hliteral
    · rw [hbits]
      exact m.wordSize.zero_le_mul_ceiling (isValid_of_isLeast hm.hBitstring)
    · exact (Figure.isValid_iff.1 (isValid_of_mem_figures hliteral)).2

theorem isFinite_hAssessed (hm : m.Reflects xs) : m.hAssessed.isFinite = true :=
  Figure.isFinite_of_le hm.zero_le_hAssessed hm.hAssessed_le m.wordSize.isFinite_ceiling

end ModeResult.Reflects

namespace Prepared

variable (p : Prepared) {mode : Mode} {xs : List Exchange}

theorem bitstring_of_mem_calls {call : Call} (hcall : call ∈ p.calls mode)
    (hview : call.view = .bitstring) : (p.dispatch mode).bitstring = true := by
  obtain ⟨view, hmem, rfl⟩ := List.mem_map.1 hcall
  cases view with
  | literal => cases hview
  | bitstring =>
    refine Bool.eq_true_of_not_eq_false fun hskipped => ?_
    simp [Dispatch.views, hskipped] at hmem

theorem figures_bitstring_eq_nil
    (hcalls : ∀ x ∈ xs, x.call.mode = mode → x.call ∈ p.calls mode)
    (hskipped : (p.dispatch mode).bitstring = false) :
    figures .bitstring (track mode xs) = [] := by
  refine List.eq_nil_iff_forall_not_mem.2 fun h hh => ?_
  obtain ⟨x, hx, hview, -⟩ := mem_figures.1 hh
  obtain ⟨hmem, hmode⟩ := List.mem_filter.1 hx
  have hruns := p.bitstring_of_mem_calls (hcalls x hmem (of_decide_eq_true hmode)) hview
  rw [hskipped] at hruns
  cases hruns

theorem isLeast_conclude_hBitstring (mode : Mode) (xs : List Exchange) :
    Figure.IsLeast (p.conclude mode xs).hBitstring
      (1.0 :: figures .bitstring (track mode xs)) := by
  rw [p.conclude_hBitstring]
  exact Figure.isLeast_least_of_isValid (by decide) fun h => isValid_of_mem_figures

theorem isLeast_conclude_hAssessed
    (hcalls : ∀ x ∈ xs, x.call.mode = mode → x.call ∈ p.calls mode) :
    Figure.IsLeast (p.conclude mode xs).hAssessed
      (p.wordSize.ceiling :: (p.conclude mode xs).hBitstring * p.wordSize.ceiling ::
        figures .literal (track mode xs)) := by
  have hceiling := Figure.isLeast_singleton p.wordSize.isNaN_ceiling
  have hliteral := Figure.isLeast_least_of_isValid p.wordSize.isNaN_ceiling
    fun h (hh : h ∈ figures .literal (track mode xs)) => isValid_of_mem_figures hh
  rw [p.conclude_hAssessed]
  cases hdispatch : (p.dispatch mode).bitstring with
  | true =>
    have hvalid := isValid_of_isLeast (p.isLeast_conclude_hBitstring mode xs)
    have hbits := Figure.isNaN_right (p.wordSize.zero_le_mul_ceiling hvalid)
    have hleast := (hceiling.lesser (Figure.isLeast_singleton hbits)).lesser hliteral
    exact hleast.congr fun h => by grind
  | false =>
    -- Bits that were not asked about count as their ceiling, which leaves the word size as it is.
    have hone : (p.conclude mode xs).hBitstring = 1.0 := by
      rw [p.conclude_hBitstring, p.figures_bitstring_eq_nil hcalls hdispatch]
      rfl
    rw [hone]
    have hleast := hceiling.lesser hliteral
    exact (hleast.congr fun h => by grind).insert p.wordSize.ceiling_le_one_mul

theorem reflects_conclude (hcalls : ∀ x ∈ xs, x.call.mode = mode → x.call ∈ p.calls mode) :
    (p.conclude mode xs).Reflects xs := by
  refine ⟨?_, ?_⟩
  · rw [p.conclude_mode]
    exact p.isLeast_conclude_hBitstring mode xs
  · rw [p.conclude_mode, p.conclude_wordSize]
    exact p.isLeast_conclude_hAssessed hcalls

end Prepared

namespace AssessmentResult

theorem leastEntropy_eq {modes : List ModeResult} {xs : List Exchange} (hmodes : modes ≠ [])
    (hreflects : ∀ m ∈ modes, m.Reflects xs) :
    leastEntropy modes = Figure.least Figure.infinity (modes.map (·.minEntropy)) ∧
      Figure.IsLeast (leastEntropy modes) (modes.map (·.hAssessed)) := by
  have hvalid : ∀ h ∈ modes.map (·.minEntropy), Figure.isValid h = true := by
    intro h hh
    obtain ⟨m, hm, rfl⟩ := List.mem_map.1 hh
    exact Figure.isValid_iff.2
      ⟨(hreflects m hm).isFinite_hAssessed, (hreflects m hm).zero_le_hAssessed⟩
  have hleast := Figure.isLeast_least_of_isValid (by decide : Figure.infinity.isNaN = false) hvalid
  obtain ⟨m, hm⟩ := List.exists_mem_of_ne_nil modes hmodes
  have hle := hleast.le m.hAssessed (List.mem_cons_of_mem _ (List.mem_map_of_mem hm))
  -- Infinity is only the start: a finite figure lies below it.
  have hmem :
      Figure.least Figure.infinity (modes.map (·.minEntropy)) ∈ modes.map (·.minEntropy) := by
    refine (List.mem_cons.1 hleast.mem).resolve_left fun hinfinity => ?_
    rw [hinfinity] at hle
    have hfinite := Figure.isFinite_of_le (by decide) hle (hreflects m hm).isFinite_hAssessed
    exact absurd hfinite (by decide)
  have hstands : leastEntropy modes = Figure.least Figure.infinity (modes.map (·.minEntropy)) :=
    if_pos (Figure.isValid_iff.1 (hvalid _ hmem)).1
  refine ⟨hstands, ?_⟩
  rw [hstands]
  exact ⟨hmem, fun h hh => hleast.le h (List.mem_cons_of_mem _ hh)⟩

/-- How a result accounts for the request and for what the suite returned. -/
structure Accounts (result : AssessmentResult) (r : Request) (xs : List Exchange) : Prop where
  iid : result.iid.map (·.mode) = if r.runIid then some .iid else none
  nonIid : result.nonIid.map (·.mode) = if r.runNonIid then some .nonIid else none
  sampleCount : result.sampleCount = r.data.length
  wordSize : result.wordSize =
    if r.wordSize = 0 then (WordSize.detect r.data).bits else r.wordSize
  one_le_wordSize : 1 ≤ result.wordSize
  wordSize_le : result.wordSize ≤ maxWordSize
  sameSizes : ∃ w : WordSize, w.bits = result.wordSize ∧ ∀ m ∈ result.modes,
    m.wordSize = w ∧ m.alphabetSize = (Samples.letters w r.data).card
  reflects : ∀ m ∈ result.modes, m.Reflects xs
  minEntropy : Figure.IsLeast result.minEntropy (result.modes.map (·.hAssessed))
  /-- Zero is never taken in place of the least. -/
  stands : result.minEntropy = Figure.least Figure.infinity (result.modes.map (·.minEntropy))
  isFinite_minEntropy : result.minEntropy.isFinite = true
  zero_le_minEntropy : 0.0 ≤ result.minEntropy
  minEntropy_le : result.minEntropy ≤ Float.ofNat result.wordSize
  allPassed_iff : result.allPassed = true ↔ ∀ m ∈ result.modes, ∀ o ∈ m.outcomes, o.passed = true
  /-- The outcomes that count are those that the suite returned. -/
  allPassed_iff_returned : result.allPassed = true ↔
    ∀ x ∈ xs, ∀ list, x.reply = .outcomes list → ∀ o ∈ list, o.passed = true

end AssessmentResult

theorem Exchange.passed_recorded_iff (x : Exchange) :
    (∀ o ∈ x.recorded, o.passed = true) ↔
      ∀ list, x.reply = .outcomes list → ∀ o ∈ list, o.passed = true := by
  obtain ⟨call, reply⟩ := x
  cases reply with
  | outcomes list => simp [recorded, Outcome.normalise]
  | failure e => simp [recorded]
  | breakdown text => simp [recorded]

namespace Request

variable {r : Request} {p : Prepared} {w : WordSize} {xs : List Exchange}

theorem allPassed_conclude (hcalls : ∀ x ∈ xs, x.call.mode ∈ r.modes) :
    (r.conclude p xs).allPassed = true ↔ ∀ x ∈ xs, ∀ o ∈ x.recorded, o.passed = true := by
  rw [AssessmentResult.allPassed, r.modes_conclude, List.all_map, List.all_eq_true]
  constructor
  · intro hmodes x hx o ho
    have hmode := List.all_eq_true.1 (hmodes _ (hcalls x hx)) o
    rw [p.conclude_outcomes] at hmode
    exact hmode (List.mem_flatMap.2 ⟨x, List.mem_filter.2 ⟨hx, by simp⟩, ho⟩)
  · intro hpassed mode hmode
    refine List.all_eq_true.2 fun o ho => ?_
    rw [p.conclude_outcomes] at ho
    obtain ⟨x, hx, ho⟩ := List.mem_flatMap.1 ho
    exact hpassed x (List.mem_filter.1 hx).1 o ho

theorem map_mode_slot (mode : Mode) (selected : Bool) :
    (slot p mode selected xs).map (·.mode) = if selected then some mode else none := by
  cases selected with
  | false => rfl
  | true => exact congrArg some p.conclude_mode

theorem wordSize_conclude (hmodes : r.modes ≠ []) :
    (r.conclude p xs).wordSize = p.wordSize.bits := by
  obtain ⟨data, wordSize, _ | _, _ | _⟩ := r
  case false.false => exact absurd rfl hmodes
  all_goals exact congrArg WordSize.bits p.conclude_wordSize

theorem of_mem_modes_conclude {m : ModeResult} (hm : m ∈ (r.conclude p xs).modes) :
    m.wordSize = p.wordSize ∧ m.alphabetSize = p.alphabetSize := by
  rw [r.modes_conclude] at hm
  obtain ⟨mode, -, rfl⟩ := List.mem_map.1 hm
  exact ⟨p.conclude_wordSize, p.conclude_alphabetSize⟩

theorem reflects_of_mem_modes (hcalls : ∀ x ∈ xs, x.call ∈ r.calls p) {m : ModeResult}
    (hm : m ∈ (r.conclude p xs).modes) : m.Reflects xs := by
  rw [r.modes_conclude] at hm
  obtain ⟨mode, -, rfl⟩ := List.mem_map.1 hm
  exact p.reflects_conclude fun x hx hmode => hmode ▸ (mem_calls (hcalls x hx)).2

theorem modes_conclude_ne_nil (hmodes : r.modes ≠ []) : (r.conclude p xs).modes ≠ [] := by
  rw [r.modes_conclude]
  exact mt List.map_eq_nil_iff.1 hmodes

theorem accounts_conclude (hw : Samples.resolve r.data r.wordSize = some w)
    (hp : Samples.prepareAt w r.data = .ok p) (hmodes : r.modes ≠ [])
    (hcalls : ∀ x ∈ xs, x.call ∈ r.calls p) : (r.conclude p xs).Accounts r xs := by
  have hcompaction := Samples.compaction_of_prepareAt hp
  have hbits : (r.conclude p xs).wordSize = w.bits := by
    rw [wordSize_conclude hmodes, hcompaction.wordSize_eq]
  obtain ⟨hstands, hleast⟩ : _ ∧ Figure.IsLeast (r.conclude p xs).minEntropy _ :=
    AssessmentResult.leastEntropy_eq (modes_conclude_ne_nil hmodes)
      fun m => reflects_of_mem_modes hcalls
  obtain ⟨m, hm, hminimum⟩ := List.mem_map.1 hleast.mem
  have hreflects := reflects_of_mem_modes hcalls hm
  have hcap := hreflects.hAssessed_le
  rw [(of_mem_modes_conclude hm).1, hcompaction.wordSize_eq] at hcap
  have hpassed := @allPassed_conclude r p xs fun x hx => (mem_calls (hcalls x hx)).1
  exact {
    iid := map_mode_slot .iid r.runIid
    nonIid := map_mode_slot .nonIid r.runNonIid
    sampleCount := rfl
    wordSize := hbits.trans (Samples.bits_of_resolve hw)
    one_le_wordSize := hbits ▸ w.one_le
    wordSize_le := hbits ▸ w.le_max
    sameSizes := ⟨w, hbits.symm, fun m hm => by
      rw [← hcompaction.alphabetSize_eq, ← hcompaction.wordSize_eq]
      exact of_mem_modes_conclude hm⟩
    reflects := fun m => reflects_of_mem_modes hcalls
    minEntropy := hleast
    stands := hstands
    isFinite_minEntropy := hminimum ▸ hreflects.isFinite_hAssessed
    zero_le_minEntropy := hminimum ▸ hreflects.zero_le_hAssessed
    minEntropy_le := hbits ▸ hminimum ▸ hcap
    allPassed_iff := by
      simp [AssessmentResult.allPassed, ModeResult.allPassed]
    allPassed_iff_returned := hpassed.trans
      (forall₂_congr fun x _ => x.passed_recorded_iff) }

end Request

namespace Coordinator

variable {c : Coordinator σ τ} {r : Request} {took : Duration} {st : σ × τ}
variable {result : AssessmentResult}

/-- A result comes from prepared samples and a conversation that did not fail. -/
theorem run_of_assess (hok : (c.assess r took st).1 = .ok (.ok result)) :
    ∃ p, Samples.prepare r.data r.wordSize = .ok p ∧ r.modes ≠ [] ∧
      c.transcript r took st = (c.suite.converse (r.calls p) st.1).1 ∧
      settle (c.transcript r took st) (r.conclude p (c.transcript r took st)) = .ok result := by
  rcases c.assess_cases r with ⟨e, hr⟩ | ⟨selection, text, hr, hbreaks⟩ | ⟨selection, hr, hcalm⟩
  · rw [assess_of_rejected _ _ _ hr] at hok
    cases hok
  · rw [assess_of_breaking _ _ _ hr hbreaks] at hok
    cases hok
  · rw [assess_of_running _ _ _ hr hcalm] at hok
    have hrun := Except.ok.inj hok
    cases hp : Samples.prepare r.data r.wordSize with
    | error e =>
      rw [Suite.runRequest_of_unprepared _ hp] at hrun
      cases hrun
    | ok p =>
      rw [transcript_of_running _ _ _ hr hcalm, Suite.exchanges, hp]
      rw [Suite.runRequest_eq _ hp] at hrun
      exact ⟨p, rfl, Request.modes_ne_nil hr, rfl, hrun⟩

/-- A result concludes from exchanges over planned calls. -/
theorem conclude_of_assess (hok : (c.assess r took st).1 = .ok (.ok result)) :
    ∃ w p, Samples.resolve r.data r.wordSize = some w ∧ Samples.prepareAt w r.data = .ok p ∧
      r.modes ≠ [] ∧ (∀ x ∈ c.transcript r took st, x.call ∈ r.calls p) ∧
      result = r.conclude p (c.transcript r took st) := by
  obtain ⟨p, hp, hmodes, hxs, hrun⟩ := run_of_assess hok
  obtain ⟨-, w, hw, hpw⟩ := Samples.prepare_eq_ok_iff.1 hp
  refine ⟨w, p, hw, hpw, hmodes, fun x hx => ?_, (settle_eq_ok hrun).symm⟩
  rw [hxs] at hx
  exact c.suite.call_mem_of_mem_converse hx

/-- Whatever the suite replies, a result accounts for the request and for these replies. -/
theorem assess_accounts (hok : (c.assess r took st).1 = .ok (.ok result)) :
    result.Accounts r (c.transcript r took st) := by
  obtain ⟨w, p, hw, hp, hmodes, hcalls, rfl⟩ := conclude_of_assess hok
  exact Request.accounts_conclude hw hp hmodes hcalls

set_option maxRecDepth 2000 in
/-- Two bits a sample: the estimate on bits decides, the invalid ones do not count, and one outcome
did not pass. -/
theorem assess_accounts_three_letters :
    let c : Coordinator (List Reply) Unit := ⟨.replaying "trial", .silent⟩
    let r : Request := ⟨[0, 1, 2], 0, true, true⟩
    let replies : List Reply := [
      .outcomes [⟨"literal", some 1.5, true⟩],
      .outcomes [⟨"bits", some 0.375, true⟩, ⟨"test", none, true⟩],
      .outcomes [⟨"undefined", some (0.0 / 0.0), true⟩, ⟨"negative", some (-1.0), false⟩]]
    ∃ result, (c.assess r ⟨0, 0⟩ (replies, ())).1 = .ok (.ok result) ∧
      result.Accounts r (c.transcript r ⟨0, 0⟩ (replies, ())) ∧
      result.minEntropy = 0.375 * 2.0 ∧ result.allPassed = false :=
  ⟨_, rfl, assess_accounts rfl, rfl, rfl⟩

end Coordinator

end MinEntropy

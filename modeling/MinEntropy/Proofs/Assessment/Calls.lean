import MinEntropy.Proofs.Assessment.Run
import MinEntropy.Proofs.Samples.Bitstring

/-! The calls of an assessment. A request fixes them up to the first that fails, and that call takes
the blame. -/

namespace MinEntropy

open Exchange

/-- What a call carries: the symbols, which are the numbers below the alphabet size, or the bits of
all samples. -/
structure Prepared.Asks (p : Prepared) (samples : Nat) (call : Call) : Prop where
  literal : call.view = .literal →
    call.symbols = p.symbols ∧ call.alphabetSize = p.alphabetSize ∧
      ∀ n, (∃ s ∈ call.symbols, s.toNat = n) ↔ n < call.alphabetSize
  bitstring : call.view = .bitstring →
    call.symbols = p.bitstring ∧ call.alphabetSize = 2 ∧
      call.symbols.length = samples * p.wordSize.bits ∧ ∀ b ∈ call.symbols, b = 0 ∨ b = 1

namespace Request

/-- The calls of a request in their order. Bits are left out for two letters and on the first
track. -/
def plan (r : Request) (p : Prepared) : List Call :=
  (if r.runIid then [⟨.iid, .literal, p.symbols, p.alphabetSize⟩] else []) ++
  (if r.runNonIid ∧ 2 < p.alphabetSize then [⟨.nonIid, .bitstring, p.bitstring, 2⟩] else []) ++
  (if r.runNonIid then [⟨.nonIid, .literal, p.symbols, p.alphabetSize⟩] else [])

/-- The outcomes of a track, which is there when it was selected. -/
def outcomesOf (mode : Mode) (selected : Bool) (xs : List Exchange) :
    Option (List RecordedOutcome) :=
  if selected then some ((track mode xs).flatMap recorded) else none

/-- How the exchanges over prepared samples end. -/
inductive Ends (r : Request) (p : Prepared) :
    List Exchange → Except AssessmentError AssessmentResult → Prop
  | completed {xs : List Exchange} {result : AssessmentResult}
      (hcalls : xs.map (·.call) = r.plan p) (hclean : ∀ x ∈ xs, x.failure? = none)
      (hiid : result.iid.map (·.outcomes) = outcomesOf .iid r.runIid xs)
      (hnonIid : result.nonIid.map (·.outcomes) = outcomesOf .nonIid r.runNonIid xs) :
      Ends r p xs (.ok result)
  | stopped {done : List Exchange} {x : Exchange} {rest : List Call} {e : SuiteError}
      (hcalls : r.plan p = (done ++ [x]).map (·.call) ++ rest)
      (hdone : ∀ y ∈ done, y.failure? = none) (hfail : x.failure? = some e) :
      Ends r p (done ++ [x]) (.error (.failed x.call.mode (.suite e)))

variable {r : Request} {p : Prepared}

theorem Ends.ok_iff {xs : List Exchange} {answer : Except AssessmentError AssessmentResult}
    (hends : r.Ends p xs answer) :
    (∃ result, answer = .ok result) ↔
      xs.map (·.call) = r.plan p ∧ ∀ x ∈ xs, x.failure? = none := by
  cases hends with
  | completed hcalls hclean => exact iff_of_true ⟨_, rfl⟩ ⟨hcalls, hclean⟩
  | @stopped done x rest e hcalls hdone hfail =>
    refine iff_of_false (fun ⟨_, hok⟩ => nomatch hok) fun ⟨_, hclean⟩ => ?_
    have hx := hclean x (List.mem_append_right _ List.mem_cons_self)
    rw [hx] at hfail
    cases hfail

theorem calls_eq_plan (r : Request) (p : Prepared) : r.calls p = r.plan p := by
  obtain ⟨data, wordSize, _ | _, _ | _⟩ := r <;>
    by_cases hmany : 2 < p.alphabetSize <;>
      simp [calls, callsOf, plan, Prepared.calls, Prepared.dispatch, Dispatch.decide,
        Dispatch.views, Prepared.call, initialEntropy, hmany]

theorem map_outcomes_slot (mode : Mode) (selected : Bool) (xs : List Exchange) :
    (slot p mode selected xs).map (·.outcomes) = outcomesOf mode selected xs := by
  cases selected with
  | false => rfl
  | true =>
    rw [slot, if_pos rfl, Option.map_some, p.conclude_outcomes]
    rfl

end Request

theorem Prepared.asks_of_mem_plan {r : Request} {w : WordSize} {p : Prepared} {call : Call}
    (hp : Samples.prepareAt w r.data = .ok p) (hcall : call ∈ r.plan p) :
    p.Asks r.data.length call := by
  have hcompaction := Samples.compaction_of_prepareAt hp
  have hlength := Samples.length_bitstring hp
  rw [← hcompaction.wordSize_eq] at hlength
  have hliteral (mode : Mode) : p.Asks r.data.length ⟨mode, .literal, p.symbols, p.alphabetSize⟩ :=
    ⟨fun _ => ⟨rfl, rfl, hcompaction.used_iff⟩, fun hview => (nomatch hview)⟩
  have hbits : p.Asks r.data.length ⟨.nonIid, .bitstring, p.bitstring, 2⟩ :=
    ⟨fun hview => (nomatch hview), fun _ => ⟨rfl, rfl, hlength, fun _ => Samples.mem_bitstring hp⟩⟩
  simp only [Request.plan, List.mem_append, List.mem_ite_nil_right, List.mem_singleton] at hcall
  rcases hcall with (⟨-, rfl⟩ | ⟨-, rfl⟩) | ⟨-, rfl⟩
  · exact hliteral .iid
  · exact hbits
  · exact hliteral .nonIid

namespace Suite

variable (s : Suite σ) {r : Request} {p : Prepared}

theorem ends_of_runRequest (hp : Samples.prepare r.data r.wordSize = .ok p) (st : σ) :
    r.Ends p (s.exchanges r st) (s.runRequest r st).1 := by
  rw [exchanges, hp, s.runRequest_eq hp]
  dsimp only
  rcases s.converse_cases (r.calls p) st with
    ⟨hcalls, hclean⟩ | ⟨done, x, e, rest, hxs, hdone, hx, hcalls⟩
  · rw [settle_of_clean hclean]
    rw [r.calls_eq_plan] at hcalls hclean ⊢
    exact .completed hcalls hclean (Request.map_outcomes_slot ..) (Request.map_outcomes_slot ..)
  · rw [hxs, settle_of_failure hdone hx]
    exact .stopped (r.calls_eq_plan p ▸ hcalls) hdone hx

theorem mem_plan_of_mem_exchanges (hp : Samples.prepare r.data r.wordSize = .ok p) {st : σ}
    {x : Exchange} (hx : x ∈ s.exchanges r st) : x.call ∈ r.plan p := by
  rw [exchanges, hp] at hx
  rw [← r.calls_eq_plan]
  exact s.call_mem_of_mem_converse hx

end Suite

namespace Coordinator

/-- Nothing is asked for a request that is refused or whose samples cannot be prepared. Otherwise
the planned calls are made up to the first that fails. The transcript is that of this very run. -/
theorem assess_calls (c : Coordinator σ τ) (r : Request) (took : Duration) (st : σ × τ) :
    c.transcribed.assess r took ((st.1, []), st.2) =
      ((c.assess r took st).1, ((c.assess r took st).2.1, c.transcript r took st),
        (c.assess r took st).2.2) ∧
    (∀ e, r.validate = .error e →
      c.transcript r took st = [] ∧ (c.assess r took st).1 = .ok (.error (.rejected e))) ∧
    (∀ selection text, r.validate = .ok selection → c.observer.breaksAtStart = some text →
      c.transcript r took st = [] ∧ (c.assess r took st).1 = .error text) ∧
    (∀ selection, r.validate = .ok selection → c.observer.breaksAtStart = none →
      (∀ e, Samples.prepare r.data r.wordSize = .error e →
        c.transcript r took st = [] ∧
          (c.assess r took st).1 = .ok (.error (.failed r.firstMode (.preparation e)))) ∧
      (∀ p, Samples.prepare r.data r.wordSize = .ok p →
        (∀ x ∈ c.transcript r took st, p.Asks r.data.length x.call) ∧
        ∃ answer, (c.assess r took st).1 = .ok answer ∧
          r.Ends p (c.transcript r took st) answer ∧
          ((∃ result, answer = .ok result) ↔
            (c.transcript r took st).map (·.call) = r.plan p ∧
              ∀ x ∈ c.transcript r took st, x.failure? = none))) := by
  refine ⟨c.assess_transcribed took st r [], fun e hr => ?_, fun selection text hr hbreaks => ?_,
    fun selection hr hcalm => ?_⟩
  · rw [transcript_of_rejected _ _ _ hr, assess_of_rejected _ _ _ hr]
    exact ⟨rfl, rfl⟩
  · rw [transcript_of_breaking _ _ _ hr hbreaks, assess_of_breaking _ _ _ hr hbreaks]
    exact ⟨rfl, rfl⟩
  · rw [transcript_of_running _ _ _ hr hcalm, assess_of_running _ _ _ hr hcalm]
    refine ⟨fun e he => ?_, fun p hp => ⟨fun x hx => ?_, ?_⟩⟩
    · rw [Suite.exchanges, he, Suite.runRequest_of_unprepared _ he]
      exact ⟨rfl, rfl⟩
    · obtain ⟨-, w, -, hpw⟩ := Samples.prepare_eq_ok_iff.1 hp
      exact p.asks_of_mem_plan hpw (c.suite.mem_plan_of_mem_exchanges hp hx)
    · have hends := c.suite.ends_of_runRequest hp st.1
      exact ⟨_, rfl, hends, hends.ok_iff⟩

set_option maxRecDepth 2000 in
/-- The second of three calls breaks down: the third is not made. -/
theorem assess_calls_breakdown :
    let c : Coordinator (List Reply) Unit := ⟨.replaying "trial", .silent⟩
    let r : Request := ⟨[0, 1, 2], 0, true, true⟩
    let st : List Reply × Unit :=
      ([.outcomes [⟨"literal", some 1.5, true⟩], .breakdown (some "worn out")], ())
    ∃ p answer, Samples.prepare r.data r.wordSize = .ok p ∧ (r.plan p).length = 3 ∧
      r.Ends p (c.transcript r ⟨0, 0⟩ st) answer ∧
      (c.transcript r ⟨0, 0⟩ st).map (·.call) = (r.plan p).take 2 ∧
      (c.assess r ⟨0, 0⟩ st).1 = .ok answer ∧
      answer = .error (.failed .nonIid (.suite (.exception (-2) "worn out"))) := by
  intro c r st
  have hp : Samples.prepare r.data r.wordSize =
      .ok ⟨[0, 1, 2], some [0, 0, 0, 1, 1, 0], 3, ⟨2, by decide, by decide⟩⟩ := by
    decide +kernel
  obtain ⟨-, answer, hanswer, hends, -⟩ :=
    (c.assess_calls r ⟨0, 0⟩ st).2.2.2 .mixed rfl rfl |>.2 _ hp
  refine ⟨_, answer, hp, rfl, hends, ?_, hanswer, ?_⟩
  · rw [transcript_of_running c _ _ (rfl : r.validate = .ok .mixed) rfl, Suite.exchanges, hp]
    rfl
  · rw [assess_of_running c _ _ (rfl : r.validate = .ok .mixed) rfl, Suite.runRequest_eq _ hp]
      at hanswer
    exact (Except.ok.inj hanswer).symm

end Coordinator

end MinEntropy

import MinEntropy.Estimator.Mock
import MinEntropy.Proofs.Assessment.Session

/-! What the steps of a session show: answers, and exchanges with the suite. Only the suite carries
anything from one step to the next, and nothing comes back from an observer. -/

namespace MinEntropy

/-- The step apart from how long it takes. -/
def Step.untimed : Step → Step
  | assess r _ => assess r ⟨0, 0⟩
  | step => step

/-! ### Exchanges and what they leave -/

namespace Suite

/-- The exchanges of a single track: none where the samples cannot be prepared. -/
def trackExchanges (s : Suite σ) (data : List UInt8) (wordSize : Nat) (mode : Mode) (st : σ) :
    List Exchange :=
  match Samples.prepare data wordSize with
  | .error _ => []
  | .ok p => (s.converse (p.calls mode) st).1

/-- What a step shows of the suite alone. A text is that of an observer that breaks down when an
assessment starts. -/
def exhibit (s : Suite σ) (breaks : Option String) : Step → σ → Answer × List Exchange
  | .assess r _, st =>
    match r.validate, breaks with
    | .error e, _ => (.error (.rejected e), [])
    | .ok _, some text => (.breakdown text, [])
    | .ok _, none => (.ofResult (.ok (s.runRequest r st).1), s.exchanges r st)
  | .assessMode data wordSize mode, st =>
    (.ofModeResult (s.assessMode data wordSize mode st).1, s.trackExchanges data wordSize mode st)
  | .reject e, _ => (.error (.rejected e), [])

/-- The state in which exchanges leave the suite. -/
def leave (s : Suite σ) (xs : List Exchange) (st : σ) : σ :=
  xs.foldl (fun st x => (s.answer x.call st).2) st

section Leave

variable (s : Suite σ)

theorem leave_append (xs ys : List Exchange) (st : σ) :
    s.leave (xs ++ ys) st = s.leave ys (s.leave xs st) :=
  List.foldl_append

theorem state_converse (calls : List Call) (st : σ) :
    (s.converse calls st).2 = s.leave (s.converse calls st).1 st := by
  induction calls generalizing st with
  | nil => rfl
  | cons call rest ih =>
    cases hfail : Exchange.failure? ⟨call, (s.answer call st).1⟩ with
    | some e =>
      rw [converse_of_failure s rest hfail]
      rfl
    | none =>
      rw [converse_of_success s rest hfail]
      exact ih (s.answer call st).2

theorem state_runRequest (r : Request) (st : σ) :
    (s.runRequest r st).2 = s.leave (s.exchanges r st) st := by
  cases hp : Samples.prepare r.data r.wordSize with
  | error e =>
    rw [runRequest_of_unprepared s hp, exchanges, hp]
    rfl
  | ok p => rw [Suite.runRequest_eq s hp, exchanges, hp, state_converse]

variable (data : List UInt8) (wordSize : Nat) (mode : Mode)

theorem state_assessMode (st : σ) :
    (s.assessMode data wordSize mode st).2 =
      s.leave (s.trackExchanges data wordSize mode st) st := by
  unfold assessMode trackExchanges
  cases Samples.prepare data wordSize with
  | error e => rfl
  | ok p => simp only [runMode_eq, state_converse]

theorem assessMode_transcribed (st : σ) (log : List Exchange) :
    s.transcribed.assessMode data wordSize mode (st, log) =
      ((s.assessMode data wordSize mode st).1, (s.assessMode data wordSize mode st).2,
        log ++ s.trackExchanges data wordSize mode st) := by
  unfold assessMode trackExchanges
  cases Samples.prepare data wordSize with
  | error e => simp
  | ok p => simp only [runMode_eq, converse_transcribed]

end Leave

/-- From these states the suites reply alike to any calls. -/
def ConversesAs (s : Suite σ) (st : σ) (s' : Suite ρ) (st' : ρ) : Prop :=
  ∀ calls, (s.converse calls st).1 = (s'.converse calls st').1

namespace ConversesAs

variable {s : Suite σ} {s' : Suite ρ} {st : σ} {st' : ρ}

theorem runRequest_fst (halike : s.ConversesAs st s' st') (r : Request) :
    (s.runRequest r st).1 = (s'.runRequest r st').1 := by
  cases hp : Samples.prepare r.data r.wordSize with
  | error e => rw [runRequest_of_unprepared s hp, runRequest_of_unprepared s' hp]
  | ok p => rw [Suite.runRequest_eq s hp, Suite.runRequest_eq s' hp, halike]

theorem exchanges_eq (halike : s.ConversesAs st s' st') (r : Request) :
    s.exchanges r st = s'.exchanges r st' := by
  unfold exchanges
  cases Samples.prepare r.data r.wordSize with
  | error e => rfl
  | ok p => exact halike _

variable (data : List UInt8) (wordSize : Nat) (mode : Mode)

theorem assessMode_fst (halike : s.ConversesAs st s' st') :
    (s.assessMode data wordSize mode st).1 = (s'.assessMode data wordSize mode st').1 := by
  unfold assessMode
  cases Samples.prepare data wordSize with
  | error e => rfl
  | ok p =>
    dsimp only
    rw [runMode_eq, runMode_eq, halike]

theorem trackExchanges_eq (halike : s.ConversesAs st s' st') :
    s.trackExchanges data wordSize mode st = s'.trackExchanges data wordSize mode st' := by
  unfold trackExchanges
  cases Samples.prepare data wordSize with
  | error e => rfl
  | ok p => exact halike _

theorem exhibit_eq (halike : s.ConversesAs st s' st') (breaks : Option String) (step : Step) :
    s.exhibit breaks step st = s'.exhibit breaks step st' := by
  cases step with
  | assess r took => simp only [exhibit, halike.runRequest_fst, halike.exchanges_eq]
  | assessMode data wordSize mode =>
    simp only [exhibit, halike.assessMode_fst, halike.trackExchanges_eq]
  | reject e => rfl

end ConversesAs

def IsStateless (s : Suite σ) : Prop := ∀ call st st', (s.answer call st).1 = (s.answer call st').1

theorem IsStateless.conversesAs {s : Suite σ} (hstateless : s.IsStateless) (st st' : σ) :
    s.ConversesAs st s st' := by
  intro calls
  induction calls generalizing st st' with
  | nil => rfl
  | cons call rest ih =>
    have hreply := hstateless call st st'
    cases hfail : Exchange.failure? ⟨call, (s.answer call st).1⟩ with
    | some e =>
      rw [converse_of_failure s rest hfail, converse_of_failure s rest (hreply ▸ hfail), hreply]
    | none =>
      rw [converse_of_success s rest hfail, converse_of_success s rest (hreply ▸ hfail), hreply,
        ih (s.answer call st).2 (s.answer call st').2]

end Suite

namespace Mock

theorem isStateless_suite (b : Behaviour) : (suite b).IsStateless := fun _ _ _ => rfl

/-- The stand-in keeps a record of every exchange. -/
theorem leave_suite (b : Behaviour) (xs : List Exchange) (seen : List Record) :
    (suite b).leave xs seen = seen ++ xs.map fun x => .ofCall x.call := by
  induction xs generalizing seen with
  | nil => exact (List.append_nil seen).symm
  | cons x rest ih => exact (ih _).trans (List.append_assoc ..)

end Mock

/-! ### Steps and sessions -/

namespace Coordinator

/-- What a step shows: its answer, and its exchanges with the suite. -/
def exhibit (c : Coordinator σ τ) (step : Step) (st : σ × τ) : Answer × List Exchange :=
  let (answer, st') := c.transcribed.step step ((st.1, []), st.2)
  (answer, st'.1.2)

def shown (c : Coordinator σ τ) : List Step → σ × τ → List (Answer × List Exchange)
  | [], _ => []
  | step :: rest, st => c.exhibit step st :: c.shown rest (c.step step st).2

section Exhibit

variable (c : Coordinator σ τ) (st : σ × τ)

theorem exhibit_assess (r : Request) (took : Duration) :
    c.exhibit (.assess r took) st =
      (.ofResult (c.assess r took st).1, c.transcript r took st) := by
  simp only [exhibit, step, assess_transcribed, List.nil_append]

theorem exhibit_assessMode (data : List UInt8) (wordSize : Nat) (mode : Mode) :
    c.exhibit (.assessMode data wordSize mode) st =
      (.ofModeResult (c.suite.assessMode data wordSize mode st.1).1,
        c.suite.trackExchanges data wordSize mode st.1) := by
  simp only [exhibit, step, assessMode, transcribed, Suite.assessMode_transcribed,
    List.nil_append]

/-- What a step shows is up to the suite, and to whether the observer breaks down. -/
theorem exhibit_eq (step : Step) :
    c.exhibit step st = c.suite.exhibit c.observer.breaksAtStart step st.1 := by
  cases step with
  | assess r took =>
    rw [exhibit_assess]
    rcases c.assess_cases r with ⟨e, hr⟩ | ⟨selection, text, hr, hbreaks⟩ | ⟨selection, hr, hcalm⟩
    · rw [c.assess_of_rejected _ _ hr, c.transcript_of_rejected _ _ hr]
      simp only [Suite.exhibit, hr, Answer.ofResult]
    · rw [c.assess_of_breaking _ _ hr hbreaks, c.transcript_of_breaking _ _ hr hbreaks]
      simp only [Suite.exhibit, hr, hbreaks, Answer.ofResult]
    · rw [c.assess_of_running _ _ hr hcalm, c.transcript_of_running _ _ hr hcalm]
      simp only [Suite.exhibit, hr, hcalm]
  | assessMode data wordSize mode => exact c.exhibit_assessMode st data wordSize mode
  | reject e => rfl

theorem exhibit_untimed (step : Step) : c.exhibit step.untimed st = c.exhibit step st := by
  rw [exhibit_eq, exhibit_eq]
  cases step <;> rfl

theorem step_transcribed (step : Step) (log : List Exchange) :
    c.transcribed.step step ((st.1, log), st.2) =
      ((c.step step st).1, ((c.step step st).2.1, log ++ (c.exhibit step st).2),
        (c.step step st).2.2) := by
  cases step with
  | assess r took => simp only [exhibit_assess, Coordinator.step, assess_transcribed]
  | assessMode data wordSize mode =>
    simp only [exhibit_assessMode, Coordinator.step, assessMode, transcribed,
      Suite.assessMode_transcribed]
  | reject e => simp [exhibit, Coordinator.step, reject, transcribed]

theorem exhibit_fst (step : Step) : (c.exhibit step st).1 = (c.step step st).1 := by
  unfold exhibit
  rw [step_transcribed]

/-- The exchanges of a step fix the state in which it leaves the suite. -/
theorem suite_step (step : Step) :
    (c.step step st).2.1 = c.suite.leave (c.exhibit step st).2 st.1 := by
  cases step with
  | assess r took =>
    rw [exhibit_assess, Coordinator.step]
    dsimp only
    rcases c.assess_cases r with ⟨e, hr⟩ | ⟨selection, text, hr, hbreaks⟩ | ⟨selection, hr, hcalm⟩
    · rw [c.assess_of_rejected _ _ hr, c.transcript_of_rejected _ _ hr]
      rfl
    · rw [c.assess_of_breaking _ _ hr hbreaks, c.transcript_of_breaking _ _ hr hbreaks]
      rfl
    · rw [c.assess_of_running _ _ hr hcalm, c.transcript_of_running _ _ hr hcalm]
      exact c.suite.state_runRequest r st.1
  | assessMode data wordSize mode =>
    rw [exhibit_assessMode]
    exact c.suite.state_assessMode data wordSize mode st.1
  | reject e => rfl

/-! #### Whole sessions -/

theorem map_fst_shown (steps : List Step) :
    (c.shown steps st).map (·.1) = (c.run steps st).map (·.1) := by
  induction steps generalizing st with
  | nil => rfl
  | cons step rest ih => simp only [shown, run, List.map_cons, exhibit_fst, ih]

theorem after_transcribed (steps : List Step) (log : List Exchange) :
    c.transcribed.after steps ((st.1, log), st.2) =
      (((c.after steps st).1, log ++ (c.shown steps st).flatMap (·.2)), (c.after steps st).2) := by
  induction steps generalizing st log with
  | nil => simp [shown]
  | cons step rest ih =>
    rw [after_cons, after_cons, step_transcribed, ih, shown, List.flatMap_cons, List.append_assoc]

theorem suite_after (steps : List Step) :
    (c.after steps st).1 = c.suite.leave ((c.shown steps st).flatMap (·.2)) st.1 := by
  induction steps generalizing st with
  | nil => rfl
  | cons step rest ih =>
    rw [after_cons, ih, suite_step, shown, List.flatMap_cons, Suite.leave_append]

theorem shown_congr {c' : Coordinator σ υ} {st' : σ × υ} (hsuite : c.suite = c'.suite)
    (hbreaks : c.observer.breaksAtStart = c'.observer.breaksAtStart) (hst : st.1 = st'.1)
    {steps steps' : List Step} (hsteps : steps.map Step.untimed = steps'.map Step.untimed) :
    c.shown steps st = c'.shown steps' st' := by
  induction steps generalizing st st' steps' with
  | nil =>
    obtain rfl : steps' = [] := List.map_eq_nil_iff.1 hsteps.symm
    rfl
  | cons step rest ih =>
    obtain ⟨step', rest', rfl, hstep, hrest⟩ := List.map_eq_cons_iff.1 hsteps.symm
    have hexhibit : c.exhibit step st = c'.exhibit step' st' :=
      calc c.exhibit step st = c.exhibit step.untimed st := (c.exhibit_untimed st step).symm
        _ = c'.exhibit step.untimed st' := by rw [exhibit_eq, exhibit_eq, hsuite, hbreaks, hst]
        _ = c'.exhibit step'.untimed st' := by rw [hstep]
        _ = c'.exhibit step' st' := c'.exhibit_untimed st' step'
    -- the exchanges agree, so both sessions go on from one state of the suite
    have hstate : (c.step step st).2.1 = (c'.step step' st').2.1 := by
      rw [suite_step, suite_step, hexhibit, hsuite, hst]
    rw [shown, shown, hexhibit, ih _ hstate hrest.symm]

theorem shown_of_isStateless (hstateless : c.suite.IsStateless) (steps : List Step)
    (fresh : σ × τ) : c.shown steps st = steps.map fun step => c.exhibit step fresh := by
  induction steps generalizing st with
  | nil => rfl
  | cons step rest ih =>
    have halike := hstateless.conversesAs st.1 fresh.1
    rw [shown, ih, List.map_cons, exhibit_eq, halike.exhibit_eq, ← exhibit_eq]

theorem zip_shown_perm (hstateless : c.suite.IsStateless) {steps steps' : List Step}
    (hperm : (steps.map Step.untimed).Perm (steps'.map Step.untimed)) (st' : σ × τ) :
    ((steps.map Step.untimed).zip (c.shown steps st)).Perm
      ((steps'.map Step.untimed).zip (c.shown steps' st')) := by
  -- beside its step, what is shown does not depend on where the step stands
  have hzip (steps : List Step) (state : σ × τ) :
      (steps.map Step.untimed).zip (c.shown steps state) =
        (steps.map Step.untimed).map fun step => (step, c.exhibit step st) := by
    have hshown : c.shown steps state =
        (steps.map Step.untimed).map fun step => c.exhibit step st := by
      rw [c.shown_of_isStateless state hstateless steps st, List.map_map]
      exact List.map_congr_left fun step _ => (c.exhibit_untimed st step).symm
    rw [hshown, List.map_prod_left_eq_zip]
  rw [hzip, hzip]
  exact hperm.map _

end Exhibit

/-- A session over the stand-in shows what its steps show as the only steps of other sessions, in
whatever order and whatever time they take, and the stand-in keeps a record of the calls. Over any
suite calm observers make no difference. What is shown are the answers of the session and, taken
together, its exchanges. -/
theorem sessions_forget :
    (∀ (b : Mock.Behaviour) (observer : Observer τ) (steps : List Step)
      (st : List Mock.Record × τ),
      let c : Coordinator (List Mock.Record) τ := ⟨Mock.suite b, observer⟩
      (∀ fresh, c.shown steps st = steps.flatMap fun step => c.shown [step] fresh) ∧
      (∀ (steps' : List Step) st', (steps.map Step.untimed).Perm (steps'.map Step.untimed) →
        ((steps.map Step.untimed).zip (c.shown steps st)).Perm
          ((steps'.map Step.untimed).zip (c.shown steps' st'))) ∧
      (c.after steps st).1 =
        st.1 ++ ((c.shown steps st).flatMap (·.2)).map fun x => .ofCall x.call) ∧
    (∀ (suite : Suite σ) (observer : Observer τ) (observer' : Observer υ),
      observer.breaksAtStart = none → observer'.breaksAtStart = none →
      let c : Coordinator σ τ := ⟨suite, observer⟩
      let c' : Coordinator σ υ := ⟨suite, observer'⟩
      ∀ steps steps' : List Step, steps.map Step.untimed = steps'.map Step.untimed →
        ∀ st seen seen',
        c.shown steps (st, seen) = c'.shown steps' (st, seen') ∧
        (c.after steps (st, seen)).1 = (c'.after steps' (st, seen')).1) ∧
    ∀ (c : Coordinator σ τ) (steps : List Step) (st : σ × τ),
      (c.shown steps st).map (·.1) = (c.run steps st).map (·.1) ∧
      c.transcribed.after steps ((st.1, []), st.2) =
        (((c.after steps st).1, (c.shown steps st).flatMap (·.2)), (c.after steps st).2) := by
  refine ⟨fun b observer steps st => ?_, fun suite observer observer' hcalm hcalm' => ?_,
    fun c steps st => ⟨c.map_fst_shown st steps, c.after_transcribed st steps []⟩⟩
  · intro c
    have hstateless : c.suite.IsStateless := Mock.isStateless_suite b
    refine ⟨fun fresh => ?_, fun steps' st' hperm => c.zip_shown_perm st hstateless hperm st', ?_⟩
    · rw [c.shown_of_isStateless st hstateless steps fresh, List.map_eq_flatMap]
      rfl
    · rw [suite_after, Mock.leave_suite]
  · intro c c' steps steps' hsteps st seen seen'
    have hbreaks : c.observer.breaksAtStart = c'.observer.breaksAtStart :=
      hcalm.trans hcalm'.symm
    have hsuite : c.suite = c'.suite := rfl
    have hshown : c.shown steps (st, seen) = c'.shown steps' (st, seen') :=
      c.shown_congr (st, seen) hsuite hbreaks rfl hsteps
    refine ⟨hshown, ?_⟩
    rw [suite_after, suite_after, hshown]

/-- The stand-in breaks down in the first and the last step, which change places and take other
times. The scripted suite runs out of memory, and it does not matter who hears of it. -/
theorem sessions_forget_worn_out :
    let both : Request := ⟨[0, 1, 2], 0, true, true⟩
    let c : Coordinator (List Mock.Record) (List Event) :=
      ⟨Mock.suite (.breaking "worn out"), .recording⟩
    let steps : List Step :=
      [.assess both ⟨1, 0⟩, .reject .noModeSelected, .assessMode [0, 1] 0 .nonIid]
    let steps' : List Step :=
      [.assessMode [0, 1] 0 .nonIid, .assess both ⟨7, 5⟩, .reject .noModeSelected]
    let heard : Coordinator (List Reply) (List Event) := ⟨.replaying "trial", .recording⟩
    let unheard : Coordinator (List Reply) Unit := ⟨.replaying "trial", .silent⟩
    let replies : List Reply := [.outcomes [], .failure (.outOfMemory "tables")]
    ((steps.map Step.untimed).zip (c.shown steps ([], []))).Perm
      ((steps'.map Step.untimed).zip (c.shown steps' ([], []))) ∧
    (c.after steps ([], [])).1 = [⟨.iid, .literal, 3, 3⟩, ⟨.nonIid, .literal, 2, 2⟩] ∧
    heard.shown steps (replies, []) = unheard.shown steps (replies, ()) := by
  intro both c steps steps' heard unheard replies
  obtain ⟨hmock, hobservers, -⟩ := sessions_forget (σ := List Reply) (τ := List Event) (υ := Unit)
  obtain ⟨-, hperm, -⟩ := hmock (.breaking "worn out") .recording steps ([], [])
  have hmoved : (steps.map Step.untimed).Perm (steps'.map Step.untimed) := by
    change ([_, _] ++ [_] : List Step).Perm ([_] ++ [_, _])
    exact List.perm_append_comm
  refine ⟨hperm steps' ([], []) hmoved, by decide +kernel, ?_⟩
  exact (hobservers (.replaying "trial") .recording .silent rfl rfl steps steps rfl replies [] ()).1

end Coordinator

end MinEntropy

import MinEntropy.Assessment.Session
import MinEntropy.Proofs.Assessment.Calls
import MinEntropy.Proofs.Assessment.Validation

/-! What an observer hears of a session. Every assessment that starts is heard to end, and the
answers of the steps fix the events. -/

namespace MinEntropy

/-- The same observer, keeping a log of what it hears. -/
def Observer.logged (o : Observer τ) : Observer (τ × List Event) where
  note e seen := (o.note e seen.1, seen.2 ++ [e])
  breaksAtStart := o.breaksAtStart

namespace Event

def startedUnder (label : String) : Event → Bool
  | started selection _ => selection.label = label
  | _ => false

def completedUnder (label : String) : Event → Bool
  | completed selection _ _ => selection.label = label
  | _ => false

def failedUnder (label : String) : Event → Bool
  | failed selection _ _ => selection.label = label
  | _ => false

end Event

/-- What is heard of a step, given its answer. -/
inductive Step.Heard : Step → Answer → List Event → Prop
  | refused {r : Request} {took : Duration} {e : RequestError} :
      Heard (.assess r took) (.error (.rejected e)) [.rejected e]
  | completed {r : Request} {took : Duration} {selection : Selection} {result : AssessmentResult}
      (hselection : Selection.ofFlags? r.runIid r.runNonIid = some selection) :
      Heard (.assess r took) (.result result)
        [.started selection r.data.length, .completed selection result took]
  | failed {r : Request} {took : Duration} {selection : Selection} {mode : Mode}
      {source : ModeError} (hselection : Selection.ofFlags? r.runIid r.runNonIid = some selection) :
      Heard (.assess r took) (.error (.failed mode source))
        [.started selection r.data.length, .failed selection (.failed mode source) took]
  | rejected {e : RequestError} : Heard (.reject e) (.error (.rejected e)) [.rejected e]
  | unheard {data : List UInt8} {wordSize : Nat} {mode : Mode} {answer : Answer} :
      Heard (.assessMode data wordSize mode) answer []

/-- What is heard of steps in turn, given their answers. -/
inductive Step.AllHeard : List Step → List Answer → List Event → Prop
  | nil : AllHeard [] [] []
  | cons {step : Step} {answer : Answer} {events log : List Event} {steps : List Step}
      {answers : List Answer} (hstep : step.Heard answer events)
      (hsteps : AllHeard steps answers log) :
      AllHeard (step :: steps) (answer :: answers) (events ++ log)

/-- An assessment that is heard to start is heard to end under the same label. -/
theorem Step.Heard.balanced {step : Step} {answer : Answer} {events : List Event}
    (hheard : step.Heard answer events) (label : String) :
    events.countP (·.startedUnder label) =
      events.countP (·.completedUnder label) + events.countP (·.failedUnder label) := by
  cases hheard <;>
    simp [List.countP_cons, Event.startedUnder, Event.completedUnder, Event.failedUnder]

theorem Step.AllHeard.balanced {steps : List Step} {answers : List Answer} {log : List Event}
    (hheard : AllHeard steps answers log) (label : String) :
    log.countP (·.startedUnder label) =
      log.countP (·.completedUnder label) + log.countP (·.failedUnder label) := by
  induction hheard with
  | nil => rfl
  | cons hstep _ ih =>
    simp only [List.countP_append, hstep.balanced, ih]
    omega

/-- A run blames a track for every error: nothing is turned away once it has started. -/
theorem Suite.failed_of_runRequest {s : Suite σ} {r : Request} {st : σ} {e : AssessmentError}
    (he : (s.runRequest r st).1 = .error e) : ∃ mode source, e = .failed mode source := by
  cases hp : Samples.prepare r.data r.wordSize with
  | error e' =>
    rw [runRequest_of_unprepared s hp] at he
    exact ⟨_, _, (Except.error.inj he).symm⟩
  | ok p =>
    have hends := s.ends_of_runRequest hp st
    rw [he] at hends
    generalize s.exchanges r st = xs at hends
    cases hends
    exact ⟨_, _, rfl⟩

namespace Coordinator

/-- The same coordinator with an observer that keeps a log. -/
def logged (c : Coordinator σ τ) : Coordinator σ (τ × List Event) := ⟨c.suite, c.observer.logged⟩

/-- The state that steps lead to. -/
def after (c : Coordinator σ τ) (steps : List Step) (st : σ × τ) : σ × τ :=
  (c.run steps st).getLast?.elim st (·.2)

/-- What an observer makes of events. -/
def seen (c : Coordinator σ τ) (events : List Event) (start : τ) : τ :=
  events.foldl (fun seen e => c.observer.note e seen) start

variable (c : Coordinator σ τ)

@[simp] theorem after_nil (st : σ × τ) : c.after [] st = st := rfl

@[simp] theorem after_cons (step : Step) (steps : List Step) (st : σ × τ) :
    c.after (step :: steps) st = c.after steps (c.step step st).2 := by
  cases hrun : (c.run steps (c.step step st).2).getLast? <;>
    simp [after, run, List.getLast?_cons, hrun]

theorem after_append (earlier later : List Step) (st : σ × τ) :
    c.after (earlier ++ later) st = c.after later (c.after earlier st) := by
  induction earlier generalizing st with
  | nil => rfl
  | cons step rest ih => rw [List.cons_append, after_cons, after_cons, ih]

theorem run_take (n : Nat) (steps : List Step) (st : σ × τ) :
    c.run (steps.take n) st = (c.run steps st).take n := by
  induction steps generalizing n st with
  | nil => simp [run]
  | cons step rest ih =>
    cases n with
    | zero => rfl
    | succ n => simp [run, ih]

/-- A recording observer is its own log. -/
theorem seen_recording (s : Suite σ) (events log : List Event) :
    (⟨s, .recording⟩ : Coordinator σ (List Event)).seen events log = log ++ events := by
  induction events generalizing log with
  | nil => simp [seen]
  | cons e rest ih => simpa [seen, Observer.recording] using ih (log ++ [e])

variable {c}

theorem step_logged (hcalm : c.observer.breaksAtStart = none) (step : Step) (st : σ × τ)
    (log : List Event) :
    ∃ events, step.Heard (c.step step st).1 events ∧
      (c.step step st).2.2 = c.seen events st.2 ∧
      c.logged.step step (st.1, st.2, log) =
        ((c.step step st).1, (c.step step st).2.1, (c.step step st).2.2, log ++ events) := by
  cases step with
  | assess r took =>
    cases hr : r.validate with
    | error e =>
      refine ⟨[.rejected e], ?_⟩
      simp only [step, assess_of_rejected _ _ _ hr]
      exact ⟨.refused, rfl, rfl⟩
    | ok selection =>
      have hselection := (Request.validate_eq_ok_iff.1 hr).flags_eq
      have hlogged : c.logged.observer.breaksAtStart = none := hcalm
      simp only [step, assess_of_running _ _ _ hr hcalm, assess_of_running _ _ _ hr hlogged]
      refine ⟨[.started selection r.data.length,
        ending selection took (c.suite.runRequest r st.1).1], ?_, rfl, ?_⟩
      · cases hrun : (c.suite.runRequest r st.1).1 with
        | ok result => exact .completed hselection
        | error e =>
          obtain ⟨mode, source, rfl⟩ := Suite.failed_of_runRequest hrun
          exact .failed hselection
      · simp [logged, Observer.logged]
  | assessMode data wordSize mode =>
    refine ⟨[], .unheard, rfl, ?_⟩
    simp [step, assessMode, logged]
  | reject e => exact ⟨[.rejected e], .rejected, rfl, rfl⟩

theorem run_logged (hcalm : c.observer.breaksAtStart = none) (steps : List Step) (st : σ × τ)
    (log : List Event) :
    ∃ events, Step.AllHeard steps ((c.run steps st).map (·.1)) events ∧
      (c.after steps st).2 = c.seen events st.2 ∧
      (c.logged.run steps (st.1, st.2, log)).map (·.1) = (c.run steps st).map (·.1) ∧
      c.logged.after steps (st.1, st.2, log) =
        ((c.after steps st).1, (c.after steps st).2, log ++ events) := by
  induction steps generalizing st log with
  | nil => exact ⟨[], .nil, rfl, rfl, by simp⟩
  | cons step rest ih =>
    obtain ⟨events, hheard, hseen, hstep⟩ := step_logged hcalm step st log
    obtain ⟨later, hrest, hafter, hanswers, hlogged⟩ := ih (c.step step st).2 (log ++ events)
    refine ⟨events ++ later, .cons hheard hrest, ?_, ?_, ?_⟩
    · rw [after_cons, hafter, hseen, seen, seen, seen, List.foldl_append]
    · simp [run, hstep, hanswers]
    · rw [after_cons, hstep, after_cons, hlogged, List.append_assoc]

/-- At every boundary of a session the log holds what the answers so far make heard, and the
observer is as these events leave it. Under every label as many assessments have started as have
ended. -/
theorem session_heard (hcalm : c.observer.breaksAtStart = none) (steps : List Step) (st : σ × τ)
    (n : Nat) :
    ∃ log, Step.AllHeard (steps.take n) (((c.run steps st).take n).map (·.1)) log ∧
      (c.logged.run (steps.take n) (st.1, st.2, [])).map (·.1) =
        ((c.run steps st).take n).map (·.1) ∧
      c.logged.after (steps.take n) (st.1, st.2, []) =
        ((c.after (steps.take n) st).1, (c.after (steps.take n) st).2, log) ∧
      (c.after (steps.take n) st).2 = c.seen log st.2 ∧
      ∀ label, log.countP (·.startedUnder label) =
        log.countP (·.completedUnder label) + log.countP (·.failedUnder label) := by
  obtain ⟨log, hheard, hseen, hanswers, hlogged⟩ := run_logged hcalm (steps.take n) st []
  rw [run_take] at hheard
  rw [run_take c] at hanswers
  exact ⟨log, hheard, hanswers, hlogged, hseen, hheard.balanced⟩

set_option maxRecDepth 2000 in
/-- The suite breaks down in the second call of the first step, two requests are turned away, and
the single track goes unheard. -/
theorem session_heard_breakdown :
    let c : Coordinator (List Reply) (List Event) := ⟨.replaying "trial", .recording⟩
    let steps : List Step := [
      .assess ⟨[0, 1, 2], 0, true, true⟩ ⟨1, 5⟩,
      .reject .noModeSelected,
      .assessMode [0, 1, 2] 0 .iid,
      .assess ⟨[], 0, true, false⟩ ⟨0, 0⟩]
    let st : List Reply × List Event :=
      ([.outcomes [⟨"literal", some 1.5, true⟩], .breakdown (some "worn out")], [])
    ∃ log, Step.AllHeard steps ((c.run steps st).map (·.1)) log ∧
      (c.after steps st).2 = log ∧
      log = [
        .started .mixed 3,
        .failed .mixed (.failed .nonIid (.suite (.exception (-2) "worn out"))) ⟨1, 5⟩,
        .rejected .noModeSelected,
        .rejected .emptyData] := by
  intro c steps st
  obtain ⟨log, hheard, -, -, hseen, -⟩ := session_heard (c := c) rfl steps st 4
  have hlog : (c.after steps st).2 = log := hseen.trans (seen_recording ..)
  refine ⟨log, hheard, hlog, hlog.symm.trans ?_⟩
  rfl

end Coordinator

end MinEntropy

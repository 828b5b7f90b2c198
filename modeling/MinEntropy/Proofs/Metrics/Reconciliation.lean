import MinEntropy.Proofs.Assessment.Figures
import MinEntropy.Proofs.Assessment.Session
import MinEntropy.Proofs.Metrics.Lines
import MinEntropy.Proofs.Metrics.Tally

/-! The account of a session reconciles with the answers: what it shows is what can be counted by
looking at the answers alone. -/

namespace MinEntropy

namespace Step

/-- The step is an assessment of the selection. -/
def selects (s : Selection) : Step → Bool
  | assess r _ => Selection.ofFlags? r.runIid r.runNonIid = some s
  | assessMode _ _ _ | reject _ => false

/-- The step is not about a single track. -/
def isReported : Step → Bool
  | assess _ _ | reject _ => true
  | assessMode _ _ _ => false

end Step

namespace Answer

def isResult : Answer → Bool
  | result _ => true
  | _ => false

def failsAs (kind : ErrorKind) : Answer → Bool
  | error (.failed _ source) => source.kind = kind
  | _ => false

/-- The answer of an assessment that ran. -/
def isSettled : Answer → Bool
  | result _ | error (.failed _ _) => true
  | _ => false

def isRefusal (reason : String) : Answer → Bool
  | error (.rejected e) => e.reason = reason
  | _ => false

theorem ofResult_eq_result {x : Except String (Except AssessmentError AssessmentResult)}
    {r : AssessmentResult} : ofResult x = result r ↔ x = .ok (.ok r) := by
  rcases x with text | e | result <;> simp [ofResult]

theorem ofModeResult_ne_result (x : Except AssessmentError ModeResult) (r : AssessmentResult) :
    ofModeResult x ≠ result r := by
  cases x <;> simp [ofModeResult]

end Answer

namespace Session

variable (session : List (Step × Answer))

/-- Assessments of the selection that were not turned away. -/
def settled (s : Selection) : Nat := session.countP fun x => x.1.selects s && x.2.isSettled

def completed (s : Selection) : Nat := session.countP fun x => x.1.selects s && x.2.isResult

def failed (key : Selection × ErrorKind) : Nat :=
  session.countP fun x => x.1.selects key.1 && x.2.failsAs key.2

def refused (reason : String) : Nat :=
  session.countP fun x => x.1.isReported && x.2.isRefusal reason

end Session

namespace Step.AllHeard

variable {steps : List Step} {answers : List Answer} {log : List Event}

/-- Events are counted by counting the steps that cause them. -/
theorem countP_eq (hheard : AllHeard steps answers log) {event : Event → Bool}
    {entry : Step × Answer → Bool}
    (hstep : ∀ step answer events, answer ∈ answers → step.Heard answer events →
      events.countP event = if entry (step, answer) then 1 else 0) :
    log.countP event = (steps.zip answers).countP entry := by
  induction hheard with
  | nil => rfl
  | cons hhead _ ih =>
    have hrest := ih fun step answer events hmem =>
      hstep step answer events (List.mem_cons_of_mem _ hmem)
    rw [List.countP_append, hstep _ _ _ List.mem_cons_self hhead, hrest, List.zip_cons_cons,
      List.countP_cons, Nat.add_comm]

theorem countP_starts (hheard : AllHeard steps answers log) (s : Selection) :
    log.countP (·.starts s) = Session.settled (steps.zip answers) s := by
  apply hheard.countP_eq
  intro step answer events _ hstep
  cases hstep <;> simp [Event.starts, Step.selects, Answer.isSettled, List.countP_cons, *]

theorem countP_ends (hheard : AllHeard steps answers log) (s : Selection) :
    log.countP (·.ends s) = Session.settled (steps.zip answers) s := by
  apply hheard.countP_eq
  intro step answer events _ hstep
  cases hstep <;> simp [Event.ends, Step.selects, Answer.isSettled, List.countP_cons, *]

theorem countP_yields (hheard : AllHeard steps answers log)
    (hfinite : ∀ result, .result result ∈ answers → result.minEntropy.isFinite = true)
    (s : Selection) :
    log.countP (·.yields s) = Session.completed (steps.zip answers) s := by
  apply hheard.countP_eq
  intro step answer events hmem hstep
  cases hstep with
  | completed hselection =>
    simp [Event.yields, Step.selects, Answer.isResult, List.countP_cons, hselection,
      hfinite _ hmem]
  | _ => simp [Event.yields, Step.selects, Answer.isResult]

theorem countP_failsAs (hheard : AllHeard steps answers log) (key : Selection × ErrorKind) :
    log.countP (·.failsAs key) = Session.failed (steps.zip answers) key := by
  apply hheard.countP_eq
  intro step answer events _ hstep
  cases hstep <;>
    simp [Event.failsAs, Step.selects, Answer.failsAs, List.countP_cons, AssessmentError.kind,
      Prod.ext_iff, *]

theorem countP_isRefusal (hheard : AllHeard steps answers log) (reason : String) :
    log.countP (·.isRefusal reason) = Session.refused (steps.zip answers) reason := by
  apply hheard.countP_eq
  intro step answer events _ hstep
  cases hstep <;>
    simp [Event.isRefusal, Step.isReported, Answer.isRefusal, List.countP_cons]

/-- The text of an account that tallies what was heard shows what the answers come to. -/
theorem reports {account : Metrics.Registry} (hheard : AllHeard steps answers log)
    (hfinite : ∀ result, .result result ∈ answers → result.minEntropy.isFinite = true)
    (htallies : account.Tallies log) :
    let session := steps.zip answers
    account.Reports account.text (Session.settled session) (Session.settled session)
      (Session.settled session) (Session.completed session) (Session.failed session)
      (Session.refused session) := by
  intro session
  have hreports := account.reports_totals
  simp only [funext htallies.requests, funext htallies.sizes, funext htallies.durations,
    funext htallies.entropies, funext htallies.errors, funext htallies.rejections,
    hheard.countP_starts, hheard.countP_ends, hheard.countP_yields hfinite,
    hheard.countP_failsAs, hheard.countP_isRefusal] at hreports
  exact hreports

end Step.AllHeard

namespace Coordinator

variable {c : Coordinator σ τ}

theorem isFinite_of_assess {r : Request} {took : Duration} {st : σ × τ} {result : AssessmentResult}
    (hok : (c.assess r took st).1 = .ok (.ok result)) : result.minEntropy.isFinite = true := by
  obtain ⟨w, p, hw, hp, hmodes, hcalls, rfl⟩ := conclude_of_assess hok
  exact (Request.accounts_conclude hw hp hmodes hcalls).isFinite_minEntropy

theorem isFinite_of_step {step : Step} {st : σ × τ} {result : AssessmentResult}
    (hstep : (c.step step st).1 = .result result) : result.minEntropy.isFinite = true := by
  cases step with
  | assess r took => exact isFinite_of_assess (Answer.ofResult_eq_result.1 hstep)
  | assessMode data wordSize mode => exact absurd hstep (Answer.ofModeResult_ne_result _ _)
  | reject e => cases hstep

theorem isFinite_of_mem_run {steps : List Step} {st : σ × τ} {result : AssessmentResult}
    (hmem : .result result ∈ (c.run steps st).map (·.1)) : result.minEntropy.isFinite = true := by
  induction steps generalizing st with
  | nil => cases hmem
  | cons step rest ih =>
    rcases List.mem_cons.1 hmem with hstep | hmem
    · exact isFinite_of_step hstep.symm
    · exact ih hmem

/-- The text of the account of a session shows what the answers come to. No result is left out of
the figures, single tracks are not accounted for, and what never happened has no line. -/
theorem session_reports (s : Suite σ) (steps : List Step) (st : σ) :
    let c : Coordinator σ Metrics.Registry := ⟨s, .accounting⟩
    let session := steps.zip ((c.run steps (st, .empty)).map (·.1))
    let account := (c.after steps (st, .empty)).2
    account.Reports account.text (Session.settled session) (Session.settled session)
      (Session.settled session) (Session.completed session) (Session.failed session)
      (Session.refused session) := by
  intro c session account
  obtain ⟨log, hheard, hseen, -⟩ := run_logged (c := c) rfl steps (st, .empty) []
  have htallies : account.Tallies log := by
    change (c.after steps (st, .empty)).2.Tallies log
    rw [hseen]
    exact Metrics.Registry.tallies_ofEvents log
  exact hheard.reports (fun _ => isFinite_of_mem_run) htallies

end Coordinator

end MinEntropy

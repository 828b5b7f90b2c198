import Mathlib.Algebra.BigOperators.Group.List.Basic
import MinEntropy.Proofs.Service.Steps

/-! The account of a service reconciles with its responses. The counting is done by the coordinator
and the statuses are made by the service, and no request is counted twice or missed. -/

namespace MinEntropy

section Counting

variable {α κ : Type} {l : List α}

theorem sum_map_toNat (keys : List κ) (p : κ → Bool) :
    (keys.map fun k => if p k then 1 else 0).sum = keys.countP p := by
  induction keys with
  | nil => rfl
  | cons k rest ih => rw [List.map_cons, List.sum_cons, ih, List.countP_cons, Nat.add_comm]

/-- What falls under exactly one key is counted by keys. -/
theorem sum_countP {keys : List κ} {p : κ → α → Bool} {q : α → Bool}
    (hkeys : ∀ x ∈ l, (keys.countP fun k => p k x) = if q x then 1 else 0) :
    (keys.map fun k => l.countP (p k)).sum = l.countP q := by
  induction l with
  | nil => simp
  | cons x rest ih =>
    have hrest := ih fun y hy => hkeys y (List.mem_cons_of_mem _ hy)
    simp only [List.countP_cons, List.sum_map_add, sum_map_toNat, hrest,
      hkeys x List.mem_cons_self]

theorem countP_add_countP {p q : α → Bool} (hdisjoint : ∀ x ∈ l, p x = true → q x = false) :
    l.countP p + l.countP q = l.countP fun x => p x || q x := by
  induction l with
  | nil => rfl
  | cons x rest ih =>
    have hrest := ih fun y hy => hdisjoint y (List.mem_cons_of_mem _ hy)
    have hhead := hdisjoint x List.mem_cons_self
    rw [List.countP_cons, List.countP_cons, List.countP_cons, ← hrest]
    cases hp : p x with
    | false =>
      rw [Bool.false_or, if_neg Bool.false_ne_true]
      omega
    | true =>
      rw [hhead hp, Bool.true_or, if_pos rfl, if_neg Bool.false_ne_true]
      omega

end Counting

namespace Answer

/-- The answer blames a track. -/
def isFailure : Answer → Bool
  | error (.failed _ _) => true
  | _ => false

theorem isSettled_eq (answer : Answer) :
    answer.isSettled = (answer.isResult || answer.isFailure) := by
  rcases answer with _ | _ | e | _
  case error => cases e <;> rfl
  all_goals rfl

theorem isFailure_of_isResult {answer : Answer} (hresult : answer.isResult = true) :
    answer.isFailure = false := by
  cases answer with
  | result => rfl
  | _ => cases hresult

/-- A failure is of one kind. -/
theorem countP_failsAs (answer : Answer) :
    (ErrorKind.all.countP fun kind => answer.failsAs kind) = if answer.isFailure then 1 else 0 := by
  rcases answer with _ | _ | e | _
  case error =>
    cases e with
    | rejected e => rfl
    | failed mode source =>
      simp only [failsAs, isFailure]
      cases source.kind <;> rfl
  all_goals rfl

end Answer

namespace Service

namespace Arrival

section Counts

variable (s : Service σ τ) (x : Arrival σ τ)

def status : Nat := (x.handled s).response.status

/-- What the coordinator answered, whether or not anybody waited for it. -/
def answer? : Option Answer := (x.turn? s).map (·.2)

def settles (selection : Selection) : Bool :=
  x.request.asks selection && decide (x.status s ∈ [200, 422, 500, 503, 504])

def completes (selection : Selection) : Bool :=
  x.request.asks selection &&
    (x.status s = 200 || x.status s = 504 && (x.answer? s).any Answer.isResult)

def failsAs (key : Selection × ErrorKind) : Bool :=
  x.request.asks key.1 &&
    (x.status s = failureStatus key.2 || x.status s = 504 && (x.answer? s).any (·.failsAs key.2))

/-- The response tells of a failure. -/
def failsSeen (selection : Selection) : Bool :=
  x.request.asks selection && decide (x.status s ∈ [422, 500, 503])

/-- The response did not wait for the failure. -/
def failsUnseen (selection : Selection) : Bool :=
  x.request.asks selection && (x.status s = 504 && (x.answer? s).any Answer.isFailure)

/-- The request is turned away for the reason. -/
def isRefused (reason : String) : Bool :=
  match (x.handled s).ending with
  | some (.answered (.error (.rejected e))) => e.reason = reason
  | _ => false

end Counts

section Turns

variable {s : Service σ τ} {x : Arrival σ τ}
variable (hcomes : Comes x.request (x.turn? s) (x.handled s))

include hcomes in
theorem settles_eq (selection : Selection) :
    x.settles s selection = (x.turn? s).any fun t => t.1.selects selection && t.2.isSettled := by
  unfold settles status
  generalize x.turn? s = turn at hcomes ⊢
  generalize x.handled s = h at hcomes ⊢
  cases hcomes with
  | elsewhere hroute => simp [asks_of_other hroute]
  | tooLarge _ hstatus => simp [hstatus]
  | refused _ _ hstatus => simp [hstatus, Answer.isSettled]
  | completed hselects hstatus => simp [hselects, hstatus, Answer.isSettled]
  | completedLate hselects hstatus => simp [hselects, hstatus, Answer.isSettled]
  | @failed _ _ source _ hselects hstatus =>
    cases hkind : source.kind <;>
      simp [hselects, hstatus, Answer.isSettled, failureStatus, hkind]
  | failedLate hselects hstatus => simp [hselects, hstatus, Answer.isSettled]

include hcomes in
theorem completes_eq (selection : Selection) :
    x.completes s selection = (x.turn? s).any fun t => t.1.selects selection && t.2.isResult := by
  unfold completes status answer?
  generalize x.turn? s = turn at hcomes ⊢
  generalize x.handled s = h at hcomes ⊢
  cases hcomes with
  | elsewhere hroute => simp [asks_of_other hroute]
  | tooLarge _ hstatus => simp [hstatus]
  | refused _ _ hstatus => simp [hstatus, Answer.isResult]
  | completed hselects hstatus => simp [hselects, hstatus, Answer.isResult]
  | completedLate hselects hstatus => simp [hselects, hstatus, Answer.isResult]
  | @failed _ _ source _ _ hstatus =>
    cases hkind : source.kind <;> simp [hstatus, Answer.isResult, failureStatus, hkind]
  | failedLate _ hstatus => simp [hstatus, Answer.isResult]

include hcomes in
theorem fails_eq (selection : Selection) :
    (x.failsSeen s selection || x.failsUnseen s selection) =
      (x.turn? s).any fun t => t.1.selects selection && t.2.isFailure := by
  unfold failsSeen failsUnseen status answer?
  generalize x.turn? s = turn at hcomes ⊢
  generalize x.handled s = h at hcomes ⊢
  cases hcomes with
  | elsewhere hroute => simp [asks_of_other hroute]
  | tooLarge _ hstatus => simp [hstatus]
  | refused _ _ hstatus => simp [hstatus, Answer.isFailure]
  | completed _ hstatus => simp [hstatus, Answer.isFailure]
  | completedLate _ hstatus => simp [hstatus, Answer.isFailure]
  | @failed _ _ source _ hselects hstatus =>
    cases hkind : source.kind <;>
      simp [hselects, hstatus, Answer.isFailure, failureStatus, hkind]
  | failedLate hselects hstatus => simp [hselects, hstatus, Answer.isFailure]

include hcomes in
theorem failsAs_eq (key : Selection × ErrorKind) :
    x.failsAs s key = (x.turn? s).any fun t => t.1.selects key.1 && t.2.failsAs key.2 := by
  obtain ⟨selection, kind⟩ := key
  unfold failsAs status answer?
  generalize x.turn? s = turn at hcomes ⊢
  generalize x.handled s = h at hcomes ⊢
  cases hcomes with
  | elsewhere hroute => simp [asks_of_other hroute]
  | tooLarge _ hstatus => cases kind <;> simp [hstatus, failureStatus]
  | refused _ _ hstatus => cases kind <;> simp [hstatus, failureStatus, Answer.failsAs]
  | completed _ hstatus => cases kind <;> simp [hstatus, failureStatus, Answer.failsAs]
  | completedLate _ hstatus => cases kind <;> simp [hstatus, failureStatus, Answer.failsAs]
  | @failed _ _ source _ hselects hstatus =>
    cases hkind : source.kind <;> cases kind <;>
      simp [hselects, hstatus, Answer.failsAs, failureStatus, hkind]
  | failedLate hselects hstatus =>
    cases kind <;> simp [hselects, hstatus, Answer.failsAs, failureStatus]

include hcomes in
theorem isRefused_eq (reason : String) :
    x.isRefused s reason =
      (x.turn? s).any fun t => t.1.isReported && t.2.isRefusal reason := by
  unfold isRefused
  generalize x.turn? s = turn at hcomes ⊢
  generalize x.handled s = h at hcomes ⊢
  cases hcomes with
  | elsewhere => rfl
  | tooLarge => rfl
  | refused _ hreported => simp [hreported, Answer.isRefusal]
  | completed => simp [Answer.isRefusal]
  | completedLate => simp [Answer.isRefusal]
  | failed => simp [Answer.isRefusal]
  | failedLate => simp [Answer.isRefusal]

include hcomes in
/-- What settles is completed, or it fails. -/
theorem settles_split (selection : Selection) :
    (x.completes s selection = true →
      (x.failsSeen s selection || x.failsUnseen s selection) = false) ∧
    x.settles s selection =
      (x.completes s selection || (x.failsSeen s selection || x.failsUnseen s selection)) := by
  rw [settles_eq hcomes, completes_eq hcomes, fails_eq hcomes]
  rcases x.turn? s with _ | ⟨step, answer⟩
  · simp
  · simp only [Option.any_some, answer.isSettled_eq, Bool.and_or_distrib_left, Bool.and_eq_true,
      Bool.and_eq_false_imp, and_true]
    exact fun hresult _ => Answer.isFailure_of_isResult hresult.2

theorem failsUnseen_of_failsSeen {selection : Selection} (hseen : x.failsSeen s selection = true) :
    x.failsUnseen s selection = false := by
  simp only [failsSeen, Bool.and_eq_true, decide_eq_true_eq, List.mem_cons, List.not_mem_nil,
    or_false] at hseen
  obtain ⟨-, hstatus | hstatus | hstatus⟩ := hseen <;> simp [failsUnseen, hstatus]

include hcomes in
theorem failures_split (selection : Selection) :
    (ErrorKind.all.countP fun kind => x.failsAs s (selection, kind)) =
      if x.failsSeen s selection || x.failsUnseen s selection then 1 else 0 := by
  simp only [failsAs_eq hcomes, fails_eq hcomes]
  rcases x.turn? s with _ | ⟨step, answer⟩
  · rfl
  · cases hselects : step.selects selection with
    | false => simp [hselects]
    | true => simpa [hselects] using answer.countP_failsAs

include hcomes in
theorem refusals_split :
    (RequestError.reasons.countP fun reason => x.isRefused s reason) =
      if decide (x.status s = 400) then 1 else 0 := by
  generalize x.turn? s = turn at hcomes
  generalize hhandled : x.handled s = h at hcomes
  simp only [RequestError.reasons, List.countP_cons, List.countP_nil, isRefused, status]
  cases hcomes with
  | elsewhere _ hstatus =>
    simp only [List.mem_cons, List.not_mem_nil, or_false] at hstatus
    rcases hstatus with hstatus | hstatus | hstatus <;> simp [hhandled, hstatus]
  | tooLarge _ hstatus => simp [hhandled, hstatus]
  | @refused _ e _ _ _ hstatus => cases e <;> simp [hhandled, hstatus, RequestError.reason]
  | completed _ hstatus => simp [hhandled, hstatus]
  | completedLate _ hstatus => simp [hhandled, hstatus]
  | @failed _ _ source _ _ hstatus =>
    cases hkind : source.kind <;> simp [hhandled, hstatus, failureStatus, hkind]
  | failedLate _ hstatus => simp [hhandled, hstatus]

end Turns

end Arrival

/-- A text that is given out for an account shows what can be counted by looking at the responses,
and at the answers that came too late for one. -/
structure Reconciles (s : Service σ τ) (past : List (Arrival σ τ)) (account : Metrics.Registry)
    (text : String) : Prop where
  reports : account.Reports text (fun selection => past.countP (·.settles s selection))
    (fun selection => past.countP (·.settles s selection))
    (fun selection => past.countP (·.settles s selection))
    (fun selection => past.countP (·.completes s selection))
    (fun key => past.countP (·.failsAs s key))
    (fun reason => past.countP (·.isRefused s reason))
  outcomes : ∀ selection,
    past.countP (·.completes s selection) +
        (ErrorKind.all.map fun kind => past.countP (·.failsAs s (selection, kind))).sum =
      past.countP (·.settles s selection)
  failures : ∀ selection,
    (ErrorKind.all.map fun kind => past.countP (·.failsAs s (selection, kind))).sum =
      past.countP (·.failsSeen s selection) + past.countP (·.failsUnseen s selection)
  refusals :
    (RequestError.reasons.map fun reason => past.countP (·.isRefused s reason)).sum =
      past.countP (·.status s = 400)

section Ledger

variable {s : Service σ τ} {past : List (Arrival σ τ)}

/-- Turns are counted by counting the requests that make them. -/
theorem countP_turns {turn : Step × Answer → Bool} {arrival : Arrival σ τ → Bool}
    (hsame : ∀ x, arrival x = (x.turn? s).any turn) :
    (past.filterMap (·.turn? s)).countP turn = past.countP arrival := by
  rw [List.countP_filterMap]
  congr 1
  funext x
  rw [hsame]
  cases x.turn? s <;> rfl

theorem reconciles_of_heard (hcalm : s.coordinator.observer.breaksAtStart = none)
    {steps : List Step} {answers : List Answer} {log : List Event}
    {account : Metrics.Registry} (hheard : Step.AllHeard steps answers log)
    (hturns : past.filterMap (·.turn? s) = steps.zip answers)
    (hfinite : ∀ result, .result result ∈ answers → result.minEntropy.isFinite = true)
    (htallies : account.Tallies log) : s.Reconciles past account account.text := by
  have hcomes (x : Arrival σ τ) : Comes x.request (x.turn? s) (x.handled s) :=
    comes_handle x.occasion x.state hcalm
  constructor
  case reports =>
    have hsettled (selection : Selection) :
        Session.settled (steps.zip answers) selection = past.countP (·.settles s selection) :=
      hturns ▸ countP_turns fun x => Arrival.settles_eq (hcomes x) selection
    have hcompleted (selection : Selection) :
        Session.completed (steps.zip answers) selection = past.countP (·.completes s selection) :=
      hturns ▸ countP_turns fun x => Arrival.completes_eq (hcomes x) selection
    have hfailed (key : Selection × ErrorKind) :
        Session.failed (steps.zip answers) key = past.countP (·.failsAs s key) :=
      hturns ▸ countP_turns fun x => Arrival.failsAs_eq (hcomes x) key
    have hrefused (reason : String) :
        Session.refused (steps.zip answers) reason = past.countP (·.isRefused s reason) :=
      hturns ▸ countP_turns fun x => Arrival.isRefused_eq (hcomes x) reason
    have hreports := hheard.reports hfinite htallies
    simp only [funext hsettled, funext hcompleted, funext hfailed, funext hrefused] at hreports
    exact hreports
  case outcomes =>
    intro selection
    have hsplit (x : Arrival σ τ) := Arrival.settles_split (hcomes x) selection
    rw [sum_countP fun x _ => Arrival.failures_split (hcomes x) selection,
      countP_add_countP fun x _ => (hsplit x).1, ← funext fun x => (hsplit x).2]
  case failures =>
    intro selection
    rw [sum_countP fun x _ => Arrival.failures_split (hcomes x) selection,
      countP_add_countP fun x _ => Arrival.failsUnseen_of_failsSeen]
  case refusals => exact sum_countP fun x _ => Arrival.refusals_split (hcomes x)

end Ledger

section Stillness

variable {s : Service σ τ} {r : HttpRequest} {o : Occasion} {st : σ × τ}

theorem handle_of_metrics (hmethod : r.method = "GET") (hpath : r.path = "/metrics") :
    s.handle r o st = (⟨s.metricsResponse (idOf r o) st.2, none⟩, st) := by
  have hroute : routeOf r = .ok .metrics := by
    unfold routeOf
    rw [hpath, hmethod]
    rfl
  rw [s.handle_of_served o st hroute, delivered, hmethod]
  rfl

/-- A request that makes no turn leaves everything as it was. -/
theorem state_of_turnless (hturn : s.turn? r o st = none) : (s.handle r o st).2 = st := by
  rw [state_handle, Option.map_eq_none_iff.1 hturn]
  rfl

theorem state_of_status (hcalm : s.coordinator.observer.breaksAtStart = none)
    (hstatus : (s.handle r o st).1.response.status ∈ [404, 405, 413]) :
    (s.handle r o st).2 = st := by
  have hcomes := comes_handle (s := s) (r := r) o st hcalm
  apply state_of_turnless
  generalize s.turn? r o st = turn at hcomes
  generalize (s.handle r o st).1 = h at hcomes hstatus
  cases hcomes with
  | elsewhere => rfl
  | tooLarge => rfl
  | refused _ _ hrefused => simp [hrefused] at hstatus
  | completed _ hcompleted => simp [hcompleted] at hstatus
  | completedLate _ hlate => simp [hlate] at hstatus
  | @failed _ _ source _ _ hfailed =>
    cases hkind : source.kind <;> simp [hfailed, hkind, failureStatus] at hstatus
  | failedLate _ hlate => simp [hlate] at hstatus

theorem state_of_path (hpath : r.path ≠ "/api/v1/assess") : (s.handle r o st).2 = st := by
  apply state_of_other
  rw [Ne, routeOf_eq_assess_iff]
  exact fun hroute => hpath hroute.2

end Stillness

/-- The account that is given out reconciles with the responses so far, whenever the work that
nobody waited for was heard to end. Requests elsewhere, unserved ones and bodies that are too large
leave it alone. -/
theorem handleAll_reconciles (settings : ServiceSettings) (suite : Suite σ)
    (visits : List (HttpRequest × Occasion)) (st : σ) :
    let s : Service σ Metrics.Registry := ⟨settings, ⟨suite, .accounting⟩, some id⟩
    let arrivals := s.arrivals visits (st, .empty)
    (arrivals.map fun x => s.handle x.request x.occasion x.state) =
      s.handleAll visits (st, .empty) ∧
    (∀ (i : Nat) (x : Arrival σ Metrics.Registry), arrivals[i]? = some x →
      ∃ log, Step.AllHeard (s.steps (visits.take i))
          ((s.coordinator.run (s.steps (visits.take i)) (st, .empty)).map (·.1)) log ∧
        x.state.2 = .ofEvents log ∧
        ∀ late, late.Perm log → ∀ (r : HttpRequest) (o : Occasion) (worn : σ),
          r.method = "GET" → r.path = "/metrics" →
          let response := (s.handle r o (worn, .ofEvents late)).1.response
          response = ⟨200, some "text/plain; version=0.0.4; charset=utf-8", none, idOf r o,
              .account (.ofEvents late)⟩ ∧
            s.Reconciles (arrivals.take i) (.ofEvents late) response.body.content) ∧
    ∀ r o st, (s.handle r o st).1.response.status ∈ [404, 405, 413] ∨ r.path = "/health" ∨
      r.path = "/metrics" → (s.handle r o st).2 = st := by
  intro s arrivals
  have hcalm : s.coordinator.observer.breaksAtStart = none := rfl
  refine ⟨s.map_handle_arrivals visits _, fun i x hx => ?_, fun r o st hstill => ?_⟩
  · obtain ⟨log, hheard, hseen, -⟩ :=
      Coordinator.run_logged hcalm (s.steps (visits.take i)) (st, .empty) []
    refine ⟨log, hheard, ?_, fun late hlate r o worn hmethod hpath => ?_⟩
    · rw [s.state_of_arrival visits _ hx, hseen]
      rfl
    · have hturns := s.turns_arrivals (visits.take i) (st, .empty)
      rw [arrivals_take] at hturns
      rw [handle_of_metrics hmethod hpath]
      refine ⟨rfl, ?_⟩
      exact reconciles_of_heard hcalm hheard hturns
        (fun result => Coordinator.isFinite_of_mem_run)
        ((Metrics.Registry.tallies_ofEvents late).perm hlate.symm)
  · rcases hstill with hstatus | hpath | hpath
    · exact state_of_status hcalm hstatus
    · exact state_of_path (by simp [hpath])
    · exact state_of_path (by simp [hpath])

/-- One assessment is answered, one breaks down after the deadline, and one cannot be read. -/
theorem handleAll_reconciles_late_breakdown :
    let s : Service (List Reply) Metrics.Registry :=
      ⟨.default, ⟨.replaying "trial", .accounting⟩, some id⟩
    let visits : List (HttpRequest × Occasion) := [
      (⟨"POST", "/api/v1/assess?iid=true", [], [0, 1, 2]⟩, ⟨"one", ⟨1, 0⟩, false⟩),
      (⟨"POST", "/api/v1/assess?non_iid=true", [], [0, 1, 2]⟩, ⟨"two", ⟨400, 0⟩, true⟩),
      (⟨"POST", "/api/v1/assess?iid=maybe", [], [0, 1, 2]⟩, ⟨"three", ⟨0, 0⟩, false⟩),
      (⟨"GET", "/metrics", [], []⟩, ⟨"four", ⟨0, 0⟩, false⟩)]
    let arrivals := s.arrivals visits
      ([.outcomes [⟨"literal", some 1.5, true⟩], .breakdown (some "worn out")], .empty)
    arrivals.map (·.status s) = [200, 504, 400, 200] ∧
    ∃ x, arrivals[3]? = some x ∧
      s.Reconciles (arrivals.take 3) x.state.2 (x.handled s).response.body.content ∧
      Metrics.linesUnder (x.handled s).response.body.content "entropy_requests_total" =
        ["entropy_requests_total\x7btest_type=\"IID\"\x7d 1",
          "entropy_requests_total\x7btest_type=\"Non-IID\"\x7d 1"] ∧
      Metrics.linesUnder (x.handled s).response.body.content "entropy_min_entropy_value_count" =
        ["entropy_min_entropy_value_count\x7btest_type=\"IID\"\x7d 1"] ∧
      Metrics.linesUnder (x.handled s).response.body.content "entropy_errors_total" =
        ["entropy_errors_total\x7berror_type=\"foreign\",test_type=\"Non-IID\"\x7d 1"] ∧
      Metrics.linesUnder (x.handled s).response.body.content "entropy_rejected_total" =
        ["entropy_rejected_total\x7breason=\"malformed_query\"\x7d 1"] := by
  intro s visits arrivals
  obtain ⟨-, hreconciles, -⟩ := handleAll_reconciles (σ := List Reply) .default
    (.replaying "trial") visits
    [.outcomes [⟨"literal", some 1.5, true⟩], .breakdown (some "worn out")]
  obtain ⟨x, hx⟩ : ∃ x, arrivals[3]? = some x := ⟨_, rfl⟩
  obtain ⟨log, -, haccount, hlate⟩ := hreconciles 3 x hx
  have hrequest : x.request = ⟨"GET", "/metrics", [], []⟩ := by
    obtain rfl := Option.some.inj hx
    rfl
  obtain ⟨-, hgiven⟩ := hlate log (.refl log) x.request x.occasion x.state.1
    (by rw [hrequest]) (by rw [hrequest]; decide +kernel)
  rw [← haccount] at hgiven
  refine ⟨by decide +kernel, x, hx, hgiven, ?_, ?_, ?_, ?_⟩
  · refine hgiven.reports.requests.trans ?_
    decide +kernel
  · refine hgiven.reports.entropies.counts.trans ?_
    decide +kernel
  · refine hgiven.reports.errors.trans ?_
    decide +kernel
  · refine hgiven.reports.rejections.trans ?_
    decide +kernel

end Service

end MinEntropy

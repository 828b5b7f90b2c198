import MinEntropy.Proofs.Metrics.Reconciliation
import MinEntropy.Proofs.Service.Hanging

/-! A service is a session of its coordinator: each request makes one step of the session, or
none. -/

namespace MinEntropy.Service

open Query (Parameters)

/-- The request asks for an assessment of the selection. -/
def HttpRequest.asks (r : HttpRequest) (selection : Selection) : Bool :=
  r.method = "POST" && r.path = "/api/v1/assess" &&
    match Query.parameters r.query with
    | .ok p => Selection.ofFlags? p.iid p.nonIid = some selection
    | .error _ => false

/-! ### One request -/

theorem asks_of_other {r : HttpRequest} (hroute : routeOf r ≠ .ok .assess)
    (selection : Selection) : r.asks selection = false := by
  rw [Ne, routeOf_eq_assess_iff] at hroute
  simp only [HttpRequest.asks, Bool.and_eq_false_iff, decide_eq_false_iff_not]
  exact .inl (not_and_or.1 hroute)

/-- The status of a failure. -/
def failureStatus : ErrorKind → Nat
  | .invalidInput => 422
  | .resourceExhausted => 503
  | .foreign => 500

theorem statusOf_failed (mode : Mode) (source : ModeError) :
    statusOf (.failed mode source) = failureStatus source.kind := by
  cases hkind : source.kind <;> simp [statusOf, AssessmentError.kind, failureStatus, hkind]

section Handle

variable (s : Service σ τ) (r : HttpRequest) (o : Occasion) (st : σ × τ)

/-- The step of the session that a request makes. -/
def stepOf? : Option Step :=
  if routeOf r = .ok .assess then
    if s.settings.maxUploadBytes < r.body.length then none
    else match Query.parameters r.query with
      | .error fault => some (.reject (queryRefusal fault))
      | .ok p => some (.assess (r.assessment p) o.took)
  else none

/-- The step that a request makes, with the answer of the coordinator. -/
def turn? : Option (Step × Answer) :=
  (s.stepOf? r o).map fun step => (step, (s.coordinator.step step st).1)

variable {s r} {p : Parameters}

theorem stepOf?_of_other (hroute : routeOf r ≠ .ok .assess) : s.stepOf? r o = none := by
  rw [stepOf?, if_neg hroute]

theorem stepOf?_of_tooLarge (hlimit : s.settings.maxUploadBytes < r.body.length) :
    s.stepOf? r o = none := by
  unfold stepOf?
  rw [if_pos hlimit, ite_self]

theorem stepOf?_of_malformed {fault : Query.Fault} (hroute : routeOf r = .ok .assess)
    (hlimit : r.body.length ≤ s.settings.maxUploadBytes)
    (hquery : Query.parameters r.query = .error fault) :
    s.stepOf? r o = some (.reject (queryRefusal fault)) := by
  rw [stepOf?, if_pos hroute, if_neg (Nat.not_lt.2 hlimit), hquery]

theorem stepOf?_of_reads (hroute : routeOf r = .ok .assess) (hreads : s.Reads r p) :
    s.stepOf? r o = some (.assess (r.assessment p) o.took) := by
  rw [stepOf?, if_pos hroute, if_neg (Nat.not_lt.2 hreads.length_le), hreads.parameters_eq]

variable (s r)

/-- A request leaves the state as the session would. -/
theorem state_handle :
    (s.handle r o st).2 = s.coordinator.after (s.stepOf? r o).toList st := by
  by_cases hroute : routeOf r = .ok .assess
  · rw [s.handle_of_assess o st hroute]
    rcases s.stages r with hlimit | ⟨fault, hlimit, hquery⟩ | ⟨p, hreads⟩
    · rw [s.assess_of_tooLarge o st hlimit, stepOf?_of_tooLarge o hlimit]
      rfl
    · rw [s.assess_of_malformed o st hlimit hquery, stepOf?_of_malformed o hroute hlimit hquery]
      rfl
    · rw [assess_of_reads o st hreads, stepOf?_of_reads o hroute hreads]
      rfl
  · rw [state_of_other hroute, stepOf?_of_other o hroute]
    rfl

end Handle

/-- What a request makes of the session, next to the response to it. -/
inductive Comes (r : HttpRequest) : Option (Step × Answer) → Handled → Prop
  | elsewhere {response : Response} (hroute : routeOf r ≠ .ok .assess)
      (hstatus : response.status ∈ [200, 404, 405]) : Comes r none ⟨response, none⟩
  | tooLarge {response : Response} (hroute : routeOf r = .ok .assess)
      (hstatus : response.status = 413) : Comes r none ⟨response, some .tooLarge⟩
  | refused {step : Step} {e : RequestError} {response : Response}
      (hroute : routeOf r = .ok .assess) (hreported : step.isReported = true)
      (hstatus : response.status = 400) :
      Comes r (some (step, .error (.rejected e)))
        ⟨response, some (.answered (.error (.rejected e)))⟩
  | completed {step : Step} {result : AssessmentResult} {response : Response}
      (hselects : ∀ selection, step.selects selection = r.asks selection)
      (hstatus : response.status = 200) :
      Comes r (some (step, .result result)) ⟨response, some (.answered (.ok result))⟩
  | completedLate {step : Step} {result : AssessmentResult} {response : Response}
      (hselects : ∀ selection, step.selects selection = r.asks selection)
      (hstatus : response.status = 504) :
      Comes r (some (step, .result result)) ⟨response, some .expired⟩
  | failed {step : Step} {mode : Mode} {source : ModeError} {response : Response}
      (hselects : ∀ selection, step.selects selection = r.asks selection)
      (hstatus : response.status = failureStatus source.kind) :
      Comes r (some (step, .error (.failed mode source)))
        ⟨response, some (.answered (.error (.failed mode source)))⟩
  | failedLate {step : Step} {mode : Mode} {source : ModeError} {response : Response}
      (hselects : ∀ selection, step.selects selection = r.asks selection)
      (hstatus : response.status = 504) :
      Comes r (some (step, .error (.failed mode source))) ⟨response, some .expired⟩

section Comes

variable {s : Service σ τ} {r : HttpRequest} {p : Parameters} (o : Occasion) (st : σ × τ)

theorem asks_of_reads (hroute : routeOf r = .ok .assess) (hreads : s.Reads r p) (took : Duration)
    (selection : Selection) :
    (Step.assess (r.assessment p) took).selects selection = r.asks selection := by
  obtain ⟨hmethod, hpath⟩ := routeOf_eq_assess_iff.1 hroute
  simp only [HttpRequest.asks, hmethod, hpath, hreads.parameters_eq]
  rfl

theorem ending_of_rejected (e : RequestError) :
    o.ending (.ok (.error (.rejected e))) = .answered (.error (.rejected e)) := by
  simp [Occasion.ending, askedSuite]

theorem status_metrics (id : String) (seen : τ) :
    (s.metricsResponse id seen).status ∈ [200, 404, 405] := by
  unfold metricsResponse
  split <;> simp

theorem comes_of_other (hroute : routeOf r ≠ .ok .assess) :
    Comes r none (s.handle r o st).1 := by
  cases hserved : routeOf r with
  | error route =>
    rw [s.handle_of_unserved o st hserved]
    cases route with
    | none => exact .elsewhere hroute (by simp)
    | some route => exact .elsewhere hroute (by simp)
  | ok route =>
    rw [s.handle_of_served o st hserved, delivered]
    cases route with
    | assess => exact absurd hserved hroute
    | health => split <;> exact .elsewhere hroute List.mem_cons_self
    | metrics => split <;> exact .elsewhere hroute (status_metrics (idOf r o) st.2)

/-- A request that can be read gets the answer of the coordinator, or none in time. -/
theorem comes_of_reads (hcalm : s.coordinator.observer.breaksAtStart = none)
    (hroute : routeOf r = .ok .assess) (hreads : s.Reads r p) :
    Comes r (s.turn? r o st) (s.handle r o st).1 := by
  have hselects := asks_of_reads hroute hreads o.took
  rw [turn?, stepOf?_of_reads o hroute hreads, s.handle_of_assess o st hroute,
    assess_of_reads o st hreads]
  cases hr : (r.assessment p).validate with
  | error e =>
    simp only [Option.map_some, Coordinator.step, s.coordinator.assess_of_rejected _ _ hr,
      ending_of_rejected]
    exact .refused hroute rfl rfl
  | ok selection =>
    simp only [Option.map_some, Coordinator.step, s.coordinator.assess_of_running _ _ hr hcalm]
    cases hrun : (s.coordinator.suite.runRequest (r.assessment p) st.1).1 with
    | ok result =>
      unfold Occasion.ending
      dsimp only
      split
      · exact .completedLate hselects rfl
      · exact .completed hselects rfl
    | error e =>
      obtain ⟨mode, source, rfl⟩ := Suite.failed_of_runRequest hrun
      unfold Occasion.ending
      dsimp only
      split
      · exact .failedLate hselects rfl
      · exact .failed hselects (statusOf_failed mode source)

theorem comes_handle (hcalm : s.coordinator.observer.breaksAtStart = none) :
    Comes r (s.turn? r o st) (s.handle r o st).1 := by
  by_cases hroute : routeOf r = .ok .assess
  · rcases s.stages r with hlimit | ⟨fault, hlimit, hquery⟩ | ⟨p, hreads⟩
    · rw [turn?, stepOf?_of_tooLarge o hlimit, s.handle_of_assess o st hroute,
        s.assess_of_tooLarge o st hlimit]
      exact .tooLarge hroute rfl
    · rw [turn?, stepOf?_of_malformed o hroute hlimit hquery, s.handle_of_assess o st hroute,
        s.assess_of_malformed o st hlimit hquery]
      exact .refused hroute rfl rfl
    · exact comes_of_reads o st hcalm hroute hreads
  · rw [turn?, stepOf?_of_other o hroute]
    exact comes_of_other o st hroute

end Comes

/-! ### Requests in turn -/

/-- A request, and the state that it meets. -/
structure Arrival (σ τ : Type) where
  request : HttpRequest
  occasion : Occasion
  state : σ × τ

namespace Arrival

variable (s : Service σ τ) (x : Arrival σ τ)

def handled : Handled := (s.handle x.request x.occasion x.state).1

def turn? : Option (Step × Answer) := s.turn? x.request x.occasion x.state

end Arrival

section Runs

variable (s : Service σ τ)

def arrivals : List (HttpRequest × Occasion) → σ × τ → List (Arrival σ τ)
  | [], _ => []
  | (r, o) :: rest, st => ⟨r, o, st⟩ :: arrivals rest (s.handle r o st).2

/-- The session that requests make. -/
def steps (visits : List (HttpRequest × Occasion)) : List Step :=
  visits.filterMap fun v => s.stepOf? v.1 v.2

theorem steps_cons (visit : HttpRequest × Occasion) (rest : List (HttpRequest × Occasion)) :
    s.steps (visit :: rest) = (s.stepOf? visit.1 visit.2).toList ++ s.steps rest := by
  unfold steps
  rw [List.filterMap_cons]
  cases s.stepOf? visit.1 visit.2 <;> rfl

variable (visits : List (HttpRequest × Occasion)) (st : σ × τ)

theorem map_handle_arrivals :
    ((s.arrivals visits st).map fun x => s.handle x.request x.occasion x.state) =
      s.handleAll visits st := by
  induction visits generalizing st with
  | nil => rfl
  | cons visit rest ih => exact congrArg (_ :: ·) (ih _)

theorem arrivals_take (n : Nat) :
    s.arrivals (visits.take n) st = (s.arrivals visits st).take n := by
  induction visits generalizing n st with
  | nil => simp [arrivals]
  | cons visit rest ih =>
    cases n with
    | zero => rfl
    | succ n => exact congrArg (_ :: ·) (ih _ n)

/-- The turns of the session are those of the requests. -/
theorem turns_arrivals :
    (s.arrivals visits st).filterMap (·.turn? s) =
      (s.steps visits).zip ((s.coordinator.run (s.steps visits) st).map (·.1)) := by
  induction visits generalizing st with
  | nil => rfl
  | cons visit rest ih =>
    obtain ⟨r, o⟩ := visit
    rw [arrivals, List.filterMap_cons, steps_cons, ih, s.state_handle]
    cases hstep : s.stepOf? r o with
    | none => simp [Arrival.turn?, turn?, hstep]
    | some step => simp [Arrival.turn?, turn?, hstep, Coordinator.run]

/-- Every request meets the state to which the session has come. -/
theorem state_of_arrival {i : Nat} {x : Arrival σ τ} (hx : (s.arrivals visits st)[i]? = some x) :
    x.state = s.coordinator.after (s.steps (visits.take i)) st := by
  induction visits generalizing st i with
  | nil => cases hx
  | cons visit rest ih =>
    cases i with
    | zero =>
      obtain rfl := Option.some.inj hx
      rfl
    | succ i =>
      rw [ih _ hx, s.state_handle, List.take_succ_cons, steps_cons, Coordinator.after_append]

end Runs

end MinEntropy.Service

import MinEntropy.Proofs.Service.Deadline
import MinEntropy.Proofs.Service.Steps

/-! Breakdowns. One of the observer ends the request that it is told of, and one of the suite is a
failure of the call in which it happens. Neither shows in any other response. -/

namespace MinEntropy

/-! ### Breakdowns that a suite reports -/

/-- The same reply, with a breakdown reported as an exception. -/
def Reply.reported : Reply → Reply
  | breakdown text =>
    failure (.exception SuiteError.exceptionCode (text.getD unknownBreakdown))
  | reply => reply

def Suite.reporting (s : Suite σ) : Suite σ where
  name := s.name
  answer call st := ((s.answer call st).1.reported, (s.answer call st).2)

namespace Suite

theorem invoke_reporting (s : Suite σ) : s.reporting.invoke = s.invoke := by
  funext call st
  rw [invoke_eq, invoke_eq]
  change ((s.answer call st).1.reported.guarded, _) = _
  cases (s.answer call st).1 <;> rfl

section Invoke

variable {s s' : Suite σ} (p : Prepared) (mode : Mode)

/-! Suites whose guarded calls agree run alike. -/

theorem runViews_congr (hinvoke : s.invoke = s'.invoke) (views : List Representation)
    (a : Aggregate) (st : σ) : s.runViews p mode views a st = s'.runViews p mode views a st := by
  induction views generalizing a st with
  | nil => rfl
  | cons view rest ih => simp only [runViews, hinvoke, ih]

theorem runMode_congr (hinvoke : s.invoke = s'.invoke) (st : σ) :
    s.runMode p mode st = s'.runMode p mode st := by
  simp only [runMode, runViews_congr p mode hinvoke]

theorem runSelected_congr (hinvoke : s.invoke = s'.invoke) (selected : Bool) (st : σ) :
    s.runSelected p mode selected st = s'.runSelected p mode selected st := by
  simp only [runSelected, runMode_congr p mode hinvoke]

theorem runRequest_congr (hinvoke : s.invoke = s'.invoke) (r : Request) (st : σ) :
    s.runRequest r st = s'.runRequest r st := by
  simp only [runRequest, runSelected_congr _ _ hinvoke]

end Invoke

end Suite

namespace Service

section Reporting

variable (s : Service σ τ)

def reporting : Service σ τ :=
  { s with coordinator := ⟨s.coordinator.suite.reporting, s.coordinator.observer⟩ }

theorem assess_reporting (r : HttpRequest) (o : Occasion) (st : σ × τ) :
    s.reporting.assess r o st = s.assess r o st := by
  have hrun := Suite.runRequest_congr s.coordinator.suite.invoke_reporting
  simp only [assess, Coordinator.assess, reporting, hrun]
  rfl

theorem handle_reporting (r : HttpRequest) (o : Occasion) (st : σ × τ) :
    s.reporting.handle r o st = s.handle r o st := by
  cases hroute : routeOf r with
  | error route => rw [s.handle_of_unserved o st hroute, s.reporting.handle_of_unserved o st hroute]
  | ok route =>
    rw [s.handle_of_served o st hroute, s.reporting.handle_of_served o st hroute]
    cases route with
    | assess =>
      have hresponse (ending : Ending) :
          ending.response s.reporting (idOf r o) = ending.response s (idOf r o) :=
        response_congr rfl _ _
      simp only [serveRoute, assess_reporting, hresponse]
    | health => rfl
    | metrics => rfl

/-- The guard takes breakdowns for what the suite could have reported. -/
theorem handleAll_reporting (visits : List (HttpRequest × Occasion)) (st : σ × τ) :
    s.reporting.handleAll visits st = s.handleAll visits st := by
  induction visits generalizing st with
  | nil => rfl
  | cons visit rest ih => simp only [handleAll, handle_reporting, ih]

end Reporting

end Service

/-! ### Calls that fail -/

/-- The call broke down, or the suite reported a failure other than a lack of memory. -/
def Exchange.IsForeign (x : Exchange) : Prop :=
  (∃ text, x.reply = .breakdown text) ∨ ∃ e, x.reply = .failure e ∧ ∀ what, e ≠ .outOfMemory what

theorem Exchange.isForeign_iff {x : Exchange} :
    x.IsForeign ↔ ∃ e, x.failure? = some e ∧ ∀ what, e ≠ .outOfMemory what := by
  obtain ⟨call, reply⟩ := x
  cases reply <;> simp [IsForeign, failure?]

namespace Service

section Blame

variable {s : Service σ τ} {r : HttpRequest} {o : Occasion} {st : σ × τ} {response : Response}
variable {xs : List Exchange} {events : List Event}

theorem Settles.response_of_failure (hsettles : s.Settles r o st response xs events)
    {x : Exchange} {e : SuiteError} (hx : x ∈ xs) (hfail : x.failure? = some e)
    (hother : ∀ what, e ≠ .outOfMemory what) :
    response = failure r o 500 x.call.mode (.suite e) "foreign" false := by
  cases hsettles with
  | @exhausted _ _ _ done last _ what _ _ hdone hlast =>
    rcases List.mem_append.1 hx with hx | hx
    · exact nomatch (hdone x hx).symm.trans hfail
    · rw [List.mem_singleton.1 hx, hlast] at hfail
      exact absurd (Option.some.inj hfail).symm (hother what)
  | @broken _ _ _ done last _ e' _ _ hdone hlast _ =>
    rcases List.mem_append.1 hx with hx | hx
    · exact nomatch (hdone x hx).symm.trans hfail
    · rw [List.mem_singleton.1 hx] at hfail ⊢
      rw [hlast] at hfail
      rw [Option.some.inj hfail]
  | completed _ _ hclean => exact nomatch (hclean x hx).symm.trans hfail
  | _ => exact absurd hx List.not_mem_nil

theorem Settles.isForeign_of_status (hsettles : s.Settles r o st response xs events)
    (hstatus : response.status = 500) : ∃ x ∈ xs, x.IsForeign := by
  cases hsettles with
  | @broken _ _ _ done last _ e _ _ _ hlast hother =>
    exact ⟨last, by simp, Exchange.isForeign_iff.2 ⟨e, hlast, hother⟩⟩
  | _ => exact absurd hstatus (by simp [rejection, failure])

/-- How the failures of calls show in the response to a request. -/
structure Blames (s : Service σ τ) (r : HttpRequest) (o : Occasion) (st : σ × τ) : Prop where
  broken : ∀ x ∈ s.asked r o st, ∀ text, x.reply = .breakdown text →
    (s.handle r o st).1.response = failure r o 500 x.call.mode
      (.suite (.exception SuiteError.exceptionCode (text.getD Reply.unknownBreakdown)))
      "foreign" false
  status_iff : (s.handle r o st).1.response.status = 500 ↔ ∃ x ∈ s.asked r o st, x.IsForeign
  /-- Where the suite reports nothing, only breakdowns make this status. -/
  status_iff_broken : (∀ x ∈ s.asked r o st, ∀ e, x.reply ≠ .failure e) →
    ((s.handle r o st).1.response.status = 500 ↔
      ∃ x ∈ s.asked r o st, ∃ text, x.reply = .breakdown text)

theorem asked_of_other (hroute : routeOf r ≠ .ok .assess) : s.asked r o st = [] := by
  rw [asked, state_of_other hroute]

theorem status_of_other (hroute : routeOf r ≠ .ok .assess) :
    (s.handle r o st).1.response.status ≠ 500 := by
  have hcomes := comes_of_other (s := s) o st hroute
  generalize (s.handle r o st).1 = h at hcomes ⊢
  cases hcomes with
  | @elsewhere response _ hstatus =>
    intro hbroken
    rw [show response.status = 500 from hbroken] at hstatus
    exact absurd hstatus (by decide)
  | tooLarge hserved => exact absurd hserved hroute

theorem status_eq_iff_isForeign (hcalm : s.coordinator.observer.breaksAtStart = none)
    (hhangs : o.hangs = false) (st : σ × τ) :
    (s.handle r o st).1.response.status = 500 ↔ ∃ x ∈ s.asked r o st, x.IsForeign := by
  by_cases hroute : routeOf r = .ok .assess
  · have hsettles := settles_of_handle hcalm hroute hhangs st
    refine ⟨hsettles.isForeign_of_status, ?_⟩
    rintro ⟨x, hx, hforeign⟩
    obtain ⟨e, hfail, hother⟩ := Exchange.isForeign_iff.1 hforeign
    rw [hsettles.response_of_failure hx hfail hother]
    rfl
  · rw [asked_of_other hroute]
    exact iff_of_false (status_of_other hroute) (by simp)

theorem blames_handle (hcalm : s.coordinator.observer.breaksAtStart = none)
    (hhangs : o.hangs = false) (st : σ × τ) : s.Blames r o st := by
  have hstatus := status_eq_iff_isForeign (r := r) hcalm hhangs st
  refine ⟨fun x hx text hbroken => ?_, hstatus, fun hunreported => hstatus.trans ?_⟩
  · -- only requests to assess ask the suite
    by_cases hroute : routeOf r = .ok .assess
    · have hfail : x.failure? = some (.exception SuiteError.exceptionCode
          (text.getD Reply.unknownBreakdown)) := by
        rw [Exchange.failure?, hbroken]
      exact (settles_of_handle hcalm hroute hhangs st).response_of_failure hx hfail (by simp)
    · rw [asked_of_other hroute] at hx
      exact absurd hx List.not_mem_nil
  · constructor
    · rintro ⟨x, hx, hbroken | ⟨e, hreply, -⟩⟩
      · exact ⟨x, hx, hbroken⟩
      · exact absurd hreply (hunreported x hx e)
    · rintro ⟨x, hx, hbroken⟩
      exact ⟨x, hx, .inl hbroken⟩

end Blame

/-! ### An observer that breaks down -/

/-- The request gets as far as the announcement of its assessment. -/
structure Starts (s : Service σ τ) (r : HttpRequest) : Prop where
  method_eq : r.method = "POST"
  path_eq : r.path = "/api/v1/assess"
  sound : ∃ p selection, s.Reads r p ∧ (r.assessment p).IsSound selection

def account? (s : Service σ τ) (seen : τ) : Option Metrics.Registry :=
  s.metrics.map fun account => account seen

/-- The account that is given out takes in nothing of what is heard. -/
def Detached (s : Service σ τ) : Prop :=
  ∀ account, s.metrics = some account →
    ∀ e seen, account (s.coordinator.observer.note e seen) = account seen

section Starting

variable {s : Service σ τ} {r : HttpRequest} {text : String}

theorem Starts.routeOf_eq (hstarts : s.Starts r) : routeOf r = .ok .assess :=
  routeOf_eq_assess_iff.2 ⟨hstarts.method_eq, hstarts.path_eq⟩

/-- Where there is no announcement the settings decide, and neither the suite nor an observer. -/
theorem assess_of_not_starts {s' : Service ρ υ} (hsettings : s.settings = s'.settings)
    (hroute : routeOf r = .ok .assess) (hstarts : ¬ s.Starts r) (o o' : Occasion) (st : σ × τ)
    (st' : ρ × υ) : (s.assess r o st).1 = (s'.assess r o' st').1 := by
  rcases s.stages r with hlimit | ⟨fault, hlimit, hquery⟩ | ⟨p, hreads⟩
  · rw [s.assess_of_tooLarge o st hlimit, s'.assess_of_tooLarge o' st' (hsettings ▸ hlimit)]
  · rw [s.assess_of_malformed o st hlimit hquery,
      s'.assess_of_malformed o' st' (hsettings ▸ hlimit) hquery]
    rfl
  · have hreads' : s'.Reads r p := ⟨hsettings ▸ hreads.length_le, hreads.parameters_eq⟩
    rw [assess_of_reads o st hreads, assess_of_reads o' st' hreads']
    cases hr : (r.assessment p).validate with
    | error e =>
      rw [s.coordinator.assess_of_rejected _ _ hr, s'.coordinator.assess_of_rejected _ _ hr,
        ending_of_rejected, ending_of_rejected]
    | ok selection =>
      obtain ⟨hmethod, hpath⟩ := routeOf_eq_assess_iff.1 hroute
      have hsound := Request.validate_eq_ok_iff.1 hr
      exact absurd ⟨hmethod, hpath, p, selection, hreads, hsound⟩ hstarts

theorem handle_of_starting (hstarts : s.Starts r)
    (hbreaks : s.coordinator.observer.breaksAtStart = some text) (o : Occasion) (st : σ × τ) :
    s.handle r o st =
      (⟨(Ending.aborted text).response s (idOf r o), some (.aborted text)⟩, st) := by
  obtain ⟨p, selection, hreads, hsound⟩ := hstarts.sound
  have hr := Request.validate_eq_ok_iff.2 hsound
  rw [s.handle_of_assess o st hstarts.routeOf_eq, assess_of_reads o st hreads,
    s.coordinator.assess_of_breaking _ _ hr hbreaks]
  rfl

theorem suite_of_breaking (hbreaks : s.coordinator.observer.breaksAtStart = some text)
    (r : HttpRequest) (o : Occasion) (st : σ × τ) : (s.handle r o st).2.1 = st.1 := by
  by_cases hroute : routeOf r = .ok .assess
  · rw [s.handle_of_assess o st hroute]
    rcases s.stages r with hlimit | ⟨fault, hlimit, hquery⟩ | ⟨p, hreads⟩
    · rw [s.assess_of_tooLarge o st hlimit]
    · rw [s.assess_of_malformed o st hlimit hquery]
      rfl
    · rw [assess_of_reads o st hreads]
      cases hr : (r.assessment p).validate with
      | error e => rw [s.coordinator.assess_of_rejected _ _ hr]
      | ok selection => rw [s.coordinator.assess_of_breaking _ _ hr hbreaks]
  · rw [state_of_other hroute]

theorem asked_of_breaking (hbreaks : s.coordinator.observer.breaksAtStart = some text)
    (r : HttpRequest) (o : Occasion) (st : σ × τ) : s.asked r o st = [] := by
  have hwatched : s.watched.coordinator.observer.breaksAtStart = some text := hbreaks
  rw [asked, suite_of_breaking hwatched]

end Starting

section Accounts

variable {s : Service σ τ}

theorem account?_of_detached (hdetached : s.Detached) (e : Event) (seen : τ) :
    s.account? (s.coordinator.observer.note e seen) = s.account? seen := by
  unfold account?
  cases haccount : s.metrics with
  | none => rfl
  | some account => exact congrArg some (hdetached account haccount e seen)

theorem account?_handle (hdetached : s.Detached) (r : HttpRequest) (o : Occasion) (st : σ × τ) :
    s.account? (s.handle r o st).2.2 = s.account? st.2 := by
  have hnote := account?_of_detached hdetached
  rw [s.state_handle]
  cases s.stepOf? r o with
  | none => rfl
  | some step =>
    rw [Option.toList_some, Coordinator.after_cons, Coordinator.after_nil]
    cases step with
    | reject e => exact hnote _ _
    | assessMode data wordSize mode => rfl
    | assess q took =>
      rcases s.coordinator.assess_cases q with
        ⟨e, hr⟩ | ⟨selection, text, hr, hbreaks⟩ | ⟨selection, hr, hcalm⟩
      · simp only [Coordinator.step, s.coordinator.assess_of_rejected _ _ hr, hnote]
      · simp only [Coordinator.step, s.coordinator.assess_of_breaking _ _ hr hbreaks]
      · simp only [Coordinator.step, s.coordinator.assess_of_running _ _ hr hcalm, hnote]

theorem account?_handleAll (hdetached : s.Detached) (visits : List (HttpRequest × Occasion))
    (st : σ × τ) : ∀ x ∈ s.handleAll visits st, s.account? x.2.2 = s.account? st.2 := by
  induction visits generalizing st with
  | nil => exact fun x hx => absurd hx List.not_mem_nil
  | cons visit rest ih =>
    have hstep := account?_handle hdetached visit.1 visit.2 st
    unfold handleAll
    rw [List.forall_mem_cons]
    exact ⟨hstep, fun x hx => (ih _ x hx).trans hstep⟩

end Accounts

/-! ### Two services -/

section Isolation

variable {s : Service σ τ} {s' : Service ρ υ} {r : HttpRequest} {text : String}

theorem metricsResponse_congr {seen : τ} {seen' : υ}
    (haccount : s.account? seen = s'.account? seen') (id : String) :
    s.metricsResponse id seen = s'.metricsResponse id seen' := by
  unfold account? at haccount
  unfold metricsResponse
  cases hfirst : s.metrics <;> cases hsecond : s'.metrics <;> simp_all

theorem unnamed_delivered {f : String → Response} (hf : IsNamed f) {h h' : Handled}
    {o o' : Occasion} (hfirst : h.response = f (idOf r o)) (hsecond : h'.response = f (idOf r o')) :
    (delivered r h).response.unnamed r = (delivered r h').response.unnamed r := by
  unfold delivered
  split
  · rw [hfirst, hsecond]
    exact unnamed_congr hf.withoutBody r o o'
  · rw [hfirst, hsecond]
    exact unnamed_congr hf r o o'

/-- A request that is not announced gets the same response from all services with the same
settings, except that each gives out its own account. -/
theorem unnamed_handle (hsettings : s.settings = s'.settings) (hstarts : ¬ s.Starts r)
    {st : σ × τ} {st' : ρ × υ}
    (haccount : routeOf r = .ok .metrics → s.account? st.2 = s'.account? st'.2)
    (o o' : Occasion) :
    (s.handle r o st).1.response.unnamed r = (s'.handle r o' st').1.response.unnamed r := by
  cases hroute : routeOf r with
  | error route =>
    rw [s.handle_of_unserved o st hroute, s'.handle_of_unserved o' st' hroute]
    exact unnamed_congr (isNamed_unserved route) r o o'
  | ok route =>
    cases route with
    | assess =>
      rw [s.handle_of_assess o st hroute, s'.handle_of_assess o' st' hroute,
        assess_of_not_starts hsettings hroute hstarts o o' st st', ← response_congr hsettings]
      exact unnamed_congr (isNamed_ending _) r o o'
    | health =>
      rw [s.handle_of_served o st hroute, s'.handle_of_served o' st' hroute]
      exact unnamed_delivered isNamed_health rfl rfl
    | metrics =>
      rw [s.handle_of_served o st hroute, s'.handle_of_served o' st' hroute]
      exact unnamed_delivered (isNamed_metrics st.2) rfl
        (metricsResponse_congr (haccount hroute) _).symm

/-- What two services make of a request when the observer of the first breaks down at every start:
the responses, each with the state that follows it. -/
structure Isolates (s : Service σ τ) (s' : Service ρ υ) (text : String) (w : Rerun)
    (x : Handled × (σ × τ)) (y : Handled × (ρ × υ)) : Prop where
  aborted : s.Starts w.request →
    x.1.response = errorResponse 500 (idOf w.request w.first) (breakdownMessage text) "foreign"
      false none
  unnamed_eq : ¬ s.Starts w.request →
    (routeOf w.request = .ok .metrics → s.account? x.2.2 = s'.account? y.2.2) →
    x.1.response.unnamed w.request = y.1.response.unnamed w.request

theorem isolates_handle (hbreaks : s.coordinator.observer.breaksAtStart = some text)
    (hsettings : s.settings = s'.settings) (w : Rerun) (st : σ × τ) (st' : ρ × υ) :
    s.Isolates s' text w (s.handle w.request w.first st) (s'.handle w.request w.second st') := by
  refine ⟨fun hstarts => ?_, fun hstarts haccount => ?_⟩
  · rw [handle_of_starting hstarts hbreaks, response_aborted]
  · refine unnamed_handle hsettings hstarts (fun hroute => ?_) w.first w.second
    have hother : routeOf w.request ≠ .ok .assess := by simp [hroute]
    have hsame := haccount hroute
    rwa [state_of_other hother, state_of_other hother] at hsame

theorem isolates_handleAll (hbreaks : s.coordinator.observer.breaksAtStart = some text)
    (hsettings : s.settings = s'.settings) (runs : List Rerun) (st : σ × τ) (st' : ρ × υ)
    {i : Nat} {w : Rerun} (hw : runs[i]? = some w) :
    ∃ x y, (s.handleAll (runs.map Rerun.inFirst) st)[i]? = some x ∧
      (s'.handleAll (runs.map Rerun.inSecond) st')[i]? = some y ∧ s.Isolates s' text w x y := by
  induction runs generalizing st st' i with
  | nil => cases hw
  | cons v rest ih =>
    cases i with
    | zero =>
      obtain rfl : v = w := Option.some.inj hw
      exact ⟨_, _, rfl, rfl, isolates_handle hbreaks hsettings v st st'⟩
    | succ i => exact ih _ _ hw

end Isolation

/-- An observer that breaks down at every start costs the requests that are announced their
responses and no others, and the suite is never asked. A suite that breaks down is blamed where a
call that broke down was reached, and all responses are as if it had reported an exception. -/
theorem breakdowns_isolated {s : Service σ τ} {s' : Service ρ υ} {text : String}
    (hbreaks : s.coordinator.observer.breaksAtStart = some text)
    (hcalm : s'.coordinator.observer.breaksAtStart = none) (hsettings : s.settings = s'.settings)
    (runs : List Rerun) (st : σ × τ) (st' : ρ × υ) :
    let first := s.handleAll (runs.map Rerun.inFirst) st
    let second := s'.handleAll (runs.map Rerun.inSecond) st'
    (∀ r o st, s.asked r o st = [] ∧ (s.handle r o st).2.1 = st.1) ∧
    (∀ (i : Nat) (w : Rerun), runs[i]? = some w →
      ∃ x y, first[i]? = some x ∧ second[i]? = some y ∧ s.Isolates s' text w x y) ∧
    (s.Detached → s'.Detached → s.account? st.2 = s'.account? st'.2 →
      ∀ x ∈ first, ∀ y ∈ second, s.account? x.2.2 = s'.account? y.2.2) ∧
    (∀ v ∈ s'.arrivals (runs.map Rerun.inSecond) st', v.occasion.hangs = false →
      s'.Blames v.request v.occasion v.state) ∧
    second = s'.reporting.handleAll (runs.map Rerun.inSecond) st' := by
  intro first second
  refine ⟨fun r o st => ⟨asked_of_breaking hbreaks r o st, suite_of_breaking hbreaks r o st⟩,
    fun i w hw => isolates_handleAll hbreaks hsettings runs st st' hw, ?_,
    fun v _ hhangs => blames_handle hcalm hhangs v.state, (s'.handleAll_reporting _ st').symm⟩
  intro hdetached hdetached' hstart x hx y hy
  rw [account?_handleAll hdetached _ _ x hx, account?_handleAll hdetached' _ _ y hy, hstart]

/-- The suite would hang over the first request, which the observer ends; where the observer keeps
quiet the suite breaks down over it. The second request selects nothing. -/
theorem breakdowns_isolated_worn_out :
    let s : Service (List Reply) Unit := ⟨.default, ⟨.replaying "trial", .breaking "full"⟩, none⟩
    let s' : Service (List Reply) Metrics.Registry :=
      ⟨.default, ⟨.replaying "trial", .accounting⟩, some id⟩
    let st' : List Reply × Metrics.Registry := ([.breakdown (some "worn out")], .empty)
    let assess : HttpRequest := ⟨"POST", "/api/v1/assess?iid=true", [], [0, 1, 2]⟩
    let undecided : HttpRequest := ⟨"POST", "/api/v1/assess", [], [0, 1, 2]⟩
    let o : Occasion := ⟨"two", ⟨1, 0⟩, false⟩
    let runs : List Rerun := [
      ⟨assess, ⟨"one", ⟨400, 0⟩, true⟩, o⟩,
      ⟨undecided, ⟨"three", ⟨0, 0⟩, false⟩, ⟨"four", ⟨0, 0⟩, false⟩⟩]
    let first := s.handleAll (runs.map Rerun.inFirst) ([], ())
    let second := s'.handleAll (runs.map Rerun.inSecond) st'
    first.map (·.1.response.status) = [500, 400] ∧
    second.map (·.1.response.status) = [500, 400] ∧
    (∃ x, first[0]? = some x ∧
      x.1.response = errorResponse 500 "one" (breakdownMessage "full") "foreign" false none) ∧
    (s'.handle assess o st').1.response = failure assess o 500 .iid
      (.suite (.exception (-2) "worn out")) "foreign" false ∧
    ∃ x y, first[1]? = some x ∧ second[1]? = some y ∧
      x.1.response.unnamed undecided = y.1.response.unnamed undecided := by
  intro s s' st' assess undecided o runs first second
  have hbreaks : s.coordinator.observer.breaksAtStart = some "full" := rfl
  have hcalm : s'.coordinator.observer.breaksAtStart = none := rfl
  obtain ⟨-, hisolates, -, hblames, -⟩ := breakdowns_isolated hbreaks hcalm rfl runs ([], ()) st'
  refine ⟨by decide +kernel, by decide +kernel, ?_, ?_, ?_⟩
  · obtain ⟨x, _, hx, _, hxy⟩ := hisolates 0 _ rfl
    have hstarts : s.Starts assess :=
      ⟨rfl, by decide +kernel, ⟨0, true, false⟩, .iid, ⟨by decide, by decide +kernel⟩,
        ⟨by decide, by decide, rfl⟩⟩
    have hname : idOf assess ⟨"one", ⟨400, 0⟩, true⟩ = "one" := by decide +kernel
    have haborted := hxy.aborted hstarts
    rw [hname] at haborted
    exact ⟨x, hx, haborted⟩
  · have hasked : (s'.asked assess o st').any (fun x => match x.reply with
        | .breakdown text => decide (x.call.mode = .iid ∧ text = some "worn out")
        | _ => false) = true := by
      decide +kernel
    obtain ⟨x, hx, hmatch⟩ := List.any_eq_true.1 hasked
    split at hmatch
    · rename_i text hreply
      obtain ⟨hmode, rfl⟩ := of_decide_eq_true hmatch
      rw [(hblames ⟨assess, o, st'⟩ List.mem_cons_self rfl).broken x hx _ hreply, hmode]
      rfl
    · cases hmatch
  · obtain ⟨x, y, hx, hy, hxy⟩ := hisolates 1 _ rfl
    have hstarts : ¬ s.Starts undecided := by
      rintro ⟨-, -, p, selection, hreads, hsound⟩
      obtain rfl : p = ⟨0, false, false⟩ :=
        Except.ok.inj (hreads.parameters_eq.symm.trans (by decide +kernel))
      exact nomatch hsound.flags_eq
    refine ⟨x, y, hx, hy, hxy.unnamed_eq hstarts fun hroute => ?_⟩
    exact absurd hroute (by decide +kernel)

end Service

end MinEntropy

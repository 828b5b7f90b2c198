import MinEntropy.Proofs.Service.Documents
import MinEntropy.Proofs.Service.Essence
import MinEntropy.Proofs.Service.Hanging

/-! Two runs that differ in when the suite hangs, and in times. They differ in the responses to the
requests that keep waiting, and in what shows times. -/

namespace MinEntropy.Service

/-- The account that is given out takes in events as they are, all of them, none, or those of some
kind; how long anything took does not decide which. -/
def Attached (s : Service σ τ) : Prop :=
  ∀ account, s.metrics = some account → ∃ heeds : Event → Bool, ∀ e seen,
    account (s.coordinator.observer.note e seen) =
      if heeds e.untimed then Metrics.Registry.note e (account seen) else account seen

/-- Two states of a service under watch that agree apart from times. -/
structure Alike (s : Service σ τ) (x y : (σ × List Exchange) × (τ × List Event)) : Prop where
  suite_eq : x.1 = y.1
  events_eq : x.2.2.map Event.untimed = y.2.2.map Event.untimed
  accounts_eq : ∀ account, s.metrics = some account →
    (account x.2.1).untimed = (account y.2.1).untimed

namespace Alike

variable {s : Service σ τ} {x y : (σ × List Exchange) × (τ × List Event)}
variable {r : HttpRequest} {o o' : Occasion}

theorem note (halike : s.Alike x y) (hattached : s.Attached) {e e' : Event}
    (he : e.untimed = e'.untimed) :
    s.Alike (x.1, s.coordinator.watched.observer.note e x.2)
      (y.1, s.coordinator.watched.observer.note e' y.2) := by
  obtain ⟨hsuite, hevents, haccounts⟩ := halike
  refine ⟨hsuite, ?_, fun account haccount => ?_⟩
  · change (x.2.2 ++ [e]).map _ = (y.2.2 ++ [e']).map _
    rw [List.map_append, List.map_append, hevents, List.map_singleton, List.map_singleton, he]
  · change (account (s.coordinator.observer.note e x.2.1)).untimed =
      (account (s.coordinator.observer.note e' y.2.1)).untimed
    obtain ⟨heeds, htakes⟩ := hattached account haccount
    rw [htakes, htakes, he]
    by_cases hheeds : heeds e'.untimed
    · rw [if_pos hheeds, if_pos hheeds, Metrics.Registry.untimed_note e,
        Metrics.Registry.untimed_note e', he, haccounts account haccount]
    · rw [if_neg hheeds, if_neg hheeds]
      exact haccounts account haccount

theorem untimed_ending (selection : Selection) (took took' : Duration)
    (answer : Except AssessmentError AssessmentResult) :
    (Coordinator.ending selection took answer).untimed =
      (Coordinator.ending selection took' answer).untimed := by
  cases answer <;> rfl

/-- The suite is asked the same and the observer hears the same, whatever the time. -/
theorem coordinator_assess (halike : s.Alike x y) (hattached : s.Attached)
    (hcalm : s.coordinator.observer.breaksAtStart = none) (q : Request) (took took' : Duration) :
    (s.coordinator.watched.assess q took x).1 = (s.coordinator.watched.assess q took' y).1 ∧
      s.Alike (s.coordinator.watched.assess q took x).2
        (s.coordinator.watched.assess q took' y).2 := by
  cases hr : q.validate with
  | error e =>
    rw [Coordinator.assess_of_rejected _ _ x hr, Coordinator.assess_of_rejected _ _ y hr]
    exact ⟨rfl, halike.note hattached rfl⟩
  | ok selection =>
    have hwatched : s.coordinator.watched.observer.breaksAtStart = none := hcalm
    rw [Coordinator.assess_of_running _ _ x hr hwatched,
      Coordinator.assess_of_running _ _ y hr hwatched, halike.suite_eq]
    -- the suites go on from one state, so only the last event can tell the runs apart
    have hran : s.Alike ((s.coordinator.watched.suite.runRequest q y.1).2, x.2)
        ((s.coordinator.watched.suite.runRequest q y.1).2, y.2) :=
      ⟨rfl, halike.events_eq, halike.accounts_eq⟩
    exact ⟨rfl, (hran.note hattached rfl).note hattached (untimed_ending ..)⟩

theorem assess (halike : s.Alike x y) (hattached : s.Attached)
    (hcalm : s.coordinator.observer.breaksAtStart = none) (ho : o.hangs = false)
    (ho' : o'.hangs = false) :
    (s.watched.assess r o x).1 = (s.watched.assess r o' y).1 ∧
      s.Alike (s.watched.assess r o x).2 (s.watched.assess r o' y).2 := by
  rcases s.watched.stages r with hlimit | ⟨fault, hlimit, hquery⟩ | ⟨p, hreads⟩
  · rw [s.watched.assess_of_tooLarge _ _ hlimit, s.watched.assess_of_tooLarge _ _ hlimit]
    exact ⟨rfl, halike⟩
  · rw [s.watched.assess_of_malformed _ _ hlimit hquery,
      s.watched.assess_of_malformed _ _ hlimit hquery]
    exact ⟨rfl, halike.note hattached rfl⟩
  · obtain ⟨hanswer, hstates⟩ :=
      halike.coordinator_assess hattached hcalm (r.assessment p) o.took o'.took
    have hending : o.ending = o'.ending := by
      funext answer
      cases answer <;> simp [Occasion.ending, ho, ho']
    rw [assess_of_reads o x hreads, assess_of_reads o' y hreads, hending]
    exact ⟨congrArg o'.ending hanswer, hstates⟩

theorem metricsResponse (halike : s.Alike x y) (id : String) :
    (s.watched.metricsResponse id x.2).untimed = (s.watched.metricsResponse id y.2).untimed := by
  rw [metricsResponse_watched, metricsResponse_watched]
  unfold Service.metricsResponse
  cases haccount : s.metrics with
  | none => rfl
  | some account =>
    have huntimed := halike.accounts_eq account haccount
    have hlines : (account x.2.1).stableLines = (account y.2.1).stableLines := by
      rw [← Metrics.Registry.stableLines_untimed, huntimed, Metrics.Registry.stableLines_untimed]
    simp [Response.untimed, hlines]

theorem serveRoute (halike : s.Alike x y) (hattached : s.Attached)
    (hcalm : s.coordinator.observer.breaksAtStart = none) (ho : o.hangs = false)
    (ho' : o'.hangs = false) (route : Route) :
    ∃ f g, IsNamed f ∧ IsNamed g ∧ (∀ id, (f id).untimed = (g id).untimed) ∧ ∀ id id',
      (s.watched.serveRoute route id r o x).1.response = f id ∧
      (s.watched.serveRoute route id' r o' y).1.response = g id' ∧
      s.Alike (s.watched.serveRoute route id r o x).2
        (s.watched.serveRoute route id' r o' y).2 := by
  cases route with
  | assess =>
    obtain ⟨hending, hstates⟩ := halike.assess (r := r) hattached hcalm ho ho'
    refine ⟨_, _, isNamed_ending (s.watched.assess r o x).1,
      isNamed_ending (s.watched.assess r o' y).1, fun id => ?_, fun id id' => ⟨rfl, rfl, hstates⟩⟩
    rw [hending]
  | health =>
    exact ⟨_, _, isNamed_health, isNamed_health, fun _ => rfl, fun _ _ => ⟨rfl, rfl, halike⟩⟩
  | metrics =>
    exact ⟨_, _, isNamed_metrics x.2, isNamed_metrics y.2, halike.metricsResponse,
      fun _ _ => ⟨rfl, rfl, halike⟩⟩

/-- Requests that do not wait for the suite are answered alike. -/
theorem handle (halike : s.Alike x y) (hattached : s.Attached)
    (hcalm : s.coordinator.observer.breaksAtStart = none) (ho : o.hangs = false)
    (ho' : o'.hangs = false) :
    s.Alike (s.watched.handle r o x).2 (s.watched.handle r o' y).2 ∧
      (s.watched.handle r o x).1.response.essence r =
        (s.watched.handle r o' y).1.response.essence r := by
  cases hroute : routeOf r with
  | error route =>
    rw [s.watched.handle_of_unserved o x hroute, s.watched.handle_of_unserved o' y hroute]
    have hnamed := isNamed_unserved route
    exact ⟨halike, essence_congr hnamed hnamed (fun _ => rfl) r o o'⟩
  | ok route =>
    obtain ⟨f, g, hf, hg, hsame, hserve⟩ :=
      halike.serveRoute (r := r) hattached hcalm ho ho' route
    obtain ⟨hresponse, hresponse', hstates⟩ := hserve (idOf r o) (idOf r o')
    rw [s.watched.handle_of_served o x hroute, s.watched.handle_of_served o' y hroute]
    refine ⟨hstates, ?_⟩
    unfold delivered
    split
    · rw [hresponse, hresponse']
      exact essence_congr hf.withoutBody hg.withoutBody
        (fun id => by rw [untimed_withoutBody, untimed_withoutBody, hsame]) r o o'
    · rw [hresponse, hresponse']
      exact essence_congr hf hg hsame r o o'

end Alike

/-- A request in two runs. -/
structure Rerun where
  request : HttpRequest
  first : Occasion
  second : Occasion

def Rerun.inFirst (w : Rerun) : HttpRequest × Occasion := (w.request, w.first)

def Rerun.inSecond (w : Rerun) : HttpRequest × Occasion := (w.request, w.second)

/-- What two runs make of a request: its responses, each with the state that follows it. -/
structure Compares (s : Service σ τ) (w : Rerun)
    (x y : Handled × ((σ × List Exchange) × (τ × List Event))) : Prop where
  alike : s.Alike x.2 y.2
  essence_eq : w.first.hangs = w.second.hangs ∨ ¬ s.Reaches w.request →
    x.1.response.essence w.request = y.1.response.essence w.request
  expired : s.Reaches w.request → w.second.hangs = true →
    y.1.response = errorResponse 504 (idOf w.request w.second) s.deadlineMessage
      "resource_exhausted" true none
  status_iff : y.1.response.status = 504 ↔ s.Reaches w.request ∧ w.second.hangs = true

section Runs

variable {s : Service σ τ}

theorem response_of_hanging (hcalm : s.coordinator.observer.breaksAtStart = none)
    {r : HttpRequest} {o : Occasion} (hreaches : s.Reaches r) (hhangs : o.hangs = true)
    (x : (σ × List Exchange) × (τ × List Event)) :
    (s.watched.handle r o x).1.response = Ending.expired.response s.watched (idOf r o) := by
  rw [handle_of_hanging (reaches_watched.2 hreaches) hcalm hhangs]

/-- Where both runs wait in vain or neither does, they answer alike. -/
theorem essence_of_same (hcalm : s.coordinator.observer.breaksAtStart = none)
    (hattached : s.Attached) {x y : (σ × List Exchange) × (τ × List Event)}
    (halike : s.Alike x y) {r : HttpRequest} {o o' : Occasion}
    (hsame : s.Reaches r ∧ o.hangs = true ↔ s.Reaches r ∧ o'.hangs = true) :
    (s.watched.handle r o x).1.response.essence r =
      (s.watched.handle r o' y).1.response.essence r := by
  by_cases hwaits : s.Reaches r ∧ o'.hangs = true
  · obtain ⟨hreaches, hhangs⟩ := hsame.2 hwaits
    rw [response_of_hanging hcalm hreaches hhangs, response_of_hanging hcalm hreaches hwaits.2]
    exact essence_congr (isNamed_ending .expired) (isNamed_ending .expired) (fun _ => rfl) _ _ _
  · have hwaits' : ¬ (s.Reaches r ∧ o.hangs = true) := mt hsame.1 hwaits
    rw [← reaches_watched] at hwaits hwaits'
    rw [handle_calmly hwaits' hcalm, handle_calmly hwaits hcalm]
    exact (halike.handle hattached hcalm rfl rfl).2

theorem compares_handle (hcalm : s.coordinator.observer.breaksAtStart = none)
    (hattached : s.Attached) {x y : (σ × List Exchange) × (τ × List Event)}
    (halike : s.Alike x y) (w : Rerun) :
    s.Compares w (s.watched.handle w.request w.first x)
      (s.watched.handle w.request w.second y) := by
  have hwatched : s.watched.coordinator.observer.breaksAtStart = none := hcalm
  constructor
  case alike =>
    rw [state_calmly (o := w.first) hwatched, state_calmly (o := w.second) hwatched]
    exact (halike.handle hattached hcalm rfl rfl).1
  case essence_eq =>
    rintro (hsame | hother)
    · exact essence_of_same hcalm hattached halike (by rw [hsame])
    · exact essence_of_same hcalm hattached halike (by simp [hother])
  case expired =>
    intro hreaches hsecond
    rw [response_of_hanging hcalm hreaches hsecond, response_expired]
    rfl
  case status_iff =>
    by_cases hwaits : s.Reaches w.request ∧ w.second.hangs = true
    · rw [response_of_hanging hcalm hwaits.1 hwaits.2]
      exact iff_of_true rfl hwaits
    · rw [handle_calmly (by rwa [reaches_watched]) hwatched]
      exact iff_of_false (status_ne_of_calm rfl y) hwaits

/-- Two runs stay alike through any requests. -/
theorem compares_handleAll (hcalm : s.coordinator.observer.breaksAtStart = none)
    (hattached : s.Attached) (runs : List Rerun) {x y : (σ × List Exchange) × (τ × List Event)}
    (halike : s.Alike x y) {i : Nat} {w : Rerun} (hw : runs[i]? = some w) :
    ∃ x' y', (s.watched.handleAll (runs.map Rerun.inFirst) x)[i]? = some x' ∧
      (s.watched.handleAll (runs.map Rerun.inSecond) y)[i]? = some y' ∧ s.Compares w x' y' := by
  induction runs generalizing x y i with
  | nil => cases hw
  | cons v rest ih =>
    have hstep := compares_handle hcalm hattached halike v
    cases i with
    | zero =>
      obtain rfl : v = w := Option.some.inj hw
      exact ⟨_, _, rfl, rfl, hstep⟩
    | succ i => exact ih hstep.alike hw

end Runs

/-- A suite that hangs changes the responses to the requests that wait for it, which are then those
that ask it anything, and no others. The suite is asked the same, the observer hears the same, and
the account is the same, times apart. -/
theorem handleAll_hanging {s : Service σ τ} (hcalm : s.coordinator.observer.breaksAtStart = none)
    (hattached : s.Attached) (runs : List Rerun) (st : σ × τ) :
    let first := s.watched.handleAll (runs.map Rerun.inFirst) ((st.1, []), (st.2, []))
    let second := s.watched.handleAll (runs.map Rerun.inSecond) ((st.1, []), (st.2, []))
    (∀ (i : Nat) (w : Rerun), runs[i]? = some w →
      ∃ x y, first[i]? = some x ∧ second[i]? = some y ∧ s.Compares w x y) ∧
    (first.map fun x => (x.1, x.2.1.1, x.2.2.1)) = s.handleAll (runs.map Rerun.inFirst) st ∧
    (second.map fun y => (y.1, y.2.1.1, y.2.2.1)) = s.handleAll (runs.map Rerun.inSecond) st ∧
    ∀ r o st, s.asked r o st ≠ [] ↔ s.Reaches r := by
  intro first second
  have hstart : s.Alike ((st.1, []), (st.2, [])) ((st.1, []), (st.2, [])) :=
    ⟨rfl, rfl, fun _ _ => rfl⟩
  refine ⟨fun i w hw => compares_handleAll hcalm hattached runs hstart hw,
    s.handleAll_watched st _ [] [], s.handleAll_watched st _ [] [], fun r o st => ?_⟩
  exact asked_ne_nil_iff hcalm o st

/-- The suite hangs at the first request, which nobody waits for, and the account that is asked for
next shows the assessment nevertheless. -/
theorem handleAll_hanging_account :
    let s : Service (List Reply) Metrics.Registry :=
      ⟨.default, ⟨.replaying "trial", .accounting⟩, some id⟩
    let assess : HttpRequest := ⟨"POST", "/api/v1/assess?iid=true", [], [0, 1, 2]⟩
    let metrics : HttpRequest := ⟨"GET", "/metrics", [], []⟩
    let runs : List Rerun := [
      ⟨assess, ⟨"one", ⟨1, 0⟩, false⟩, ⟨"two", ⟨400, 0⟩, true⟩⟩,
      ⟨metrics, ⟨"three", ⟨0, 0⟩, false⟩, ⟨"four", ⟨0, 0⟩, false⟩⟩]
    let first := s.handleAll (runs.map Rerun.inFirst) ([], .empty)
    let second := s.handleAll (runs.map Rerun.inSecond) ([], .empty)
    first.map (·.1.response.status) = [200, 200] ∧
    second.map (·.1.response.status) = [504, 200] ∧
    s.Reaches assess ∧
    ∃ x y, first[1]? = some x ∧ second[1]? = some y ∧
      x.1.response.essence metrics = y.1.response.essence metrics := by
  intro s assess metrics runs first second
  have hattached : s.Attached := by
    intro account haccount
    obtain rfl : id = account := Option.some.inj haccount
    exact ⟨fun _ => true, fun _ _ => rfl⟩
  obtain ⟨hcompares, hfirst, hsecond, -⟩ :=
    handleAll_hanging (s := s) rfl hattached runs ([], .empty)
  have hstatus : second.map (·.1.response.status) = [504, 200] := by decide +kernel
  refine ⟨by decide +kernel, hstatus, ?_, ?_⟩
  · obtain ⟨x, y, -, hy, hxy⟩ := hcompares 0 _ rfl
    have hwaits : (second.map (·.1.response.status))[0]? = some y.1.response.status := by
      simp only [second, ← hsecond, List.getElem?_map, hy, Option.map_some]
    rw [hstatus] at hwaits
    exact (hxy.status_iff.1 (Option.some.inj hwaits).symm).1
  · obtain ⟨x, y, hx, hy, hxy⟩ := hcompares 1 _ rfl
    refine ⟨(x.1, x.2.1.1, x.2.2.1), (y.1, y.2.1.1, y.2.2.1), ?_, ?_, hxy.essence_eq (.inl rfl)⟩
    · simp only [first, ← hfirst, List.getElem?_map, hx, Option.map_some]
    · simp only [second, ← hsecond, List.getElem?_map, hy, Option.map_some]

end MinEntropy.Service

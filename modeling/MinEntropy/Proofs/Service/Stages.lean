import MinEntropy.Proofs.Assessment.Validation
import MinEntropy.Service.Basic

/-! How a request is handled: the route that serves it and, for a request to assess, the stages that
it passes. -/

namespace MinEntropy.Service

open Query (Parameters)

/-! ### Routes -/

/-- The route that serves a request, or else the one that does not know its method. -/
def routeOf (r : HttpRequest) : Except (Option Route) Route :=
  match Route.ofPath? r.path with
  | none => .error none
  | some route => if r.method ∈ route.methods then .ok route else .error (some route)

/-- What is sent of a response. -/
def delivered (r : HttpRequest) (h : Handled) : Handled :=
  if r.method = "HEAD" then { h with response := withoutBody h.response } else h

theorem routeOf_eq_assess_iff {r : HttpRequest} :
    routeOf r = .ok .assess ↔ r.method = "POST" ∧ r.path = "/api/v1/assess" := by
  constructor
  · intro hroute
    unfold routeOf at hroute
    split at hroute
    · cases hroute
    · rename_i route hpath
      split at hroute
      · rename_i hmethod
        obtain rfl : route = .assess := Except.ok.inj hroute
        have hfound := List.find?_some hpath
        exact ⟨by simpa [Route.methods] using hmethod, (of_decide_eq_true hfound).symm⟩
      · cases hroute
  · rintro ⟨hmethod, hpath⟩
    have hfound : Route.ofPath? "/api/v1/assess" = some .assess := rfl
    simp [routeOf, hpath, hfound, hmethod, Route.methods]

/-- Of a service only its settings show in what it makes of an ending. -/
theorem response_congr {s : Service σ τ} {s' : Service ρ υ} (hsettings : s.settings = s'.settings)
    (id : String) (ending : Ending) : ending.response s id = ending.response s' id := by
  have hdeadline : s.deadlineMessage = s'.deadlineMessage := by
    unfold deadlineMessage
    rw [hsettings]
  cases ending with
  | answered answer => cases answer <;> rfl
  | expired => simp only [Ending.response, hdeadline]
  | _ => rfl

theorem status_delivered (r : HttpRequest) (h : Handled) :
    (delivered r h).response.status = h.response.status := by
  unfold delivered
  split
  · rfl
  · rfl

section Handle

variable (s : Service σ τ) {r : HttpRequest} (o : Occasion) (st : σ × τ)

theorem handle_of_unserved {route : Option Route} (hroute : routeOf r = .error route) :
    s.handle r o st = (unserved (idOf r o) route, st) := by
  unfold routeOf at hroute
  unfold handle
  cases hpath : Route.ofPath? r.path with
  | none =>
    rw [hpath] at hroute
    obtain rfl : none = route := Except.error.inj hroute
    rfl
  | some found =>
    rw [hpath] at hroute
    by_cases hmethod : r.method ∈ found.methods
    · simp [hmethod] at hroute
    · simp [hmethod] at hroute
      simp [hmethod, hroute]

theorem handle_of_served {route : Route} (hroute : routeOf r = .ok route) :
    s.handle r o st =
      (delivered r (s.serveRoute route (idOf r o) r o st).1,
        (s.serveRoute route (idOf r o) r o st).2) := by
  unfold routeOf at hroute
  unfold handle
  cases hpath : Route.ofPath? r.path with
  | none => simp [hpath] at hroute
  | some found =>
    rw [hpath] at hroute
    by_cases hmethod : r.method ∈ found.methods
    · simp [hmethod] at hroute
      subst hroute
      simp [hmethod, delivered]
    · simp [hmethod] at hroute

theorem handle_of_assess (hroute : routeOf r = .ok .assess) :
    s.handle r o st =
      (⟨(s.assess r o st).1.response s (idOf r o), some (s.assess r o st).1⟩,
        (s.assess r o st).2) := by
  have hmethod := (routeOf_eq_assess_iff.1 hroute).1
  rw [s.handle_of_served o st hroute]
  simp [delivered, serveRoute, hmethod]

end Handle

/-! ### Stages -/

/-- What the parameters make of the body. -/
def HttpRequest.assessment (r : HttpRequest) (p : Parameters) : Request :=
  ⟨r.body, p.wordSize, p.iid, p.nonIid⟩

/-- The body is within the limit and the query can be read. -/
structure Reads (s : Service σ τ) (r : HttpRequest) (p : Parameters) : Prop where
  length_le : r.body.length ≤ s.settings.maxUploadBytes
  parameters_eq : Query.parameters r.query = .ok p

/-- What the answer of the coordinator comes to for someone who waits until the deadline. -/
def Occasion.ending (o : Occasion) :
    Except String (Except AssessmentError AssessmentResult) → Ending
  | .error text => .aborted text
  | .ok answer => if o.hangs && askedSuite answer then .expired else .answered answer

theorem ending_of_calm {o : Occasion} (ho : o.hangs = false)
    (answer : Except AssessmentError AssessmentResult) :
    o.ending (.ok answer) = .answered answer := by
  simp [Occasion.ending, ho]

section Assess

variable (s : Service σ τ) {r : HttpRequest} {p : Parameters} (o : Occasion) (st : σ × τ)

theorem stages (r : HttpRequest) :
    s.settings.maxUploadBytes < r.body.length ∨
    (∃ fault, r.body.length ≤ s.settings.maxUploadBytes ∧ Query.parameters r.query = .error fault) ∨
    ∃ p, s.Reads r p := by
  by_cases hlimit : s.settings.maxUploadBytes < r.body.length
  · exact .inl hlimit
  · cases hquery : Query.parameters r.query with
    | error fault => exact .inr (.inl ⟨fault, Nat.not_lt.1 hlimit, rfl⟩)
    | ok p => exact .inr (.inr ⟨p, Nat.not_lt.1 hlimit, hquery⟩)

theorem assess_of_tooLarge (hlimit : s.settings.maxUploadBytes < r.body.length) :
    s.assess r o st = (.tooLarge, st) := by
  rw [assess, if_pos hlimit]

theorem assess_of_malformed {fault : Query.Fault}
    (hlimit : r.body.length ≤ s.settings.maxUploadBytes)
    (hquery : Query.parameters r.query = .error fault) :
    s.assess r o st =
      (.answered (.error (s.coordinator.reject (queryRefusal fault) st).1),
        (s.coordinator.reject (queryRefusal fault) st).2) := by
  rw [assess, if_neg (Nat.not_lt.2 hlimit), hquery]

variable {s}

/-- A request that can be read is left to the coordinator; only the waiting is the service's. -/
theorem assess_of_reads (hreads : s.Reads r p) :
    s.assess r o st =
      (o.ending (s.coordinator.assess (r.assessment p) o.took st).1,
        (s.coordinator.assess (r.assessment p) o.took st).2) := by
  rw [assess, if_neg (Nat.not_lt.2 hreads.length_le), hreads.parameters_eq]
  unfold HttpRequest.assessment
  dsimp only
  split
  · rename_i hassess
    rw [hassess]
    rfl
  · rename_i hassess
    rw [hassess]
    rfl

end Assess

end MinEntropy.Service

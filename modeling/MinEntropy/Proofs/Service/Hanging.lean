import MinEntropy.Proofs.Service.Settlement

/-! A suite that hangs. Only requests that reach the suite wait for it, and it ends its work even
where the waiting ends before. -/

namespace MinEntropy

open Exchange

section Asking

variable {suite : Suite σ} {q : Request} {selection : Selection} {prepared : Prepared}

theorem Request.plan_ne_nil (hsound : q.IsSound selection) : q.plan prepared ≠ [] := by
  intro hnil
  have hflags := hsound.flags_eq
  simp [plan] at hnil
  simp [hnil, Selection.ofFlags?] at hflags

theorem Suite.exchanges_ne_nil (hsound : q.IsSound selection)
    (hp : Samples.prepare q.data q.wordSize = .ok prepared) (st : σ) :
    suite.exchanges q st ≠ [] := by
  have hends := suite.ends_of_runRequest hp st
  generalize suite.exchanges q st = xs at hends ⊢
  generalize (suite.runRequest q st).1 = answer at hends
  cases hends with
  | completed hcalls =>
    rintro rfl
    exact Request.plan_ne_nil hsound hcalls.symm
  | stopped => simp

theorem Service.askedSuite_of_prepared (suite : Suite σ)
    (hp : Samples.prepare q.data q.wordSize = .ok prepared) (st : σ) :
    askedSuite (suite.runRequest q st).1 = true := by
  have hends := suite.ends_of_runRequest hp st
  generalize suite.exchanges q st = xs at hends
  generalize (suite.runRequest q st).1 = answer at hends ⊢
  cases hends with
  | completed => rfl
  | stopped => rfl

end Asking

namespace Service

open Query (Parameters)

/-- The request gets as far as a call to the suite. -/
structure Reaches (s : Service σ τ) (r : HttpRequest) : Prop where
  method_eq : r.method = "POST"
  path_eq : r.path = "/api/v1/assess"
  runs : ∃ p selection prepared, s.Runs r p selection prepared

/-- The same occasion with a suite that returns in time. -/
def Occasion.calmly (o : Occasion) : Occasion := { o with hangs := false }

variable {s : Service σ τ} {r : HttpRequest} {o : Occasion}

theorem Reaches.routeOf_eq (hreaches : s.Reaches r) : routeOf r = .ok .assess :=
  routeOf_eq_assess_iff.2 ⟨hreaches.method_eq, hreaches.path_eq⟩

theorem reaches_watched : s.watched.Reaches r ↔ s.Reaches r := by
  constructor
  · rintro ⟨hmethod, hpath, p, selection, prepared, hreads, hsound, hvaried, hp⟩
    exact ⟨hmethod, hpath, p, selection, prepared, reads_watched.1 hreads, hsound, hvaried, hp⟩
  · rintro ⟨hmethod, hpath, p, selection, prepared, hreads, hsound, hvaried, hp⟩
    exact ⟨hmethod, hpath, p, selection, prepared, reads_watched.2 hreads, hsound, hvaried, hp⟩

/-- The response is not the suite's, the state is. -/
theorem assess_of_hanging {p : Parameters} {selection : Selection} {prepared : Prepared}
    (hruns : s.Runs r p selection prepared) (hcalm : s.coordinator.observer.breaksAtStart = none)
    (hhangs : o.hangs = true) (st : σ × τ) :
    s.assess r o st = (.expired, (s.assess r o.calmly st).2) := by
  have hr := Request.validate_eq_ok_iff.2 hruns.sound
  have hasked := askedSuite_of_prepared s.coordinator.suite (q := r.assessment p)
    hruns.prepared_eq st.1
  rw [assess_of_reads o st hruns.reads, assess_of_reads o.calmly st hruns.reads]
  simp [s.coordinator.assess_of_running _ _ hr hcalm, Occasion.ending, Occasion.calmly, hhangs,
    hasked]

/-- A request that does not reach the suite does not wait for it. -/
theorem assess_calmly (hruns : ¬ ∃ p selection prepared, s.Runs r p selection prepared)
    (hcalm : s.coordinator.observer.breaksAtStart = none) (st : σ × τ) :
    s.assess r o st = s.assess r o.calmly st := by
  rcases s.stages r with hlimit | ⟨fault, hlimit, hquery⟩ | ⟨p, hreads⟩
  · rw [s.assess_of_tooLarge _ _ hlimit, s.assess_of_tooLarge _ _ hlimit]
  · rw [s.assess_of_malformed _ _ hlimit hquery, s.assess_of_malformed _ _ hlimit hquery]
  · rw [assess_of_reads o st hreads, assess_of_reads o.calmly st hreads]
    cases hr : (r.assessment p).validate with
    | error e =>
      simp [s.coordinator.assess_of_rejected _ _ hr, Occasion.ending, Occasion.calmly, askedSuite]
    | ok selection =>
      -- only samples that cannot be prepared are left, and these make an error of their own
      have hsound := Request.validate_eq_ok_iff.1 hr
      have hbody : r.body ≠ [] := hsound.data_ne_nil
      cases hp : Samples.prepare r.body p.wordSize with
      | ok prepared =>
        have hvaried : ¬ Samples.IsUniform r.body p.wordSize := by
          intro huniform
          rw [Samples.prepare_of_uniform hbody huniform] at hp
          cases hp
        exact absurd ⟨p, selection, prepared, hreads, hsound, hvaried, hp⟩ hruns
      | error e =>
        have hrun := s.coordinator.suite.runRequest_of_unprepared (r := r.assessment p) hp st.1
        simp [s.coordinator.assess_of_running _ _ hr hcalm, hrun, Occasion.ending, Occasion.calmly,
          askedSuite]

theorem handle_of_hanging (hreaches : s.Reaches r)
    (hcalm : s.coordinator.observer.breaksAtStart = none) (hhangs : o.hangs = true) (st : σ × τ) :
    s.handle r o st =
      (⟨Ending.expired.response s (idOf r o), some .expired⟩, (s.handle r o.calmly st).2) := by
  obtain ⟨p, selection, prepared, hruns⟩ := hreaches.runs
  have hroute := hreaches.routeOf_eq
  rw [s.handle_of_assess o st hroute, s.handle_of_assess o.calmly st hroute,
    assess_of_hanging hruns hcalm hhangs]

theorem handle_calmly (hwaits : ¬ (s.Reaches r ∧ o.hangs = true))
    (hcalm : s.coordinator.observer.breaksAtStart = none) (st : σ × τ) :
    s.handle r o st = s.handle r o.calmly st := by
  cases hhangs : o.hangs with
  | false =>
    have hsame : o.calmly = o := by
      cases o
      simp_all [Occasion.calmly]
    rw [hsame]
  | true =>
    cases hroute : routeOf r with
    | error route =>
      rw [s.handle_of_unserved o st hroute, s.handle_of_unserved o.calmly st hroute]
      rfl
    | ok route =>
      rw [s.handle_of_served o st hroute, s.handle_of_served o.calmly st hroute]
      cases route with
      | assess =>
        obtain ⟨hmethod, hpath⟩ := routeOf_eq_assess_iff.1 hroute
        have hruns : ¬ ∃ p selection prepared, s.Runs r p selection prepared := by
          intro hruns
          exact hwaits ⟨⟨hmethod, hpath, hruns⟩, hhangs⟩
        unfold serveRoute
        rw [assess_calmly hruns hcalm st]
        rfl
      | health => rfl
      | metrics => rfl

/-- Whether anybody waits for it or not, the suite ends its work. -/
theorem state_calmly (hcalm : s.coordinator.observer.breaksAtStart = none) (st : σ × τ) :
    (s.handle r o st).2 = (s.handle r o.calmly st).2 := by
  by_cases hwaits : s.Reaches r ∧ o.hangs = true
  · rw [handle_of_hanging hwaits.1 hcalm hwaits.2]
  · rw [handle_calmly hwaits hcalm]

/-- Only requests to assess touch the state. -/
theorem state_of_other (hroute : routeOf r ≠ .ok .assess) (st : σ × τ) :
    (s.handle r o st).2 = st := by
  cases hserved : routeOf r with
  | error route => rw [s.handle_of_unserved o st hserved]
  | ok route =>
    rw [s.handle_of_served o st hserved]
    cases route with
    | assess => exact absurd hserved hroute
    | health => rfl
    | metrics => rfl

/-- The requests that reach the suite are those over which it is asked anything. -/
theorem asked_ne_nil_iff (hcalm : s.coordinator.observer.breaksAtStart = none) (o : Occasion)
    (st : σ × τ) : s.asked r o st ≠ [] ↔ s.Reaches r := by
  have hwatched : s.watched.coordinator.observer.breaksAtStart = none := hcalm
  rw [asked, state_calmly hwatched]
  constructor
  · intro hasked
    by_cases hroute : routeOf r = .ok .assess
    · obtain ⟨hmethod, hpath⟩ := routeOf_eq_assess_iff.1 hroute
      have hsettles := settles_of_assess (s := s) (r := r) (o := o.calmly) hcalm rfl st
      rw [s.watched.handle_of_assess _ _ hroute] at hasked
      exact ⟨hmethod, hpath, hsettles.runs_of_asked hasked⟩
    · rw [state_of_other hroute] at hasked
      exact absurd rfl hasked
  · intro hreaches
    obtain ⟨p, selection, prepared, hruns⟩ := hreaches.runs
    have hr := Request.validate_eq_ok_iff.2 hruns.sound
    have hassess := Coordinator.watched_of_running o.calmly.took st hr hcalm [] []
    rw [s.watched.handle_of_assess _ _ hreaches.routeOf_eq,
      assess_of_reads o.calmly _ (reads_watched.2 hruns.reads)]
    simp only [watched, hassess, List.nil_append]
    exact Suite.exchanges_ne_nil hruns.sound hruns.prepared_eq st.1

theorem statusOf_ne (e : AssessmentError) : statusOf e ≠ 504 := by
  unfold statusOf
  split <;> decide

/-- Nothing but waiting for the suite makes this status. -/
theorem status_ne_of_calm (hhangs : o.hangs = false) (st : σ × τ) :
    (s.handle r o st).1.response.status ≠ 504 := by
  cases hroute : routeOf r with
  | error route =>
    rw [s.handle_of_unserved o st hroute]
    cases route <;> simp [unserved]
  | ok route =>
    rw [s.handle_of_served o st hroute, status_delivered]
    cases route with
    | assess =>
      have hending : (s.assess r o st).1 ≠ .expired := by
        rcases s.stages r with hlimit | ⟨fault, hlimit, hquery⟩ | ⟨p, hreads⟩
        · simp [s.assess_of_tooLarge o st hlimit]
        · simp [s.assess_of_malformed o st hlimit hquery]
        · rw [assess_of_reads o st hreads]
          cases (s.coordinator.assess (r.assessment p) o.took st).1 <;>
            simp [Occasion.ending, hhangs]
      change ((s.assess r o st).1.response s (idOf r o)).status ≠ 504
      cases hcase : (s.assess r o st).1 with
      | tooLarge => simp [Ending.response]
      | answered answer =>
        cases answer with
        | ok result => simp [Ending.response, documentResponse]
        | error e => exact statusOf_ne e
      | expired => exact absurd hcase hending
      | aborted text => simp [Ending.response, documentResponse]
    | health => simp [serveRoute, documentResponse]
    | metrics =>
      change (s.metricsResponse (idOf r o) st.2).status ≠ 504
      unfold metricsResponse
      split <;> simp

end Service

end MinEntropy

import MinEntropy.Proofs.Assessment.Session
import MinEntropy.Proofs.Service.Stages

/-! A service under watch: it keeps its exchanges with the suite and what its observer hears. -/

namespace MinEntropy

namespace Coordinator

/-- The same coordinator under watch. -/
def watched (c : Coordinator σ τ) : Coordinator (σ × List Exchange) (τ × List Event) :=
  c.transcribed.logged

variable (c : Coordinator σ τ) (r : Request) (took : Duration) (st : σ × τ)

theorem reject_watched (e : RequestError) (calls : List Exchange) (log : List Event) :
    c.watched.reject e ((st.1, calls), (st.2, log)) =
      ((c.reject e st).1, ((c.reject e st).2.1, calls), ((c.reject e st).2.2,
        log ++ [.rejected e])) :=
  rfl

variable {c r} {selection : Selection}

theorem watched_of_rejected {e : RequestError} (hr : r.validate = .error e)
    (calls : List Exchange) (log : List Event) :
    c.watched.assess r took ((st.1, calls), (st.2, log)) =
      ((c.assess r took st).1, ((c.assess r took st).2.1, calls), ((c.assess r took st).2.2,
        log ++ [.rejected e])) := by
  rw [assess_of_rejected _ _ _ hr, assess_of_rejected _ _ _ hr]
  rfl

theorem watched_of_breaking {text : String} (hr : r.validate = .ok selection)
    (hbreaks : c.observer.breaksAtStart = some text) (calls : List Exchange) (log : List Event) :
    c.watched.assess r took ((st.1, calls), (st.2, log)) =
      ((c.assess r took st).1, ((c.assess r took st).2.1, calls), ((c.assess r took st).2.2,
        log)) := by
  rw [assess_of_breaking c.watched _ _ hr hbreaks, assess_of_breaking _ _ _ hr hbreaks]

theorem watched_of_running (hr : r.validate = .ok selection)
    (hcalm : c.observer.breaksAtStart = none) (calls : List Exchange) (log : List Event) :
    c.watched.assess r took ((st.1, calls), (st.2, log)) =
      ((c.assess r took st).1,
        ((c.assess r took st).2.1, calls ++ c.suite.exchanges r st.1),
        ((c.assess r took st).2.2, log ++ [.started selection r.data.length,
          ending selection took (c.suite.runRequest r st.1).1])) := by
  rw [assess_of_running c.watched _ _ hr hcalm, assess_of_running _ _ _ hr hcalm]
  have hrun := c.suite.runRequest_transcribed r st.1 calls
  simp only [watched, logged, transcribed, Observer.logged, hrun, List.append_assoc,
    List.cons_append, List.nil_append]

variable (c r) in
theorem assess_watched : ∃ xs events, ∀ calls log,
    c.watched.assess r took ((st.1, calls), (st.2, log)) =
      ((c.assess r took st).1, ((c.assess r took st).2.1, calls ++ xs),
        ((c.assess r took st).2.2, log ++ events)) := by
  rcases c.assess_cases r with ⟨e, hr⟩ | ⟨selection, text, hr, hbreaks⟩ | ⟨selection, hr, hcalm⟩
  · refine ⟨[], [.rejected e], fun calls log => ?_⟩
    rw [watched_of_rejected took st hr, List.append_nil]
  · refine ⟨[], [], fun calls log => ?_⟩
    rw [watched_of_breaking took st hr hbreaks, List.append_nil, List.append_nil]
  · exact ⟨_, _, watched_of_running took st hr hcalm⟩

variable (c r) in
/-- Under watch a coordinator keeps its transcript. -/
theorem calls_watched :
    (c.watched.assess r took ((st.1, []), (st.2, []))).2.1.2 = c.transcript r took st := by
  rcases c.assess_cases r with ⟨e, hr⟩ | ⟨selection, text, hr, hbreaks⟩ | ⟨selection, hr, hcalm⟩
  · rw [watched_of_rejected took st hr, transcript_of_rejected _ _ _ hr]
  · rw [watched_of_breaking took st hr hbreaks, transcript_of_breaking _ _ _ hr hbreaks]
  · rw [watched_of_running took st hr hcalm, transcript_of_running _ _ _ hr hcalm]
    rfl

end Coordinator

namespace Service

/-- The same service under watch. -/
def watched (s : Service σ τ) : Service (σ × List Exchange) (τ × List Event) where
  settings := s.settings
  coordinator := s.coordinator.watched
  metrics := s.metrics.map fun account seen => account seen.1

/-- The exchanges with the suite over a request. -/
def asked (s : Service σ τ) (r : HttpRequest) (o : Occasion) (st : σ × τ) : List Exchange :=
  (s.watched.handle r o ((st.1, []), (st.2, []))).2.1.2

/-- What is heard of a request. -/
def heard (s : Service σ τ) (r : HttpRequest) (o : Occasion) (st : σ × τ) : List Event :=
  (s.watched.handle r o ((st.1, []), (st.2, []))).2.2.2

variable (s : Service σ τ) (r : HttpRequest) (o : Occasion) (st : σ × τ)

theorem response_watched (id : String) (ending : Ending) :
    ending.response s.watched id = ending.response s id :=
  response_congr rfl id ending

theorem metricsResponse_watched (id : String) (seen : τ) (log : List Event) :
    s.watched.metricsResponse id (seen, log) = s.metricsResponse id seen := by
  unfold metricsResponse watched
  cases s.metrics <;> rfl

variable {s r} in
theorem reads_watched {p : Query.Parameters} : s.watched.Reads r p ↔ s.Reads r p := by
  constructor
  · intro hreads
    exact ⟨hreads.length_le, hreads.parameters_eq⟩
  · intro hreads
    exact ⟨hreads.length_le, hreads.parameters_eq⟩

theorem assess_watched : ∃ xs events, ∀ calls log,
    s.watched.assess r o ((st.1, calls), (st.2, log)) =
      ((s.assess r o st).1, ((s.assess r o st).2.1, calls ++ xs),
        ((s.assess r o st).2.2, log ++ events)) := by
  rcases s.stages r with hlimit | ⟨fault, hlimit, hquery⟩ | ⟨p, hreads⟩
  · refine ⟨[], [], fun calls log => ?_⟩
    rw [s.assess_of_tooLarge o st hlimit, s.watched.assess_of_tooLarge o _ hlimit]
    simp
  · refine ⟨[], [.rejected (queryRefusal fault)], fun calls log => ?_⟩
    rw [s.assess_of_malformed o st hlimit hquery, s.watched.assess_of_malformed o _ hlimit hquery]
    simp [watched, Coordinator.reject_watched]
  · obtain ⟨xs, events, hassess⟩ := s.coordinator.assess_watched (r.assessment p) o.took st
    refine ⟨xs, events, fun calls log => ?_⟩
    rw [assess_of_reads o st hreads, assess_of_reads o _ (reads_watched.2 hreads)]
    simp only [watched, hassess]

/-- Watching a service changes neither its responses nor its states. -/
theorem handle_watched (calls : List Exchange) (log : List Event) :
    s.watched.handle r o ((st.1, calls), (st.2, log)) =
      ((s.handle r o st).1, ((s.handle r o st).2.1, calls ++ s.asked r o st),
        ((s.handle r o st).2.2, log ++ s.heard r o st)) := by
  -- what is added does not depend on what was kept, so it shows where nothing was
  have hkept : ∃ xs events, ∀ calls log,
      s.watched.handle r o ((st.1, calls), (st.2, log)) =
        ((s.handle r o st).1, ((s.handle r o st).2.1, calls ++ xs),
          ((s.handle r o st).2.2, log ++ events)) := by
    cases hroute : routeOf r with
    | error route =>
      refine ⟨[], [], fun calls log => ?_⟩
      rw [s.handle_of_unserved o st hroute, s.watched.handle_of_unserved o _ hroute]
      simp
    | ok route =>
      simp only [s.handle_of_served o st hroute, s.watched.handle_of_served o _ hroute]
      cases route with
      | assess =>
        obtain ⟨xs, events, hassess⟩ := s.assess_watched r o st
        refine ⟨xs, events, fun calls log => ?_⟩
        simp [serveRoute, hassess, response_watched]
      | health => exact ⟨[], [], by simp [serveRoute]⟩
      | metrics => exact ⟨[], [], by simp [serveRoute, metricsResponse_watched]⟩
  obtain ⟨xs, events, hhandle⟩ := hkept
  simp only [asked, heard, hhandle, List.nil_append]

theorem handleAll_watched (visits : List (HttpRequest × Occasion)) (calls : List Exchange)
    (log : List Event) :
    ((s.watched.handleAll visits ((st.1, calls), (st.2, log))).map fun x =>
      (x.1, x.2.1.1, x.2.2.1)) = s.handleAll visits st := by
  induction visits generalizing st calls log with
  | nil => rfl
  | cons visit rest ih =>
    unfold handleAll
    rw [handle_watched]
    exact congrArg (s.handle visit.1 visit.2 st :: ·) (ih ..)

end Service

end MinEntropy

import MinEntropy.Proofs.Service.Documents
import MinEntropy.Proofs.Service.Watch

/-! What settles a request to assess: the first stage that it fails, whatever else is wrong with
it. -/

namespace MinEntropy.Service

open Exchange Query

variable (s : Service σ τ) (r : HttpRequest) (o : Occasion)

/-- The request gets as far as the suite. -/
structure Runs (p : Parameters) (selection : Selection) (prepared : Prepared) : Prop where
  reads : s.Reads r p
  sound : (r.assessment p).IsSound selection
  varied : ¬ Samples.IsUniform r.body p.wordSize
  prepared_eq : Samples.prepare r.body p.wordSize = .ok prepared

/-- The response to a request that is turned away. -/
def rejection (e : RequestError) : Response :=
  errorResponse 400 (idOf r o) (AssessmentError.rejected e).message "invalid_input" false none

/-- The response to a failure that a track is blamed for. -/
def failure (status : Nat) (mode : Mode) (source : ModeError) (kind : String) (retryable : Bool) :
    Response :=
  errorResponse status (idOf r o) (AssessmentError.failed mode source).message kind retryable
    (some mode)

/-- The stage that settles a request to assess, with the response, the exchanges with the suite and
what is heard. Every stage is reached through the earlier ones. -/
inductive Settles (st : σ × τ) : Response → List Exchange → List Event → Prop
  | tooLarge (hlimit : s.settings.maxUploadBytes < r.body.length) :
      Settles st ⟨413, some textType, none, idOf r o, .text tooLargeMessage⟩ [] []
  | malformed {fault : Fault} (hlimit : r.body.length ≤ s.settings.maxUploadBytes)
      (hquery : parameters r.query = .error fault) :
      Settles st (rejection r o (queryRefusal fault)) [] [.rejected (queryRefusal fault)]
  | empty {p : Parameters} (hreads : s.Reads r p) (hbody : r.body = []) :
      Settles st (rejection r o .emptyData) [] [.rejected .emptyData]
  | tooWide {p : Parameters} (hreads : s.Reads r p) (hbody : r.body ≠ [])
      (hwide : maxWordSize < p.wordSize) :
      Settles st (rejection r o (.invalidWordSize p.wordSize)) []
        [.rejected (.invalidWordSize p.wordSize)]
  | unselected {p : Parameters} (hreads : s.Reads r p) (hbody : r.body ≠ [])
      (hwidth : p.wordSize ≤ maxWordSize) (hiid : p.iid = false) (hnonIid : p.nonIid = false) :
      Settles st (rejection r o .noModeSelected) [] [.rejected .noModeSelected]
  | uniform {p : Parameters} {selection : Selection} {mode : Mode} (hreads : s.Reads r p)
      (hsound : (r.assessment p).IsSound selection)
      (huniform : Samples.IsUniform r.body p.wordSize)
      (hmode : mode = if p.iid then .iid else .nonIid) :
      Settles st
        (failure r o 422 mode (.preparation .singleSymbolAlphabet) "invalid_input" false) []
        [.started selection r.body.length,
          .failed selection (.failed mode (.preparation .singleSymbolAlphabet)) o.took]
  | exhausted {p : Parameters} {selection : Selection} {prepared : Prepared}
      {done : List Exchange} {x : Exchange} {rest : List Call} {what : String}
      (hruns : s.Runs r p selection prepared)
      (hcalls : (r.assessment p).plan prepared = (done ++ [x]).map (·.call) ++ rest)
      (hdone : ∀ y ∈ done, y.failure? = none)
      (hfail : x.failure? = some (.outOfMemory what)) :
      Settles st
        (failure r o 503 x.call.mode (.suite (.outOfMemory what)) "resource_exhausted" true)
        (done ++ [x])
        [.started selection r.body.length,
          .failed selection (.failed x.call.mode (.suite (.outOfMemory what))) o.took]
  | broken {p : Parameters} {selection : Selection} {prepared : Prepared}
      {done : List Exchange} {x : Exchange} {rest : List Call} {e : SuiteError}
      (hruns : s.Runs r p selection prepared)
      (hcalls : (r.assessment p).plan prepared = (done ++ [x]).map (·.call) ++ rest)
      (hdone : ∀ y ∈ done, y.failure? = none) (hfail : x.failure? = some e)
      (hother : ∀ what, e ≠ .outOfMemory what) :
      Settles st (failure r o 500 x.call.mode (.suite e) "foreign" false) (done ++ [x])
        [.started selection r.body.length,
          .failed selection (.failed x.call.mode (.suite e)) o.took]
  | completed {p : Parameters} {selection : Selection} {prepared : Prepared}
      {xs : List Exchange} {result : AssessmentResult}
      (hruns : s.Runs r p selection prepared)
      (hcalls : xs.map (·.call) = (r.assessment p).plan prepared)
      (hclean : ∀ x ∈ xs, x.failure? = none)
      (hresult : (s.coordinator.assess (r.assessment p) o.took st).1 = .ok (.ok result)) :
      Settles st (resultResponse (idOf r o) result) xs
        [.started selection r.body.length, .completed selection result o.took]

variable {s r o} {st : σ × τ} {p : Parameters} {selection : Selection}

theorem Settles.runs_of_asked {response : Response} {xs : List Exchange} {events : List Event}
    (hsettles : s.Settles r o st response xs events) (hasked : xs ≠ []) :
    ∃ p selection prepared, s.Runs r p selection prepared := by
  cases hsettles with
  | exhausted hruns => exact ⟨_, _, _, hruns⟩
  | broken hruns => exact ⟨_, _, _, hruns⟩
  | completed hruns => exact ⟨_, _, _, hruns⟩
  | _ => exact absurd rfl hasked

/-- A sound request is settled by its samples or by the first call that fails. -/
theorem settles_of_sound (hreads : s.Reads r p) (hsound : (r.assessment p).IsSound selection)
    (hcalm : s.coordinator.observer.breaksAtStart = none) :
    s.Settles r o st
      ((Ending.answered (s.coordinator.suite.runRequest (r.assessment p) st.1).1).response s
        (idOf r o))
      (s.coordinator.suite.exchanges (r.assessment p) st.1)
      [.started selection r.body.length, Coordinator.ending selection o.took
        (s.coordinator.suite.runRequest (r.assessment p) st.1).1] := by
  by_cases huniform : Samples.IsUniform r.body p.wordSize
  · have he : Samples.prepare (r.assessment p).data (r.assessment p).wordSize =
        .error .singleSymbolAlphabet :=
      Samples.prepare_of_uniform hsound.data_ne_nil huniform
    rw [Suite.runRequest_of_unprepared _ he, Suite.exchanges, he]
    exact .uniform hreads hsound huniform rfl
  · obtain ⟨prepared, hprepared⟩ :=
      Samples.exists_prepare hsound.data_ne_nil hsound.wordSize_le huniform
    have hruns : s.Runs r p selection prepared := ⟨hreads, hsound, huniform, hprepared⟩
    have hends := s.coordinator.suite.ends_of_runRequest hprepared st.1
    have hassess := s.coordinator.assess_of_running o.took st
      (Request.validate_eq_ok_iff.2 hsound) hcalm
    -- the exchanges and the answer stand together, by how the run ends
    generalize s.coordinator.suite.exchanges (r.assessment p) st.1 = xs at hends ⊢
    generalize (s.coordinator.suite.runRequest (r.assessment p) st.1).1 = answer at hends hassess ⊢
    cases hends with
    | completed hcalls hclean =>
      rw [response_result]
      exact .completed hruns hcalls hclean (by rw [hassess])
    | @stopped done x rest e hcalls hdone hfail =>
      rw [response_error]
      cases e with
      | outOfMemory what => exact .exhausted hruns hcalls hdone hfail
      | invalidInput code message => exact .broken hruns hcalls hdone hfail (by simp)
      | exception code message => exact .broken hruns hcalls hdone hfail (by simp)

/-- A request that can be read is settled by its check or, if it is sound, later. -/
theorem settles_of_reads (hreads : s.Reads r p)
    (hcalm : s.coordinator.observer.breaksAtStart = none) (hhangs : o.hangs = false)
    (st : σ × τ) :
    s.Settles r o st ((s.watched.assess r o ((st.1, []), (st.2, []))).1.response s (idOf r o))
      (s.watched.assess r o ((st.1, []), (st.2, []))).2.1.2
      (s.watched.assess r o ((st.1, []), (st.2, []))).2.2.2 := by
  rw [assess_of_reads o _ (reads_watched.2 hreads)]
  have hrefused {e : RequestError} (he : (r.assessment p).validate = .error e) :
      s.watched.coordinator.assess (r.assessment p) o.took ((st.1, []), (st.2, [])) =
        (.ok (.error (.rejected e)), (st.1, []),
          (s.coordinator.observer.note (.rejected e) st.2, [.rejected e])) :=
    Coordinator.assess_of_rejected s.coordinator.watched _ _ he
  by_cases hbody : r.body = []
  · rw [hrefused (Request.validate_of_empty hbody), ending_of_calm hhangs]
    exact .empty hreads hbody
  · by_cases hwidth : p.wordSize ≤ maxWordSize
    · cases hflags : Selection.ofFlags? p.iid p.nonIid with
      | none =>
        obtain ⟨hiid, hnonIid⟩ := Selection.ofFlags?_eq_none_iff.1 hflags
        rw [hrefused (Request.validate_of_unselected hbody hwidth hiid hnonIid),
          ending_of_calm hhangs]
        exact .unselected hreads hbody hwidth hiid hnonIid
      | some selection =>
        have hsound : (r.assessment p).IsSound selection := ⟨hbody, hwidth, hflags⟩
        have hr := Request.validate_eq_ok_iff.2 hsound
        have hassess := Coordinator.watched_of_running o.took st hr hcalm [] []
        rw [s.coordinator.assess_of_running _ _ hr hcalm] at hassess
        simp only [watched, hassess, ending_of_calm hhangs]
        exact settles_of_sound hreads hsound hcalm
    · rw [hrefused (Request.validate_of_wide hbody (Nat.not_le.1 hwidth)), ending_of_calm hhangs]
      exact .tooWide hreads hbody (Nat.not_le.1 hwidth)

/-- The stages before the query is read hide the later ones. -/
theorem settles_of_assess (hcalm : s.coordinator.observer.breaksAtStart = none)
    (hhangs : o.hangs = false) (st : σ × τ) :
    s.Settles r o st ((s.watched.assess r o ((st.1, []), (st.2, []))).1.response s (idOf r o))
      (s.watched.assess r o ((st.1, []), (st.2, []))).2.1.2
      (s.watched.assess r o ((st.1, []), (st.2, []))).2.2.2 := by
  rcases s.stages r with hlimit | ⟨fault, hlimit, hquery⟩ | ⟨p, hreads⟩
  · rw [s.watched.assess_of_tooLarge o _ hlimit]
    exact .tooLarge hlimit
  · rw [s.watched.assess_of_malformed o _ hlimit hquery]
    exact .malformed hlimit hquery
  · exact settles_of_reads hreads hcalm hhangs st

theorem settles_of_handle (hcalm : s.coordinator.observer.breaksAtStart = none)
    (hroute : routeOf r = .ok .assess) (hhangs : o.hangs = false) (st : σ × τ) :
    s.Settles r o st (s.handle r o st).1.response (s.asked r o st) (s.heard r o st) := by
  have hresponse := congrArg (·.1.response) (s.handle_watched r o st [] [])
  rw [s.watched.handle_of_assess o _ hroute, response_watched] at hresponse
  rw [← hresponse, asked, heard, s.watched.handle_of_assess o _ hroute]
  exact settles_of_assess hcalm hhangs st

/-- The first stage that fails decides the answer to a request to assess. Its document carries the
kind and the mode of the error; watching the service does not change the answer. -/
theorem handle_settles (hcalm : s.coordinator.observer.breaksAtStart = none)
    (hmethod : r.method = "POST") (hpath : r.path = "/api/v1/assess") (hhangs : o.hangs = false)
    (st : σ × τ) :
    s.watched.handle r o ((st.1, []), (st.2, [])) =
      ((s.handle r o st).1, ((s.handle r o st).2.1, s.asked r o st),
        ((s.handle r o st).2.2, s.heard r o st)) ∧
    s.Settles r o st (s.handle r o st).1.response (s.asked r o st) (s.heard r o st) := by
  have hroute := routeOf_eq_assess_iff.2 ⟨hmethod, hpath⟩
  exact ⟨s.handle_watched r o st [] [], settles_of_handle hcalm hroute hhangs st⟩

/-- The query names both tracks, and the suite runs out of memory in its second call. -/
theorem handle_settles_exhausted :
    let s : Service (List Reply) (List Event) :=
      ⟨.default, ⟨.replaying "trial", .recording⟩, none⟩
    let r : HttpRequest :=
      ⟨"POST", "/api/v1/assess?iid=true&non_iid=true", [("X-Request-Id", "one")], [0, 1, 2]⟩
    let o : Occasion := ⟨"two", ⟨1, 0⟩, false⟩
    let st : List Reply × List Event :=
      ([.outcomes [⟨"literal", some 1.5, true⟩], .failure (.outOfMemory "tables")], [])
    s.Settles r o st (s.handle r o st).1.response (s.asked r o st) (s.heard r o st) ∧
    (s.asked r o st).map (·.call.mode) = [.iid, .nonIid] ∧
    (s.handle r o st).1.response.status = 503 ∧
    (s.handle r o st).1.response.body.content =
      "\x7b\"error\":\"Non-IID assessment failed: estimator suite could not allocate tables\"," ++
      "\"kind\":\"resource_exhausted\",\"mode\":\"non_iid\",\"retryable\":true," ++
      "\"request_id\":\"one\"\x7d" := by
  intro s r o st
  obtain ⟨-, hsettles⟩ := handle_settles (s := s) (r := r) (o := o) rfl rfl (by decide) rfl st
  refine ⟨hsettles, ?_, ?_, ?_⟩
  · decide +kernel
  · decide +kernel
  · decide +kernel

end MinEntropy.Service

import MinEntropy.Proofs.Service.Stages

/-! The name of a request. Every response carries it in a header, and the documents of the route to
assess show it. -/

namespace MinEntropy.Service

/-! ### Headers -/

namespace HttpRequest

/-- A header names the request, in whatever case. -/
def Names (h : String × String) : Prop := h.1.map Char.toLower = idHeader

instance : DecidablePred Names := fun h => inferInstanceAs (Decidable (h.1.map Char.toLower = _))

/-- The first header that names the request gives it this name. -/
def Bears (r : HttpRequest) (id : String) : Prop :=
  ∃ before key after, r.headers = before ++ (key, id) :: after ∧ Names (key, id) ∧
    ∀ h ∈ before, ¬ Names h

def IsNameless (r : HttpRequest) : Prop := ∀ h ∈ r.headers, ¬ Names h

theorem header?_idHeader_eq_some_iff {r : HttpRequest} {id : String} :
    r.header? idHeader = some id ↔ r.Bears id := by
  unfold header? Bears Names
  rw [Option.map_eq_some_iff]
  constructor
  · rintro ⟨⟨key, value⟩, hfound, rfl⟩
    obtain ⟨hname, before, after, hheaders, hbefore⟩ := List.find?_eq_some_iff_append.1 hfound
    exact ⟨before, key, after, hheaders, of_decide_eq_true hname, by simpa using hbefore⟩
  · rintro ⟨before, key, after, hheaders, hname, hbefore⟩
    refine ⟨(key, id), List.find?_eq_some_iff_append.2 ?_, rfl⟩
    exact ⟨decide_eq_true hname, before, after, hheaders, by simpa using hbefore⟩

theorem header?_idHeader_eq_none_iff {r : HttpRequest} :
    r.header? idHeader = none ↔ r.IsNameless := by
  simp [header?, IsNameless, Names]

end HttpRequest

theorem idOf_of_bears {r : HttpRequest} {id : String} (hbears : r.Bears id) (o : Occasion) :
    idOf r o = id := by
  rw [idOf, HttpRequest.header?_idHeader_eq_some_iff.2 hbears, Option.getD_some]

theorem idOf_of_isNameless {r : HttpRequest} (hnameless : r.IsNameless) (o : Occasion) :
    idOf r o = o.generatedId := by
  rw [idOf, HttpRequest.header?_idHeader_eq_none_iff.2 hnameless, Option.getD_none]

/-! ### Documents -/

/-- A document can show the character: a tab, or ASCII from the blank to the tilde. -/
def IsPlain (c : Char) : Prop := c = '\t' ∨ (' ' ≤ c ∧ c ≤ '~')

instance : DecidablePred IsPlain := fun _ => inferInstanceAs (Decidable (_ ∨ _ ∧ _))

theorem isVisible_iff {c : Char} : isVisible c = true ↔ IsPlain c := by
  simp only [isVisible, IsPlain, Bool.or_eq_true, Bool.and_eq_true, decide_eq_true_eq,
    Char.le_def, UInt32.le_iff_toNat_le]
  change (c = '\t' ∨ 32 ≤ c.toNat ∧ c.toNat < 127) ↔ (c = '\t' ∨ 32 ≤ c.toNat ∧ c.toNat ≤ 126)
  rw [Nat.lt_succ_iff]

/-- What is shown of a name: all of it, or nothing. -/
inductive Shows (id : String) : String → Prop
  | whole (hplain : ∀ c ∈ id.toList, IsPlain c) : Shows id id
  | hidden {c : Char} (hmem : c ∈ id.toList) (hplain : ¬ IsPlain c) : Shows id ""

theorem shows_shownId (id : String) : Shows id (shownId id) := by
  unfold shownId
  split
  · rename_i hall
    exact .whole fun c hc => isVisible_iff.1 (List.all_eq_true.1 hall c hc)
  · rename_i hall
    obtain ⟨c, hmem, hc⟩ : ∃ c ∈ id.toList, ¬ isVisible c = true := by simpa using hall
    exact .hidden hmem fun hplain => hc (isVisible_iff.2 hplain)

/-- The document is an object with one member that names the request. -/
def IsSigned (shown : String) (document : Json) : Prop :=
  ∃ members, document = .obj members ∧
    members.filter (·.1 = "request_id") = [("request_id", .str shown)]

theorem isSigned_result (shown : String) (result : AssessmentResult) :
    IsSigned shown (resultDocument shown result) :=
  ⟨_, rfl, rfl⟩

theorem isSigned_error (shown message : String) (kind : ErrorKind) (mode : Option Mode)
    (retryable : Bool) : IsSigned shown (errorDocument shown message kind mode retryable) := by
  cases mode with
  | none => exact ⟨_, rfl, rfl⟩
  | some mode => exact ⟨_, rfl, rfl⟩

/-! ### Responses -/

section Responses

variable (s : Service σ τ) (r : HttpRequest) (o : Occasion) (st : σ × τ)

theorem requestId_ending (id : String) (ending : Ending) :
    (ending.response s id).requestId = id := by
  cases ending with
  | answered answer => cases answer <;> rfl
  | _ => rfl

theorem isSigned_ending (id : String) {ending : Ending} (hending : ending ≠ .tooLarge) :
    ∃ document, (ending.response s id).body = .document document ∧
      IsSigned (shownId id) document := by
  cases ending with
  | tooLarge => exact absurd rfl hending
  | answered answer =>
    cases answer with
    | ok result => exact ⟨_, rfl, isSigned_result _ result⟩
    | error e => exact ⟨_, rfl, isSigned_error _ _ _ _ _⟩
  | expired => exact ⟨_, rfl, isSigned_error _ _ _ _ _⟩
  | aborted text => exact ⟨_, rfl, isSigned_error _ _ _ _ _⟩

theorem ending_ne_tooLarge (o : Occasion)
    (answer : Except String (Except AssessmentError AssessmentResult)) :
    o.ending answer ≠ .tooLarge := by
  cases answer with
  | error text => exact nofun
  | ok answer =>
    unfold Occasion.ending
    dsimp only
    split <;> exact nofun

theorem assess_eq_tooLarge_iff :
    (s.assess r o st).1 = .tooLarge ↔ s.settings.maxUploadBytes < r.body.length := by
  rcases s.stages r with hlimit | ⟨fault, hlimit, hquery⟩ | ⟨p, hreads⟩
  · rw [s.assess_of_tooLarge o st hlimit]
    exact iff_of_true rfl hlimit
  · rw [s.assess_of_malformed o st hlimit hquery]
    exact iff_of_false nofun (Nat.not_lt.2 hlimit)
  · rw [assess_of_reads o st hreads]
    exact iff_of_false (ending_ne_tooLarge o _) (Nat.not_lt.2 hreads.length_le)

theorem requestId_serveRoute (route : Route) (id : String) :
    (s.serveRoute route id r o st).1.response.requestId = id := by
  cases route with
  | assess => exact requestId_ending s id _
  | health => rfl
  | metrics =>
    change (s.metricsResponse id st.2).requestId = id
    unfold metricsResponse
    split <;> rfl

theorem requestId_handle : (s.handle r o st).1.response.requestId = idOf r o := by
  cases hroute : routeOf r with
  | error route =>
    rw [s.handle_of_unserved o st hroute]
    cases route <;> rfl
  | ok route =>
    rw [s.handle_of_served o st hroute, delivered]
    split <;> exact s.requestId_serveRoute r o st route _

def statuses : List Nat := [200, 400, 404, 405, 413, 422, 500, 503, 504]

theorem statusOf_mem (e : AssessmentError) : statusOf e ∈ statuses := by
  unfold statusOf
  split <;> decide

theorem status_ending_mem (id : String) (ending : Ending) :
    (ending.response s id).status ∈ statuses := by
  cases ending with
  | answered answer =>
    cases answer with
    | ok result => exact List.mem_cons_self
    | error e => exact statusOf_mem e
  | _ => simp [Ending.response, documentResponse, statuses]

theorem status_handle_mem : (s.handle r o st).1.response.status ∈ statuses := by
  cases hroute : routeOf r with
  | error route =>
    rw [s.handle_of_unserved o st hroute]
    cases route <;> simp [unserved, statuses]
  | ok route =>
    rw [s.handle_of_served o st hroute, status_delivered]
    cases route with
    | assess => exact s.status_ending_mem _ _
    | health => exact List.mem_cons_self
    | metrics =>
      change (s.metricsResponse (idOf r o) st.2).status ∈ statuses
      unfold metricsResponse
      split <;> simp [statuses]

/-- Every response carries the name that its request bears, or else the generated one. At the route
to assess only a body beyond the limit is answered without a document, and every document shows the
name that the response carries. -/
theorem handle_named :
    let response := (s.handle r o st).1.response
    (∀ id, r.Bears id → response.requestId = id) ∧
    (r.IsNameless → response.requestId = o.generatedId) ∧
    response.status ∈ statuses ∧
    (r.method = "POST" → r.path = "/api/v1/assess" →
      s.settings.maxUploadBytes < r.body.length ∧ response.body = .text tooLargeMessage ∨
      r.body.length ≤ s.settings.maxUploadBytes ∧
        ∃ document shown, response.body = .document document ∧
          Shows response.requestId shown ∧ IsSigned shown document) := by
  intro response
  have hname : response.requestId = idOf r o := s.requestId_handle r o st
  refine ⟨fun id hbears => ?_, fun hnameless => ?_, s.status_handle_mem r o st,
    fun hmethod hpath => ?_⟩
  · rw [hname, idOf_of_bears hbears]
  · rw [hname, idOf_of_isNameless hnameless]
  · have hbody : response.body = ((s.assess r o st).1.response s (idOf r o)).body := by
      simp only [response, s.handle_of_assess o st (routeOf_eq_assess_iff.2 ⟨hmethod, hpath⟩)]
    rw [hbody, hname]
    by_cases hlimit : s.settings.maxUploadBytes < r.body.length
    · rw [s.assess_of_tooLarge o st hlimit]
      exact .inl ⟨hlimit, rfl⟩
    · obtain ⟨document, hdocument, hsigned⟩ :=
        s.isSigned_ending (idOf r o) (mt (s.assess_eq_tooLarge_iff r o st).1 hlimit)
      exact .inr ⟨Nat.not_lt.1 hlimit, document, _, hdocument, shows_shownId _, hsigned⟩

/-- A request that waited in vain is named by the first of two headers, which is more than a
document shows. A request without a name gets the generated one, also where there is no route. -/
theorem handle_named_expired :
    let s : Service (List Reply) Unit := ⟨.default, ⟨.replaying "trial", .silent⟩, none⟩
    let r : HttpRequest :=
      ⟨"POST", "/api/v1/assess?iid=true", [("X-Request-Id", "naïve"), ("x-request-id", "two")],
        [0, 1, 2]⟩
    let nameless : HttpRequest := ⟨"PUT", "/elsewhere", [("Accept", "*/*")], []⟩
    let o : Occasion := ⟨"three", ⟨400, 0⟩, true⟩
    let response := (s.handle r o ([], ())).1.response
    response.status = 504 ∧ response.requestId = "naïve" ∧
    (∃ document, response.body = .document document ∧ IsSigned "" document) ∧
    (s.handle nameless o ([], ())).1.response.requestId = "three" := by
  intro s r nameless o response
  obtain ⟨hbears, -, -, hshown⟩ := handle_named s r o ([], ())
  have hname : response.requestId = "naïve" :=
    hbears "naïve" ⟨[], "X-Request-Id", [("x-request-id", "two")], rfl, by decide +kernel, nofun⟩
  refine ⟨by decide +kernel, hname, ?_, ?_⟩
  · rcases hshown rfl (by decide +kernel) with
      ⟨hlimit, -⟩ | ⟨-, document, shown, hbody, hshows, hsigned⟩
    · exact absurd hlimit (by decide)
    · refine ⟨document, hbody, ?_⟩
      -- the third letter is beyond ASCII
      rw [show (s.handle r o ([], ())).1.response.requestId = "naïve" from hname] at hshows
      cases hshows with
      | whole hplain => exact absurd (hplain 'ï' (by decide)) (by decide)
      | hidden => exact hsigned
  · obtain ⟨-, hgenerated, -⟩ := handle_named s nameless o ([], ())
    exact hgenerated (by unfold HttpRequest.IsNameless; decide +kernel)

end Responses

end MinEntropy.Service

import MinEntropy.Proofs.Assessment.Aggregate

/-! Runs as conversations. A track, a request and an assessment each have planned calls, and the
exchanges over these decide the answer. -/

namespace MinEntropy

open Exchange

namespace Prepared

/-- The calls of one track. -/
def calls (p : Prepared) (mode : Mode) : List Call :=
  (p.dispatch mode).views.map (p.call mode)

def start (p : Prepared) (mode : Mode) : Aggregate :=
  .start mode p.wordSize p.alphabetSize (p.dispatch mode)

/-- What one track makes of the exchanges that belong to it. -/
def conclude (p : Prepared) (mode : Mode) (xs : List Exchange) : ModeResult :=
  ((track mode xs).foldl Aggregate.hear (p.start mode)).finish

variable (p : Prepared) {mode : Mode} {xs ys : List Exchange}

@[simp] theorem call_mode (mode : Mode) (view : Representation) :
    (p.call mode view).mode = mode := by
  cases view <;> rfl

theorem mode_of_mem_calls {call : Call} (hcall : call ∈ p.calls mode) : call.mode = mode := by
  obtain ⟨view, -, rfl⟩ := List.mem_map.1 hcall
  exact p.call_mode mode view

theorem conclude_of_own (hxs : ∀ x ∈ xs, x.call.mode = mode) :
    p.conclude mode xs = (xs.foldl Aggregate.hear (p.start mode)).finish := by
  rw [conclude, track, List.filter_eq_self.2 (by simpa using hxs)]

theorem conclude_append_left (hys : ∀ y ∈ ys, y.call.mode ≠ mode) :
    p.conclude mode (xs ++ ys) = p.conclude mode xs := by
  have hnone : track mode ys = [] := List.filter_eq_nil_iff.2 (by simpa using hys)
  rw [conclude, track_append, hnone, List.append_nil, conclude]

theorem conclude_append_right (hxs : ∀ x ∈ xs, x.call.mode ≠ mode) :
    p.conclude mode (xs ++ ys) = p.conclude mode ys := by
  have hnone : track mode xs = [] := List.filter_eq_nil_iff.2 (by simpa using hxs)
  rw [conclude, track_append, hnone, List.nil_append, conclude]

theorem conclude_eq (mode : Mode) (xs : List Exchange) :
    p.conclude mode xs = Aggregate.finish { p.start mode with
      hOriginal := Figure.least p.wordSize.ceiling (figures .literal (track mode xs))
      hBitstring := Figure.least 1.0 (figures .bitstring (track mode xs))
      outcomes := (track mode xs).flatMap recorded } := by
  rw [conclude, Aggregate.foldl_hear]
  rfl

@[simp] theorem conclude_mode : (p.conclude mode xs).mode = mode := by
  rw [conclude_eq]
  rfl

@[simp] theorem conclude_wordSize : (p.conclude mode xs).wordSize = p.wordSize := by
  rw [conclude_eq]
  rfl

@[simp] theorem conclude_alphabetSize : (p.conclude mode xs).alphabetSize = p.alphabetSize := by
  rw [conclude_eq]
  rfl

@[simp] theorem conclude_outcomes :
    (p.conclude mode xs).outcomes = (track mode xs).flatMap recorded := by
  rw [conclude_eq]
  rfl

theorem conclude_hBitstring :
    (p.conclude mode xs).hBitstring =
      Figure.least 1.0 (figures .bitstring (track mode xs)) := by
  rw [conclude_eq]
  rfl

/-- Literal symbols always cap the word size, bits only where they run. -/
theorem conclude_hAssessed :
    (p.conclude mode xs).hAssessed =
      Figure.lesser
        (if (p.dispatch mode).bitstring then
          Figure.lesser p.wordSize.ceiling ((p.conclude mode xs).hBitstring * p.wordSize.ceiling)
        else p.wordSize.ceiling)
        (Figure.least p.wordSize.ceiling (figures .literal (track mode xs))) := by
  rw [conclude_eq]
  rfl

end Prepared

namespace Request

/-- The calls of one track, or none where it is switched off. -/
def callsOf (p : Prepared) (mode : Mode) (selected : Bool) : List Call :=
  if selected then p.calls mode else []

/-- What becomes of one track. -/
def slot (p : Prepared) (mode : Mode) (selected : Bool) (xs : List Exchange) :
    Option ModeResult :=
  if selected then some (p.conclude mode xs) else none

/-- The calls of the selected tracks. -/
def calls (r : Request) (p : Prepared) : List Call :=
  callsOf p .iid r.runIid ++ callsOf p .nonIid r.runNonIid

/-- What the request makes of the exchanges. -/
def conclude (r : Request) (p : Prepared) (xs : List Exchange) : AssessmentResult :=
  .combine r.wordSize r.data.length (slot p .iid r.runIid xs) (slot p .nonIid r.runNonIid xs)

/-- The selected tracks in the order in which they run. -/
def modes (r : Request) : List Mode :=
  (if r.runIid then [.iid] else []) ++ (if r.runNonIid then [.nonIid] else [])

variable {r : Request} {p : Prepared} {mode : Mode} {call : Call}

theorem mem_callsOf {selected : Bool} (hcall : call ∈ callsOf p mode selected) :
    selected = true ∧ call ∈ p.calls mode := by
  cases selected with
  | false => cases hcall
  | true => exact ⟨rfl, hcall⟩

theorem mode_of_mem_callsOf {selected : Bool} (hcall : call ∈ callsOf p mode selected) :
    call.mode = mode :=
  p.mode_of_mem_calls (mem_callsOf hcall).2

theorem mem_calls (hcall : call ∈ r.calls p) :
    call.mode ∈ r.modes ∧ call ∈ p.calls call.mode := by
  rcases List.mem_append.1 hcall with hcall | hcall
  · obtain ⟨hselected, hmem⟩ := mem_callsOf hcall
    rw [p.mode_of_mem_calls hmem]
    exact ⟨by simp [modes, hselected], hmem⟩
  · obtain ⟨hselected, hmem⟩ := mem_callsOf hcall
    rw [p.mode_of_mem_calls hmem]
    exact ⟨by simp [modes, hselected], hmem⟩

theorem modes_conclude (r : Request) (p : Prepared) (xs : List Exchange) :
    (r.conclude p xs).modes = r.modes.map (p.conclude · xs) := by
  obtain ⟨data, wordSize, _ | _, _ | _⟩ := r <;> rfl

theorem modes_ne_nil {selection : Selection} (hr : r.validate = .ok selection) :
    r.modes ≠ [] := by
  obtain ⟨data, wordSize, _ | _, _ | _⟩ := r
  case false.false =>
    unfold validate at hr
    split at hr
    · cases hr
    · split at hr <;> cases hr
  all_goals simp [modes]

end Request

namespace Suite

variable (s : Suite σ) (p : Prepared) (mode : Mode)

theorem invoke_eq (call : Call) (st : σ) :
    s.invoke call st = ((s.answer call st).1.guarded, (s.answer call st).2) :=
  rfl

theorem runViews_eq (views : List Representation) (a : Aggregate) (st : σ) :
    s.runViews p mode views a st =
      (settle (s.converse (views.map (p.call mode)) st).1
        ((s.converse (views.map (p.call mode)) st).1.foldl Aggregate.hear a),
        (s.converse (views.map (p.call mode)) st).2) := by
  induction views generalizing a st with
  | nil => rfl
  | cons view rest ih =>
    rw [List.map_cons, runViews, invoke_eq]
    cases hreply : (s.answer (p.call mode view) st).1.guarded with
    | error e =>
      have hfail := @failure?_of_guarded_error e (p.call mode view) _ hreply
      rw [converse_of_failure s _ hfail, settle, fault?_cons_of_error hfail, p.call_mode]
    | ok outcomes =>
      have hok := @failure?_of_guarded_ok (p.call mode view) _ _ hreply
      have hhear : a.hear ⟨p.call mode view, (s.answer (p.call mode view) st).1⟩ =
          a.record view outcomes := by
        cases view <;> simp only [Aggregate.hear, hreply] <;> rfl
      rw [converse_of_success s _ hok, settle, fault?_cons_of_ok hok, List.foldl_cons, hhear]
      exact ih (a.record view outcomes) (s.answer (p.call mode view) st).2

theorem runMode_eq (st : σ) :
    s.runMode p mode st =
      (settle (s.converse (p.calls mode) st).1 (p.conclude mode (s.converse (p.calls mode) st).1),
        (s.converse (p.calls mode) st).2) := by
  have hown : ∀ x ∈ (s.converse (p.calls mode) st).1, x.call.mode = mode :=
    fun x hx => p.mode_of_mem_calls (s.call_mem_of_mem_converse hx)
  rw [p.conclude_of_own hown, runMode, Prepared.calls, Prepared.start]
  simp only [runViews_eq, settle]
  cases fault? (s.converse ((p.dispatch mode).views.map (p.call mode)) st).1 with
  | none => rfl
  | some e => rfl

theorem runSelected_eq (selected : Bool) (st : σ) :
    s.runSelected p mode selected st =
      (settle (s.converse (Request.callsOf p mode selected) st).1
        (Request.slot p mode selected (s.converse (Request.callsOf p mode selected) st).1),
        (s.converse (Request.callsOf p mode selected) st).2) := by
  cases selected with
  | false => rfl
  | true =>
    rw [runSelected, if_pos rfl, runMode_eq, Request.callsOf, if_pos rfl, settle, settle]
    cases fault? (s.converse (p.calls mode) st).1 with
    | none => rfl
    | some e => rfl

/-- Over prepared samples a request makes its planned calls up to the first that fails. -/
theorem runRequest_eq {r : Request} {p : Prepared}
    (hp : Samples.prepare r.data r.wordSize = .ok p) (st : σ) :
    s.runRequest r st =
      (settle (s.converse (r.calls p) st).1 (r.conclude p (s.converse (r.calls p) st).1),
        (s.converse (r.calls p) st).2) := by
  rw [runRequest, hp, Request.calls, converse_append]
  dsimp only
  rw [runSelected_eq]
  have hiid : ∀ x ∈ (s.converse (Request.callsOf p .iid r.runIid) st).1, x.call.mode ≠ .nonIid := by
    intro x hx
    rw [Request.mode_of_mem_callsOf (s.call_mem_of_mem_converse hx)]
    decide
  generalize s.converse (Request.callsOf p .iid r.runIid) st = first at hiid ⊢
  cases hfault : fault? first.1 with
  | some e => simp [settle, hfault]
  | none =>
    have hnonIid : ∀ x ∈ (s.converse (Request.callsOf p .nonIid r.runNonIid) first.2).1,
        x.call.mode ≠ .iid := by
      intro x hx
      rw [Request.mode_of_mem_callsOf (s.call_mem_of_mem_converse hx)]
      decide
    simp only [settle, hfault, runSelected_eq]
    generalize s.converse (Request.callsOf p .nonIid r.runNonIid) first.2 = second at hnonIid ⊢
    have hconclude : r.conclude p (first.1 ++ second.1) =
        .combine r.wordSize r.data.length (Request.slot p .iid r.runIid first.1)
          (Request.slot p .nonIid r.runNonIid second.1) := by
      rw [Request.conclude, Request.slot, Request.slot, p.conclude_append_left hnonIid,
        p.conclude_append_right hiid]
      rfl
    rw [fault?_append, hfault, Option.none_or, hconclude]
    cases fault? second.1 with
    | none => rfl
    | some e => rfl

theorem runRequest_of_unprepared {r : Request} {e : PrepareError}
    (he : Samples.prepare r.data r.wordSize = .error e) (st : σ) :
    s.runRequest r st = (.error (.failed r.firstMode (.preparation e)), st) := by
  rw [runRequest, he]

/-- The exchanges of a request: none where the samples cannot be prepared. -/
def exchanges (r : Request) (st : σ) : List Exchange :=
  match Samples.prepare r.data r.wordSize with
  | .error _ => []
  | .ok p => (s.converse (r.calls p) st).1

theorem runRequest_transcribed (r : Request) (st : σ) (log : List Exchange) :
    s.transcribed.runRequest r (st, log) =
      ((s.runRequest r st).1, (s.runRequest r st).2, log ++ s.exchanges r st) := by
  cases hp : Samples.prepare r.data r.wordSize with
  | error e =>
    rw [runRequest_of_unprepared _ hp, runRequest_of_unprepared _ hp, exchanges, hp,
      List.append_nil]
  | ok p => rw [runRequest_eq _ hp, runRequest_eq _ hp, converse_transcribed, exchanges, hp]

end Suite

namespace Coordinator

/-- The same coordinator over a suite that keeps a transcript. -/
def transcribed (c : Coordinator σ τ) : Coordinator (σ × List Exchange) τ :=
  ⟨c.suite.transcribed, c.observer⟩

/-- The exchanges of one assessment. -/
def transcript (c : Coordinator σ τ) (r : Request) (took : Duration) (st : σ × τ) :
    List Exchange :=
  (c.transcribed.assess r took ((st.1, []), st.2)).2.1.2

variable (c : Coordinator σ τ) {r : Request} (took : Duration) (st : σ × τ)
variable {selection : Selection} {text : String}

theorem assess_of_rejected {e : RequestError} (hr : r.validate = .error e) :
    c.assess r took st =
      (.ok (.error (.rejected e)), st.1, c.observer.note (.rejected e) st.2) := by
  rw [assess, hr]

theorem assess_of_breaking (hr : r.validate = .ok selection)
    (hbreaks : c.observer.breaksAtStart = some text) :
    c.assess r took st = (.error text, st) := by
  rw [assess, hr]
  simp only [hbreaks]

theorem assess_of_running (hr : r.validate = .ok selection)
    (hcalm : c.observer.breaksAtStart = none) :
    c.assess r took st =
      (.ok (c.suite.runRequest r st.1).1, (c.suite.runRequest r st.1).2,
        c.observer.note (ending selection took (c.suite.runRequest r st.1).1)
          (c.observer.note (.started selection r.data.length) st.2)) := by
  rw [assess, hr]
  simp only [hcalm]

theorem transcript_of_rejected {e : RequestError} (hr : r.validate = .error e) :
    c.transcript r took st = [] := by
  rw [transcript, assess_of_rejected _ _ _ hr]

theorem transcript_of_breaking (hr : r.validate = .ok selection)
    (hbreaks : c.observer.breaksAtStart = some text) : c.transcript r took st = [] := by
  rw [transcript, assess_of_breaking c.transcribed _ _ hr hbreaks]

theorem transcript_of_running (hr : r.validate = .ok selection)
    (hcalm : c.observer.breaksAtStart = none) :
    c.transcript r took st = c.suite.exchanges r st.1 := by
  rw [transcript, assess_of_running c.transcribed _ _ hr hcalm, transcribed,
    Suite.runRequest_transcribed, List.nil_append]

variable (r) in
/-- A request is refused, or its announcement breaks the observer, or it is run. -/
theorem assess_cases :
    (∃ e, r.validate = .error e) ∨
    (∃ selection text, r.validate = .ok selection ∧ c.observer.breaksAtStart = some text) ∨
    ∃ selection, r.validate = .ok selection ∧ c.observer.breaksAtStart = none := by
  cases r.validate with
  | error e => exact .inl ⟨e, rfl⟩
  | ok selection =>
    cases c.observer.breaksAtStart with
    | some text => exact .inr (.inl ⟨selection, text, rfl, rfl⟩)
    | none => exact .inr (.inr ⟨selection, rfl, rfl⟩)

/-- Keeping a transcript changes nothing else: answer, suite and observer are the same. -/
theorem assess_transcribed (r : Request) (log : List Exchange) :
    c.transcribed.assess r took ((st.1, log), st.2) =
      ((c.assess r took st).1, ((c.assess r took st).2.1, log ++ c.transcript r took st),
        (c.assess r took st).2.2) := by
  rcases c.assess_cases r with ⟨e, hr⟩ | ⟨selection, text, hr, hbreaks⟩ | ⟨selection, hr, hcalm⟩
  · rw [assess_of_rejected _ _ _ hr, assess_of_rejected _ _ _ hr, transcript_of_rejected _ _ _ hr,
      List.append_nil]
    rfl
  · rw [assess_of_breaking c.transcribed _ _ hr hbreaks, assess_of_breaking _ _ _ hr hbreaks,
      transcript_of_breaking _ _ _ hr hbreaks, List.append_nil]
  · rw [assess_of_running c.transcribed _ _ hr hcalm, assess_of_running _ _ _ hr hcalm,
      transcript_of_running _ _ _ hr hcalm, transcribed, Suite.runRequest_transcribed]

end Coordinator

end MinEntropy

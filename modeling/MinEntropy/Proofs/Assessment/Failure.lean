import MinEntropy.Proofs.Assessment.Run

/-! Errors of a suite, from the call to the answer of an assessment. Codes and texts are passed on
as they are. -/

namespace MinEntropy

open Exchange

/-- The suite failed with a code and a text. Breaking down with a text has a code of its own. -/
def Exchange.FailsWith (x : Exchange) (code : Int) (text : String) : Prop :=
  x.reply = .failure (.ofCode code text) ∨
    (x.reply = .breakdown (some text) ∧ code = SuiteError.exceptionCode)

namespace SuiteError

variable (code : Int) (text : String)

/-- What a code says that the suite did. -/
def deed : String := if code = rejectedCode then "rejected input" else "raised an exception"

theorem code?_ofCode : (ofCode code text).code? = some code := by
  unfold ofCode
  split <;> rfl

theorem message_ofCode :
    (ofCode code text).message =
      "estimator suite " ++ deed code ++ " (code " ++ toString code ++ "): " ++ text := by
  unfold ofCode deed
  split <;> rfl

theorem kind_ofCode : (ModeError.suite (ofCode code text)).kind = .foreign := by
  unfold ofCode
  split <;> rfl

end SuiteError

namespace AssessmentError

/-- The error of a track whose suite failed with a code and a text. -/
def foreign (mode : Mode) (code : Int) (text : String) : AssessmentError :=
  .failed mode (.suite (.ofCode code text))

/-- What is said of it: the track, the code, and at the end the text as it was. -/
def foreignMessage (mode : Mode) (code : Int) (text : String) : String :=
  mode.label ++ " assessment failed: estimator suite " ++ SuiteError.deed code ++ " (code " ++
    toString code ++ "): " ++ text

section Foreign

variable (mode : Mode) (code : Int) (text : String)

theorem foreignCode?_foreign : (foreign mode code text).foreignCode? = some code :=
  SuiteError.code?_ofCode code text

theorem kind_foreign : (foreign mode code text).kind = .foreign := SuiteError.kind_ofCode code text

theorem message_foreign :
    (foreign mode code text).message = foreignMessage mode code text := by
  have hsource : (foreign mode code text).message =
      mode.label ++ " assessment failed: " ++ (SuiteError.ofCode code text).message := rfl
  rw [hsource, SuiteError.message_ofCode]
  simp only [foreignMessage, String.append_assoc]
  rfl

end Foreign

/-- Memory ran out, for the samples or in the suite. -/
def IsExhaustion (e : AssessmentError) : Prop :=
  ∃ mode, (∃ what bytes, e = .failed mode (.preparation (.allocation what bytes))) ∨
    ∃ what, e = .failed mode (.suite (.outOfMemory what))

end AssessmentError

namespace Exchange

variable {x : Exchange} {code : Int} {text : String}

theorem FailsWith.failure?_eq (hfails : x.FailsWith code text) :
    x.failure? = some (.ofCode code text) := by
  unfold failure?
  rcases hfails with hreply | ⟨hreply, rfl⟩
  · rw [hreply]
  · rw [hreply]
    rfl

end Exchange

namespace Suite

variable (s : Suite σ) {r : Request} {st : σ} {x : Exchange} {e : SuiteError}

/-- A conversation holds no more than one failure, which is its end. -/
theorem fault?_converse {calls : List Call} (hx : x ∈ (s.converse calls st).1)
    (hfail : x.failure? = some e) :
    fault? (s.converse calls st).1 = some (.failed x.call.mode (.suite e)) := by
  rcases s.converse_cases calls st with ⟨-, hclean⟩ | ⟨done, last, e', rest, hxs, hdone, hlast, -⟩
  · rw [hclean x hx] at hfail
    cases hfail
  · rw [hxs] at hx ⊢
    rw [fault?_append, fault?_eq_none_iff.2 hdone, Option.none_or]
    rcases List.mem_append.1 hx with hx | hx
    · rw [hdone x hx] at hfail
      cases hfail
    · obtain rfl := List.mem_singleton.1 hx
      exact fault?_cons_of_error hfail

theorem runRequest_of_failure (hx : x ∈ s.exchanges r st) (hfail : x.failure? = some e) :
    (s.runRequest r st).1 = .error (.failed x.call.mode (.suite e)) := by
  cases hp : Samples.prepare r.data r.wordSize with
  | error e' =>
    rw [exchanges, hp] at hx
    cases hx
  | ok p =>
    rw [exchanges, hp] at hx
    rw [s.runRequest_eq hp, settle, s.fault?_converse hx hfail]

end Suite

namespace Coordinator

variable {c : Coordinator σ τ} {r : Request} {took : Duration} {st : σ × τ} {x : Exchange}
variable {e : SuiteError}

/-- The exchanges of an assessment are those of a sound request that was announced. -/
theorem runs_of_mem_transcript (hx : x ∈ c.transcript r took st) :
    x ∈ c.suite.exchanges r st.1 ∧
      (c.assess r took st).1 = .ok (c.suite.runRequest r st.1).1 := by
  rcases c.assess_cases r with ⟨e, hr⟩ | ⟨selection, text, hr, hbreaks⟩ | ⟨selection, hr, hcalm⟩
  · rw [transcript_of_rejected _ _ _ hr] at hx
    cases hx
  · rw [transcript_of_breaking _ _ _ hr hbreaks] at hx
    cases hx
  · rw [transcript_of_running _ _ _ hr hcalm] at hx
    rw [assess_of_running _ _ _ hr hcalm]
    exact ⟨hx, rfl⟩

theorem assess_of_failure (hx : x ∈ c.transcript r took st) (hfail : x.failure? = some e) :
    (c.assess r took st).1 = .ok (.error (.failed x.call.mode (.suite e))) := by
  obtain ⟨hmem, hassess⟩ := runs_of_mem_transcript hx
  rw [hassess, c.suite.runRequest_of_failure hmem hfail]

end Coordinator

end MinEntropy

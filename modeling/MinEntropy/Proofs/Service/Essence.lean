import MinEntropy.Proofs.Metrics.Untimed
import MinEntropy.Service.Basic

/-! Responses apart from the names of requests that were generated, and from times. -/

namespace MinEntropy.Service

/-- The document under another name of its request. -/
def renamedDocument (id : String) : Json → Json
  | .obj members => .obj (members.map fun m => if m.1 = "request_id" then (m.1, .str id) else m)
  | j => j

/-- The response under another name of its request. -/
def Response.renamed (id : String) (x : Response) : Response :=
  { x with
    requestId := id
    body := match x.body with
      | .document j => .document (renamedDocument (shownId id) j)
      | body => body }

/-- The response without the lines that depend on how long anything took. -/
def Response.untimed (x : Response) : Response :=
  { x with
    body := match x.body with
      | .account account => .text (String.join (account.stableLines.map (· ++ "\n")))
      | body => body }

/-- The response apart from times, and from the name of the request where that was generated. -/
def Response.essence (r : HttpRequest) (x : Response) : Response :=
  match r.header? HttpRequest.idHeader with
  | some _ => x.untimed
  | none => (x.renamed "").untimed

/-- The response apart from the name of the request where that was generated. -/
def Response.unnamed (r : HttpRequest) (x : Response) : Response :=
  match r.header? HttpRequest.idHeader with
  | some _ => x
  | none => x.renamed ""

theorem essence_eq_untimed (r : HttpRequest) (x : Response) :
    x.essence r = (x.unnamed r).untimed := by
  unfold Response.essence Response.unnamed
  split <;> rfl

/-- The responses are the same but for the name. -/
def IsNamed (f : String → Response) : Prop := ∀ id id', (f id).renamed id' = f id'

section Names

variable {s : Service σ τ} {f g : String → Response}

theorem unnamed_eq (hf : IsNamed f) (r : HttpRequest) (o : Occasion) :
    (f (idOf r o)).unnamed r = f ((r.header? HttpRequest.idHeader).getD "") := by
  unfold Response.unnamed idOf
  cases r.header? HttpRequest.idHeader with
  | some id => rfl
  | none => exact hf _ _

/-- Responses that agree under every name agree on all occasions. -/
theorem unnamed_congr (hf : IsNamed f) (r : HttpRequest) (o o' : Occasion) :
    (f (idOf r o)).unnamed r = (f (idOf r o')).unnamed r := by
  rw [unnamed_eq hf, unnamed_eq hf]

/-- Responses that agree under every name apart from times agree on all occasions. -/
theorem essence_congr (hf : IsNamed f) (hg : IsNamed g)
    (hsame : ∀ id, (f id).untimed = (g id).untimed) (r : HttpRequest) (o o' : Occasion) :
    (f (idOf r o)).essence r = (g (idOf r o')).essence r := by
  rw [essence_eq_untimed, essence_eq_untimed, unnamed_eq hf, unnamed_eq hg, hsame]

theorem isNamed_documentResponse {status : Nat} {document : String → Json}
    (hdocument : ∀ id id', renamedDocument id' (document id) = document id') :
    IsNamed fun id => documentResponse status id (document (shownId id)) := by
  intro id id'
  simp [documentResponse, Response.renamed, hdocument]

theorem renamedDocument_result (result : AssessmentResult) (id id' : String) :
    renamedDocument id' (resultDocument id result) = resultDocument id' result := by
  simp [renamedDocument, resultDocument, AssessmentResult.members]

theorem renamedDocument_error (message : String) (kind : ErrorKind) (mode : Option Mode)
    (retryable : Bool) (id id' : String) :
    renamedDocument id' (errorDocument id message kind mode retryable) =
      errorDocument id' message kind mode retryable := by
  cases mode <;> simp [renamedDocument, errorDocument, Report.member?]

theorem isNamed_ending (ending : Ending) : IsNamed fun id => ending.response s id := by
  cases ending with
  | tooLarge => exact fun _ _ => rfl
  | answered answer =>
    cases answer with
    | ok result => exact isNamed_documentResponse (renamedDocument_result result)
    | error e => exact isNamed_documentResponse (renamedDocument_error e.message _ _ _)
  | expired => exact isNamed_documentResponse (renamedDocument_error _ _ _ _)
  | aborted text => exact isNamed_documentResponse (renamedDocument_error _ _ _ _)

theorem isNamed_health : IsNamed fun id => documentResponse 200 id healthDocument := by
  intro id id'
  simp [documentResponse, Response.renamed, renamedDocument, healthDocument]

theorem isNamed_metrics (seen : τ) : IsNamed fun id => s.metricsResponse id seen := by
  intro id id'
  unfold metricsResponse
  cases s.metrics <;> rfl

theorem isNamed_unserved (route : Option Route) :
    IsNamed fun id => (unserved id route).response := by
  intro id id'
  cases route <;> rfl

theorem untimed_withoutBody (x : Response) :
    (Service.withoutBody x).untimed = Service.withoutBody x.untimed :=
  rfl

theorem IsNamed.withoutBody (hf : IsNamed f) : IsNamed fun id => Service.withoutBody (f id) :=
  fun id id' => congrArg Service.withoutBody (hf id id')

end Names

end MinEntropy.Service

import MinEntropy.Assessment.Coordinator

/-! What a suite is asked and what it replies, in the order of the calls. The first call that fails
is the last one made. -/

namespace MinEntropy

namespace Exchange

/-- The error of a call that failed. A breakdown counts as an exception. -/
def failure? (x : Exchange) : Option SuiteError :=
  match x.reply with
  | .outcomes _ => none
  | .failure e => some e
  | .breakdown text =>
    some (.exception SuiteError.exceptionCode (text.getD Reply.unknownBreakdown))

/-- The outcomes of a call, without invalid estimates and with the representation of the call. -/
def recorded (x : Exchange) : List RecordedOutcome :=
  match x.reply with
  | .outcomes list => list.map fun o => ⟨o.normalise, x.call.view⟩
  | .failure _ | .breakdown _ => []

/-- The exchanges of one track. -/
def track (mode : Mode) (xs : List Exchange) : List Exchange := xs.filter (·.call.mode = mode)

/-- The first failure, blamed on the track of its call. -/
def fault? (xs : List Exchange) : Option AssessmentError :=
  xs.findSome? fun x => x.failure?.map fun e => .failed x.call.mode (.suite e)

/-- A value that stands unless a call failed. -/
def settle (xs : List Exchange) (value : α) : Except AssessmentError α :=
  match fault? xs with
  | none => .ok value
  | some e => .error e

section Faults

variable {x : Exchange} {xs ys : List Exchange} {e : SuiteError}

theorem failure?_of_guarded_error {call : Call} {reply : Reply} (he : reply.guarded = .error e) :
    failure? ⟨call, reply⟩ = some e := by
  cases reply with
  | outcomes list => cases he
  | failure e' => exact congrArg some (Except.error.inj he)
  | breakdown text => exact congrArg some (Except.error.inj he)

theorem failure?_of_guarded_ok {call : Call} {reply : Reply} {list : List Outcome}
    (hok : reply.guarded = .ok list) : failure? ⟨call, reply⟩ = none := by
  cases reply with
  | outcomes list' => rfl
  | failure e' => cases hok
  | breakdown text => cases hok

theorem fault?_cons_of_ok (hx : x.failure? = none) : fault? (x :: xs) = fault? xs := by
  simp [fault?, hx]

theorem fault?_cons_of_error (hx : x.failure? = some e) :
    fault? (x :: xs) = some (.failed x.call.mode (.suite e)) := by
  simp [fault?, hx]

theorem track_append (mode : Mode) (xs ys : List Exchange) :
    track mode (xs ++ ys) = track mode xs ++ track mode ys :=
  List.filter_append xs ys

theorem fault?_append (xs ys : List Exchange) :
    fault? (xs ++ ys) = (fault? xs).or (fault? ys) :=
  List.findSome?_append

theorem fault?_eq_none_iff : fault? xs = none ↔ ∀ x ∈ xs, x.failure? = none := by
  simp [fault?]

theorem settle_eq_ok {value value' : α} (hok : settle xs value = .ok value') : value = value' := by
  unfold settle at hok
  split at hok
  · exact Except.ok.inj hok
  · cases hok

theorem settle_of_clean (hclean : ∀ x ∈ xs, x.failure? = none) (value : α) :
    settle xs value = .ok value := by
  rw [settle, fault?_eq_none_iff.2 hclean]

theorem settle_of_failure (hdone : ∀ y ∈ ys, y.failure? = none) (hx : x.failure? = some e)
    (value : α) : settle (ys ++ [x]) value = .error (.failed x.call.mode (.suite e)) := by
  rw [settle, fault?_append, fault?_eq_none_iff.2 hdone, Option.none_or, fault?_cons_of_error hx]

end Faults

end Exchange

namespace Suite

/-- The exchanges over some calls, up to the first that fails. -/
def converse (s : Suite σ) : List Call → σ → List Exchange × σ
  | [], st => ([], st)
  | call :: rest, st =>
    let (reply, st₁) := s.answer call st
    match Exchange.failure? ⟨call, reply⟩ with
    | some _ => ([⟨call, reply⟩], st₁)
    | none =>
      let (xs, st₂) := s.converse rest st₁
      (⟨call, reply⟩ :: xs, st₂)

variable (s : Suite σ) {call : Call} {st : σ}

@[simp] theorem converse_nil (st : σ) : s.converse [] st = ([], st) := rfl

theorem converse_of_failure {e : SuiteError} (rest : List Call)
    (hfail : Exchange.failure? ⟨call, (s.answer call st).1⟩ = some e) :
    s.converse (call :: rest) st =
      ([⟨call, (s.answer call st).1⟩], (s.answer call st).2) := by
  simp [converse, hfail]

theorem converse_of_success (rest : List Call)
    (hok : Exchange.failure? ⟨call, (s.answer call st).1⟩ = none) :
    s.converse (call :: rest) st =
      (⟨call, (s.answer call st).1⟩ :: (s.converse rest (s.answer call st).2).1,
        (s.converse rest (s.answer call st).2).2) := by
  simp [converse, hok]

/-- Either all calls are made and none fails, or they end with the first that fails. -/
theorem converse_cases (calls : List Call) (st : σ) :
    ((s.converse calls st).1.map (·.call) = calls ∧
      ∀ x ∈ (s.converse calls st).1, x.failure? = none) ∨
    ∃ done x e rest, (s.converse calls st).1 = done ++ [x] ∧
      (∀ y ∈ done, y.failure? = none) ∧ x.failure? = some e ∧
      calls = (done ++ [x]).map (·.call) ++ rest := by
  induction calls generalizing st with
  | nil => exact .inl ⟨rfl, by simp⟩
  | cons call rest ih =>
    cases hfail : Exchange.failure? ⟨call, (s.answer call st).1⟩ with
    | some e =>
      rw [converse_of_failure s rest hfail]
      exact .inr ⟨[], _, e, rest, rfl, by simp, hfail, rfl⟩
    | none =>
      rw [converse_of_success s rest hfail]
      rcases ih (s.answer call st).2 with
        ⟨hcalls, hclean⟩ | ⟨done, x, e, later, hxs, hdone, hx, hrest⟩
      · exact .inl ⟨congrArg (call :: ·) hcalls, List.forall_mem_cons.2 ⟨hfail, hclean⟩⟩
      · exact .inr ⟨_ :: done, x, e, later, congrArg (_ :: ·) hxs,
          List.forall_mem_cons.2 ⟨hfail, hdone⟩, hx, congrArg (call :: ·) hrest⟩

theorem map_call_converse_prefix (calls : List Call) (st : σ) :
    (s.converse calls st).1.map (·.call) <+: calls := by
  rcases s.converse_cases calls st with ⟨hcalls, -⟩ | ⟨done, x, e, rest, hxs, -, -, hrest⟩
  · exact ⟨[], (List.append_nil _).trans hcalls⟩
  · rw [hxs]
    exact ⟨rest, hrest.symm⟩

theorem call_mem_of_mem_converse {calls : List Call} {x : Exchange}
    (hx : x ∈ (s.converse calls st).1) : x.call ∈ calls :=
  (s.map_call_converse_prefix calls st).subset (List.mem_map_of_mem hx)

/-- Further calls are made only when none failed so far. -/
theorem converse_append (calls more : List Call) (st : σ) :
    s.converse (calls ++ more) st =
      match Exchange.fault? (s.converse calls st).1 with
      | some _ => s.converse calls st
      | none =>
        ((s.converse calls st).1 ++ (s.converse more (s.converse calls st).2).1,
          (s.converse more (s.converse calls st).2).2) := by
  induction calls generalizing st with
  | nil => rfl
  | cons call rest ih =>
    cases hfail : Exchange.failure? ⟨call, (s.answer call st).1⟩ with
    | some e =>
      rw [List.cons_append, converse_of_failure s _ hfail, converse_of_failure s rest hfail,
        Exchange.fault?_cons_of_error hfail]
    | none =>
      rw [List.cons_append, converse_of_success s _ hfail, converse_of_success s rest hfail,
        Exchange.fault?_cons_of_ok hfail, ih]
      split
      · rfl
      · rfl

theorem transcribed_answer (call : Call) (st : σ) (log : List Exchange) :
    s.transcribed.answer call (st, log) =
      ((s.answer call st).1, (s.answer call st).2, log ++ [⟨call, (s.answer call st).1⟩]) :=
  rfl

/-- Keeping a transcript changes neither the exchanges nor the state of the suite. -/
theorem converse_transcribed (calls : List Call) (st : σ) (log : List Exchange) :
    s.transcribed.converse calls (st, log) =
      ((s.converse calls st).1, (s.converse calls st).2, log ++ (s.converse calls st).1) := by
  induction calls generalizing st log with
  | nil => simp
  | cons call rest ih =>
    cases hfail : Exchange.failure? ⟨call, (s.answer call st).1⟩ with
    | some e =>
      rw [converse_of_failure s rest hfail, converse_of_failure s.transcribed rest hfail,
        transcribed_answer]
    | none =>
      rw [converse_of_success s rest hfail, converse_of_success s.transcribed rest hfail,
        transcribed_answer, ih, List.append_assoc]
      rfl

end Suite

end MinEntropy

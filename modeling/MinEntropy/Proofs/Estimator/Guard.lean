import MinEntropy.Estimator.Mock
import MinEntropy.Proofs.Figure.Least

/-! The guard around a suite. What the suite did fixes the answer, however the call ended, and the
stand-in remembers every call, those that failed or broke down included. -/

namespace MinEntropy

/-- What is left of an outcome: all but an estimate that is not finite or below zero. -/
structure Outcome.Kept (o kept : Outcome) : Prop where
  name_eq : kept.name = o.name
  passed_eq : kept.passed = o.passed
  estimate_of_valid : ∀ h, o.estimate = some h → h.isFinite = true → 0.0 ≤ h →
    kept.estimate = some h
  estimate_of_invalid : ∀ h, o.estimate = some h → ¬ (h.isFinite = true ∧ 0.0 ≤ h) →
    kept.estimate = none
  estimate_of_none : o.estimate = none → kept.estimate = none

/-- The answer of the guard, by the way in which the call ended. -/
inductive Reply.Guards : Reply → Except SuiteError (List Outcome) → Prop
  | outcomes {list kept : List Outcome} (hkept : List.Forall₂ Outcome.Kept list kept) :
      Guards (.outcomes list) (.ok kept)
  | failure (e : SuiteError) : Guards (.failure e) (.error e)
  | told (text : String) : Guards (.breakdown (some text)) (.error (.exception (-2) text))
  | untold : Guards (.breakdown none) (.error (.exception (-2) "unknown panic in estimator suite"))

namespace Outcome

variable {o kept : Outcome}

theorem estimate_normalise {h : Float} (hh : o.estimate = some h) :
    o.normalise.estimate = if h.isFinite = true ∧ 0.0 ≤ h then some h else none := by
  rw [normalise, validEstimate, hh, Option.filter_some]
  simp only [Figure.isValid_iff]

theorem kept_normalise (o : Outcome) : o.Kept o.normalise where
  name_eq := rfl
  passed_eq := rfl
  estimate_of_valid h hh hfinite hzero := by
    rw [estimate_normalise hh, if_pos ⟨hfinite, hzero⟩]
  estimate_of_invalid h hh hinvalid := by
    rw [estimate_normalise hh, if_neg hinvalid]
  estimate_of_none hnone := by
    rw [normalise, validEstimate, hnone, Option.filter_none]

/-- Nothing about an outcome is left open. -/
theorem kept_iff : o.Kept kept ↔ o.normalise = kept := by
  constructor
  · intro hkept
    have hown := o.kept_normalise
    have hestimate : o.normalise.estimate = kept.estimate := by
      cases hh : o.estimate with
      | none => rw [hown.estimate_of_none hh, hkept.estimate_of_none hh]
      | some h =>
        by_cases hvalid : h.isFinite = true ∧ 0.0 ≤ h
        · rw [hown.estimate_of_valid h hh hvalid.1 hvalid.2,
            hkept.estimate_of_valid h hh hvalid.1 hvalid.2]
        · rw [hown.estimate_of_invalid h hh hvalid, hkept.estimate_of_invalid h hh hvalid]
    obtain ⟨name, estimate, passed⟩ := kept
    obtain rfl : name = o.name := hkept.name_eq
    obtain rfl : passed = o.passed := hkept.passed_eq
    obtain rfl : o.normalise.estimate = estimate := hestimate
    rfl
  · rintro rfl
    exact o.kept_normalise

theorem forall₂_kept_iff {list kept : List Outcome} :
    List.Forall₂ Kept list kept ↔ list.map normalise = kept := by
  rw [← List.forall₂_eq_eq_eq, List.forall₂_map_left_iff]
  exact ⟨fun h => h.imp fun _ _ => kept_iff.1, fun h => h.imp fun _ _ => kept_iff.2⟩

end Outcome

theorem Reply.guards_iff {reply : Reply} {answer : Except SuiteError (List Outcome)} :
    reply.Guards answer ↔ reply.guarded = answer := by
  constructor
  · intro hguards
    cases hguards with
    | outcomes hkept => exact congrArg Except.ok (Outcome.forall₂_kept_iff.1 hkept)
    | failure e => rfl
    | told text => rfl
    | untold => rfl
  · rintro rfl
    cases reply with
    | outcomes list => exact .outcomes (Outcome.forall₂_kept_iff.2 rfl)
    | failure e => exact .failure e
    | breakdown text =>
      cases text with
      | none => exact .untold
      | some text => exact .told text

namespace Mock

/-- A call leaves its record, whatever comes of it. -/
theorem invoke_suite (b : Behaviour) (call : Call) (seen : List Record) :
    (suite b).invoke call seen =
      ((reply b call).guarded,
        seen ++ [⟨call.mode, call.view, call.symbols.length, call.alphabetSize⟩]) :=
  rfl

theorem invokeAll_suite (b : Behaviour) (calls : List Call) (seen : List Record) :
    (suite b).invokeAll calls seen =
      (calls.map fun c => (reply b c).guarded,
        seen ++ calls.map fun c => ⟨c.mode, c.view, c.symbols.length, c.alphabetSize⟩) := by
  induction calls generalizing seen with
  | nil => simp [Suite.invokeAll]
  | cons call rest ih => simp [Suite.invokeAll, invoke_suite, ih]

end Mock

/-- The guard answers every call, and what the suite did leaves only one answer. After any calls to
the stand-in each has its answer and its record, in order. -/
theorem Suite.invoke_guards (s : Suite σ) (call : Call) (st : σ) (b : Mock.Behaviour)
    (calls : List Call) (seen : List Mock.Record) :
    (∀ answer, (s.answer call st).1.Guards answer ↔ (s.invoke call st).1 = answer) ∧
    (s.invoke call st).2 = (s.answer call st).2 ∧
    List.Forall₂ (fun c answer => (Mock.reply b c).Guards answer) calls
      ((Mock.suite b).invokeAll calls seen).1 ∧
    ((Mock.suite b).invokeAll calls seen).2 = seen ++
      calls.map fun c => ⟨c.mode, c.view, c.symbols.length, c.alphabetSize⟩ := by
  refine ⟨fun answer => Reply.guards_iff, rfl, ?_, ?_⟩
  · rw [Mock.invokeAll_suite, List.forall₂_map_right_iff, List.forall₂_same]
    exact fun c _ => Reply.guards_iff.2 rfl
  · rw [Mock.invokeAll_suite]

/-- Zero is kept with its sign, what is no number is taken out, and verdicts stay. -/
theorem Suite.invoke_guards_signed_zero :
    ((Suite.replaying "scripted").invoke ⟨.iid, .literal, [0, 1], 2⟩
      [.outcomes [⟨"zero", some (-0.0), true⟩, ⟨"undefined", some (0.0 / 0.0), false⟩]]).1 =
      .ok [⟨"zero", some (-0.0), true⟩, ⟨"undefined", none, false⟩] := by
  refine ((invoke_guards _ _ _ .estimates [] []).1 _).1 (.outcomes (.cons ?_ (.cons ?_ .nil)))
  · exact Outcome.kept_iff.2 rfl
  · exact Outcome.kept_iff.2 rfl

end MinEntropy

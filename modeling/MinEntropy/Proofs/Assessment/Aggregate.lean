import MinEntropy.Proofs.Assessment.Transcript

/-! What the minimums of a track take from its exchanges: the valid estimates of each representation
in the order of the calls, and every outcome. -/

namespace MinEntropy

open Exchange

/-- The estimates of a reply that are finite and not negative. -/
def Reply.figures : Reply → List Float
  | .outcomes list => (list.filterMap (·.estimate)).filter Figure.isValid
  | .failure _ | .breakdown _ => []

/-- The valid estimates for one representation. -/
def Exchange.figures (view : Representation) (xs : List Exchange) : List Float :=
  (xs.filter (·.call.view = view)).flatMap (·.reply.figures)

/-- An exchange is recorded unless it failed. -/
def Aggregate.hear (a : Aggregate) (x : Exchange) : Aggregate :=
  match x.reply.guarded with
  | .ok outcomes => a.record x.call.view outcomes
  | .error _ => a

namespace Figure

@[simp] theorem least_nil (ceiling : Float) : least ceiling [] = ceiling := rfl

theorem least_append (ceiling : Float) (figures more : List Float) :
    least ceiling (figures ++ more) = least (least ceiling figures) more :=
  List.foldl_append

end Figure

namespace Exchange

theorem figures_cons (view : Representation) (x : Exchange) (xs : List Exchange) :
    figures view (x :: xs) =
      (if x.call.view = view then x.reply.figures else []) ++ figures view xs := by
  by_cases hx : x.call.view = view <;> simp [figures, hx]

theorem mem_figures {h : Float} {view : Representation} {xs : List Exchange} :
    h ∈ figures view xs ↔ ∃ x ∈ xs, x.call.view = view ∧ h ∈ x.reply.figures := by
  simp [figures, and_assoc]

end Exchange

theorem Reply.isValid_of_mem_figures {reply : Reply} {h : Float} (hh : h ∈ reply.figures) :
    Figure.isValid h = true := by
  cases reply with
  | outcomes list => exact (List.mem_filter.1 hh).2
  | failure e => cases hh
  | breakdown text => cases hh

namespace Outcome

/-- Taking out an invalid estimate a second time changes nothing. -/
theorem validEstimate_normalise (o : Outcome) : o.normalise.validEstimate = o.validEstimate := by
  rw [validEstimate, normalise, validEstimate, Option.filter_filter]
  simp

theorem filterMap_validEstimate_normalise (outcomes : List Outcome) :
    (outcomes.map normalise).filterMap validEstimate =
      (outcomes.filterMap (·.estimate)).filter Figure.isValid := by
  rw [List.filterMap_map, List.filter_filterMap]
  congr 1
  funext o
  exact o.validEstimate_normalise

end Outcome

namespace Aggregate

variable (a : Aggregate)

theorem record_cons (view : Representation) (o : Outcome) (outcomes : List Outcome) :
    a.record view (o :: outcomes) = (recordOne view a o).record view outcomes :=
  rfl

/-- Estimates lower the minimum of their representation and leave the other alone. -/
theorem record_eq (view : Representation) (outcomes : List Outcome) :
    a.record view outcomes = { a with
      hOriginal := Figure.least a.hOriginal
        (if view = .literal then outcomes.filterMap Outcome.validEstimate else [])
      hBitstring := Figure.least a.hBitstring
        (if view = .bitstring then outcomes.filterMap Outcome.validEstimate else [])
      outcomes := a.outcomes ++ outcomes.map (⟨·, view⟩) } := by
  induction outcomes generalizing a with
  | nil => simp [record]
  | cons o rest ih =>
    rw [record_cons, ih, recordOne]
    cases view <;> cases ho : o.validEstimate <;> simp [lower, ho, Figure.least]

theorem hear_eq (x : Exchange) :
    a.hear x = { a with
      hOriginal := Figure.least a.hOriginal
        (if x.call.view = .literal then x.reply.figures else [])
      hBitstring := Figure.least a.hBitstring
        (if x.call.view = .bitstring then x.reply.figures else [])
      outcomes := a.outcomes ++ x.recorded } := by
  obtain ⟨call, reply⟩ := x
  cases reply with
  | outcomes list =>
    have hrecord := a.record_eq call.view (list.map Outcome.normalise)
    rw [Outcome.filterMap_validEstimate_normalise, List.map_map] at hrecord
    exact hrecord
  | failure e => simp [hear, Reply.guarded, Reply.figures, recorded]
  | breakdown text => simp [hear, Reply.guarded, Reply.figures, recorded]

/-- Over a whole conversation both minimums fold the estimates and all outcomes are kept. -/
theorem foldl_hear (xs : List Exchange) :
    xs.foldl hear a = { a with
      hOriginal := Figure.least a.hOriginal (figures .literal xs)
      hBitstring := Figure.least a.hBitstring (figures .bitstring xs)
      outcomes := a.outcomes ++ xs.flatMap recorded } := by
  induction xs generalizing a with
  | nil => simp [figures]
  | cons x rest ih =>
    rw [List.foldl_cons, ih, hear_eq, figures_cons, figures_cons, Figure.least_append,
      Figure.least_append, List.flatMap_cons, List.append_assoc]

end Aggregate

end MinEntropy

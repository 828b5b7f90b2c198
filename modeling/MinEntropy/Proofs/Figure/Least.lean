import MinEntropy.Proofs.Figure.Order

/-! The least of some figures. What is not a number never wins, and every other figure bounds the
outcome from above. -/

namespace MinEntropy.Figure

/-- One of some figures, and none of them is less. -/
structure IsLeast (h : Float) (figures : List Float) : Prop where
  mem : h ∈ figures
  le : ∀ x ∈ figures, h ≤ x

section Lesser

variable {a b : Float}

theorem lesser_of_isNaN (ha : a.isNaN = false) (hb : b.isNaN = true) : lesser a b = a := by
  have hlt : ¬ b < a := fun hlt => by
    have hnumber := (lt_iff.1 hlt).1
    rw [hb] at hnumber
    cases hnumber
  rw [lesser, if_neg hlt, ha, if_neg Bool.false_ne_true]

theorem isLeast_lesser (ha : a.isNaN = false) (hb : b.isNaN = false) :
    IsLeast (lesser a b) [a, b] := by
  unfold lesser
  split
  · rename_i hlt
    exact ⟨by simp, by simpa using ⟨le_of_lt hlt, le_refl hb⟩⟩
  · rename_i hlt
    rw [ha, if_neg Bool.false_ne_true]
    exact ⟨by simp, by simpa using ⟨le_refl ha, le_of_not_lt ha hb hlt⟩⟩

end Lesser

namespace IsLeast

variable {h x : Float} {figures others : List Float}

theorem isNaN_eq_false (hleast : IsLeast h figures) : h.isNaN = false :=
  isNaN_left (hleast.le h hleast.mem)

theorem congr (hleast : IsLeast h figures) (hsame : ∀ x, x ∈ figures ↔ x ∈ others) :
    IsLeast h others :=
  ⟨(hsame h).1 hleast.mem, fun x hx => hleast.le x ((hsame x).2 hx)⟩

theorem le_of_subset {k : Float} (hleast : IsLeast h figures) (hk : IsLeast k others)
    (hsubset : figures ⊆ others) : k ≤ h :=
  hk.le h (hsubset hleast.mem)

/-- A figure that is itself the least of some may be replaced by these. -/
theorem replace_head (hleast : IsLeast h (x :: figures)) (hx : IsLeast x others) :
    IsLeast h (others ++ figures) := by
  refine ⟨?_, fun y hy => ?_⟩
  · rcases List.mem_cons.1 hleast.mem with rfl | hmem
    · exact List.mem_append_left _ hx.mem
    · exact List.mem_append_right _ hmem
  · rcases List.mem_append.1 hy with hy | hy
    · exact le_trans (hleast.le x List.mem_cons_self) (hx.le y hy)
    · exact hleast.le y (List.mem_cons_of_mem _ hy)

theorem insert {y : Float} (hleast : IsLeast h (x :: figures)) (hxy : x ≤ y) :
    IsLeast h (x :: y :: figures) := by
  have hx := hleast.le x List.mem_cons_self
  refine ⟨?_, ?_⟩
  · rcases List.mem_cons.1 hleast.mem with rfl | hmem
    · exact List.mem_cons_self
    · exact List.mem_cons_of_mem _ (List.mem_cons_of_mem _ hmem)
  · refine List.forall_mem_cons.2 ⟨hx, List.forall_mem_cons.2 ⟨le_trans hx hxy, fun z hz => ?_⟩⟩
    exact hleast.le z (List.mem_cons_of_mem _ hz)

theorem lesser {k : Float} (hh : IsLeast h figures) (hk : IsLeast k others) :
    IsLeast (lesser h k) (others ++ figures) := by
  have hpair := (isLeast_lesser hh.isNaN_eq_false hk.isNaN_eq_false).replace_head hh
  have hswap : IsLeast (Figure.lesser h k) (k :: figures) :=
    hpair.congr fun x => by simp [or_comm]
  exact hswap.replace_head hk

end IsLeast

theorem isLeast_singleton {h : Float} (hh : h.isNaN = false) : IsLeast h [h] :=
  ⟨List.mem_singleton_self h, by simpa using le_refl hh⟩

/-- Folding looks at every number and skips what is none. -/
theorem isLeast_least {ceiling : Float} (hceiling : ceiling.isNaN = false) (figures : List Float) :
    IsLeast (least ceiling figures) (ceiling :: figures.filter fun h => !h.isNaN) := by
  induction figures generalizing ceiling with
  | nil => exact isLeast_singleton hceiling
  | cons h rest ih =>
    cases hh : h.isNaN with
    | true =>
      rw [least, List.foldl_cons, lesser_of_isNaN hceiling hh, List.filter_cons, hh]
      exact ih hceiling
    | false =>
      have hlesser := isLeast_lesser hceiling hh
      rw [least, List.foldl_cons, List.filter_cons, hh]
      exact (ih hlesser.isNaN_eq_false).replace_head hlesser

theorem isValid_iff {h : Float} : isValid h = true ↔ h.isFinite = true ∧ 0.0 ≤ h := by
  simp [isValid]

theorem isLeast_least_of_isValid {ceiling : Float} {figures : List Float}
    (hceiling : ceiling.isNaN = false) (hvalid : ∀ h ∈ figures, isValid h = true) :
    IsLeast (least ceiling figures) (ceiling :: figures) := by
  have hleast := isLeast_least hceiling figures
  rwa [List.filter_eq_self.2 fun h hh => ?_] at hleast
  rw [isNaN_right (isValid_iff.1 (hvalid h hh)).2]
  rfl

theorem lesser_self (h : Float) : lesser h h = h := by
  unfold lesser
  rw [ite_self, ite_self]

/-- A fold keeps its ceiling, sign of zero and all, unless something is below. -/
theorem least_eq_or_lt {ceiling : Float} (hceiling : ceiling.isNaN = false) (figures : List Float) :
    least ceiling figures = ceiling ∨ least ceiling figures < ceiling := by
  induction figures generalizing ceiling with
  | nil => exact .inl rfl
  | cons h rest ih =>
    have hstep : least ceiling (h :: rest) = least (lesser ceiling h) rest := rfl
    rw [hstep]
    unfold lesser
    split
    · rename_i hlt
      rcases ih (lt_iff.1 hlt).1 with heq | hless
      · rw [heq]
        exact .inr hlt
      · exact .inr (lt_trans hless hlt)
    · rw [hceiling, if_neg Bool.false_ne_true]
      exact ih hceiling

theorem lesser_least {ceiling : Float} (hceiling : ceiling.isNaN = false) (figures : List Float) :
    lesser ceiling (least ceiling figures) = least ceiling figures := by
  rcases least_eq_or_lt hceiling figures with heq | hlt
  · rw [heq, lesser_self]
  · exact if_pos hlt

end MinEntropy.Figure

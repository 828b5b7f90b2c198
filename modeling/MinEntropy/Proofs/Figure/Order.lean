import Mathlib
import MinEntropy.Figure

/-! The order of doubles. All doubles but one are numbers and stand in a line, the two zeros at the
same place. -/

namespace MinEntropy.Figure

open Float.Model

/-- Where a double stands: its kind, then its exponent, then its mantissa. -/
def place : UnpackedFloat → Int ×ₗ Int ×ₗ Int
  | .infinity .negative => toLex (-2, toLex (0, 0))
  | .finite .negative m e _ => toLex (-1, toLex (-e, -(m : Int)))
  | .zero _ | .notANumber => toLex (0, toLex (0, 0))
  | .finite .positive m e _ => toLex (1, toLex (e, (m : Int)))
  | .infinity .positive => toLex (2, toLex (0, 0))

section Unpacked

variable {a b : UnpackedFloat}

private theorem compare_finite (kind e₁ e₂ m₁ m₂ : Int) :
    compare (toLex (kind, toLex (e₁, m₁))) (toLex (kind, toLex (e₂, m₂))) =
      (compare e₁ e₂).then (compare m₁ m₂) := by
  simp [Prod.Lex.compare_def, compareLex, compareOn]

private theorem compare_neg (x y : Int) : compare (-x) (-y) = (compare x y).swap := by
  rcases lt_trichotomy x y with hlt | rfl | hgt
  · rw [compare_lt_iff_lt.2 hlt, compare_gt_iff_gt.2 (Int.neg_lt_neg hlt)]
    rfl
  · simp
  · rw [compare_gt_iff_gt.2 hgt, compare_lt_iff_lt.2 (Int.neg_lt_neg hgt)]
    rfl

private theorem compare_natCast (m n : Nat) : compare (m : Int) (n : Int) = compare m n := by
  simp [compare, compareOfLessAndEq]

/-- Two numbers compare as their places do. -/
theorem compare_unpacked (ha : a.isNaN = false) (hb : b.isNaN = false) :
    a.compare b = some (compare (place a) (place b)) := by
  -- Kinds differ in all cases but two, and there the first coordinate decides.
  rcases a with ⟨_ | _⟩ | _ | _ | ⟨_ | _, m₁, e₁, _⟩ <;>
    rcases b with ⟨_ | _⟩ | _ | _ | ⟨_ | _, m₂, e₂, _⟩ <;> try rfl
  any_goals contradiction
  case finite.negative.finite.negative =>
    rw [place, place, compare_finite, compare_neg, compare_neg, compare_natCast,
      ← Ordering.swap_then]
    rfl
  case finite.positive.finite.positive =>
    rw [place, place, compare_finite, compare_natCast]
    rfl

theorem numbers_of_compare {o : Ordering} (h : a.compare b = some o) :
    a.isNaN = false ∧ b.isNaN = false := by
  cases a <;> cases b <;> first | exact ⟨rfl, rfl⟩ | cases h

theorem unpacked_le_iff :
    a.le b = true ↔ a.isNaN = false ∧ b.isNaN = false ∧ place a ≤ place b := by
  constructor
  · intro h
    obtain ⟨o, ho, -⟩ := (Option.any_eq_true _ _).1 h
    obtain ⟨ha, hb⟩ := numbers_of_compare ho
    rw [UnpackedFloat.le, compare_unpacked ha hb] at h
    exact ⟨ha, hb, compare_le_iff_le.1 (Ordering.ne_gt_iff_isLE.2 h)⟩
  · rintro ⟨ha, hb, h⟩
    rw [UnpackedFloat.le, compare_unpacked ha hb]
    exact Ordering.ne_gt_iff_isLE.1 (compare_le_iff_le.2 h)

theorem unpacked_lt_iff :
    a.lt b = true ↔ a.isNaN = false ∧ b.isNaN = false ∧ place a < place b := by
  constructor
  · intro h
    have ho := eq_of_beq h
    obtain ⟨ha, hb⟩ := numbers_of_compare ho
    rw [compare_unpacked ha hb] at ho
    exact ⟨ha, hb, compare_lt_iff_lt.1 (Option.some.inj ho)⟩
  · rintro ⟨ha, hb, h⟩
    rw [UnpackedFloat.lt, compare_unpacked ha hb, compare_lt_iff_lt.2 h]
    rfl

theorem unpacked_beq_iff :
    a.beq b = true ↔ a.isNaN = false ∧ b.isNaN = false ∧ place a = place b := by
  constructor
  · intro h
    have ho := eq_of_beq h
    obtain ⟨ha, hb⟩ := numbers_of_compare ho
    rw [compare_unpacked ha hb] at ho
    exact ⟨ha, hb, compare_eq_iff_eq.1 (Option.some.inj ho)⟩
  · rintro ⟨ha, hb, h⟩
    rw [UnpackedFloat.beq, compare_unpacked ha hb, compare_eq_iff_eq.2 h]
    rfl

theorem unpacked_isFinite_of_le (ha : a.isNaN = false) (hzero : place (.zero .positive) ≤ place a)
    (hab : place a ≤ place b) (hb : b.isFinite = true) : a.isFinite = true := by
  rcases a with ⟨_ | _⟩ | _ | _ | _
  case infinity.negative => exact absurd hzero (by decide)
  case infinity.positive =>
    rcases b with _ | _ | _ | ⟨_ | _, m, e, _⟩ <;>
      simp [place, UnpackedFloat.isFinite, Prod.Lex.toLex_le_toLex] at hab hb
  case notANumber => cases ha
  all_goals rfl

/-- What is finite lies between the infinities. -/
theorem unpacked_isFinite_iff :
    a.isFinite = true ↔ a.isNaN = false ∧
      place (.infinity .negative) < place a ∧ place a < place (.infinity .positive) := by
  rcases a with ⟨_ | _⟩ | _ | _ | ⟨_ | _, m, e, _⟩ <;>
    simp [place, UnpackedFloat.isFinite, UnpackedFloat.isNaN, Prod.Lex.toLex_lt_toLex]

theorem unpacked_isFinite_eq : a.isFinite = (!a.isNaN && !a.isInf) := by
  cases a <;> rfl

end Unpacked

section Order

variable {a b c : Float}

theorem le_iff :
    a ≤ b ↔ a.isNaN = false ∧ b.isNaN = false ∧
      place a.toModel.unpack ≤ place b.toModel.unpack :=
  decide_eq_true_iff.trans unpacked_le_iff

theorem lt_iff :
    a < b ↔ a.isNaN = false ∧ b.isNaN = false ∧
      place a.toModel.unpack < place b.toModel.unpack :=
  decide_eq_true_iff.trans unpacked_lt_iff

/-- Two numbers are equal when neither is less, as the two zeros are. -/
theorem beq_iff : (a == b) = true ↔ a ≤ b ∧ b ≤ a := by
  have hbeq : (a == b) = true ↔ _ := @unpacked_beq_iff a.toModel.unpack b.toModel.unpack
  rw [hbeq, le_iff, le_iff]
  constructor
  · rintro ⟨ha, hb, hplace⟩
    exact ⟨⟨ha, hb, hplace.le⟩, hb, ha, hplace.ge⟩
  · rintro ⟨⟨ha, hb, hab⟩, -, -, hba⟩
    exact ⟨ha, hb, hab.antisymm hba⟩

theorem le_refl (ha : a.isNaN = false) : a ≤ a := le_iff.2 ⟨ha, ha, le_rfl⟩

theorem le_trans (hab : a ≤ b) (hbc : b ≤ c) : a ≤ c := by
  obtain ⟨ha, -, hab⟩ := le_iff.1 hab
  obtain ⟨-, hc, hbc⟩ := le_iff.1 hbc
  exact le_iff.2 ⟨ha, hc, hab.trans hbc⟩

theorem le_of_lt (hab : a < b) : a ≤ b := by
  obtain ⟨ha, hb, hab⟩ := lt_iff.1 hab
  exact le_iff.2 ⟨ha, hb, hab.le⟩

theorem lt_trans (hab : a < b) (hbc : b < c) : a < c := by
  obtain ⟨ha, -, hab⟩ := lt_iff.1 hab
  obtain ⟨-, hc, hbc⟩ := lt_iff.1 hbc
  exact lt_iff.2 ⟨ha, hc, hab.trans hbc⟩

theorem not_lt_of_le (hab : a ≤ b) : ¬ b < a := fun hba =>
  absurd (le_iff.1 hab).2.2 (not_le.2 (lt_iff.1 hba).2.2)

theorem le_of_not_lt (ha : a.isNaN = false) (hb : b.isNaN = false) (hba : ¬ b < a) : a ≤ b :=
  le_iff.2 ⟨ha, hb, not_lt.1 fun h => hba (lt_iff.2 ⟨hb, ha, h⟩)⟩

theorem isNaN_left (hab : a ≤ b) : a.isNaN = false := (le_iff.1 hab).1

theorem isNaN_right (hab : a ≤ b) : b.isNaN = false := (le_iff.1 hab).2.1

theorem isFinite_of_le (ha : 0.0 ≤ a) (hab : a ≤ b) (hb : b.isFinite = true) :
    a.isFinite = true :=
  unpacked_isFinite_of_le (isNaN_left hab) (le_iff.1 ha).2.2 (le_iff.1 hab).2.2 hb

theorem isFinite_eq : a.isFinite = (!a.isNaN && !a.isInf) := unpacked_isFinite_eq

theorem isFinite_iff :
    a.isFinite = true ↔ a.isNaN = false ∧
      place (.infinity .negative) < place a.toModel.unpack ∧
      place a.toModel.unpack < place (.infinity .positive) :=
  unpacked_isFinite_iff

theorem isFinite_of_le_of_le (hab : a ≤ b) (hba : b ≤ a) (ha : a.isFinite = true) :
    b.isFinite = true := by
  obtain ⟨-, hb, hle⟩ := le_iff.1 hab
  obtain ⟨-, hlow, hhigh⟩ := isFinite_iff.1 ha
  exact isFinite_iff.2 ⟨hb, hlow.trans_le hle, (le_iff.1 hba).2.2.trans_lt hhigh⟩

theorem lt_infinity (ha : a.isFinite = true) : a < infinity := by
  obtain ⟨hnumber, -, hhigh⟩ := isFinite_iff.1 ha
  exact lt_iff.2 ⟨hnumber, by decide, hhigh⟩

end Order

end MinEntropy.Figure

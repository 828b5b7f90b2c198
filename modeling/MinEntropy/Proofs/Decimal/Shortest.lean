import Mathlib
import MinEntropy.Decimal.Shortest
import MinEntropy.Proofs.Figure.Scaling

/-! The shortest decimal of a double lies in the interval that rounds to the double. Seventeen
digits are always enough to find one there. -/

namespace MinEntropy.Decimal

/-- What a decimal amounts to. -/
def Scaled.value (s : Scaled) : ℚ := s.digits * 10 ^ s.exponent

namespace Binary

/-- What a double amounts to. -/
def value (b : Binary) : ℚ := b.mantissa * 2 ^ b.exponent

/-- Half way to the double below. -/
def low (b : Binary) : ℚ := (b.mantissa - if b.narrow then 1 / 4 else 1 / 2) * 2 ^ b.exponent

/-- Half way to the double above. -/
def high (b : Binary) : ℚ := (b.mantissa + 1 / 2) * 2 ^ b.exponent

/-- The number rounds to the double: it is nearest, or half way and the mantissa is even. -/
structure Admits (b : Binary) (q : ℚ) : Prop where
  low : b.low < q ∨ b.low = q ∧ b.endsIncluded = true
  high : q < b.high ∨ q = b.high ∧ b.endsIncluded = true

/-- Laid out as a double of 64 bits. -/
structure IsDouble (b : Binary) : Prop extends Figure.Fits b.mantissa b.exponent where
  narrow_iff : b.narrow = true ↔ b.mantissa = 2 ^ 52 ∧ b.exponent ≠ -1074
  le_greatest : b.exponent ≤ 971

end Binary

theorem zpow_eq_div {a : ℚ} (ha : a ≠ 0) (k : ℤ) : a ^ k = a ^ k.toNat / a ^ (-k).toNat := by
  rw [eq_div_iff (pow_ne_zero _ ha), ← zpow_natCast, ← zpow_natCast, ← zpow_add₀ ha]
  congr 1
  omega

/-! ### Grids of powers of ten -/

section Grid

variable {num den : Nat} (hden : 0 < den) (digits : Nat) (power : Int)

include hden

theorem lt_div_iff_cross : (digits * 10 ^ power : ℚ) < num / den ↔
    digits * 10 ^ power.toNat * den < num * 10 ^ (-power).toNat := by
  have hpow : (0 : ℚ) < 10 ^ (-power).toNat := by positivity
  rw [zpow_eq_div (by norm_num), mul_div_assoc', div_lt_div_iff₀ hpow (by exact_mod_cast hden)]
  exact_mod_cast Iff.rfl

theorem div_lt_iff_cross : (num / den : ℚ) < digits * 10 ^ power ↔
    num * 10 ^ (-power).toNat < digits * 10 ^ power.toNat * den := by
  have hpow : (0 : ℚ) < 10 ^ (-power).toNat := by positivity
  rw [zpow_eq_div (by norm_num), mul_div_assoc', div_lt_div_iff₀ (by exact_mod_cast hden) hpow]
  exact_mod_cast Iff.rfl

theorem compareAt_eq :
    compareAt digits power num den = compare (digits * 10 ^ power : ℚ) (num / den) := by
  have hlow := @lt_div_iff_cross num den hden digits power
  have hhigh := @div_lt_iff_cross num den hden digits power
  change compare (digits * 10 ^ power.toNat * den) (num * 10 ^ (-power).toNat) = _
  rcases lt_trichotomy (digits * 10 ^ power : ℚ) (num / den) with hlt | heq | hgt
  · rw [compare_lt_iff_lt.2 hlt, compare_lt_iff_lt.2 (hlow.1 hlt)]
  · have hnlow := mt hlow.2 heq.not_lt
    have hnhigh := mt hhigh.2 heq.not_gt
    rw [compare_eq_iff_eq.2 heq, compare_eq_iff_eq.2 (by omega)]
  · rw [compare_gt_iff_gt.2 hgt, compare_gt_iff_gt.2 (hhigh.1 hgt)]

theorem floorAt_le : (floorAt num den power * 10 ^ power : ℚ) ≤ num / den := by
  rw [← not_lt, div_lt_iff_cross hden, not_lt, mul_assoc, mul_comm _ den]
  exact Nat.div_mul_le_self ..

theorem lt_floorAt : (num / den : ℚ) < (floorAt num den power + 1 : Nat) * 10 ^ power := by
  rw [div_lt_iff_cross hden, mul_assoc, mul_comm _ den]
  exact Nat.lt_mul_of_div_lt (Nat.lt_succ_self _) (Nat.mul_pos hden (Nat.pow_pos (by decide)))

end Grid

theorem pow_length_le {n : Nat} (hn : 0 < n) : 10 ^ ((Nat.toDigits 10 n).length - 1) ≤ n := by
  have hpos : 0 < (Nat.toDigits 10 n).length := Nat.length_toDigits_pos
  by_contra hlt
  rcases Nat.eq_zero_or_pos ((Nat.toDigits 10 n).length - 1) with hzero | hmore
  · rw [hzero] at hlt
    omega
  · have := (Nat.length_toDigits_le_iff (by decide) hmore).2 (not_le.1 hlt)
    omega

theorem lt_pow_length (n : Nat) : n < 10 ^ (Nat.toDigits 10 n).length :=
  (Nat.length_toDigits_le_iff (by decide) Nat.length_toDigits_pos).1 le_rfl

/-- The leading digit of a fraction stands at its power of ten. -/
theorem leadingPower_bounds {num den : Nat} (hnum : 0 < num) (hden : 0 < den) :
    (10 ^ leadingPower num den : ℚ) ≤ num / den ∧
      (num / den : ℚ) < 10 ^ (leadingPower num den + 1) := by
  have hnumQ : (0 : ℚ) < num := by exact_mod_cast hnum
  have hdenQ : (0 : ℚ) < den := by exact_mod_cast hden
  unfold leadingPower
  split
  · rename_i hle
    have hpos : 0 < num / den := Nat.div_pos hle hden
    have hlength : 0 < (Nat.toDigits 10 (num / den)).length := Nat.length_toDigits_pos
    have hlow := (Nat.le_div_iff_mul_le hden).1 (pow_length_le hpos)
    have hhigh := (Nat.div_lt_iff_lt_mul hden).1 (lt_pow_length (num / den))
    generalize (Nat.toDigits 10 (num / den)).length = n at *
    rw [show ((n : Int) - 1) = ((n - 1 : Nat) : Int) by omega,
      show (((n - 1 : Nat) : Int) + 1) = (n : Int) by omega, zpow_natCast, zpow_natCast,
      le_div_iff₀ hdenQ, div_lt_iff₀ hdenQ]
    exact ⟨by exact_mod_cast hlow, by exact_mod_cast hhigh⟩
  · rename_i hlt
    have hpos : 0 < den / num := Nat.div_pos (by omega) hnum
    have hlength : 0 < (Nat.toDigits 10 (den / num)).length := Nat.length_toDigits_pos
    have hlow := (Nat.le_div_iff_mul_le hnum).1 (pow_length_le hpos)
    have hhigh := (Nat.div_lt_iff_lt_mul hnum).1 (lt_pow_length (den / num))
    generalize (Nat.toDigits 10 (den / num)).length = n at *
    change _ ≤ _ at hlow
    have hten : (10 : ℚ) ^ (n - 1) * 10 = 10 ^ n := by
      rw [← pow_succ, show n - 1 + 1 = n by omega]
    have hlowQ : (10 : ℚ) ^ (n - 1) * num ≤ den := by exact_mod_cast hlow
    have hhighQ : (den : ℚ) < 10 ^ n * num := by exact_mod_cast hhigh
    dsimp only
    split
    · rename_i hexact
      have hexactQ : (den : ℚ) ≤ num * 10 ^ (n - 1) := by exact_mod_cast hexact
      rw [show -((n : Int) - 1) = -((n - 1 : Nat) : Int) by omega, zpow_neg, zpow_natCast,
        zpow_add₀ (by norm_num), zpow_neg, zpow_natCast, zpow_one, inv_eq_one_div,
        div_mul_eq_mul_div, div_le_div_iff₀ (by positivity) hdenQ,
        div_lt_div_iff₀ hdenQ (by positivity)]
      constructor <;> nlinarith
    · rename_i hexact
      have hexactQ : (num : ℚ) * 10 ^ (n - 1) < den := by exact_mod_cast not_le.1 hexact
      rw [zpow_neg, zpow_natCast, zpow_add₀ (by norm_num), zpow_neg, zpow_natCast, zpow_one,
        inv_eq_one_div, div_mul_eq_mul_div, div_le_div_iff₀ (by positivity) hdenQ,
        div_lt_div_iff₀ hdenQ (by positivity)]
      constructor <;> nlinarith

/-! ### The interval of a double -/

namespace Binary

variable {b : Binary}

theorem admits_iff {q : ℚ} : b.Admits q ↔
    (b.low < q ∨ b.low = q ∧ b.endsIncluded = true) ∧
      (q < b.high ∨ q = b.high ∧ b.endsIncluded = true) :=
  ⟨fun h => ⟨h.low, h.high⟩, fun h => ⟨h.1, h.2⟩⟩

theorem interval_den_pos (b : Binary) : 0 < b.interval.2.2.2 := Nat.pow_pos (by decide)

theorem mul_up_div_den (b : Binary) (k : ℚ) :
    k * 2 ^ (b.exponent - 2).toNat / 2 ^ (2 - b.exponent).toNat = k / 4 * 2 ^ b.exponent := by
  have hpow := zpow_eq_div (two_ne_zero' ℚ) (b.exponent - 2)
  rw [neg_sub, zpow_sub₀ two_ne_zero] at hpow
  rw [mul_div_assoc, ← hpow]
  ring

theorem interval_value : (b.interval.1 / b.interval.2.2.2 : ℚ) = b.value := by
  have hscale := b.mul_up_div_den (4 * b.mantissa)
  change ((4 * b.mantissa * 2 ^ (b.exponent - 2).toNat : Nat) : ℚ) /
    (2 ^ (2 - b.exponent).toNat : Nat) = _
  push_cast
  refine hscale.trans ?_
  rw [value]
  ring

theorem interval_low (hm : 0 < b.mantissa) :
    (b.interval.2.1 / b.interval.2.2.2 : ℚ) = b.low := by
  have hscale := b.mul_up_div_den (4 * b.mantissa - if b.narrow then 1 else 2 : Nat)
  change (((4 * b.mantissa - if b.narrow then 1 else 2) * 2 ^ (b.exponent - 2).toNat : Nat) : ℚ) /
    (2 ^ (2 - b.exponent).toNat : Nat) = _
  rw [Nat.cast_mul, Nat.cast_pow, Nat.cast_pow, Nat.cast_ofNat]
  refine hscale.trans ?_
  rw [low, Nat.cast_sub (by split <;> omega)]
  split <;> push_cast <;> ring

theorem interval_high : (b.interval.2.2.1 / b.interval.2.2.2 : ℚ) = b.high := by
  have hscale := b.mul_up_div_den (4 * b.mantissa + 2)
  change (((4 * b.mantissa + 2) * 2 ^ (b.exponent - 2).toNat : Nat) : ℚ) /
    (2 ^ (2 - b.exponent).toNat : Nat) = _
  push_cast
  refine hscale.trans ?_
  rw [high]
  ring

theorem low_pos (hm : 0 < b.mantissa) : 0 < b.low := by
  have hone : (1 : ℚ) ≤ b.mantissa := by exact_mod_cast hm
  refine mul_pos ?_ (zpow_pos two_pos _)
  split <;> linarith

theorem inInterval_iff (hm : 0 < b.mantissa) (digits : Nat) (power : Int) :
    inInterval b digits power = true ↔ b.Admits (digits * 10 ^ power) := by
  have hlow := @compareAt_eq b.interval.2.1 _ b.interval_den_pos digits power
  have hhigh := @compareAt_eq b.interval.2.2.1 _ b.interval_den_pos digits power
  rw [interval_low hm] at hlow
  rw [interval_high] at hhigh
  simp only [inInterval, hlow, hhigh, Bool.and_eq_true, Bool.or_eq_true, beq_iff_eq]
  rw [admits_iff, compare_gt_iff_gt, compare_lt_iff_lt, compare_eq_iff_eq, compare_eq_iff_eq,
    eq_comm]

/-- The number just below a double on a grid of powers of ten, in steps of the grid. -/
def floorAt (b : Binary) (power : Int) : Nat :=
  Decimal.floorAt b.interval.1 b.interval.2.2.2 power

theorem floorAt_le (b : Binary) (power : Int) : b.floorAt power * 10 ^ power ≤ b.value := by
  rw [← interval_value]
  exact Decimal.floorAt_le b.interval_den_pos power

theorem lt_floorAt (b : Binary) (power : Int) :
    b.value < (b.floorAt power + 1 : Nat) * 10 ^ power := by
  rw [← interval_value]
  exact Decimal.lt_floorAt b.interval_den_pos power

/-- Only the two neighbours of the double are looked at on a grid. -/
theorem onGrid_cases (b : Binary) (tie : Tie) (power : Int) :
    (∃ digits, onGrid b tie power = some digits ∧ inInterval b digits power = true ∧
      digits ≤ b.floorAt power + 1) ∨
    (onGrid b tie power = none ∧ inInterval b (b.floorAt power) power = false ∧
      inInterval b (b.floorAt power + 1) power = false) := by
  unfold onGrid
  simp only [floorAt]
  generalize b.interval = fractions
  obtain ⟨value, _, _, den⟩ := fractions
  dsimp only
  split
  · rename_i hlow hhigh
    refine .inl ?_
    split
    · exact ⟨_, rfl, hlow, Nat.le_succ _⟩
    · exact ⟨_, rfl, hhigh, le_rfl⟩
    · split
      · exact ⟨_, rfl, hhigh, le_rfl⟩
      · exact ⟨_, rfl, hlow, Nat.le_succ _⟩
  · rename_i hlow _
    exact .inl ⟨_, rfl, hlow, Nat.le_succ _⟩
  · rename_i _ hhigh
    exact .inl ⟨_, rfl, hhigh, le_rfl⟩
  · rename_i hlow hhigh
    exact .inr ⟨rfl, hlow, hhigh⟩

theorem onGrid_eq_some (hm : 0 < b.mantissa) {tie : Tie} {power : Int} {digits : Nat}
    (h : onGrid b tie power = some digits) :
    b.Admits (digits * 10 ^ power) ∧ digits ≤ b.floorAt power + 1 := by
  obtain ⟨_, hsome, hinside, hle⟩ | ⟨hnone, -⟩ := onGrid_cases b tie power
  · cases h.symm.trans hsome
    exact ⟨(inInterval_iff hm _ _).1 hinside, hle⟩
  · cases h.symm.trans hnone

theorem onGrid_eq_none (hm : 0 < b.mantissa) {tie : Tie} {power : Int}
    (h : onGrid b tie power = none) :
    ¬ b.Admits (b.floorAt power * 10 ^ power) ∧
      ¬ b.Admits ((b.floorAt power + 1 : Nat) * 10 ^ power) := by
  obtain ⟨_, hsome, -⟩ | ⟨-, hlow, hhigh⟩ := onGrid_cases b tie power
  · cases h.symm.trans hsome
  · rw [← inInterval_iff hm, ← inInterval_iff hm, hlow, hhigh]
    decide

/-- A grid finer than the interval is wide has a number in it. -/
theorem admits_of_fine {power : Int}
    (hfine : 10 ^ power < (if b.narrow then 1 / 2 else 1) * (2 : ℚ) ^ b.exponent) :
    b.Admits (b.floorAt power * 10 ^ power) ∨
      b.Admits ((b.floorAt power + 1 : Nat) * 10 ^ power) := by
  have hle := b.floorAt_le power
  have hlt := b.lt_floorAt power
  have hulp : (0 : ℚ) < 2 ^ b.exponent := zpow_pos two_pos _
  rw [Nat.cast_add, Nat.cast_one, add_mul, one_mul] at hlt ⊢
  unfold value at hle hlt
  by_cases hnear : b.low < b.floorAt power * 10 ^ power
  · refine .inl ⟨.inl hnear, .inl (hle.trans_lt ?_)⟩
    unfold high
    linarith
  · -- The number below is too far away, so the one above is near.
    have hfar := not_lt.1 hnear
    refine .inr ⟨.inl (lt_trans ?_ hlt), .inl ?_⟩
    · unfold low
      split <;> linarith
    · unfold low at hfar
      unfold high
      split at hfine <;> rename_i hnarrow
      · rw [if_pos hnarrow] at hfar
        linarith
      · rw [if_neg hnarrow] at hfar
        linarith

end Binary

/-! ### The first grid with a number in the interval -/

theorem stripZeros_value (fuel : Nat) (s : Scaled) : (stripZeros fuel s).value = s.value := by
  induction fuel generalizing s with
  | zero => rfl
  | succ fuel ih =>
    rw [stripZeros]
    split
    · rename_i hzero
      obtain ⟨n, hn⟩ := Nat.dvd_of_mod_eq_zero hzero.2
      rw [ih, Scaled.value, Scaled.value, hn, Nat.mul_div_cancel_left _ (by decide),
        zpow_add₀ (by norm_num), zpow_one]
      push_cast
      ring
    · rfl

theorem stripZeros_digits_le (fuel : Nat) (s : Scaled) : (stripZeros fuel s).digits ≤ s.digits := by
  induction fuel generalizing s with
  | zero => exact le_rfl
  | succ fuel ih =>
    rw [stripZeros]
    split
    · exact (ih _).trans (Nat.div_le_self ..)
    · exact le_rfl

section FirstGrid

variable {b : Binary} (hm : 0 < b.mantissa) {tie : Tie} {power : Int} {left : Nat}

include hm

theorem firstGrid_eq_some {s : Scaled} (h : firstGrid b tie power left = some s) :
    b.Admits s.value ∧ ∃ j < left, s.digits ≤ b.floorAt (power - j) + 1 := by
  induction left generalizing power with
  | zero => cases h
  | succ left ih =>
    rw [firstGrid] at h
    split at h
    · rename_i digits hgrid
      cases h
      obtain ⟨hadmits, hle⟩ := Binary.onGrid_eq_some hm hgrid
      refine ⟨?_, 0, by omega, ?_⟩
      · rwa [stripZeros_value]
      · rw [Nat.cast_zero, sub_zero]
        exact (stripZeros_digits_le ..).trans hle
    · obtain ⟨hadmits, j, hj, hle⟩ := ih h
      refine ⟨hadmits, j + 1, by omega, ?_⟩
      rwa [Nat.cast_add, Nat.cast_one, add_comm (j : Int), ← sub_sub]

/-- The grids stop at the first with a number in the interval. -/
theorem firstGrid_ne_none {j : Nat} (hj : j < left)
    (hfine : 10 ^ (power - j) < (if b.narrow then 1 / 2 else 1) * (2 : ℚ) ^ b.exponent) :
    firstGrid b tie power left ≠ none := by
  induction left generalizing power j with
  | zero => omega
  | succ left ih =>
    rw [firstGrid]
    split
    · exact Option.some_ne_none _
    · rename_i hgrid
      obtain ⟨hlow, hhigh⟩ := Binary.onGrid_eq_none hm hgrid
      cases j with
      | zero =>
        rw [Nat.cast_zero, sub_zero] at hfine
        exact absurd (Binary.admits_of_fine hfine) (not_or.2 ⟨hlow, hhigh⟩)
      | succ j =>
        refine ih (j := j) (by omega) ?_
        rwa [sub_sub, add_comm (1 : Int), ← Nat.cast_one, ← Nat.cast_add]

end FirstGrid

/-- The power of ten of the leading digit of a double. -/
def Binary.leadingPower (b : Binary) : Int :=
  Decimal.leadingPower b.interval.1 b.interval.2.2.2

section Shortest

variable {b : Binary} (hm : 0 < b.mantissa)

include hm

theorem Binary.leadingPower_bounds :
    10 ^ b.leadingPower ≤ b.value ∧ b.value < 10 ^ (b.leadingPower + 1) := by
  rw [← interval_value]
  exact Decimal.leadingPower_bounds
    (Nat.mul_pos (Nat.mul_pos four_pos hm) (Nat.pow_pos two_pos)) b.interval_den_pos

/-- Seventeen digits are finer than doubles are apart. -/
theorem Binary.fine_of_isDouble (hb : b.IsDouble) :
    10 ^ (b.leadingPower - (16 : Nat)) <
      (if b.narrow then 1 / 2 else 1) * (2 : ℚ) ^ b.exponent := by
  have hle := (leadingPower_bounds hm).1
  have hulp : (0 : ℚ) < 2 ^ b.exponent := zpow_pos two_pos _
  have hlt : (b.mantissa : ℚ) < 2 ^ 53 := by exact_mod_cast hb.lt
  have hstep : (10 : ℚ) ^ b.leadingPower = 10 ^ (b.leadingPower - (16 : Nat)) * 10 ^ 16 := by
    rw [← zpow_natCast, ← zpow_add₀ (by norm_num), sub_add_cancel]
  rw [hstep, value] at hle
  generalize (2 : ℚ) ^ b.exponent = ulp at *
  generalize (10 : ℚ) ^ (b.leadingPower - (16 : Nat)) = step at *
  split
  · rename_i hnarrow
    have hmantissa : (b.mantissa : ℚ) = 2 ^ 52 := by exact_mod_cast (hb.narrow_iff.1 hnarrow).1
    rw [hmantissa] at hle
    linarith
  · nlinarith

theorem floorAt_lt_of_grid {j : Nat} (hj : j < 17) :
    b.floorAt (b.leadingPower - j) < 10 ^ 17 := by
  have hle := b.floorAt_le (b.leadingPower - j)
  have hlt := (Binary.leadingPower_bounds hm).2
  have hpos : (0 : ℚ) < 10 ^ (b.leadingPower - j) := zpow_pos (by norm_num) _
  have hstep : (10 : ℚ) ^ (b.leadingPower + 1) = 10 ^ (j + 1) * 10 ^ (b.leadingPower - j) := by
    rw [← zpow_natCast, ← zpow_add₀ (by norm_num)]
    congr 1
    omega
  rw [hstep] at hlt
  have hdigits : (b.floorAt (b.leadingPower - j) : ℚ) < 10 ^ (j + 1) :=
    lt_of_mul_lt_mul_right (hle.trans_lt hlt) hpos.le
  have hdigitsN : b.floorAt (b.leadingPower - j) < 10 ^ (j + 1) := by exact_mod_cast hdigits
  exact hdigitsN.trans_le (Nat.pow_le_pow_right (by decide) hj)

/-- The shortest decimal of a double rounds to the double, and its digits fit in 64 bits. -/
theorem shortest_of_isDouble (hb : b.IsDouble) (tie : Tie) :
    b.Admits (shortest b tie).value ∧ (shortest b tie).digits ≤ 10 ^ 17 := by
  have hgrid : firstGrid b tie b.leadingPower maxDigits ≠ none :=
    firstGrid_ne_none hm (show 16 < maxDigits by decide) (Binary.fine_of_isDouble hm hb)
  obtain ⟨s, hs⟩ := Option.ne_none_iff_exists'.1 hgrid
  have hshortest : shortest b tie = s := by
    simp only [Binary.leadingPower, Binary.interval] at hs
    simp only [shortest, Binary.interval, if_neg hm.ne', hs]
  rw [hshortest]
  obtain ⟨hadmits, j, hj, hle⟩ := firstGrid_eq_some hm hs
  exact ⟨hadmits, hle.trans (floorAt_lt_of_grid hm hj)⟩

end Shortest

end MinEntropy.Decimal

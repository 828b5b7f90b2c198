import MinEntropy.Proofs.Figure.Order

/-! Rounding to the nearest double, from a half to the even one. It keeps the order of what is
rounded, also where the doubles begin to stand further apart. -/

namespace MinEntropy.Figure

open Float.Model (Format totalExponent UnpackedFloat)
open Float.Model.UnpackedFloat

/-- A quotient by a power of two, rounded to the nearest number and from a half to the even one. -/
def nearest (m n : Nat) : Nat :=
  if 2 * (m % 2 ^ n) < 2 ^ n then m / 2 ^ n
  else if 2 * (m % 2 ^ n) = 2 ^ n then m / 2 ^ n + m / 2 ^ n % 2
  else m / 2 ^ n + 1

section Nearest

variable {m m' n : Nat}

theorem div_le_nearest (m n : Nat) : m / 2 ^ n ≤ nearest m n := by
  unfold nearest
  split
  · exact le_rfl
  · split <;> omega

theorem nearest_le_div (m n : Nat) : nearest m n ≤ m / 2 ^ n + 1 := by
  unfold nearest
  split
  · omega
  · split <;> omega

theorem nearest_mono (hm : m ≤ m') (n : Nat) : nearest m n ≤ nearest m' n := by
  rcases (Nat.div_le_div_right hm : m / 2 ^ n ≤ m' / 2 ^ n).eq_or_lt with heq | hlt
  · -- Within one step the remainders decide.
    have hrest : m % 2 ^ n ≤ m' % 2 ^ n := by
      have hsum := Nat.div_add_mod m (2 ^ n)
      have hsum' := Nat.div_add_mod m' (2 ^ n)
      rw [heq] at hsum
      omega
    unfold nearest
    rw [heq]
    split <;> split <;> (try split) <;> (try split) <;> omega
  · calc
      nearest m n ≤ m / 2 ^ n + 1 := nearest_le_div m n
      _ ≤ m' / 2 ^ n := hlt
      _ ≤ nearest m' n := div_le_nearest m' n

theorem nearest_scale (m n k : Nat) : nearest (m * 2 ^ k) (n + k) = nearest m n := by
  have hdiv : m * 2 ^ k / 2 ^ (n + k) = m / 2 ^ n := by
    rw [Nat.pow_add, Nat.mul_div_mul_right _ _ (Nat.two_pow_pos k)]
  have hmod : m * 2 ^ k % 2 ^ (n + k) = m % 2 ^ n * 2 ^ k := by
    rw [Nat.pow_add, Nat.mul_mod_mul_right]
  have hless : 2 * (m % 2 ^ n * 2 ^ k) < 2 ^ (n + k) ↔ 2 * (m % 2 ^ n) < 2 ^ n := by
    rw [Nat.pow_add, ← mul_assoc, Nat.mul_lt_mul_right (Nat.two_pow_pos k)]
  have hsame : 2 * (m % 2 ^ n * 2 ^ k) = 2 ^ (n + k) ↔ 2 * (m % 2 ^ n) = 2 ^ n := by
    rw [Nat.pow_add, ← mul_assoc, Nat.mul_left_inj (Nat.two_pow_pos k).ne']
  simp only [nearest, hdiv, hmod, hless, hsame]

end Nearest

/-- The bits that a mantissa leaves behind when it is shifted: whether they amount to a half at
least, and whether anything stands below that half. -/
structure Shifted (em : ExtendedMantissa) (m n : Nat) : Prop where
  mantissa : em.mantissa = m / 2 ^ n
  roundBit : em.roundBit = true ↔ 2 ^ n ≤ 2 * (m % 2 ^ n)
  stickyBit : em.stickyBit = true ↔ 2 * (m % 2 ^ n) % 2 ^ n ≠ 0

theorem Shifted.step {em : ExtendedMantissa} {m n : Nat} (h : Shifted em m n) :
    Shifted em.shiftRightOne m (n + 1) := by
  have hpos := Nat.two_pow_pos n
  have hrest : m % 2 ^ (n + 1) = 2 ^ n * (m / 2 ^ n % 2) + m % 2 ^ n := by
    rw [Nat.pow_succ, Nat.mod_mul]
    omega
  have hlt := Nat.mod_lt m hpos
  have hbit : m / 2 ^ n % 2 = 0 ∨ m / 2 ^ n % 2 = 1 := by omega
  have hpow : 2 ^ (n + 1) = 2 ^ n + 2 ^ n := by rw [Nat.pow_succ]; omega
  refine ⟨?_, ?_, ?_⟩
  · rw [ExtendedMantissa.shiftRightOne, h.mantissa, Nat.pow_succ, Nat.div_div_eq_div_mul]
  · rw [ExtendedMantissa.shiftRightOne, h.mantissa, hrest]
    rcases hbit with hbit | hbit <;> simp [hbit] <;> omega
  · have hlow : 2 * (m % 2 ^ (n + 1)) % 2 ^ (n + 1) = 2 * (m % 2 ^ n) := by
      rw [hrest]
      rcases hbit with hbit | hbit
      · rw [hbit, Nat.mod_eq_of_lt (by omega)]
        omega
      · rw [hbit, Nat.mod_eq_sub_mod (by omega), Nat.mod_eq_of_lt (by omega)]
        omega
    have hhalf : 2 * (m % 2 ^ n) % 2 ^ n ≠ 0 ∨ 2 ^ n ≤ 2 * (m % 2 ^ n) ↔ m % 2 ^ n ≠ 0 := by
      rcases Nat.lt_or_ge (2 * (m % 2 ^ n)) (2 ^ n) with hless | hmore
      · rw [Nat.mod_eq_of_lt hless]
        omega
      · omega
    rw [hlow, ExtendedMantissa.shiftRightOne, Bool.or_eq_true, h.roundBit, h.stickyBit]
    omega

theorem shifted (m n : Nat) :
    Shifted (ExtendedMantissa.ofMantissaAndAccuracy m .exact >>> n) m n := by
  induction n with
  | zero =>
    change Shifted ⟨m, false, false⟩ m 0
    exact ⟨(Nat.div_one m).symm, by simp [Nat.mod_one], by simp [Nat.mod_one]⟩
  | succ n ih => exact ih.step

theorem Shifted.roundedMantissa {em : ExtendedMantissa} {m n : Nat} (h : Shifted em m n) :
    em.roundedMantissa = nearest m n := by
  have hlt := Nat.mod_lt m (Nat.two_pow_pos n)
  obtain ⟨q, _ | _, _ | _⟩ := em
  all_goals
    obtain ⟨hq, hround, hsticky⟩ := h
    simp only [Bool.false_eq_true, false_iff, true_iff, not_le, ne_eq, not_not] at hq hround hsticky
    subst hq
    unfold nearest
  case false.false | false.true =>
    rw [if_pos hround]
    rfl
  case true.false =>
    have : 2 * (m % 2 ^ n) = 2 ^ n := by
      rw [Nat.mod_eq_sub_mod hround, Nat.mod_eq_of_lt (by omega)] at hsticky
      omega
    rw [if_neg (by omega), if_pos this]
    rfl
  case true.true =>
    have : 2 * (m % 2 ^ n) ≠ 2 ^ n := by
      intro h
      rw [h, Nat.mod_self] at hsticky
      exact hsticky rfl
    rw [if_neg (by omega), if_neg this]
    rfl

/-- The exponent of the last place that a double near a number keeps. -/
def spacing (m : Nat) (e : Int) : Int := max (m.log2 + e - 52) (-1074)

theorem targetExponent_eq (m : Nat) (e : Int) :
    Format.binary64.targetExponent (totalExponent m e) = spacing m e := by
  simp [Format.targetExponent, totalExponent, Format.mantissaBits, Format.minExponent, spacing]
  omega

/-- A mantissa that has been rounded up to one place more gives up its last place. -/
def carried (q : Nat) (t : Int) : UnpackedFloat :=
  if h : q = 0 then .zero .positive
  else if q < 2 ^ 53 then .finite .positive q t (Nat.pos_of_ne_zero h)
  else .finite .positive (2 ^ 52) (t + 1) (by decide)

section Rounding

variable {m m' : Nat} {e : Int}

theorem shiftToTargetExponent_eq (he : e ≤ spacing m e) :
    (shiftToTargetExponent Format.binary64 m e .exact).1.roundedMantissa =
        nearest m (spacing m e - e).toNat ∧
      (shiftToTargetExponent Format.binary64 m e .exact).2 = spacing m e := by
  rw [shiftToTargetExponent, shiftToExponent, targetExponent_eq]
  exact ⟨(shifted m _).roundedMantissa, by simp only; omega⟩

theorem log2_le_of_lt {q : Nat} (hq : q < 2 ^ 53) : q.log2 ≤ 52 := by
  rcases Nat.eq_zero_or_pos q with rfl | hpos
  · simp
  · have := (Nat.log2_lt hpos.ne').2 hq
    omega

/-- The second shift of a rounding only takes back a carry. -/
theorem shift_of_lt {q : Nat} {t : Int} (hq : q < 2 ^ 53) (ht : -1074 ≤ t) :
    shiftToTargetExponent Format.binary64 q t .exact = (⟨q, false, false⟩, t) := by
  have hlog := log2_le_of_lt hq
  have hstay : (spacing q t - t).toNat = 0 := by unfold spacing; omega
  rw [shiftToTargetExponent, shiftToExponent, targetExponent_eq, hstay]
  simp [HShiftRight.hShiftRight, Nat.repeat, ExtendedMantissa.ofMantissaAndAccuracy]

theorem shift_of_carry {t : Int} (ht : -1074 ≤ t) :
    shiftToTargetExponent Format.binary64 (2 ^ 53) t .exact = (⟨2 ^ 52, false, false⟩, t + 1) := by
  have hstep : (spacing (2 ^ 53) t - t).toNat = 1 := by
    rw [spacing, Nat.log2_two_pow]
    omega
  rw [shiftToTargetExponent, shiftToExponent, targetExponent_eq, hstep]
  rfl

theorem div_lt_of_spacing (m : Nat) (e : Int) : m / 2 ^ (spacing m e - e).toNat < 2 ^ 53 := by
  rw [Nat.div_lt_iff_lt_mul (Nat.two_pow_pos _), ← Nat.pow_add]
  calc
    m < 2 ^ (m.log2 + 1) := Nat.lt_log2_self
    _ ≤ 2 ^ (53 + (spacing m e - e).toNat) :=
      Nat.pow_le_pow_right (by decide) (by unfold spacing; omega)

theorem carried_eq {q : Nat} {t : Int} (hq : q ≤ 2 ^ 53) (ht : -1074 ≤ t) :
    (if h : (shiftToTargetExponent Format.binary64 q t .exact).1.mantissa = 0 then .zero .positive
      else .finite .positive _ (shiftToTargetExponent Format.binary64 q t .exact).2
        (Nat.pos_of_ne_zero h)) = carried q t := by
  rcases hq.lt_or_eq with hlt | rfl
  · simp only [carried, shift_of_lt hlt ht, if_pos hlt]
  · simp only [shift_of_carry ht]
    rfl

/-- A positive number rounded to a double, as the spacing around it allows. -/
def rounded (m : Nat) (e : Int) : UnpackedFloat :=
  carried (nearest m (spacing m e - e).toNat) (spacing m e)

theorem roundWithAccuracy_eq (he : e ≤ spacing m e) :
    roundWithAccuracy Format.binary64 .positive m e .exact = rounded m e := by
  obtain ⟨hmantissa, hexponent⟩ := shiftToTargetExponent_eq he
  have hle := nearest_le_div m (spacing m e - e).toNat
  have hlt := div_lt_of_spacing m e
  have ht : -1074 ≤ spacing m e := le_max_right ..
  rw [rounded, ← carried_eq (hle.trans hlt) ht, roundWithAccuracy]
  simp only [hmantissa, hexponent]

theorem spacing_scale (hm : 0 < m) (e : Int) (k : Nat) :
    spacing (m * 2 ^ k) (e - k) = spacing m e := by
  have hlog : (m * 2 ^ k).log2 = m.log2 + k := by
    refine (Nat.log2_eq_iff (Nat.mul_pos hm (Nat.two_pow_pos k)).ne').2 ⟨?_, ?_⟩
    · rw [Nat.pow_add]
      exact Nat.mul_le_mul_right _ (Nat.log2_self_le hm.ne')
    · rw [Nat.add_right_comm, Nat.pow_add]
      exact Nat.mul_lt_mul_of_pos_right Nat.lt_log2_self (Nat.two_pow_pos k)
  rw [spacing, hlog, spacing]
  omega

/-- The same number with a smaller exponent rounds to the same double. -/
theorem rounded_scale (hm : 0 < m) (he : e ≤ spacing m e) (k : Nat) :
    rounded (m * 2 ^ k) (e - k) = rounded m e := by
  have hshift : (spacing m e - (e - k)).toNat = (spacing m e - e).toNat + k := by omega
  rw [rounded, spacing_scale hm, hshift, nearest_scale, rounded]

theorem le_nearest_of_spacing (hm : 0 < m) (he : e ≤ spacing m e) (ht : spacing m e ≠ -1074) :
    2 ^ 52 ≤ nearest m (spacing m e - e).toNat := by
  have hlog : m.log2 = 52 + (spacing m e - e).toNat := by
    unfold spacing at he ht ⊢
    omega
  refine Nat.le_trans ?_ (div_le_nearest m _)
  rw [Nat.le_div_iff_mul_le (Nat.two_pow_pos _), ← Nat.pow_add, ← hlog]
  exact Nat.log2_self_le hm.ne'

theorem place_carried_mono {q q' : Nat} (hq : q ≤ q') (t : Int) :
    place (carried q t) ≤ place (carried q' t) := by
  unfold carried
  by_cases hzero : q = 0
  · rw [dif_pos hzero]
    split
    · exact le_rfl
    · split <;> simp [place, Prod.Lex.toLex_le_toLex]
  · rw [dif_neg hzero, dif_neg (by omega)]
    split <;> split <;> simp [place, Prod.Lex.toLex_le_toLex] <;> omega

theorem place_carried_le {q q' : Nat} {t t' : Int} (hq' : 2 ^ 52 ≤ q') (ht : t < t') :
    place (carried q t) ≤ place (carried q' t') := by
  unfold carried
  rw [dif_neg (by omega : q' ≠ 0)]
  split
  · split <;> simp [place, Prod.Lex.toLex_le_toLex]
  · split <;> split <;> simp [place, Prod.Lex.toLex_le_toLex] <;> omega

/-- Of two numbers with one exponent the greater is not rounded to a lesser double. -/
theorem place_rounded_mono (hm : 0 < m) (hle : m ≤ m') (he : e ≤ spacing m e) :
    place (rounded m e) ≤ place (rounded m' e) := by
  have hlog : m.log2 ≤ m'.log2 :=
    (Nat.le_log2 (by omega)).2 ((Nat.log2_self_le hm.ne').trans hle)
  have hspacing : spacing m e ≤ spacing m' e := by unfold spacing; omega
  rcases hspacing.eq_or_lt with heq | hlt
  · rw [rounded, rounded, ← heq]
    exact place_carried_mono (nearest_mono hle _) _
  · -- A wider spacing begins where the narrower one ends.
    have hleast : -1074 ≤ spacing m e := le_max_right ..
    exact place_carried_le (le_nearest_of_spacing (hm.trans_le hle) (by omega) (by omega)) hlt

end Rounding

end MinEntropy.Figure

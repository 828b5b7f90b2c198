import MinEntropy.Proofs.Json.Numbers

/-! Figures read back. Every finite figure that was written is read as a double: its digits fit in
64 bits, its power of ten can be read, and scaling the one by the other never overflows. -/

namespace MinEntropy.Json

open Decimal

/-! ### Powers of ten -/

section Powers

variable {p q : Nat}

theorem unpack_powerOfTen (hp : 23 ≤ p) (hp' : p ≤ 2 ^ 11) :
    (powerOfTen p).toModel.unpack = Figure.bounded (Figure.whole (10 ^ p)) := by
  have hunpack := Figure.unpack_ofScientific Nat.one_pos hp'
  rw [Nat.one_mul] at hunpack
  change (Float.ofScientific 1 false p).toModel.unpack = _
  unfold Float.ofScientific
  rw [dif_neg (by omega)]
  exact hunpack

theorem small_powers : ∀ p < 23, 0.0 ≤ powerOfTen p ∧ powerOfTen p ≤ powerOfTen 23 := by
  decide +kernel

theorem zero_le_powerOfTen (hp : p ≤ 2 ^ 11) : 0.0 ≤ powerOfTen p := by
  rcases Nat.lt_or_ge p 23 with hsmall | hlarge
  · exact (small_powers p hsmall).1
  · rw [Figure.zero_le_iff, unpack_powerOfTen hlarge hp]
    exact Figure.isNonneg_bounded (Figure.isNonneg_whole _)

theorem powerOfTen_le (hq : 23 ≤ q) (hq' : q ≤ 2 ^ 11) (hpq : p ≤ q) :
    powerOfTen p ≤ powerOfTen q := by
  have hlarge {p : Nat} (hp : 23 ≤ p) (hpq : p ≤ q) : powerOfTen p ≤ powerOfTen q := by
    rw [Figure.le_iff, unpack_powerOfTen hp (hpq.trans hq'), unpack_powerOfTen hq hq']
    exact ⟨Figure.isNaN_right (zero_le_powerOfTen (hpq.trans hq')),
      Figure.isNaN_right (zero_le_powerOfTen hq'),
      Figure.place_bounded_mono (Figure.isNonneg_whole _) (Figure.isNonneg_whole _)
        (Figure.place_whole_mono (Nat.pow_le_pow_right (by decide) hpq))⟩
  rcases Nat.lt_or_ge p 23 with hsmall | hge
  · exact Figure.le_trans (small_powers p hsmall).2 (hlarge le_rfl hq)
  · exact hlarge hge hpq

end Powers

/-! ### The greatest product -/

/-- What the shortest decimal of the greatest double amounts to. -/
def greatest : Nat := 17976931348623157 * 10 ^ 292

theorem shortest_greatest : shortest ⟨2 ^ 53 - 1, 971, false⟩ .even = ⟨17976931348623157, 292⟩ := by
  decide +kernel

/-- The greatest power, the greatest digits, and the products of both that stay below the greatest
double. -/
theorem isFinite_greatest : (powerOfTen maxPower).isFinite = true ∧
    (Float.ofNat (greatest / 10 ^ 291)).isFinite = true ∧
    ∀ p < 18, (Float.ofNat (greatest / 10 ^ (p + 291)) * powerOfTen (p + 291)).isFinite = true := by
  decide +kernel

theorem isFinite_greatest_product {p : Nat} (hlow : 291 ≤ p) (hhigh : p ≤ maxPower) :
    (Float.ofNat (greatest / 10 ^ p) * powerOfTen p).isFinite = true := by
  have hfinite := isFinite_greatest.2.2 (p - 291) (by unfold maxPower at hhigh; omega)
  rwa [Nat.sub_add_cancel hlow] at hfinite

theorem quotient_le {p q : Nat} (hpq : p ≤ q) : greatest / 10 ^ q ≤ greatest / 10 ^ p :=
  Nat.div_le_div_left (Nat.pow_le_pow_right (by decide) hpq) (Nat.pow_pos (by decide))

/-- All digits of a double are below, and so is the end of the greatest double but one. -/
theorem le_greatest : 10 ^ 17 ≤ greatest / 10 ^ 291 ∧ (2 ^ 54 - 3) * 2 ^ 970 ≤ greatest := by
  decide +kernel

section Products

variable {digits p : Nat}

theorem isFinite_powerOfTen (hp : p ≤ maxPower) : (powerOfTen p).isFinite = true :=
  Figure.isFinite_of_le (zero_le_powerOfTen (hp.trans (by decide)))
    (powerOfTen_le (by decide) (by decide) hp) isFinite_greatest.1

theorem product_le {digits' : Nat} (hp : p ≤ maxPower) (hdigits : digits ≤ digits')
    (hle : digits' ≤ greatest / 10 ^ 291) :
    Float.ofNat digits * powerOfTen p ≤ Float.ofNat digits' * powerOfTen p :=
  Figure.mul_le_mul_of_nonneg (Figure.zero_le_ofNat _) (Figure.ofNat_le_ofNat hdigits)
    (Figure.isFinite_of_le (Figure.zero_le_ofNat _) (Figure.ofNat_le_ofNat hle)
      isFinite_greatest.2.1)
    (zero_le_powerOfTen (hp.trans (by decide))) (isFinite_powerOfTen hp)

theorem zero_le_product (hp : p ≤ maxPower) (hdigits : digits ≤ greatest / 10 ^ 291) :
    0.0 ≤ Float.ofNat digits * powerOfTen p :=
  Figure.zero_le_mul (Figure.zero_le_ofNat _) (zero_le_powerOfTen (hp.trans (by decide)))
    (Figure.isFinite_of_le (Figure.zero_le_ofNat _) (Figure.ofNat_le_ofNat hdigits)
      isFinite_greatest.2.1) (isFinite_powerOfTen hp)

/-- Scaling does not overflow where the exact product is no greater than the greatest double. -/
theorem isFinite_product (hdigits : digits ≤ 10 ^ 17) (hp : p ≤ maxPower)
    (hle : digits * 10 ^ p ≤ greatest) : (Float.ofNat digits * powerOfTen p).isFinite = true := by
  have hlimit := hdigits.trans le_greatest.1
  rcases Nat.lt_or_ge p 291 with hsmall | hlarge
  · -- With so small a power the digits may be anything.
    have hfactors := product_le hp hlimit le_rfl
    have hpowers : Float.ofNat (greatest / 10 ^ 291) * powerOfTen p ≤
        Float.ofNat (greatest / 10 ^ 291) * powerOfTen 291 := by
      rw [Figure.product_comm, Figure.product_comm _ (powerOfTen 291)]
      exact Figure.mul_le_mul_of_nonneg (zero_le_powerOfTen (hp.trans (by decide)))
        (powerOfTen_le (by decide) (by decide) hsmall.le) (isFinite_powerOfTen (by decide))
        (Figure.zero_le_ofNat _) isFinite_greatest.2.1
    exact Figure.isFinite_of_le (zero_le_product hp hlimit) (Figure.le_trans hfactors hpowers)
      (isFinite_greatest_product le_rfl (by decide))
  · have hquotient : digits ≤ greatest / 10 ^ p :=
      (Nat.le_div_iff_mul_le (Nat.pow_pos (by decide))).2 hle
    exact Figure.isFinite_of_le (zero_le_product hp hlimit)
      (product_le hp hquotient (quotient_le hlarge)) (isFinite_greatest_product hlarge hp)

end Products

/-! ### The bounds of shortest decimals -/

theorem leading_bounds {s : Scaled} (hdigits : 0 < s.digits) :
    10 ^ s.leading ≤ s.value ∧ s.value < 10 ^ (s.leading + 1) := by
  have hlength : 0 < (Nat.toDigits 10 s.digits).length := Nat.length_toDigits_pos
  have hlow := pow_length_le hdigits
  have hhigh := lt_pow_length s.digits
  have hleading : s.leading = s.exponent + ((Nat.toDigits 10 s.digits).length - 1 : Nat) := rfl
  have hstep : (0 : ℚ) < 10 ^ s.exponent := zpow_pos (by norm_num) _
  generalize (Nat.toDigits 10 s.digits).length = n at *
  have hnext : s.leading + 1 = s.exponent + (n : Int) := by omega
  rw [hnext, hleading, zpow_add₀ (by norm_num), zpow_add₀ (by norm_num), zpow_natCast, zpow_natCast,
    Scaled.value, mul_comm (s.digits : ℚ)]
  exact ⟨mul_le_mul_of_nonneg_left (by exact_mod_cast hlow) hstep.le,
    mul_lt_mul_of_pos_left (by exact_mod_cast hhigh) hstep⟩

theorem two_pow_le : (2 : ℚ) ^ 1075 ≤ 10 ^ 400 :=
  calc (2 : ℚ) ^ 1075 = (2 ^ 43) ^ 25 := pow_mul 2 43 25
    _ ≤ (10 ^ 16) ^ 25 := pow_le_pow_left₀ (by norm_num) (by norm_num) 25
    _ = 10 ^ 400 := (pow_mul 10 16 25).symm

section Bounds

variable {b : Binary} (hb : b.IsDouble)

include hb

theorem high_lt : b.high < 2 ^ 1024 := by
  have hmost : (b.mantissa + 1 : ℚ) ≤ 2 ^ 53 := by exact_mod_cast hb.lt
  have hulp : (2 : ℚ) ^ b.exponent ≤ 2 ^ (971 : Int) :=
    zpow_le_zpow_right₀ one_le_two hb.le_greatest
  calc b.high < 2 ^ 53 * 2 ^ b.exponent :=
        mul_lt_mul_of_pos_right (by linarith) (zpow_pos two_pos _)
    _ ≤ 2 ^ 53 * 2 ^ (971 : Int) := mul_le_mul_of_nonneg_left hulp (by positivity)
    _ = 2 ^ 1024 := by rw [← zpow_natCast, ← zpow_add₀ two_ne_zero]; rfl

theorem le_low (hm : 0 < b.mantissa) : 2 ^ (-1075 : Int) ≤ b.low := by
  have hone : (1 : ℚ) ≤ b.mantissa := by exact_mod_cast hm
  have hulp : (2 : ℚ) ^ (-1074 : Int) ≤ 2 ^ b.exponent :=
    zpow_le_zpow_right₀ one_le_two hb.least_le
  calc (2 : ℚ) ^ (-1075 : Int) = 1 / 2 * 2 ^ (-1074 : Int) := by
        rw [show (-1075 : Int) = -1 + -1074 by decide, zpow_add₀ two_ne_zero]
        norm_num
    _ ≤ 1 / 2 * 2 ^ b.exponent := mul_le_mul_of_nonneg_left hulp (by norm_num)
    _ ≤ (b.mantissa - 1 / 2) * 2 ^ b.exponent :=
        mul_le_mul_of_nonneg_right (by linarith) (zpow_pos two_pos _).le
    _ ≤ b.low := b.low_ge

/-- No figure needs a power of ten of more than three digits. -/
theorem natAbs_leading_le (tie : Tie) : (shortest b tie).leading.natAbs ≤ 400 := by
  rcases Nat.eq_zero_or_pos b.mantissa with hzero | hpos
  · rw [shortest, if_pos hzero]
    decide
  · have hadmits := (shortest_admits hb tie).1
    obtain ⟨hleast, hmost⟩ := leading_bounds (shortest_digits_pos hb tie hpos)
    have hhigh : (10 : ℚ) ^ (shortest b tie).leading < 10 ^ (400 : Int) :=
      calc (10 : ℚ) ^ (shortest b tie).leading ≤ b.high := hleast.trans hadmits.le_high
        _ < 2 ^ 1024 := high_lt hb
        _ ≤ 2 ^ 1075 := pow_le_pow_right₀ one_le_two (by decide)
        _ ≤ 10 ^ 400 := two_pow_le
    have hlow : (10 : ℚ) ^ (-400 : Int) < 10 ^ ((shortest b tie).leading + 1) :=
      calc (10 : ℚ) ^ (-400 : Int) = (10 ^ 400)⁻¹ := zpow_neg_coe_of_pos 10 (by decide)
        _ ≤ (2 ^ 1075)⁻¹ := inv_anti₀ (by positivity) two_pow_le
        _ = 2 ^ (-1075 : Int) := (zpow_neg_coe_of_pos 2 (by decide)).symm
        _ ≤ b.low := le_low hb hpos
        _ ≤ (shortest b tie).value := hadmits.low_le
        _ < 10 ^ ((shortest b tie).leading + 1) := hmost
    have := (zpow_lt_zpow_iff_right₀ (by norm_num)).1 hhigh
    have := (zpow_lt_zpow_iff_right₀ (by norm_num)).1 hlow
    omega

theorem eq_greatest (hmantissa : b.mantissa = 2 ^ 53 - 1) (hexponent : b.exponent = 971) :
    b = ⟨2 ^ 53 - 1, 971, false⟩ := by
  have hnarrow : b.narrow = false := Bool.eq_false_of_not_eq_true fun h => by
    have := (hb.narrow_iff.1 h).1
    omega
  cases b
  simp_all

/-- Every other double ends below the greatest one. -/
theorem high_le (hother : ¬ (b.mantissa = 2 ^ 53 - 1 ∧ b.exponent = 971)) :
    b.high ≤ (2 ^ 54 - 3) * 2 ^ (970 : Int) := by
  have hmost : b.mantissa + 1 ≤ 2 ^ 53 := hb.lt
  have hulp : (0 : ℚ) < 2 ^ (970 : Int) := zpow_pos two_pos _
  have hstep : (2 : ℚ) ^ (971 : Int) = 2 * 2 ^ (970 : Int) := zpow_one_add₀ two_ne_zero 970
  rcases hb.le_greatest.lt_or_eq with hless | heq
  · have hle : (2 : ℚ) ^ b.exponent ≤ 2 ^ (970 : Int) :=
      zpow_le_zpow_right₀ one_le_two (by omega)
    have hmantissa : (b.mantissa + 1 : ℚ) ≤ 2 ^ 53 := by exact_mod_cast hmost
    generalize (2 : ℚ) ^ (970 : Int) = ulp at *
    calc b.high = (b.mantissa + 1 / 2) * 2 ^ b.exponent := rfl
      _ ≤ (b.mantissa + 1 / 2) * ulp :=
          mul_le_mul_of_nonneg_left hle (add_nonneg (Nat.cast_nonneg _) one_half_pos.le)
      _ ≤ (2 ^ 54 - 3) * ulp := mul_le_mul_of_nonneg_right (by linarith) hulp.le
  · have hless : b.mantissa + 2 ≤ 2 ^ 53 := by
      by_contra hfull
      exact hother ⟨by omega, heq⟩
    have hmantissa : (b.mantissa + 2 : ℚ) ≤ 2 ^ 53 := by exact_mod_cast hless
    rw [Binary.high, heq, hstep, ← mul_assoc]
    generalize (2 : ℚ) ^ (970 : Int) = ulp at *
    exact mul_le_mul_of_nonneg_right (by linarith) hulp.le

/-- No figure is written as more than the greatest one. -/
theorem shortest_value_le : (shortest b .even).value ≤ greatest := by
  by_cases hlargest : b.mantissa = 2 ^ 53 - 1 ∧ b.exponent = 971
  · have hpow : (10 : ℚ) ^ (292 : Int) = 10 ^ 292 := zpow_natCast 10 292
    rw [eq_greatest hb hlargest.1 hlargest.2, shortest_greatest, Scaled.value, greatest, hpow,
      Nat.cast_mul, Nat.cast_pow]
    exact le_rfl
  · have hpow : (2 : ℚ) ^ (970 : Int) = 2 ^ 970 := zpow_natCast 2 970
    have hnext : (((2 ^ 54 - 3) * 2 ^ 970 : Nat) : ℚ) ≤ greatest := Nat.cast_le.2 le_greatest.2
    rw [Nat.cast_mul, Nat.cast_pow, Nat.cast_sub (by decide)] at hnext
    have hbelow := high_le hb hlargest
    rw [hpow] at hbelow
    exact (shortest_admits hb .even).1.le_high.trans (hbelow.trans hnext)

end Bounds

/-! ### Reading figures -/

/-- The digits of a figure can be scaled. -/
theorem exists_scale {n : Numeral} {negative : Bool} {b : Binary} (hb : b.IsDouble)
    (htells : n.Tells negative (shortest b .even)) : ∃ y, scale n.digits n.scale = some y := by
  unfold scale
  dsimp only
  split
  · exact ⟨_, rfl⟩
  rename_i hnonneg
  obtain ⟨p, hp⟩ := Int.eq_ofNat_of_zero_le (not_lt.1 hnonneg)
  have hvalue := htells.magnitude.trans_le (shortest_value_le hb)
  rw [Numeral.magnitude, hp, zpow_natCast] at hvalue
  have hle : n.digits * 10 ^ p ≤ greatest := by exact_mod_cast hvalue
  rw [hp, Int.toNat_natCast]
  split
  · rename_i hpower
    have hfinite := isFinite_product htells.digits_le hpower hle
    rw [Figure.isFinite_eq, Bool.and_eq_true, Bool.not_eq_true', Bool.not_eq_true'] at hfinite
    exact ⟨_, if_neg (by rw [hfinite.2]; decide)⟩
  · rename_i hpower
    -- Only zero goes with so great a power.
    have hnone : n.digits = 0 := by
      by_contra hsome
      have hgreat : greatest < 10 ^ (maxPower + 1) := by decide +kernel
      have hpow : 10 ^ (maxPower + 1) ≤ 10 ^ p := Nat.pow_le_pow_right (by decide) (by omega)
      have hmul : 10 ^ p ≤ n.digits * 10 ^ p := Nat.le_mul_of_pos_left _ (Nat.pos_of_ne_zero hsome)
      omega
    rw [hnone]
    exact ⟨_, if_pos rfl⟩

/-- Every finite figure that was written is read as a double, whatever stands behind it. -/
theorem readNumber_figureText {x : Float} (hx : x.isFinite = true) :
    ∃ y, ∀ rest, EndsNumber rest → readNumber (figureText x ++ rest) = .ok (.double y, rest) := by
  obtain ⟨negative, b, n, hparts, htells, htext⟩ := figureText_of_isFinite hx
  have hb := isDouble_of_ofFloat hparts
  have hdigits : n.digits ≤ maxInteger := htells.digits_le.trans (by decide)
  have hfit : n.PowerFits := fun p hp => by
    rw [htells.power_eq p hp]
    exact (natAbs_leading_le hb .even).trans (by decide)
  obtain ⟨y, hy⟩ := exists_scale hb htells
  refine ⟨withSign n.negative y, fun rest hrest => ?_⟩
  rw [htext, readNumber_text hrest htells.isMarked hdigits hfit, scaled, hy]

/-- What the number reader makes of a figure that was written, if one was. -/
def reread (e : Option Float) : Option Float :=
  (Figure.written e).bind fun x => (readNumber (figureText x)).toOption.map (·.1.toFloat)

theorem reread_of_isFinite {x : Float} (hx : x.isFinite = true) :
    ∃ y, reread (some x) = some y ∧ readNumber (figureText x) = .ok (.double y, []) ∧
      ∀ rest, EndsNumber rest → readNumber (figureText x ++ rest) = .ok (.double y, rest) := by
  obtain ⟨y, hread⟩ := readNumber_figureText hx
  have halone := hread [] endsNumber_nil
  rw [List.append_nil] at halone
  refine ⟨y, ?_, halone, hread⟩
  rw [reread, Figure.written, Option.filter_some_pos hx, Option.bind_some, halone]
  rfl

theorem reread_of_written_eq_none {e : Option Float} (h : Figure.written e = none) :
    reread e = none := by
  rw [reread, h]
  rfl

/-- A figure or its absence is read back. -/
theorem readFigure?_num? (e : Option Float) {rest : List Char} (hrest : EndsNumber rest) :
    readFigure? ((num? e).compact ++ rest) = .ok (reread e, rest) := by
  rw [compact_num?]
  cases hwritten : Figure.written e with
  | none =>
    rw [reread_of_written_eq_none hwritten]
    rfl
  | some x =>
    have hx := isFinite_of_written hwritten
    have heq : reread e = reread (some x) := by
      rw [reread, hwritten, reread, Figure.written, Option.filter_some_pos hx]
    obtain ⟨_, _, n, -, -, htext⟩ := figureText_of_isFinite hx
    obtain ⟨y, hreread, -, hread⟩ := reread_of_isFinite hx
    obtain ⟨c, cs, hchars, hhead⟩ := n.text_head
    have hnumber := hread rest hrest
    rw [Option.map_some, Option.getD_some, heq, hreread]
    rw [htext, hchars, List.cons_append] at hnumber ⊢
    have hspace : isSpace c = false := by
      rcases hhead with rfl | hdigit
      · rfl
      · exact isSpace_of_isDigit hdigit
    have hnull : c ≠ 'n' := by
      rcases hhead with rfl | hdigit
      · decide
      · exact ne_of_isDigit hdigit rfl
    rw [readFigure?, skipSpace_cons hspace]
    dsimp only
    rw [if_neg hnull, readNumeral, skipSpace_cons hspace]
    dsimp only
    rw [if_pos hhead, hnumber]
    rfl

theorem readBool_bool (b : Bool) (rest : List Char) :
    readBool ((bool b).compact ++ rest) = .ok (b, rest) := by
  cases b <;> rfl

end MinEntropy.Json

import MinEntropy.Proofs.Decimal.Shortest

/-! Doubles and the numbers that round to them. No number rounds to two doubles, and the parts of a
finite double determine it. -/

namespace MinEntropy.Decimal

namespace Binary

variable {b b' : Binary} {q : ℚ}

theorem Admits.le_high (h : b.Admits q) : q ≤ b.high := h.high.elim le_of_lt fun heq => heq.1.le

theorem Admits.low_le (h : b.Admits q) : b.low ≤ q := h.low.elim le_of_lt fun heq => heq.1.le

theorem Admits.even_of_high (h : b.Admits q) (heq : q = b.high) : b.mantissa % 2 = 0 :=
  h.high.elim (fun hlt => absurd heq hlt.ne) fun heq => of_decide_eq_true heq.2

theorem Admits.even_of_low (h : b.Admits q) (heq : b.low = q) : b.mantissa % 2 = 0 :=
  h.low.elim (fun hlt => absurd heq hlt.ne) fun heq => of_decide_eq_true heq.2

theorem low_ge (b : Binary) : (b.mantissa - 1 / 2) * 2 ^ b.exponent ≤ b.low := by
  refine mul_le_mul_of_nonneg_right ?_ (zpow_pos two_pos _).le
  split <;> linarith

/-- Above a full mantissa the next double is as far away as the ones before. -/
theorem low_ge_of_full (hb : b.IsDouble) (hleast : b.exponent ≠ -1074) :
    (2 ^ 52 - 1 / 4) * 2 ^ b.exponent ≤ b.low := by
  refine mul_le_mul_of_nonneg_right ?_ (zpow_pos two_pos _).le
  have hfull := hb.full_or_least.resolve_right hleast
  split
  · have hfullQ : (2 ^ 52 : ℚ) ≤ b.mantissa := by exact_mod_cast hfull
    linarith
  · rename_i hnarrow
    have hmore : 2 ^ 52 + 1 ≤ b.mantissa :=
      (Nat.lt_iff_le_and_ne.2 ⟨hfull, fun heq => hnarrow (hb.narrow_iff.2 ⟨heq.symm, hleast⟩)⟩)
    have hmoreQ : (2 ^ 52 + 1 : ℚ) ≤ b.mantissa := by exact_mod_cast hmore
    linarith

/-- Of two doubles with one exponent the lesser ends where the greater begins, at the earliest. -/
theorem not_admits_of_mantissa_lt (heq : b.exponent = b'.exponent)
    (hlt : b.mantissa < b'.mantissa) (h : b.Admits q) : ¬ b'.Admits q := by
  intro h'
  have hulp : (0 : ℚ) < 2 ^ b'.exponent := zpow_pos two_pos _
  have hhigh := h.le_high
  have hlow := b'.low_ge.trans h'.low_le
  have hnext : (b.mantissa + 1 : ℚ) ≤ b'.mantissa := by exact_mod_cast hlt
  have hend : b.high = (b.mantissa + 1 / 2) * 2 ^ b'.exponent := by rw [high, heq]
  rw [hend] at hhigh
  rcases hnext.lt_or_eq with hgap | hadjacent
  · nlinarith
  · have hsame : (b.mantissa + 1 / 2 : ℚ) * 2 ^ b'.exponent =
        (b'.mantissa - 1 / 2) * 2 ^ b'.exponent := by
      rw [← hadjacent]
      ring
    rw [hsame] at hhigh hend
    have heven := h.even_of_high (hend ▸ hhigh.antisymm hlow)
    have heven' := h'.even_of_low (h'.low_le.antisymm (hhigh.trans b'.low_ge))
    have hsucc : b.mantissa + 1 = b'.mantissa := by exact_mod_cast hadjacent
    omega

/-- The last double with an exponent ends where the first with a greater one begins. -/
theorem not_admits_of_exponent_lt (hb : b.IsDouble) (hb' : b'.IsDouble)
    (hlt : b.exponent < b'.exponent) (h : b.Admits q) : ¬ b'.Admits q := by
  intro h'
  have hulp : (0 : ℚ) < 2 ^ b.exponent := zpow_pos two_pos _
  have hdouble : (2 : ℚ) * 2 ^ b.exponent ≤ 2 ^ b'.exponent := by
    rw [← zpow_one_add₀ two_ne_zero]
    exact zpow_le_zpow_right₀ one_le_two (by omega)
  have hlow := (low_ge_of_full hb' (by have := hb.least_le; omega)).trans h'.low_le
  have hhigh := h.le_high
  have hend : b.high = (b.mantissa + 1 / 2) * 2 ^ b.exponent := rfl
  have hmost : (b.mantissa + 1 : ℚ) ≤ 2 ^ 53 := by exact_mod_cast hb.lt
  generalize (2 : ℚ) ^ b.exponent = ulp at *
  generalize (2 : ℚ) ^ b'.exponent = ulp' at *
  have hreach : (2 ^ 53 - 1 / 2) * ulp ≤ q := by nlinarith
  have hmantissa : (b.mantissa + 1 : ℚ) = 2 ^ 53 := by
    refine hmost.antisymm ?_
    by_contra hless
    have hless' : b.mantissa + 2 ≤ 2 ^ 53 := by exact_mod_cast not_le.1 hless
    have hlessQ : (b.mantissa + 2 : ℚ) ≤ 2 ^ 53 := by exact_mod_cast hless'
    nlinarith
  have hmost' : b.high = (2 ^ 53 - 1 / 2) * ulp := by
    rw [hend, ← hmantissa]
    ring
  have heven := h.even_of_high (hhigh.antisymm (hmost'.trans_le hreach))
  have hmantissaN : b.mantissa + 1 = 2 ^ 53 := by exact_mod_cast hmantissa
  omega

/-- No number rounds to two doubles. -/
theorem eq_of_admits (hb : b.IsDouble) (hb' : b'.IsDouble) (h : b.Admits q) (h' : b'.Admits q) :
    b = b' := by
  have hexponent : b.exponent = b'.exponent := by
    rcases lt_trichotomy b.exponent b'.exponent with hlt | heq | hgt
    · exact absurd h' (not_admits_of_exponent_lt hb hb' hlt h)
    · exact heq
    · exact absurd h (not_admits_of_exponent_lt hb' hb hgt h')
  have hmantissa : b.mantissa = b'.mantissa := by
    rcases lt_trichotomy b.mantissa b'.mantissa with hlt | heq | hgt
    · exact absurd h' (not_admits_of_mantissa_lt hexponent hlt h)
    · exact heq
    · exact absurd h (not_admits_of_mantissa_lt hexponent.symm hgt h')
  have hnarrow : b.narrow = b'.narrow := by
    rw [Bool.eq_iff_iff, hb.narrow_iff, hb'.narrow_iff, hmantissa, hexponent]
  cases b
  cases b'
  simp_all

end Binary

section Shortest

variable {b : Binary} (hb : b.IsDouble) (tie : Tie)

include hb

/-- Zero is written as zero, which lies between the least doubles of either sign. -/
theorem shortest_admits :
    b.Admits (shortest b tie).value ∧ (shortest b tie).digits ≤ 10 ^ 17 := by
  rcases Nat.eq_zero_or_pos b.mantissa with hzero | hpos
  · have hulp : (0 : ℚ) < 2 ^ b.exponent := zpow_pos two_pos _
    have hwide : ¬ b.narrow = true := fun hnarrow => by
      have := (hb.narrow_iff.1 hnarrow).1
      omega
    rw [shortest, if_pos hzero, Scaled.value, Nat.cast_zero, zero_mul]
    refine ⟨⟨.inl ?_, .inl ?_⟩, Nat.zero_le _⟩
    · rw [Binary.low, hzero, if_neg hwide, Nat.cast_zero]
      linarith
    · rw [Binary.high, hzero, Nat.cast_zero]
      linarith
  · exact shortest_of_isDouble hpos hb tie

theorem shortest_digits_pos (hm : 0 < b.mantissa) : 0 < (shortest b tie).digits := by
  refine Nat.pos_of_ne_zero fun hnone => ?_
  have hlow := (Binary.low_pos hm).trans_le (shortest_admits hb tie).1.low_le
  rw [Scaled.value, hnone, Nat.cast_zero, zero_mul] at hlow
  exact lt_irrefl _ hlow

theorem shortest_of_digits (hnone : (shortest b tie).digits = 0) :
    (shortest b tie).exponent = 0 := by
  rcases Nat.eq_zero_or_pos b.mantissa with hzero | hpos
  · rw [shortest, if_pos hzero]
  · exact absurd hnone (shortest_digits_pos hb tie hpos).ne'

end Shortest

/-! ### The parts of a double -/

namespace Double

variable {bits : Nat} {negative : Bool} {b : Binary}

theorem ofBits_eq_finite (h : ofBits bits = .finite negative b) :
    bits / 2 ^ 52 % 2048 ≠ 2047 ∧ (negative = true ↔ bits / 2 ^ 63 % 2 = 1) ∧
      b = if bits / 2 ^ 52 % 2048 = 0 then ⟨bits % 2 ^ 52, -1074, false⟩
        else ⟨2 ^ 52 + bits % 2 ^ 52, ((bits / 2 ^ 52 % 2048 : Nat) : Int) - 1075,
          bits % 2 ^ 52 = 0 && 1 < bits / 2 ^ 52 % 2048⟩ := by
  have hhidden : hiddenBit = 2 ^ 52 := rfl
  rw [ofBits, hhidden] at h
  split at h
  · split at h <;> cases h
  · rename_i hspecial
    split at h <;> cases h <;> rename_i hzero
    · exact ⟨hspecial, decide_eq_true_iff, (if_pos hzero).symm⟩
    · exact ⟨hspecial, decide_eq_true_iff, (if_neg hzero).symm⟩

theorem isDouble_of_ofBits (h : ofBits bits = .finite negative b) : b.IsDouble := by
  obtain ⟨hspecial, -, rfl⟩ := ofBits_eq_finite h
  have hfield : bits / 2 ^ 52 % 2048 < 2048 := Nat.mod_lt _ (by decide)
  have hfraction : bits % 2 ^ 52 < 2 ^ 52 := Nat.mod_lt _ (by decide)
  generalize bits / 2 ^ 52 % 2048 = field at *
  generalize bits % 2 ^ 52 = fraction at *
  split
  · exact ⟨⟨hfraction.trans (by decide), le_rfl, .inr rfl⟩, by simp, by simp⟩
  · refine ⟨⟨?_, ?_, .inl (Nat.le_add_right ..)⟩, ?_, ?_⟩ <;>
      simp only [Bool.and_eq_true, decide_eq_true_iff] <;> omega

/-- Sign, exponent and mantissa leave nothing open. -/
theorem bits_of_ofBits (hbits : bits < 2 ^ 64) (h : ofBits bits = .finite negative b) :
    bits = (if negative then 2 ^ 63 else 0) +
      if b.mantissa < 2 ^ 52 then b.mantissa
      else 2 ^ 52 * (b.exponent + 1075).toNat + (b.mantissa - 2 ^ 52) := by
  obtain ⟨-, hsign, rfl⟩ := ofBits_eq_finite h
  have hfraction : bits % 2 ^ 52 < 2 ^ 52 := Nat.mod_lt _ (by decide)
  have hsplit : bits = 2 ^ 63 * (bits / 2 ^ 63 % 2) + 2 ^ 52 * (bits / 2 ^ 52 % 2048) +
      bits % 2 ^ 52 := by
    omega
  have htop : (if negative then 2 ^ 63 else 0) = 2 ^ 63 * (bits / 2 ^ 63 % 2) := by
    by_cases hnegative : negative = true
    · rw [if_pos hnegative, hsign.1 hnegative, Nat.mul_one]
    · have := mt hsign.2 hnegative
      rw [if_neg hnegative]
      omega
  rw [htop]
  generalize bits / 2 ^ 52 % 2048 = field at *
  generalize bits % 2 ^ 52 = fraction at *
  by_cases hzero : field = 0
  · rw [if_pos hzero, if_pos hfraction]
    dsimp only
    omega
  · rw [if_neg hzero, if_neg (Nat.not_lt.2 (Nat.le_add_right ..)), Nat.add_sub_cancel_left,
      Int.sub_add_cancel, Int.toNat_natCast]
    omega

end Double

theorem isDouble_of_ofFloat {x : Float} {negative : Bool} {b : Binary}
    (h : Double.ofFloat x = .finite negative b) : b.IsDouble :=
  Double.isDouble_of_ofBits h

theorem float_eq_of_toBits {x y : Float} (h : x.toBits = y.toBits) : x = y := by
  obtain ⟨⟨bits, _⟩⟩ := x
  obtain ⟨⟨bits', _⟩⟩ := y
  obtain rfl : bits = bits' := h
  rfl

theorem eq_of_ofFloat {x y : Float} {negative : Bool} {b : Binary}
    (hx : Double.ofFloat x = .finite negative b) (hy : Double.ofFloat y = .finite negative b) :
    x = y := by
  have hbits := Double.bits_of_ofBits x.toBits.toNat_lt hx
  have hbits' := Double.bits_of_ofBits y.toBits.toNat_lt hy
  exact float_eq_of_toBits (UInt64.toNat_inj.1 (hbits.trans hbits'.symm))

theorem unpackExponent_toNat (bits : BitVec 64) :
    (@Float.Model.UnpackedFloat.unpackExponent .binary64 bits).toNat =
      bits.toNat / 2 ^ 52 % 2048 := by
  change (bits.extractLsb 62 52).toNat = _
  rw [BitVec.extractLsb, BitVec.extractLsb'_toNat, Nat.shiftRight_eq_div_pow]

/-- What is finite has a sign and a magnitude. -/
theorem exists_ofFloat {x : Float} (hx : x.isFinite = true) :
    ∃ negative b, Double.ofFloat x = .finite negative b := by
  have hfield : x.toBits.toNat / hiddenBit % 2048 ≠ 2047 := by
    intro hspecial
    have hexponent := unpackExponent_toNat x.toBits.toBitVec
    have hall : @Float.Model.UnpackedFloat.unpackExponent .binary64 x.toBits.toBitVec = -1#11 :=
      BitVec.eq_of_toNat_eq (hexponent.trans hspecial)
    change (Float.Model.UnpackedFloat.unpack .binary64 x.toBits.toBitVec).isFinite = true at hx
    rw [Float.Model.UnpackedFloat.unpack] at hx
    dsimp only at hx
    rw [if_pos hall] at hx
    split at hx <;> cases hx
  rw [Double.ofFloat, Double.ofBits]
  rw [if_neg hfield]
  split
  · exact ⟨_, _, rfl⟩
  · exact ⟨_, _, rfl⟩

end MinEntropy.Decimal

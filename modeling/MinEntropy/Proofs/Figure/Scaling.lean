import MinEntropy.Proofs.Figure.Product
import MinEntropy.Proofs.Figure.Rounding

/-! Products with a common factor. They stand in the order of their other factors, whatever
rounding, underflow and overflow do to them. -/

namespace MinEntropy.Figure

open Float.Model (UnpackedFloat Format)
open Float.Model.UnpackedFloat

/-- A mantissa as doubles have it: full, unless the exponent is the least one. -/
structure Fits (m : Nat) (e : Int) : Prop where
  lt : m < 2 ^ 53
  least_le : -1074 ≤ e
  full_or_least : 2 ^ 52 ≤ m ∨ e = -1074

/-- Laid out as doubles are, but for the bound on exponents. -/
def IsTidy : UnpackedFloat → Prop
  | .finite _ m e _ => Fits m e
  | _ => True

theorem isTidy_unpack (b : BitVec 64) : IsTidy (unpack Format.binary64 b) := by
  have hbias : ((Format.binary64.exponentBias : Nat) : Int) = 1023 := rfl
  have hm : (@unpackMantissa Format.binary64 b).toNat < 2 ^ 52 := BitVec.isLt _
  unfold UnpackedFloat.unpack
  dsimp only
  split
  · split <;> trivial
  · split
    · rename_i hzero
      split
      · trivial
      · rw [hzero, hbias]
        exact ⟨by omega, by decide, .inr rfl⟩
    · rename_i hnonzero
      have hfull : (1#1 ++ @unpackMantissa Format.binary64 b).toNat =
          2 ^ 52 + (@unpackMantissa Format.binary64 b).toNat := by
        rw [BitVec.toNat_append, ← Nat.shiftLeft_add_eq_or_of_lt hm]
        rfl
      have hpos : (@unpackExponent Format.binary64 b).toNat ≠ 0 :=
        fun h => hnonzero (BitVec.eq_of_toNat_eq h)
      rw [hbias]
      refine ⟨?_, ?_, .inl ?_⟩
      · rw [hfull]
        omega
      · simp only [Nat.cast_ofNat]
        omega
      · rw [hfull]
        omega

/-- What is too great becomes infinite. -/
def bounded : UnpackedFloat → UnpackedFloat
  | .finite s m e h => if 971 < e then .infinity s else .finite s m e h
  | x => x

theorem unpack_pack_normal {s : Sign} {m : Nat} {e : Int} (hm : 0 < m) (hlt : m < 2 ^ 53)
    (hfull : 2 ^ 52 ≤ m) (hleast : -1074 ≤ e) (hgreatest : e ≤ 971) :
    unpack Format.binary64 (packComponents Format.binary64 s (BitVec.ofNat 11 (e + 1075).toNat)
      (BitVec.ofNat 52 m)) = .finite s m e hm := by
  have hfield : (BitVec.ofNat 11 (e + 1075).toNat).toNat = (e + 1075).toNat := by
    rw [BitVec.toNat_ofNat]
    omega
  have hmost : BitVec.ofNat 11 (e + 1075).toNat ≠ -1#11 := by
    intro h
    rw [h] at hfield
    change 2047 = _ at hfield
    omega
  have hnonzero : BitVec.ofNat 11 (e + 1075).toNat ≠ 0#11 := by
    intro h
    rw [h] at hfield
    change 0 = _ at hfield
    omega
  have hmantissa : (1#1 ++ BitVec.ofNat 52 m).toNat = m := by
    rw [BitVec.toNat_append, ← Nat.shiftLeft_add_eq_or_of_lt (BitVec.isLt _), BitVec.toNat_ofNat]
    change 2 ^ 52 + m % 2 ^ 52 = m
    omega
  have hexponent : ((e + 1075).toNat : Int) - (1023 + 52) = e := by omega
  unfold UnpackedFloat.unpack
  simp only [unpackMantissa_packComponents, unpackExponent_packComponents,
    unpackSign_packComponents, Sign.ofBitVec_toBitVec, if_neg hmost, if_neg hnonzero, hmantissa,
    hfield]
  exact (UnpackedFloat.finite.injEq ..).mpr ⟨rfl, rfl, hexponent⟩

theorem unpack_pack_subnormal {s : Sign} {m : Nat} (hm : 0 < m) (hlt : m < 2 ^ 52) :
    unpack Format.binary64 (packComponents Format.binary64 s 0#11 (BitVec.ofNat 52 m)) =
      .finite s m (-1074) hm := by
  have hmantissa : (BitVec.ofNat 52 m).toNat = m := by
    rw [BitVec.toNat_ofNat]
    omega
  have hnonzero : BitVec.ofNat 52 m ≠ 0#52 := by
    intro h
    rw [h] at hmantissa
    change 0 = _ at hmantissa
    omega
  unfold UnpackedFloat.unpack
  simp only [unpackMantissa_packComponents, unpackExponent_packComponents,
    unpackSign_packComponents, Sign.ofBitVec_toBitVec, dif_neg hnonzero, hmantissa]
  rfl

/-- Packing loses nothing of what rounding leaves, but for what is too great. -/
theorem unpack_pack_of_isTidy {x : UnpackedFloat} (hx : IsTidy x) :
    unpack Format.binary64 (pack Format.binary64 x) = bounded x := by
  cases x with
  | infinity s => cases s <;> rfl
  | notANumber => exact unpack_packedNaN
  | zero s => exact unpack_packedZero
  | finite s m e hm =>
    obtain ⟨hlt, hleast, hfull⟩ := hx
    have hbias : (e + (Format.binary64.exponentBias : Int) +
        (Format.binary64.mantissaBitsWithoutImplicit : Int)).toNat = (e + 1075).toNat := by
      change (e + 1023 + 52).toNat = _
      omega
    have hlog : m.log2 + 1 = Format.binary64.mantissaBits ↔ 2 ^ 52 ≤ m := by
      change m.log2 + 1 = 53 ↔ _
      rw [← Nat.le_log2 hm.ne']
      have := log2_le_of_lt hlt
      omega
    have hgreat : 2 ^ Format.binary64.exponentBits ≤ (e + 1075).toNat + 1 ↔ 971 < e := by
      change 2048 ≤ _ ↔ _
      omega
    unfold UnpackedFloat.pack bounded
    simp only [hbias, hlog, hgreat]
    split
    · cases s <;> rfl
    · split
      · rename_i hnormal
        exact unpack_pack_normal hm hlt hnormal hleast (by omega)
      · rename_i hsubnormal
        obtain rfl := hfull.resolve_left hsubnormal
        exact unpack_pack_subnormal hm (by omega)

theorem place_bounded {m : Nat} {e : Int} (hm : 0 < m) :
    place (bounded (.finite .positive m e hm)) =
      if 971 < e then toLex (2, toLex (0, 0)) else toLex (1, toLex (e, (m : Int))) := by
  unfold bounded
  dsimp only
  split <;> rfl

theorem place_bounded_mono {x y : UnpackedFloat} (hx : IsNonneg x) (hy : IsNonneg y)
    (hxy : place x ≤ place y) : place (bounded x) ≤ place (bounded y) := by
  rcases x with ⟨_ | _⟩ | _ | sx | ⟨_ | _, m, e, hm⟩ <;>
    rcases y with ⟨_ | _⟩ | _ | sy | ⟨_ | _, m', e', hm'⟩
  all_goals first | exact hx.elim | exact hy.elim | exact hxy | skip
  case infinity.positive.finite.positive => simp [place, Prod.Lex.toLex_le_toLex] at hxy
  case zero.finite.positive =>
    rw [place_bounded]
    split <;> simp [bounded, place, Prod.Lex.toLex_le_toLex]
  case finite.positive.infinity.positive =>
    rw [place_bounded]
    split <;> simp [bounded, place, Prod.Lex.toLex_le_toLex]
  case finite.positive.zero => simp [place, Prod.Lex.toLex_le_toLex] at hxy
  case finite.positive.finite.positive =>
    simp only [place, Prod.Lex.toLex_le_toLex] at hxy
    rw [place_bounded, place_bounded]
    split <;> split <;> simp [Prod.Lex.toLex_le_toLex] <;> omega

theorem spacing_of_fits {m m' : Nat} {e e' : Int} (hm : 0 < m) (hm' : 0 < m') (h : Fits m e)
    (h' : Fits m' e') : e + e' ≤ spacing (m * m') (e + e') := by
  have hlog (hfull : 2 ^ 52 ≤ m * m') : 52 ≤ (m * m').log2 :=
    (Nat.le_log2 (Nat.mul_pos hm hm').ne').2 hfull
  unfold spacing
  rcases h.full_or_least with hfull | hleast
  · have := hlog (hfull.trans (Nat.le_mul_of_pos_right m hm'))
    omega
  · rcases h'.full_or_least with hfull' | hleast'
    · have := hlog (hfull'.trans (Nat.le_mul_of_pos_left m' hm))
      omega
    · omega

theorem isTidy_rounded {m : Nat} {e : Int} (hm : 0 < m) (he : e ≤ spacing m e) :
    IsTidy (rounded m e) := by
  have hleast : -1074 ≤ spacing m e := le_max_right ..
  have hfull := le_nearest_of_spacing hm he
  unfold rounded carried
  split
  · trivial
  · split
    · rename_i hlt
      refine ⟨hlt, hleast, ?_⟩
      by_cases ht : spacing m e = -1074
      · exact .inr ht
      · exact .inl (hfull ht)
    · exact ⟨by decide, by omega, .inl le_rfl⟩

/-- The exact products stand in the order of their first factors, and so do the rounded ones. -/
theorem place_rounded_mul {m m' k : Nat} {e e' f : Int} (hm : 0 < m) (hm' : 0 < m') (hk : 0 < k)
    (h : Fits m e) (h' : Fits m' e') (hf : Fits k f) (hle : e < e' ∨ e = e' ∧ m ≤ m') :
    place (rounded (m * k) (e + f)) ≤ place (rounded (m' * k) (e' + f)) := by
  have hspacing := spacing_of_fits hm hk h hf
  have hspacing' := spacing_of_fits hm' hk h' hf
  have hscale := rounded_scale (Nat.mul_pos hm' hk) hspacing' (e' - e).toNat
  rw [show e' + f - ((e' - e).toNat : Int) = e + f by omega] at hscale
  rw [← hscale]
  refine place_rounded_mono (Nat.mul_pos hm hk) ?_ hspacing
  have hfactor : m ≤ m' * 2 ^ (e' - e).toNat := by
    rcases hle with hlt | ⟨rfl, hle⟩
    · -- A greater exponent means a full mantissa, which one doubling lifts above every other.
      have hfull := h'.full_or_least.resolve_right (by have := h.least_le; omega)
      have htwo : 2 ^ 1 ≤ 2 ^ (e' - e).toNat := Nat.pow_le_pow_right (by decide) (by omega)
      have hlt := h.lt
      nlinarith
    · simpa using hle
  calc
    m * k ≤ m' * 2 ^ (e' - e).toNat * k := Nat.mul_le_mul_right k hfactor
    _ = m' * k * 2 ^ (e' - e).toNat := Nat.mul_right_comm ..

/-- A double as a factor: finite and at least zero. -/
structure IsFactor (x : UnpackedFloat) : Prop where
  nonneg : IsNonneg x
  isFinite : x.isFinite = true
  tidy : IsTidy x

theorem isFactor_unpack {h : Float} (hh : 0.0 ≤ h) (hfinite : h.isFinite = true) :
    IsFactor h.toModel.unpack :=
  ⟨zero_le_iff.1 hh, hfinite, isTidy_unpack _⟩

section Factors

variable {x y z : UnpackedFloat}

theorem IsFactor.isNonneg_mul (hx : IsFactor x) (hy : IsFactor y) :
    IsNonneg (UnpackedFloat.mul Format.binary64 x y) :=
  Figure.isNonneg_mul hx.nonneg hy.nonneg hx.isFinite hy.isFinite

theorem IsFactor.isTidy_mul (hx : IsFactor x) (hy : IsFactor y) :
    IsTidy (UnpackedFloat.mul Format.binary64 x y) := by
  rcases x with ⟨_ | _⟩ | _ | sx | ⟨_ | _, m, e, hm⟩ <;>
    rcases y with ⟨_ | _⟩ | _ | sy | ⟨_ | _, m', e', hm'⟩
  all_goals first | exact hx.nonneg.elim | exact hy.nonneg.elim | trivial | skip
  have hspacing := spacing_of_fits hm hm' hx.tidy hy.tidy
  change IsTidy (roundWithAccuracy Format.binary64 .positive (m * m') (e + e') .exact)
  rw [roundWithAccuracy_eq hspacing]
  exact isTidy_rounded (Nat.mul_pos hm hm') hspacing

theorem place_mul_mono (hx : IsFactor x) (hy : IsFactor y) (hz : IsFactor z)
    (hxy : place x ≤ place y) :
    place (UnpackedFloat.mul Format.binary64 x z) ≤
      place (UnpackedFloat.mul Format.binary64 y z) := by
  have hproduct := (isNonneg_iff_place.1 (hy.isNonneg_mul hz)).2
  obtain ⟨hnx, hfx, htx⟩ := hx
  obtain ⟨hny, hfy, hty⟩ := hy
  obtain ⟨hnz, hfz, htz⟩ := hz
  -- Unless all three are positive the lesser product is zero.
  rcases x with ⟨_ | _⟩ | _ | sx | ⟨_ | _, m, e, hm⟩ <;>
    rcases z with ⟨_ | _⟩ | _ | sz | ⟨_ | _, k, f, hk⟩
  all_goals first | contradiction | exact hproduct | skip
  rcases y with ⟨_ | _⟩ | _ | sy | ⟨_ | _, m', e', hm'⟩
  all_goals first | contradiction | skip
  change place (roundWithAccuracy Format.binary64 .positive (m * k) (e + f) .exact) ≤
    place (roundWithAccuracy Format.binary64 .positive (m' * k) (e' + f) .exact)
  rw [roundWithAccuracy_eq (spacing_of_fits hm hk htx htz),
    roundWithAccuracy_eq (spacing_of_fits hm' hk hty htz)]
  apply place_rounded_mul hm hm' hk htx hty htz
  simpa [place, Prod.Lex.toLex_le_toLex] using hxy

end Factors

/-- A product rises with its first factor, rounding and overflow included. -/
theorem mul_le_mul_of_nonneg {a b c : Float} (ha : 0.0 ≤ a) (hab : a ≤ b)
    (hb : b.isFinite = true) (hc : 0.0 ≤ c) (hfc : c.isFinite = true) : a * c ≤ b * c := by
  have hfa := isFinite_of_le ha hab hb
  have hzero := le_trans ha hab
  have hx := isFactor_unpack ha hfa
  have hy := isFactor_unpack hzero hb
  have hz := isFactor_unpack hc hfc
  have hplaces := place_bounded_mono (hx.isNonneg_mul hz) (hy.isNonneg_mul hz)
    (place_mul_mono hx hy hz (le_iff.1 hab).2.2)
  rw [← unpack_pack_of_isTidy (hx.isTidy_mul hz), ← unpack_pack_of_isTidy (hy.isTidy_mul hz)]
    at hplaces
  exact le_iff.2 ⟨isNaN_right (zero_le_mul ha hc hfa hfc),
    isNaN_right (zero_le_mul hzero hc hb hfc), hplaces⟩

end MinEntropy.Figure

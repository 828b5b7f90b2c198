import MinEntropy.Proofs.Figure.Scaling

/-! Whole numbers as doubles. They are rounded as any number is, so their order is kept. -/

namespace MinEntropy.Figure

open Float.Model (UnpackedFloat Format)
open Float.Model.UnpackedFloat

/-- What a whole number is rounded to. -/
def whole (n : Nat) : UnpackedFloat :=
  if n = 0 then .zero .positive else rounded (n * 2 ^ 53) (-53)

theorem isNonneg_rounded (m : Nat) (e : Int) : IsNonneg (rounded m e) := by
  unfold rounded carried
  split
  · trivial
  · split <;> trivial

theorem isNonneg_bounded {x : UnpackedFloat} (hx : IsNonneg x) : IsNonneg (bounded x) := by
  rcases x with ⟨_ | _⟩ | _ | _ | ⟨_ | _, m, e, hm⟩
  case finite.positive =>
    unfold bounded
    dsimp only
    split <;> trivial
  case finite.negative => exact hx.elim
  all_goals exact hx

theorem bounded_bounded (x : UnpackedFloat) : bounded (bounded x) = bounded x := by
  cases x with
  | finite s m e h =>
    by_cases he : 971 < e
    · simp only [bounded, if_pos he]
    · simp only [bounded, if_neg he]
  | _ => rfl

section Whole

variable {n : Nat} (hn : 0 < n)

include hn

theorem spacing_whole : spacing (n * 2 ^ 53) (-53) = spacing n 0 := spacing_scale hn 0 53

theorem le_spacing_whole : -53 ≤ spacing (n * 2 ^ 53) (-53) := by
  rw [spacing_whole hn, spacing]
  omega

theorem whole_of_pos : whole n = rounded (n * 2 ^ 53) (-53) := if_neg hn.ne'

end Whole

theorem isNonneg_whole (n : Nat) : IsNonneg (whole n) := by
  unfold whole
  split
  · trivial
  · exact isNonneg_rounded ..

theorem isTidy_whole (n : Nat) : IsTidy (whole n) := by
  unfold whole
  split
  · trivial
  · rename_i hn
    have hpos := Nat.pos_of_ne_zero hn
    exact isTidy_rounded (Nat.mul_pos hpos (Nat.two_pow_pos 53)) (le_spacing_whole hpos)

theorem place_whole_mono {n n' : Nat} (h : n ≤ n') : place (whole n) ≤ place (whole n') := by
  rcases Nat.eq_zero_or_pos n with rfl | hpos
  · exact (isNonneg_iff_place.1 (isNonneg_whole n')).2
  · rw [whole_of_pos hpos, whole_of_pos (hpos.trans_le h)]
    exact place_rounded_mono (Nat.mul_pos hpos (Nat.two_pow_pos 53)) (Nat.mul_le_mul_right _ h)
      (le_spacing_whole hpos)

/-- A number that fills no more than a mantissa is shifted to the left before it is rounded. -/
theorem round_whole {n : Nat} (hn : 0 < n) (hlt : n < 2 ^ 53) :
    UnpackedFloat.round Format.binary64 .positive n 0 = whole n := by
  have hlog := log2_le_of_lt hlt
  have hshift : (0 - spacing n 0).toNat = 52 - n.log2 := by
    unfold spacing
    omega
  have hspacing : spacing (n * 2 ^ (52 - n.log2)) (0 - (52 - n.log2 : Nat)) = spacing n 0 :=
    spacing_scale hn 0 _
  have hle : (0 - (52 - n.log2 : Nat) : Int) ≤ spacing (n * 2 ^ (52 - n.log2))
      (0 - (52 - n.log2 : Nat)) := by
    rw [hspacing, spacing]
    omega
  have hscale := rounded_scale (Nat.mul_pos hn (Nat.two_pow_pos _)) hle (n.log2 + 1)
  rw [Nat.mul_assoc, ← Nat.pow_add, sub_sub, ← Nat.cast_add,
    show 52 - n.log2 + (n.log2 + 1) = 53 by omega] at hscale
  rw [UnpackedFloat.round, targetExponent_eq, decreaseExponent, whole_of_pos hn]
  simp only [hshift, Nat.shiftLeft_eq]
  rw [roundWithAccuracy_eq hle]
  exact hscale.symm

theorem unpack_toFloat {n : Nat} (hlt : n < 2 ^ 53) :
    n.toUInt64.toFloat.toModel.unpack = bounded (whole n) := by
  have hnat : n.toUInt64.toNat = n := Nat.mod_eq_of_lt (hlt.trans (by decide))
  have hwhole : UnpackedFloat.ofUInt64 Format.binary64 n.toUInt64 = whole n := by
    rw [UnpackedFloat.ofUInt64, hnat, UnpackedFloat.ofNat]
    unfold UnpackedFloat.ofInt UnpackedFloat.normalize
    rcases Nat.eq_zero_or_pos n with rfl | hpos
    · rfl
    · rw [compare_gt_iff_gt.2 (by exact_mod_cast hpos : (n : Int) > 0)]
      exact round_whole hpos hlt
  rw [← hwhole, ← unpack_pack_of_isTidy (hwhole ▸ isTidy_whole n)]
  rfl

/-- One as a factor changes nothing. -/
theorem unpack_mul_one {x y : Float} (hx : IsNonneg x.toModel.unpack)
    (hy : y.toModel.unpack = .finite .positive (2 ^ 52) (-52) (by decide)) :
    (x * y).toModel.unpack = bounded x.toModel.unpack := by
  have htidy : IsTidy x.toModel.unpack := isTidy_unpack _
  have hproduct : UnpackedFloat.mul Format.binary64 x.toModel.unpack y.toModel.unpack =
      x.toModel.unpack := by
    rw [hy]
    revert hx htidy
    generalize x.toModel.unpack = x
    intro hx htidy
    rcases x with ⟨_ | _⟩ | _ | ⟨_ | _⟩ | ⟨_ | _, m, e, hm⟩
    case finite.positive =>
      have hspacing : spacing m e = e := by
        have hlog := log2_le_of_lt htidy.lt
        have hleast := htidy.least_le
        have hfull : 52 ≤ m.log2 ∨ e = -1074 :=
          htidy.full_or_least.imp_left (Nat.le_log2 hm.ne').2
        unfold spacing
        omega
      have hscale := rounded_scale hm hspacing.ge 52
      have hle : e - (52 : Nat) ≤ spacing (m * 2 ^ 52) (e - (52 : Nat)) := by
        rw [spacing_scale hm, hspacing]
        omega
      change roundWithAccuracy Format.binary64 .positive (m * 2 ^ 52) (e - (52 : Nat)) .exact = _
      rw [roundWithAccuracy_eq hle, hscale, rounded, hspacing, sub_self]
      have hnearest : nearest m (0 : Int).toNat = m := by simp [nearest, Nat.mod_one]
      rw [hnearest, carried, dif_neg hm.ne', if_pos htidy.lt]
    all_goals first | exact hx.elim | rfl
  have hpacked := unpack_pack_of_isTidy (hproduct ▸ htidy)
  rw [hproduct] at hpacked
  change unpack Format.binary64 (pack Format.binary64
    (UnpackedFloat.mul Format.binary64 x.toModel.unpack y.toModel.unpack)) = _
  rw [hproduct, hpacked]

/-- Digits with a power of ten are multiplied out before they are rounded. -/
theorem unpack_ofScientific {n p : Nat} (hn : 0 < n) (hp : p ≤ 2 ^ 11) :
    (Float.Model.ofScientific n p).unpack = bounded (whole (n * 10 ^ p)) := by
  have hpos : 0 < n * 10 ^ p := Nat.mul_pos hn (Nat.pow_pos (by decide))
  have hwhole : UnpackedFloat.ofScientific Format.binary64 n p = whole (n * 10 ^ p) := by
    have hlarge : ¬ (p : Int) > 2 ^ Format.binary64.exponentBits := not_lt.2 (by exact_mod_cast hp)
    have hsmall : ¬ (p : Int) < -(2 ^ Format.binary64.exponentBits + n.log2) := by
      have hnonneg : (0 : Int) ≤ 2 ^ Format.binary64.exponentBits := by positivity
      omega
    rw [UnpackedFloat.ofScientific, dif_neg hn.ne', if_neg hlarge, if_neg hsmall,
      if_pos (Int.natCast_nonneg p), whole_of_pos hpos,
      ← roundWithAccuracy_eq (le_spacing_whole hpos)]
    simp only [UnpackedFloat.mul, Nat.shiftLeft_eq, Int.toNat_natCast]
    rw [show n * 10 ^ p * 2 ^ 53 = n * 2 ^ 53 * 10 ^ p by ring]
    rfl
  rw [← hwhole, ← unpack_pack_of_isTidy (hwhole ▸ isTidy_whole (n * 10 ^ p))]
  rfl

/-- A whole number is rounded, and infinite where it is too great. -/
theorem unpack_ofNat (n : Nat) : (Float.ofNat n).toModel.unpack = bounded (whole n) := by
  change (Float.ofScientific n false 0).toModel.unpack = _
  unfold Float.ofScientific
  split
  · rename_i hsmall
    have hfloat := unpack_toFloat hsmall.1
    rw [← bounded_bounded, ← hfloat]
    have hone : Float.exactlyRepresentablePowersOfTen[0].toModel.unpack =
      .finite .positive (2 ^ 52) (-52) (by decide) := rfl
    refine unpack_mul_one ?_ hone
    rw [hfloat]
    exact isNonneg_bounded (isNonneg_whole n)
  · rename_i hlarge
    have hn : 0 < n := by
      rcases Nat.eq_zero_or_pos n with rfl | hpos
      · exact absurd ⟨by decide, by decide⟩ hlarge
      · exact hpos
    have hwhole := unpack_ofScientific hn (Nat.zero_le (2 ^ 11))
    rwa [Nat.pow_zero, Nat.mul_one] at hwhole

theorem isNaN_ofNat (n : Nat) : (Float.ofNat n).isNaN = false := by
  have hnonneg := isNonneg_bounded (isNonneg_whole n)
  rw [← unpack_ofNat] at hnonneg
  exact (isNonneg_iff_place.1 hnonneg).1

theorem zero_le_ofNat (n : Nat) : 0.0 ≤ Float.ofNat n := by
  rw [zero_le_iff, unpack_ofNat]
  exact isNonneg_bounded (isNonneg_whole n)

/-- Rounding keeps the order of whole numbers. -/
theorem ofNat_le_ofNat {n n' : Nat} (h : n ≤ n') : Float.ofNat n ≤ Float.ofNat n' := by
  rw [le_iff, unpack_ofNat, unpack_ofNat]
  exact ⟨isNaN_ofNat n, isNaN_ofNat n',
    place_bounded_mono (isNonneg_whole n) (isNonneg_whole n') (place_whole_mono h)⟩

theorem product_comm (a b : Float) : a * b = b * a := by
  have hproduct (x y : UnpackedFloat) :
      UnpackedFloat.mul Format.binary64 x y = UnpackedFloat.mul Format.binary64 y x := by
    have hsign (s t : Sign) : s * t = t * s := by cases s <;> cases t <;> rfl
    cases x <;> cases y <;> simp only [UnpackedFloat.mul, hsign, Nat.mul_comm, Int.add_comm]
  have hpacked := congrArg Float.Model.pack (hproduct a.toModel.unpack b.toModel.unpack)
  exact congrArg Float.ofModel hpacked

end MinEntropy.Figure

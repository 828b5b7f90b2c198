import MinEntropy.Proofs.Figure.Order

/-! Products of doubles: neither rounding nor packing makes a product of nonnegative factors
negative or less than a number. -/

namespace MinEntropy.Figure

open Float.Model (UnpackedFloat Format)
open Float.Model.UnpackedFloat

/-- At least zero. -/
def IsNonneg : UnpackedFloat → Prop
  | .zero _ | .finite .positive .. | .infinity .positive => True
  | _ => False

theorem isNonneg_iff_place {x : UnpackedFloat} :
    IsNonneg x ↔ x.isNaN = false ∧ place (.zero .positive) ≤ place x := by
  rcases x with ⟨_ | _⟩ | _ | _ | ⟨_ | _, m, e, _⟩ <;>
    simp [IsNonneg, place, UnpackedFloat.isNaN, Prod.Lex.toLex_le_toLex]

theorem zero_le_iff {h : Float} : 0.0 ≤ h ↔ IsNonneg h.toModel.unpack := by
  have hzero : (0.0 : Float).toModel.unpack = .zero .positive := rfl
  rw [le_iff, hzero, isNonneg_iff_place]
  exact and_iff_right rfl

/-- A positive sign makes a double nonnegative unless its other fields say that it is no number. -/
theorem isNonneg_unpack_positive {e : BitVec 11} {m : BitVec 52} (hm : e = -1#11 → m = 0#52) :
    IsNonneg (unpack Format.binary64 (packComponents Format.binary64 .positive e m)) := by
  have hsign : unpackSign (packComponents Format.binary64 .positive e m) = 0#1 := by
    ext i hi
    obtain rfl : i = 0 := by omega
    have htop : (0#1 ++ e ++ m).getLsbD 63 = false := by
      rw [BitVec.getLsbD_append, BitVec.getLsbD_append]
      rfl
    rw [unpackSign, BitVec.getElem_cast, BitVec.extractLsb, BitVec.getElem_extractLsb']
    exact htop.trans (by simp)
  rw [UnpackedFloat.unpack]
  simp only [unpackMantissa_packComponents, unpackExponent_packComponents, hsign]
  split
  · rename_i he
    rw [if_pos (hm he)]
    trivial
  · split
    · split
      · trivial
      · trivial
    · trivial

theorem isNonneg_unpack_pack {x : UnpackedFloat} (hx : IsNonneg x) :
    IsNonneg (unpack Format.binary64 (pack Format.binary64 x)) := by
  rcases x with ⟨_ | _⟩ | _ | ⟨_ | _⟩ | ⟨_ | _, m, e, _⟩
  case infinity.negative | notANumber | finite.negative => exact hx.elim
  case infinity.positive => exact isNonneg_unpack_positive fun _ => rfl
  case zero.negative => trivial
  case zero.positive => exact isNonneg_unpack_positive fun _ => rfl
  case finite.positive =>
    rw [UnpackedFloat.pack]
    dsimp only
    split
    · exact isNonneg_unpack_positive fun _ => rfl
    · rename_i hbiased
      split
      · refine isNonneg_unpack_positive fun he => ?_
        have hfield := congrArg BitVec.toNat he
        change (e + 1023 + 52).toNat % 2048 = 2047 at hfield
        change ¬ 2048 ≤ (e + 1023 + 52).toNat + 1 at hbiased
        omega
      · exact isNonneg_unpack_positive fun he => absurd he (by decide)

theorem isNonneg_mul {x y : UnpackedFloat} (hx : IsNonneg x) (hy : IsNonneg y)
    (hfx : x.isFinite = true) (hfy : y.isFinite = true) :
    IsNonneg (UnpackedFloat.mul Format.binary64 x y) := by
  have hround (m : Nat) (e : Int) :
      IsNonneg (roundWithAccuracy Format.binary64 .positive m e .exact) := by
    rw [roundWithAccuracy]
    dsimp only
    split
    · trivial
    · trivial
  rcases x with ⟨_ | _⟩ | _ | _ | ⟨_ | _, m₁, e₁, _⟩ <;>
    rcases y with ⟨_ | _⟩ | _ | _ | ⟨_ | _, m₂, e₂, _⟩
  all_goals first | contradiction | trivial | exact hround _ _

theorem zero_le_mul {h k : Float} (hh : 0.0 ≤ h) (hk : 0.0 ≤ k) (hfh : h.isFinite = true)
    (hfk : k.isFinite = true) : 0.0 ≤ h * k :=
  zero_le_iff.2 (isNonneg_unpack_pack
    (isNonneg_mul (zero_le_iff.1 hh) (zero_le_iff.1 hk) hfh hfk))

end MinEntropy.Figure

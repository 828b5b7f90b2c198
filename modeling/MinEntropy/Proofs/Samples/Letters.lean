import Mathlib
import MinEntropy.Samples.Prepared

/-! The letters of an alphabet as a set of numbers, and the rank of a number among them. Ranks keep
the order of the letters and fill an initial segment of the natural numbers. -/

namespace MinEntropy.Samples

/-- The low bits of a sample, as a number. -/
def low (w : WordSize) (v : UInt8) : Nat := v.toNat % 2 ^ w.bits

/-- The distinct values of the samples at a width. -/
def letters (w : WordSize) (data : List UInt8) : Finset Nat := (data.map (low w)).toFinset

/-- How many letters are smaller. -/
def rank (alphabet : Finset Nat) (n : Nat) : Nat := (alphabet.filter (· < n)).card

section Width

variable (w : WordSize)

theorem two_pow_bits_le : 2 ^ w.bits ≤ 256 :=
  Nat.pow_le_pow_right (by decide) w.le_max

theorem low_lt (v : UInt8) : low w v < 2 ^ w.bits := Nat.mod_lt _ (Nat.two_pow_pos _)

@[simp] theorem toNat_mask : w.mask.toNat = 2 ^ w.bits - 1 := by
  have hle := two_pow_bits_le w
  have hpos := Nat.two_pow_pos w.bits
  change (2 ^ w.bits - 1) % 256 = 2 ^ w.bits - 1
  exact Nat.mod_eq_of_lt (by omega)

theorem toNat_and_mask (v : UInt8) : (v &&& w.mask).toNat = low w v := by
  rw [UInt8.toNat_and, toNat_mask, Nat.and_two_pow_sub_one_eq_mod]
  rfl

@[simp] theorem length_masked (data : List UInt8) : (masked w data).length = data.length :=
  List.length_map _

@[simp] theorem map_toNat_masked (data : List UInt8) :
    (masked w data).map UInt8.toNat = data.map (low w) := by
  rw [masked, List.map_map]
  exact List.map_congr_left fun v _ => toNat_and_mask w v

variable {w}

theorem mem_letters {data : List UInt8} {n : Nat} :
    n ∈ letters w data ↔ ∃ v ∈ masked w data, v.toNat = n := by
  rw [letters, List.mem_toFinset, ← map_toNat_masked, List.mem_map]

theorem lt_of_mem_letters {data : List UInt8} {n : Nat} (hn : n ∈ letters w data) :
    n < 2 ^ w.bits := by
  rw [letters, List.mem_toFinset, List.mem_map] at hn
  obtain ⟨v, -, rfl⟩ := hn
  exact low_lt w v

theorem letters_subset_range (data : List UInt8) :
    letters w data ⊆ Finset.range (2 ^ w.bits) := by
  intro n hn
  exact Finset.mem_range.2 (lt_of_mem_letters hn)

theorem card_letters_le (data : List UInt8) : (letters w data).card ≤ 2 ^ w.bits := by
  simpa using Finset.card_le_card (letters_subset_range (w := w) data)

end Width

section Rank

variable {alphabet : Finset Nat} {a b n : Nat}

theorem rank_le : rank alphabet n ≤ n := by
  have hsub : alphabet.filter (· < n) ⊆ Finset.range n := by
    intro m hm
    exact Finset.mem_range.2 (Finset.mem_filter.1 hm).2
  simpa [rank] using Finset.card_le_card hsub

theorem rank_toFinset {ls : List Nat} (hls : ls.Nodup) (n : Nat) :
    rank ls.toFinset n = ls.countP (· < n) := by
  rw [List.countP_eq_length_filter, ← List.toFinset_card_of_nodup (hls.filter _),
    List.toFinset_filter]
  simp [rank]

theorem rank_lt_card (ha : a ∈ alphabet) : rank alphabet a < alphabet.card := by
  apply Finset.card_lt_card
  refine Finset.ssubset_iff_subset_ne.2 ⟨Finset.filter_subset _ _, fun heq => ?_⟩
  rw [← heq] at ha
  exact lt_irrefl a (Finset.mem_filter.1 ha).2

theorem rank_mono (alphabet : Finset Nat) (hab : a ≤ b) : rank alphabet a ≤ rank alphabet b := by
  apply Finset.card_le_card
  intro m hm
  have hm := Finset.mem_filter.1 hm
  exact Finset.mem_filter.2 ⟨hm.1, hm.2.trans_le hab⟩

theorem rank_lt_rank (ha : a ∈ alphabet) (hab : a < b) : rank alphabet a < rank alphabet b := by
  apply Finset.card_lt_card
  refine (Finset.ssubset_iff_of_subset fun m hm => ?_).2 ⟨a, ?_, ?_⟩
  · have hm := Finset.mem_filter.1 hm
    exact Finset.mem_filter.2 ⟨hm.1, hm.2.trans hab⟩
  · exact Finset.mem_filter.2 ⟨ha, hab⟩
  · intro h
    exact lt_irrefl a (Finset.mem_filter.1 h).2

theorem rank_lt_rank_iff (ha : a ∈ alphabet) : rank alphabet a < rank alphabet b ↔ a < b := by
  refine ⟨fun h => ?_, rank_lt_rank ha⟩
  by_contra hba
  exact absurd (rank_mono alphabet (not_lt.1 hba)) (not_le.2 h)

theorem rank_eq_rank_iff (ha : a ∈ alphabet) (hb : b ∈ alphabet) :
    rank alphabet a = rank alphabet b ↔ a = b := by
  refine ⟨fun h => ?_, fun h => h ▸ rfl⟩
  rcases lt_trichotomy a b with hlt | heq | hgt
  · exact absurd h (rank_lt_rank ha hlt).ne
  · exact heq
  · exact absurd h (rank_lt_rank hb hgt).ne'

theorem image_rank (alphabet : Finset Nat) :
    alphabet.image (rank alphabet) = Finset.range alphabet.card := by
  apply Finset.eq_of_subset_of_card_le
  · intro n hn
    obtain ⟨a, ha, rfl⟩ := Finset.mem_image.1 hn
    exact Finset.mem_range.2 (rank_lt_card ha)
  · rw [Finset.card_range, Finset.card_image_of_injOn]
    intro a ha b hb hab
    exact (rank_eq_rank_iff ha hb).1 hab

/-- Where no smaller number is missing, a number is its own rank. -/
theorem rank_eq_self (hsub : Finset.range n ⊆ alphabet) : rank alphabet n = n := by
  have hfilter : alphabet.filter (· < n) = Finset.range n := by
    ext m
    rw [Finset.mem_filter, Finset.mem_range]
    exact ⟨fun h => h.2, fun h => ⟨hsub (Finset.mem_range.2 h), h⟩⟩
  rw [rank, hfilter, Finset.card_range]

end Rank

end MinEntropy.Samples

import MinEntropy.Proofs.Samples.Preparation

/-! The bitstring holds the bits of the masked samples, the most significant first, and reads back
as these samples. -/

namespace MinEntropy.Samples

/-- The binary digits of a number, the most significant first. -/
def binary : Nat → Nat → List UInt8
  | 0, _ => []
  | width + 1, n => (if n.testBit width then 1 else 0) :: binary width n

/-- As many groups of bits as asked for, read back. -/
def readBack (width : Nat) : Nat → List UInt8 → List UInt8
  | 0, _ => []
  | count + 1, bits => ofBits (bits.take width) :: readBack width count (bits.drop width)

@[simp] theorem length_binary (width n : Nat) : (binary width n).length = width := by
  induction width with
  | zero => rfl
  | succ width ih => simp [binary, ih]

theorem mem_binary {width n : Nat} {b : UInt8} (hb : b ∈ binary width n) : b = 0 ∨ b = 1 := by
  induction width with
  | zero => cases hb
  | succ width ih =>
    rcases List.mem_cons.1 hb with rfl | hb
    · split <;> simp
    · exact ih hb

theorem shifted_and_one (v : UInt8) {shift : Nat} (hshift : shift < 8) :
    v >>> UInt8.ofNat shift &&& 1 = if v.toNat.testBit shift then 1 else 0 := by
  have hsmall : shift % 256 % 8 = shift := by omega
  apply UInt8.toNat_inj.1
  rw [UInt8.toNat_and, UInt8.toNat_shiftRight, UInt8.toNat_ofNat', hsmall,
    Nat.testBit_eq_decide_div_mod_eq, Nat.shiftRight_eq_div_pow, UInt8.toNat_one,
    Nat.and_one_is_mod]
  rcases Nat.mod_two_eq_zero_or_one (v.toNat / 2 ^ shift) with hbit | hbit <;> simp [hbit]

theorem bitsOf_eq_binary {width : Nat} (hwidth : width ≤ 8) (v : UInt8) :
    bitsOf width v = binary width v.toNat := by
  induction width with
  | zero => rfl
  | succ width ih =>
    rw [binary, ← ih (by omega), ← shifted_and_one v (by omega)]
    simp [bitsOf, List.range_succ]

theorem toNat_push_bit (acc : UInt8) (bit : Bool) :
    (acc <<< 1 ||| if bit then 1 else 0).toNat = (2 * acc.toNat + bit.toNat) % 256 := by
  have hlow : (2 * acc.toNat) % 256 = (acc.toNat % 128) <<< 1 := by
    rw [Nat.shiftLeft_eq]
    omega
  have hbit : (if bit then 1 else 0 : UInt8).toNat = bit.toNat := by cases bit <;> rfl
  have hlt : bit.toNat < 2 ^ 1 := Bool.toNat_lt bit
  rw [UInt8.toNat_or, hbit, UInt8.toNat_shiftLeft]
  change acc.toNat <<< 1 % 256 ||| bit.toNat = _
  rw [Nat.shiftLeft_eq, Nat.mul_comm, pow_one, hlow, ← Nat.shiftLeft_add_eq_or_of_lt hlt,
    Nat.shiftLeft_eq]
  omega

/-- Reading shifts what was read before to the left. -/
theorem toNat_foldl_binary (width n : Nat) (acc : UInt8) :
    ((binary width n).foldl (fun (v b : UInt8) => v <<< 1 ||| b) acc).toNat =
      (acc.toNat * 2 ^ width + n % 2 ^ width) % 256 := by
  induction width generalizing acc with
  | zero =>
    have hlt := acc.toNat_lt
    simp [binary, Nat.mod_one]
  | succ width ih =>
    have htop : n % 2 ^ (width + 1) = n % 2 ^ width + 2 ^ width * (n.testBit width).toNat := by
      rw [Nat.mod_pow_succ, Nat.toNat_testBit]
    rw [binary, List.foldl_cons, ih, toNat_push_bit, htop, Nat.add_mod, Nat.mod_mul_mod,
      ← Nat.add_mod]
    congr 1
    ring

theorem toNat_ofBits_binary {width n : Nat} (hwidth : width ≤ 8) (hn : n < 2 ^ width) :
    (ofBits (binary width n)).toNat = n := by
  have hle : 2 ^ width ≤ 256 := Nat.pow_le_pow_right (by decide) hwidth
  rw [ofBits, toNat_foldl_binary, Nat.mod_eq_of_lt hn, UInt8.toNat_zero, Nat.zero_mul, Nat.zero_add,
    Nat.mod_eq_of_lt (hn.trans_le hle)]

theorem readBack_flatMap_binary {width : Nat} (hwidth : width ≤ 8) (values : List Nat)
    (hvalues : ∀ n ∈ values, n < 2 ^ width) :
    (readBack width values.length (values.flatMap (binary width))).map UInt8.toNat = values := by
  induction values with
  | nil => rfl
  | cons n rest ih =>
    have hlength := length_binary width n
    rw [List.flatMap_cons, List.length_cons, readBack, List.take_left' hlength,
      List.drop_left' hlength, List.map_cons, ih fun m hm => hvalues m (List.mem_cons_of_mem _ hm),
      toNat_ofBits_binary hwidth (hvalues n List.mem_cons_self)]

theorem length_flatMap_binary (width : Nat) (values : List Nat) :
    (values.flatMap (binary width)).length = values.length * width := by
  induction values with
  | nil => simp
  | cons n rest ih =>
    rw [List.flatMap_cons, List.length_append, length_binary, ih, List.length_cons]
    ring

section Prepare

variable {data : List UInt8} {requested : Nat} {w : WordSize} {p : Prepared}

theorem expand_masked (w : WordSize) (data : List UInt8) :
    expand w (masked w data) = (data.map (low w)).flatMap (binary w.bits) := by
  rw [← map_toNat_masked, List.flatMap_map, expand]
  congr 1
  funext v
  exact bitsOf_eq_binary w.le_max v

theorem expand_of_bits_eq_one (hw : w.bits = 1) (data : List UInt8) :
    expand w (masked w data) = masked w data := by
  rw [expand, hw]
  refine (List.flatMap_congr fun v hv => ?_).trans (List.flatMap_singleton' _)
  have hlt := lt_of_mem_letters (mem_letters.2 ⟨v, hv, rfl⟩)
  rw [hw] at hlt
  have hcases : v = 0 ∨ v = 1 := by
    rw [← UInt8.toNat_inj, ← UInt8.toNat_inj, UInt8.toNat_zero, UInt8.toNat_one]
    omega
  rcases hcases with rfl | rfl <;> rfl

theorem map_find_of_bits_eq_one (hw : w.bits = 1) (hcard : 1 < (letters w data).card) :
    (masked w data).map (indexOf w data).find = masked w data := by
  -- Two letters of one bit leave no gap.
  apply map_find_eq_self (n := 2)
  apply Finset.eq_of_subset_of_card_le
  · simpa [hw] using letters_subset_range (w := w) data
  · rwa [Finset.card_range]

theorem bitstring_of_prepareAt (hp : prepareAt w data = .ok p) :
    p.bitstring = (data.map (low w)).flatMap (binary w.bits) := by
  rw [prepareAt_eq] at hp
  split at hp
  · cases hp
  · rename_i hcard
    obtain rfl := Except.ok.inj hp
    rw [← expand_masked]
    by_cases hw : w.bits = 1
    · simp [Prepared.bitstring, hw, map_find_of_bits_eq_one hw (not_le.1 hcard),
        expand_of_bits_eq_one hw]
    · simp [Prepared.bitstring, hw]

theorem mem_bitstring (hp : prepareAt w data = .ok p) {b : UInt8} (hb : b ∈ p.bitstring) :
    b = 0 ∨ b = 1 := by
  rw [bitstring_of_prepareAt hp] at hb
  obtain ⟨n, -, hb⟩ := List.mem_flatMap.1 hb
  exact mem_binary hb

theorem length_bitstring (hp : prepareAt w data = .ok p) :
    p.bitstring.length = data.length * w.bits := by
  rw [bitstring_of_prepareAt hp, length_flatMap_binary, List.length_map]

theorem expanded_eq_none_iff (hp : prepareAt w data = .ok p) :
    p.expanded = none ↔ w.bits = 1 := by
  rw [prepareAt_eq] at hp
  split at hp
  · cases hp
  · obtain rfl := Except.ok.inj hp
    simp

/-- The bits of the masked samples in order, also where the symbols stand in for them. -/
theorem bitstring_reads_back (hp : prepare data requested = .ok p) :
    p.bitstring = (data.map (low p.wordSize)).flatMap (binary p.wordSize.bits) ∧
    p.bitstring.length = data.length * p.wordSize.bits ∧
    (∀ b ∈ p.bitstring, b = 0 ∨ b = 1) ∧
    (readBack p.wordSize.bits data.length p.bitstring).map UInt8.toNat =
      data.map (low p.wordSize) ∧
    (p.expanded = none ↔ p.wordSize.bits = 1) ∧
    (p.wordSize.bits = 1 → p.bitstring = p.symbols) := by
  obtain ⟨-, w, -, hp⟩ := prepare_eq_ok_iff.1 hp
  have hw := (compaction_of_prepareAt hp).wordSize_eq
  have hbits := bitstring_of_prepareAt hp
  rw [hw]
  refine ⟨hbits, length_bitstring hp, fun b => mem_bitstring hp, ?_, expanded_eq_none_iff hp,
    fun hone => ?_⟩
  · have hlow : ∀ n ∈ data.map (low w), n < 2 ^ w.bits := by
      intro n hn
      obtain ⟨v, -, rfl⟩ := List.mem_map.1 hn
      exact low_lt w v
    have hread := readBack_flatMap_binary w.le_max _ hlow
    rwa [List.length_map, ← hbits] at hread
  · rw [Prepared.bitstring, (expanded_eq_none_iff hp).2 hone, Option.getD_none]

/-- At one bit the symbols stand in for the bits. -/
theorem bitstring_reads_back_one_bit :
    ∃ p, prepare [2, 1, 3] 1 = .ok p ∧ p.expanded = none ∧ p.bitstring = [0, 1, 1] ∧
      (readBack 1 3 p.bitstring).map UInt8.toNat = [0, 1, 1] := by
  have hp : prepare [2, 1, 3] 1 =
      .ok ⟨[0, 1, 1], none, 2, ⟨1, by decide, by decide⟩⟩ := by decide +kernel
  obtain ⟨hbits, -, -, hread, -, -⟩ := bitstring_reads_back hp
  exact ⟨_, hp, rfl, hbits, hread⟩

end Prepare

end MinEntropy.Samples

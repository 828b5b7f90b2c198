import MinEntropy.Proofs.Samples.Bitstring

/-! One buffer at several widths. The detected width is the least that holds every sample. A wider
one gives the same symbols and puts zeros in front of every group of bits, and what stands above the
width never counts. -/

namespace MinEntropy

namespace WordSize

/-- Every sample fits the width. -/
def Holds (w : WordSize) (data : List UInt8) : Prop := ∀ v ∈ data, v.toNat < 2 ^ w.bits

theorem width_le_iff (b : UInt8) (n : Nat) : width b ≤ n ↔ b.toNat < 2 ^ n := by
  unfold width
  split
  · rename_i hzero
    simp [hzero]
  · rename_i hzero
    have hpos : b.toNat ≠ 0 := fun h => hzero (UInt8.toNat_inj.1 (by simpa using h))
    rw [Nat.add_one_le_iff, Nat.log2_lt hpos]

theorem foldl_or_lt_iff (data : List UInt8) (start : UInt8) (n : Nat) :
    (data.foldl (· ||| ·) start).toNat < 2 ^ n ↔
      start.toNat < 2 ^ n ∧ ∀ v ∈ data, v.toNat < 2 ^ n := by
  induction data generalizing start with
  | nil => simp
  | cons v rest ih =>
    have hor : (start ||| v).toNat < 2 ^ n ↔ start.toNat < 2 ^ n ∧ v.toNat < 2 ^ n := by
      rw [UInt8.toNat_or]
      exact ⟨fun h => ⟨Nat.left_le_or.trans_lt h, Nat.right_le_or.trans_lt h⟩,
        fun h => Nat.or_lt_two_pow h.1 h.2⟩
    rw [List.foldl_cons, ih, hor, List.forall_mem_cons, and_assoc]

/-- The detected width is at most those that hold the samples, and holds them itself. -/
theorem detect_le_iff {w : WordSize} {data : List UInt8} :
    (detect data).bits ≤ w.bits ↔ w.Holds data := by
  change max 1 (width (fold data)) ≤ w.bits ↔ _
  rw [max_le_iff, width_le_iff, fold, foldl_or_lt_iff]
  exact ⟨fun h => h.2.2, fun h => ⟨w.one_le, Nat.two_pow_pos _, h⟩⟩

theorem holds_detect (data : List UInt8) : (detect data).Holds data := detect_le_iff.1 le_rfl

end WordSize

namespace Samples

theorem binary_add (extra width : Nat) {n : Nat} (hn : n < 2 ^ width) :
    binary (extra + width) n = List.replicate extra 0 ++ binary width n := by
  induction extra with
  | zero => simp
  | succ extra ih =>
    have hle : 2 ^ width ≤ 2 ^ (extra + width) := Nat.pow_le_pow_right (by decide) (by omega)
    rw [Nat.succ_add, binary, ih, Nat.testBit_lt_two_pow (hn.trans_le hle)]
    rfl

section Widths

variable {w : WordSize} {data other : List UInt8}

theorem map_low_of_holds (hw : w.Holds data) : data.map (low w) = data.map UInt8.toNat :=
  List.map_congr_left fun v hv => Nat.mod_eq_of_lt (hw v hv)

theorem masked_congr (hlow : other.map (low w) = data.map (low w)) :
    masked w other = masked w data := by
  rw [← map_toNat_masked, ← map_toNat_masked] at hlow
  exact List.map_injective_iff.2 (fun _ _ => UInt8.toNat_inj.1) hlow

theorem map_low_masked (w : WordSize) (data : List UInt8) :
    (masked w data).map (low w) = data.map (low w) := by
  rw [masked, List.map_map]
  refine List.map_congr_left fun v _ => ?_
  rw [Function.comp_apply, low, toNat_and_mask, low, Nat.mod_mod]

theorem prepare_bits (w : WordSize) (data : List UInt8) :
    prepare data w.bits = if data = [] then .error .emptySamples else prepareAt w data := by
  have hresolve : resolve data w.bits = some w :=
    resolve_eq_some_iff.2 (if_neg (Nat.one_le_iff_ne_zero.1 w.one_le)).symm
  unfold prepare
  rw [hresolve]
  simp

theorem prepare_zero (data : List UInt8) :
    prepare data 0 = prepare data (WordSize.detect data).bits := by
  rw [prepare_bits]
  unfold prepare
  simp [resolve]

/-- Only the low bits of the samples count. -/
theorem prepare_congr (hlow : other.map (low w) = data.map (low w)) :
    prepare other w.bits = prepare data w.bits := by
  have hempty : other = [] ↔ data = [] := by
    rw [← List.map_eq_nil_iff, hlow, List.map_eq_nil_iff]
  rw [prepare_bits, prepare_bits]
  unfold prepareAt
  simp only [hempty, masked_congr hlow]

end Widths

/-- The same samples with more bits to each: the symbols stay, and every group of bits has zeros in
front. -/
structure Widens (extra : Nat) (p p' : Prepared) : Prop where
  symbols : p'.symbols = p.symbols
  alphabetSize : p'.alphabetSize = p.alphabetSize
  bitstring : ∃ groups : List (List UInt8), groups.length = p.symbols.length ∧
    (∀ g ∈ groups, g.length = p.wordSize.bits) ∧ p.bitstring = groups.flatten ∧
    p'.bitstring = (groups.map (List.replicate extra 0 ++ ·)).flatten

section Wider

variable {w w' : WordSize} {data : List UInt8} {p p' : Prepared}

theorem bitstring_of_holds (hw : w.Holds data) (hle : w.bits ≤ w'.bits) :
    (data.map UInt8.toNat).flatMap (binary w'.bits) =
      (((data.map UInt8.toNat).map (binary w.bits)).map
        (List.replicate (w'.bits - w.bits) 0 ++ ·)).flatten := by
  rw [List.map_map, ← List.flatMap_def]
  refine List.flatMap_congr fun n hn => ?_
  obtain ⟨v, hv, rfl⟩ := List.mem_map.1 hn
  rw [Function.comp_apply, ← binary_add _ _ (hw v hv), Nat.sub_add_cancel hle]

theorem holds_of_le (hw : w.Holds data) (hle : w.bits ≤ w'.bits) : w'.Holds data :=
  fun v hv => (hw v hv).trans_le (Nat.pow_le_pow_right (by decide) hle)

theorem letters_of_holds (hw : w.Holds data) (hle : w.bits ≤ w'.bits) :
    letters w' data = letters w data := by
  rw [letters, letters, map_low_of_holds hw, map_low_of_holds (holds_of_le hw hle)]

theorem prepareAt_error_iff (hw : w.Holds data) (hle : w.bits ≤ w'.bits) {e : PrepareError} :
    prepareAt w' data = .error e ↔ prepareAt w data = .error e := by
  rw [prepareAt_eq, prepareAt_eq, letters_of_holds hw hle]
  split
  · rfl
  · simp

theorem widens_of_prepareAt (hw : w.Holds data) (hle : w.bits ≤ w'.bits)
    (hp : prepareAt w data = .ok p) (hp' : prepareAt w' data = .ok p') :
    Widens (w'.bits - w.bits) p p' := by
  have hcompact := compaction_of_prepareAt hp
  have hcompact' := compaction_of_prepareAt hp'
  have hletters := letters_of_holds hw hle
  refine ⟨?_, ?_, (data.map UInt8.toNat).map (binary w.bits), ?_, ?_, ?_, ?_⟩
  · apply List.map_injective_iff.2 fun _ _ => UInt8.toNat_inj.1
    rw [hcompact.symbols_eq_map_find, hcompact'.symbols_eq_map_find, map_toNat_symbols,
      map_toNat_symbols, hletters]
    refine List.map_congr_left fun v hv => ?_
    rw [low, low, Nat.mod_eq_of_lt (hw v hv), Nat.mod_eq_of_lt (holds_of_le hw hle v hv)]
  · rw [hcompact.alphabetSize_eq, hcompact'.alphabetSize_eq, hletters]
  · simp [hcompact.length_symbols]
  · rw [hcompact.wordSize_eq]
    simp
  · rw [bitstring_of_prepareAt hp, map_low_of_holds hw, List.flatMap_def]
  · rw [bitstring_of_prepareAt hp', map_low_of_holds (holds_of_le hw hle),
      bitstring_of_holds hw hle]

end Wider

section Detected

variable {w : WordSize} {data : List UInt8} {p : Prepared}

theorem prepare_error_iff (hle : (WordSize.detect data).bits ≤ w.bits) {e : PrepareError} :
    prepare data w.bits = .error e ↔ prepare data 0 = .error e := by
  rw [prepare_zero, prepare_bits, prepare_bits]
  split
  · rfl
  · exact prepareAt_error_iff (WordSize.holds_detect data) hle

theorem exists_widens (hle : (WordSize.detect data).bits ≤ w.bits) (hp : prepare data 0 = .ok p) :
    p.wordSize = WordSize.detect data ∧ ∃ p', prepare data w.bits = .ok p' ∧ p'.wordSize = w ∧
      Widens (w.bits - (WordSize.detect data).bits) p p' := by
  rw [prepare_zero, prepare_bits] at hp
  rw [prepare_bits]
  split at hp
  · cases hp
  · rename_i hdata
    have hholds := WordSize.holds_detect data
    rw [if_neg hdata]
    cases hp' : prepareAt w data with
    | error e =>
      rw [(prepareAt_error_iff hholds hle).1 hp'] at hp
      cases hp
    | ok p' =>
      exact ⟨(compaction_of_prepareAt hp).wordSize_eq, p', rfl,
        (compaction_of_prepareAt hp').wordSize_eq, widens_of_prepareAt hholds hle hp hp'⟩

/-- Asking for no width is asking for the least that holds the samples. A width above it refuses the
same samples and otherwise adds zeros to the bits alone; at any width the bits above it do not
count. -/
theorem prepare_across_widths (data : List UInt8) :
    ((WordSize.detect data).Holds data ∧
      ∀ w : WordSize, w.Holds data → (WordSize.detect data).bits ≤ w.bits) ∧
    prepare data 0 = prepare data (WordSize.detect data).bits ∧
    (∀ w : WordSize, (WordSize.detect data).bits ≤ w.bits →
      (∀ e, prepare data w.bits = .error e ↔ prepare data 0 = .error e) ∧
      ∀ p, prepare data 0 = .ok p →
        p.wordSize = WordSize.detect data ∧ ∃ p', prepare data w.bits = .ok p' ∧ p'.wordSize = w ∧
          Widens (w.bits - (WordSize.detect data).bits) p p') ∧
    ∀ w : WordSize, prepare (masked w data) w.bits = prepare data w.bits ∧
      ∀ other, other.map (low w) = data.map (low w) →
        prepare other w.bits = prepare data w.bits := by
  refine ⟨⟨WordSize.holds_detect data, fun w => WordSize.detect_le_iff.2⟩, prepare_zero data,
    fun w hle => ⟨fun e => prepare_error_iff hle, fun p => exists_widens hle⟩, fun w => ⟨?_, ?_⟩⟩
  · exact prepare_congr (map_low_masked w data)
  · exact fun other => prepare_congr

/-- Two letters of three bits, at five bits to a sample. -/
theorem prepare_across_widths_five_bits :
    ∃ p p', prepare [4, 6] 0 = .ok p ∧ prepare [4, 6] 5 = .ok p' ∧ Widens 2 p p' ∧
      p.bitstring = [1, 0, 0, 1, 1, 0] ∧ p'.bitstring = [0, 0, 1, 0, 0, 0, 0, 1, 1, 0] := by
  have hp : prepare [4, 6] 0 =
      .ok ⟨[0, 1], some [1, 0, 0, 1, 1, 0], 2, ⟨3, by decide, by decide⟩⟩ := by decide +kernel
  have hbits : (prepare [4, 6] 5).map (·.bitstring) = .ok [0, 0, 1, 0, 0, 0, 0, 1, 1, 0] := by
    decide +kernel
  obtain ⟨-, -, hwider, -⟩ := prepare_across_widths [4, 6]
  obtain ⟨-, p', hp', -, hwidens⟩ :=
    (hwider ⟨5, by decide, by decide⟩ (by decide)).2 _ hp
  rw [hp'] at hbits
  exact ⟨_, p', hp, hp', hwidens, rfl, Except.ok.inj hbits⟩

end Detected

end Samples

end MinEntropy

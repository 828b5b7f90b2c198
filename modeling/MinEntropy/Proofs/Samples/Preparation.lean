import MinEntropy.Proofs.Samples.Compaction

/-! Preparation: which faults come first, and what the prepared symbols are. -/

namespace MinEntropy.Samples

section Resolve

variable {data : List UInt8} {requested : Nat} {w : WordSize}

theorem resolve_eq_none (hlarge : maxWordSize < requested) : resolve data requested = none := by
  have hzero : requested ≠ 0 := by omega
  have hrange : ¬ (1 ≤ requested ∧ requested ≤ maxWordSize) := by omega
  simp [resolve, WordSize.ofNat?, hzero, hrange]

theorem exists_resolve (hsmall : requested ≤ maxWordSize) :
    ∃ w, resolve data requested = some w := by
  unfold resolve
  split
  · exact ⟨_, rfl⟩
  · rename_i hzero
    exact ⟨⟨requested, Nat.one_le_iff_ne_zero.2 hzero, hsmall⟩, WordSize.ofNat?_eq_some_iff.2 rfl⟩

/-- The width is the one asked for, and the detected one when none is. -/
theorem bits_of_resolve (hw : resolve data requested = some w) :
    w.bits = if requested = 0 then (WordSize.detect data).bits else requested := by
  unfold resolve at hw
  split
  · rename_i hzero
    rw [if_pos hzero] at hw
    exact congrArg WordSize.bits (Option.some.inj hw).symm
  · rename_i hzero
    rw [if_neg hzero] at hw
    exact WordSize.ofNat?_eq_some_iff.1 hw

theorem resolve_eq_some_iff :
    resolve data requested = some w ↔
      w.bits = if requested = 0 then (WordSize.detect data).bits else requested := by
  constructor
  · exact bits_of_resolve
  · intro hbits
    unfold resolve
    split
    · rename_i hzero
      rw [if_pos hzero] at hbits
      cases w
      simp_all
    · rename_i hzero
      rw [if_neg hzero] at hbits
      exact WordSize.ofNat?_eq_some_iff.2 hbits

end Resolve

section Prepare

variable {data : List UInt8} {requested : Nat} {w : WordSize} {p : Prepared}

theorem prepareAt_eq (w : WordSize) (data : List UInt8) :
    prepareAt w data =
      if (letters w data).card ≤ 1 then .error .singleSymbolAlphabet
      else .ok {
        symbols := (masked w data).map (indexOf w data).find
        expanded := if w.bits = 1 then none else some (expand w (masked w data))
        alphabetSize := (letters w data).card
        wordSize := w } := by
  rw [← compact_eq_map_find, ← size_indexOf]
  rfl

theorem prepare_of_ne_nil (hdata : data ≠ []) :
    prepare data requested = match resolve data requested with
      | none => .error (.invalidWordSize requested)
      | some w => prepareAt w data :=
  if_neg (by simpa using hdata)

theorem prepare_eq_ok_iff :
    prepare data requested = .ok p ↔
      data ≠ [] ∧ ∃ w, resolve data requested = some w ∧ prepareAt w data = .ok p := by
  unfold prepare
  cases data with
  | nil => simp
  | cons v rest =>
    cases hw : resolve (v :: rest) requested <;> simp

/-- The samples have at most one value at the width asked for, or at the detected one. -/
def IsUniform (data : List UInt8) (requested : Nat) : Prop :=
  ∃ w : WordSize, w.bits = (if requested = 0 then (WordSize.detect data).bits else requested) ∧
    (letters w data).card ≤ 1

theorem prepare_of_uniform (hdata : data ≠ []) (huniform : IsUniform data requested) :
    prepare data requested = .error .singleSymbolAlphabet := by
  obtain ⟨w, hbits, hcard⟩ := huniform
  rw [prepare_of_ne_nil hdata, resolve_eq_some_iff.2 hbits]
  exact (prepareAt_eq w data).trans (if_pos hcard)

theorem exists_prepare (hdata : data ≠ []) (hsmall : requested ≤ maxWordSize)
    (hvaried : ¬ IsUniform data requested) : ∃ p, prepare data requested = .ok p := by
  obtain ⟨w, hw⟩ := @exists_resolve data requested hsmall
  have hcard : ¬ (letters w data).card ≤ 1 := by
    intro hcard
    exact hvaried ⟨w, bits_of_resolve hw, hcard⟩
  exact ⟨_, prepare_eq_ok_iff.2 ⟨hdata, w, hw, (prepareAt_eq w data).trans (if_neg hcard)⟩⟩

/-- Samples prepared at a width: every symbol is the rank of its masked sample. -/
structure Compaction (w : WordSize) (data : List UInt8) (p : Prepared) : Prop where
  wordSize_eq : p.wordSize = w
  alphabetSize_eq : p.alphabetSize = (letters w data).card
  two_le_alphabetSize : 2 ≤ p.alphabetSize
  alphabetSize_le : p.alphabetSize ≤ 2 ^ w.bits
  length_symbols : p.symbols.length = data.length
  symbol_eq : ∀ i (hi : i < data.length),
    p.symbols[i].toNat = rank (letters w data) (low w data[i])
  /-- The table gives these symbols whether or not the samples are renamed by it. -/
  symbols_eq_map_find : p.symbols = (masked w data).map (indexOf w data).find
  /-- Where no value up to the greatest is missing, the samples stay as they are. -/
  symbols_eq_masked : (greatest (masked w data)).toNat + 1 ≤ p.alphabetSize →
    p.symbols = masked w data
  lt_iff : ∀ i j (hi : i < data.length) (hj : j < data.length),
    p.symbols[i] < p.symbols[j] ↔ low w data[i] < low w data[j]
  eq_iff : ∀ i j (hi : i < data.length) (hj : j < data.length),
    p.symbols[i] = p.symbols[j] ↔ low w data[i] = low w data[j]
  /-- The symbols used are the numbers below the alphabet size. -/
  used_iff : ∀ n, (∃ s ∈ p.symbols, s.toNat = n) ↔ n < p.alphabetSize

theorem map_toNat_symbols :
    ((masked w data).map (indexOf w data).find).map UInt8.toNat =
      data.map fun v => rank (letters w data) (low w v) := by
  have hfind : ((masked w data).map (indexOf w data).find).map UInt8.toNat =
      ((masked w data).map UInt8.toNat).map (rank (letters w data)) := by
    rw [List.map_map, List.map_map]
    exact List.map_congr_left fun v hv => toNat_find_indexOf hv
  rw [hfind, map_toNat_masked, List.map_map]
  rfl

theorem low_mem_letters {v : UInt8} (hv : v ∈ data) : low w v ∈ letters w data :=
  List.mem_toFinset.2 (List.mem_map.2 ⟨v, hv, rfl⟩)

theorem used_iff_lt_card (n : Nat) :
    (∃ s ∈ (masked w data).map (indexOf w data).find, s.toNat = n) ↔
      n < (letters w data).card := by
  rw [← Finset.mem_range, ← image_rank, Finset.mem_image, ← List.mem_map, map_toNat_symbols,
    List.mem_map]
  constructor
  · rintro ⟨v, hv, rfl⟩
    exact ⟨low w v, low_mem_letters hv, rfl⟩
  · rintro ⟨m, hm, rfl⟩
    obtain ⟨v, hv, rfl⟩ := List.mem_map.1 (List.mem_toFinset.1 hm)
    exact ⟨v, hv, rfl⟩

theorem compaction_of_prepareAt (hp : prepareAt w data = .ok p) : Compaction w data p := by
  rw [prepareAt_eq] at hp
  split at hp
  · cases hp
  · rename_i hcard
    obtain rfl := Except.ok.inj hp
    have hlength : ((masked w data).map (indexOf w data).find).length = data.length := by simp
    have hsymbol : ∀ i (hi : i < data.length),
        ((masked w data).map (indexOf w data).find)[i].toNat =
          rank (letters w data) (low w data[i]) := by
      intro i hi
      have hget := congrArg (·[i]?) (@map_toNat_symbols data w)
      simpa [hi] using hget
    have hmem : ∀ i (hi : i < data.length), low w data[i] ∈ letters w data :=
      fun i hi => low_mem_letters (List.getElem_mem hi)
    have hkept (hfull : (greatest (masked w data)).toNat + 1 ≤ (letters w data).card) :
        (masked w data).map (indexOf w data).find = masked w data := by
      rw [← compact_eq_map_find, compact, size_indexOf, if_neg (not_lt.2 hfull)]
    refine ⟨rfl, rfl, not_le.1 hcard, card_letters_le data, hlength, hsymbol, rfl, hkept, ?_, ?_,
      used_iff_lt_card⟩
    · intro i j hi hj
      rw [UInt8.lt_iff_toNat_lt, hsymbol i hi, hsymbol j hj, rank_lt_rank_iff (hmem i hi)]
    · intro i j hi hj
      rw [← UInt8.toNat_inj, hsymbol i hi, hsymbol j hj,
        rank_eq_rank_iff (hmem i hi) (hmem j hj)]

/-- An empty buffer is refused first, then a width that is too large, then samples of at most one
value; all others are prepared. -/
theorem prepare_compacts (data : List UInt8) (requested : Nat) :
    (data = [] → prepare data requested = .error .emptySamples) ∧
    (data ≠ [] → maxWordSize < requested →
      prepare data requested = .error (.invalidWordSize requested)) ∧
    (data ≠ [] → requested ≤ maxWordSize → ∃ w : WordSize,
      w.bits = (if requested = 0 then (WordSize.detect data).bits else requested) ∧
      ((letters w data).card ≤ 1 → prepare data requested = .error .singleSymbolAlphabet) ∧
      (1 < (letters w data).card →
        ∃ p, prepare data requested = .ok p ∧ Compaction w data p)) := by
  refine ⟨fun hempty => ?_, fun hdata hlarge => ?_, fun hdata hsmall => ?_⟩
  · rw [hempty]
    rfl
  · rw [prepare_of_ne_nil hdata, resolve_eq_none hlarge]
  · obtain ⟨w, hw⟩ := @exists_resolve data requested hsmall
    refine ⟨w, bits_of_resolve hw, fun hcard => ?_, fun hcard => ?_⟩
    · rw [prepare_of_ne_nil hdata, hw]
      exact (prepareAt_eq w data).trans (if_pos hcard)
    · have hok := (prepareAt_eq w data).trans (if_neg (not_le.2 hcard))
      exact ⟨_, prepare_eq_ok_iff.2 ⟨hdata, w, hw, hok⟩, compaction_of_prepareAt hok⟩

/-- Three letters with gaps between them become three symbols without. -/
theorem prepare_compacts_gaps :
    ∃ w p, w.bits = 3 ∧ prepare [5, 1, 5, 2] 0 = .ok p ∧ Compaction w [5, 1, 5, 2] p ∧
      p.symbols = [2, 0, 2, 1] := by
  have hsymbols : (prepare [5, 1, 5, 2] 0).map (·.symbols) = .ok [2, 0, 2, 1] := by
    decide +kernel
  obtain ⟨w, hw, -, hprepare⟩ := (prepare_compacts [5, 1, 5, 2] 0).2.2 (by decide) (by decide)
  have hbits : w.bits = 3 := hw.trans (by decide)
  have hcard : 1 < (letters w [5, 1, 5, 2]).card := by
    rw [letters, funext fun v => (by rw [low, hbits] : low w v = v.toNat % 2 ^ 3)]
    decide
  obtain ⟨p, hp, hcompaction⟩ := hprepare hcard
  rw [hp] at hsymbols
  exact ⟨w, p, hbits, hp, hcompaction, Except.ok.inj hsymbols⟩

end Prepare

end MinEntropy.Samples

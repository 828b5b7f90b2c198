import MinEntropy.Proofs.Json.Whole
import MinEntropy.Proofs.Samples.Widths
import MinEntropy.Samples.Document

/-! Where widths come from. A document spells a width as one digit between blanks and in no other
way; a number makes one where it is in range, and samples always do. -/

namespace MinEntropy.WordSize

open Json

/-- One digit of the width, with nothing but blanks around it. -/
def Spells (text : String) (w : WordSize) : Prop :=
  ∃ before digit after, text.toList = before ++ digit :: after ∧
    (∀ c ∈ before ++ after, c ∈ [' ', '\n', '\t', '\r']) ∧
    digit ∈ ['1', '2', '3', '4', '5', '6', '7', '8'] ∧ w.bits = digit.toNat - '0'.toNat

variable {w : WordSize} {cs rest : List Char}

theorem toDigits_bits (w : WordSize) : Nat.toDigits 10 w.bits = [w.bits.digitChar] :=
  Nat.toDigits_of_lt_base (w.le_max.trans_lt (by decide))

/-- The digits of the widths. -/
theorem eq_digitChar_iff {digit : Char} : digit = w.bits.digitChar ↔
    digit ∈ ['1', '2', '3', '4', '5', '6', '7', '8'] ∧ w.bits = digit.toNat - '0'.toNat := by
  have hmade : ∀ n < 9, 1 ≤ n → n.digitChar ∈ ['1', '2', '3', '4', '5', '6', '7', '8'] ∧
      n = n.digitChar.toNat - '0'.toNat := by decide
  constructor
  · rintro rfl
    exact hmade w.bits (Nat.lt_succ_of_le w.le_max) w.one_le
  · rintro ⟨hdigit, hbits⟩
    rw [hbits]
    fin_cases hdigit <;> rfl

theorem ofNumber?_eq_some_iff {x : Number} : ofNumber? x = some w ↔ x = .nat w.bits := by
  cases x with
  | nat n =>
    rw [ofNumber?, ofNat?_eq_some_iff, Number.nat.injEq]
    exact eq_comm
  | negative n => simp [ofNumber?]
  | double x => simp [ofNumber?]

theorem read_eq_ok_iff :
    read cs = .ok (w, rest) ↔ skipSpace cs = w.bits.digitChar :: rest ∧ EndsNumber rest := by
  have hnumeral : read cs = .ok (w, rest) ↔ readNumeral cs = .ok (.nat w.bits, rest) := by
    rw [read]
    cases readNumeral cs with
    | error e => simp
    | ok reading =>
      obtain ⟨x, after⟩ := reading
      dsimp only
      rw [Except.ok.injEq, Prod.mk.injEq, ← ofNumber?_eq_some_iff]
      cases ofNumber? x <;> simp
  rw [hnumeral, readNumeral_eq_nat_iff]
  constructor
  · rintro ⟨heq, -, hends⟩
    rw [toDigits_bits] at heq
    exact ⟨heq, hends⟩
  · rintro ⟨heq, hends⟩
    refine ⟨?_, w.le_max.trans (by decide), hends⟩
    rw [toDigits_bits]
    exact heq

theorem endsNumber_of_blanks (hrest : ∀ c ∈ rest, isSpace c = true) : EndsNumber rest := by
  intro c hc
  have hblank := isSpace_iff.1 (hrest c (List.mem_of_mem_head? hc))
  fin_cases hblank <;> decide

theorem decode_read_iff {text : String} : decode read text = .ok w ↔ Spells text w := by
  rw [decode_eq_ok_iff]
  constructor
  · rintro ⟨rest, hread, hrest⟩
    obtain ⟨hskip, -⟩ := read_eq_ok_iff.1 hread
    obtain ⟨before, htext, hbefore, -⟩ := skipSpace_eq_cons_iff.1 hskip
    refine ⟨before, w.bits.digitChar, rest, htext, ?_, eq_digitChar_iff.1 rfl⟩
    intro c hc
    apply isSpace_iff.1
    exact (List.mem_append.1 hc).elim (hbefore c) (hrest c)
  · rintro ⟨before, digit, after, htext, hblanks, hdigit⟩
    obtain rfl := eq_digitChar_iff.2 hdigit
    have hafter : ∀ c ∈ after, isSpace c = true := fun c hc =>
      isSpace_iff.2 (hblanks c (List.mem_append_right _ hc))
    refine ⟨after, read_eq_ok_iff.2 ⟨skipSpace_eq_cons_iff.2 ?_, ?_⟩, hafter⟩
    · refine ⟨before, htext, fun c hc => isSpace_iff.2 (hblanks c (List.mem_append_left _ hc)), ?_⟩
      apply isSpace_of_isDigit
      rw [Nat.isDigit_digitChar, decide_eq_true_iff]
      exact w.le_max.trans_lt (by decide)
    · exact endsNumber_of_blanks hafter

/-- The widths are the numbers from one to eight, whether they are read, made or detected. The mask
of one keeps its low bits, all of them, and cuts every sample down to the symbols of the width. -/
theorem widths_obtained :
    (∀ (text : String) (w : WordSize), decode read text = .ok w ↔ Spells text w) ∧
    (∀ (bits : Nat) (w : WordSize), ofNat? bits = some w ↔ 1 ≤ bits ∧ bits ≤ 8 ∧ w.bits = bits) ∧
    (∀ (data : List UInt8) (w : WordSize), (detect data).bits ≤ w.bits ↔
      ∀ v ∈ data, v.toNat < 2 ^ w.bits) ∧
    ∀ w : WordSize, 1 ≤ w.bits ∧ w.bits ≤ 8 ∧ w.mask.toNat = 2 ^ w.bits - 1 ∧
      w.maxSymbols = 2 ^ w.bits ∧ w.maxSymbols ≤ 256 ∧ ∀ v, (v &&& w.mask).toNat < w.maxSymbols := by
  refine ⟨fun text w => decode_read_iff, fun bits w => ?_, fun data w => detect_le_iff, fun w => ?_⟩
  · rw [ofNat?_eq_some_iff]
    constructor
    · rintro rfl
      exact ⟨w.one_le, w.le_max, rfl⟩
    · exact fun h => h.2.2
  · refine ⟨w.one_le, w.le_max, Samples.toNat_mask w, rfl, Samples.two_pow_bits_le w, fun v => ?_⟩
    rw [Samples.toNat_and_mask]
    exact Samples.low_lt w v

/-- The widest, spelled with blanks around it: its mask is a whole byte. -/
theorem widths_obtained_byte :
    Spells "\t8\n" ⟨8, by decide, by decide⟩ ∧
    ∃ w, decode read "\t8\n" = .ok w ∧ w.mask.toNat = 255 ∧ w.maxSymbols = 256 := by
  have hspells : Spells "\t8\n" ⟨8, by decide, by decide⟩ :=
    ⟨['\t'], '8', ['\n'], rfl, by simp, by simp, rfl⟩
  obtain ⟨hread, -, -, hrange⟩ := widths_obtained
  obtain ⟨-, -, hmask, hsymbols, -⟩ := hrange ⟨8, by decide, by decide⟩
  exact ⟨hspells, _, (hread _ _).2 hspells, hmask, hsymbols⟩

end MinEntropy.WordSize

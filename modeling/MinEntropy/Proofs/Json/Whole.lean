import MinEntropy.Json.Decode
import MinEntropy.Proofs.Json.Numbers

/-! Whole numbers in a text. A natural number is read where its decimal digits stand next, without a
zero in front, and what follows does not go on with a number. Around a value there may be blanks. -/

namespace MinEntropy.Json

/-! ### Digits -/

theorem exists_digitChar {c : Char} (hc : c.isDigit = true) : ∃ d < 10, Nat.digitChar d = c := by
  obtain ⟨hlow, hhigh⟩ := Char.isDigit_iff_toNat.1 hc
  change 48 ≤ c.toNat at hlow
  change c.toNat ≤ 57 at hhigh
  refine ⟨c.toNat - 48, by omega, Char.toNat_inj.1 ?_⟩
  rw [Nat.toNat_digitChar_of_lt_ten (by omega)]
  omega

/-- Digits written behind a number that is not zero. -/
theorem toDigits_ofDigitChars {ds : List Char} (hds : ∀ c ∈ ds, c.isDigit = true) {n : Nat}
    (hn : 0 < n) : Nat.toDigits 10 (Nat.ofDigitChars 10 ds n) = Nat.toDigits 10 n ++ ds := by
  induction ds generalizing n with
  | nil => simp
  | cons c ds ih =>
    rw [List.forall_mem_cons] at hds
    obtain ⟨d, hd, rfl⟩ := exists_digitChar hds.1
    rw [Nat.ofDigitChars_cons_digitChar_of_lt_ten hd, ih hds.2 (by omega),
      ← Nat.toDigits_append_toDigits (by decide) hn hd, Nat.toDigits_of_lt_base hd,
      List.append_assoc, List.singleton_append]

/-- Digits without a zero in front are those of their value. -/
theorem toDigits_of_head {c : Char} {ds : List Char} (hds : ∀ d ∈ c :: ds, d.isDigit = true)
    (hzero : c ≠ '0') : Nat.toDigits 10 (Nat.ofDigitChars 10 (c :: ds) 0) = c :: ds := by
  rw [List.forall_mem_cons] at hds
  obtain ⟨d, hd, rfl⟩ := exists_digitChar hds.1
  have hpos : 0 < d := by
    apply Nat.pos_of_ne_zero
    rintro rfl
    exact hzero rfl
  rw [Nat.ofDigitChars_cons_digitChar_of_lt_ten hd, Nat.mul_zero, Nat.zero_add,
    toDigits_ofDigitChars hds.2 hpos, Nat.toDigits_of_lt_base hd, List.singleton_append]

/-- What was taken are digits in front of the rest. -/
theorem takeDigits_eq {cs rest : List Char} {n m k k' : Nat}
    (htake : takeDigits cs n k = (m, k', rest)) (hn : n ≤ maxInteger) :
    ∃ ds, cs = ds ++ rest ∧ (∀ c ∈ ds, c.isDigit = true) ∧ m = Nat.ofDigitChars 10 ds n ∧
      m ≤ maxInteger := by
  induction cs generalizing n k with
  | nil =>
    cases htake
    exact ⟨[], rfl, by simp, rfl, hn⟩
  | cons c cs ih =>
    rw [takeDigits] at htake
    cases hc : c.isDigit with
    | false =>
      rw [Text.digit?_of_not_isDigit hc] at htake
      cases htake
      exact ⟨[], rfl, by simp, rfl, hn⟩
    | true =>
      rw [Text.digit?_of_isDigit hc] at htake
      dsimp only at htake
      split at htake
      · cases htake
        exact ⟨[], rfl, by simp, rfl, hn⟩
      · rename_i hfit
        obtain ⟨ds, hcs, hds, hm, hle⟩ := ih htake (Nat.not_lt.1 hfit)
        exact ⟨c :: ds, congrArg (c :: ·) hcs, List.forall_mem_cons.2 ⟨hc, hds⟩, hm, hle⟩

/-! ### Doubles -/

/-- If a number comes, it is a double. -/
def GivesDouble (reading : Reading Number) : Prop :=
  ∀ x rest, reading = .ok (x, rest) → ∃ y, x = .double y

section Doubles

variable (negative : Bool) (digits : Nat) (power : Int) (cs : List Char)

theorem givesDouble_scaled : GivesDouble (scaled negative digits power cs) := by
  intro x rest hread
  unfold scaled at hread
  split at hread
  · cases hread
    exact ⟨_, rfl⟩
  · cases hread

theorem givesDouble_readExponent : GivesDouble (readExponent negative digits power cs) := by
  intro x rest hread
  unfold readExponent at hread
  dsimp only at hread
  split at hread
  · cases hread
  · split at hread
    · split at hread
      · exact givesDouble_scaled _ _ _ _ _ _ hread
      · split at hread
        · cases hread
        · cases hread
          exact ⟨_, rfl⟩
    · cases hread

theorem givesDouble_readScale : GivesDouble (readScale negative digits power cs) := by
  intro x rest hread
  unfold readScale at hread
  split at hread
  · exact givesDouble_readExponent _ _ _ _ _ _ hread
  · exact givesDouble_readExponent _ _ _ _ _ _ hread
  · exact givesDouble_scaled _ _ _ _ _ _ hread

theorem givesDouble_readDecimals : GivesDouble (readDecimals negative digits power cs) := by
  intro x rest hread
  unfold readDecimals at hread
  dsimp only at hread
  split at hread
  · split at hread <;> cases hread
  · exact givesDouble_readScale _ _ _ _ _ _ hread

end Doubles

/-! ### Naturals -/

theorem integer_eq_nat {negative : Bool} {m n : Nat} (h : integer negative m = .nat n) :
    negative = false ∧ m = n := by
  unfold integer at h
  cases negative with
  | false =>
    cases h
    exact ⟨rfl, rfl⟩
  | true =>
    rw [if_neg (by decide)] at h
    split at h <;> cases h

/-- A natural number stands next: its digits, without a zero in front, and then no number. -/
structure StandsNext (n : Nat) (cs rest : List Char) : Prop where
  eq_append : cs = Nat.toDigits 10 n ++ rest
  le_max : n ≤ maxInteger
  ends : EndsNumber rest

section Reading

variable {negative : Bool} {n : Nat} {c : Char} {cs rest : List Char}

theorem readDecimals_ne_nat (digits : Nat) (power : Int) (cs : List Char) :
    readDecimals negative digits power cs ≠ .ok (.nat n, rest) := by
  intro hread
  obtain ⟨y, hy⟩ := givesDouble_readDecimals _ _ _ _ _ _ hread
  cases hy

theorem readExponent_ne_nat (digits : Nat) (power : Int) (cs : List Char) :
    readExponent negative digits power cs ≠ .ok (.nat n, rest) := by
  intro hread
  obtain ⟨y, hy⟩ := givesDouble_readExponent _ _ _ _ _ _ hread
  cases hy

theorem endsNumber_of_ne (hdigit : NoDigit cs) (hpoint : ∀ tail, cs ≠ '.' :: tail)
    (he : ∀ tail, cs ≠ 'e' :: tail) (hE : ∀ tail, cs ≠ 'E' :: tail) : EndsNumber cs := by
  cases cs with
  | nil => exact endsNumber_nil
  | cons c cs =>
    refine endsNumber_cons ⟨hdigit c rfl, ?_, ?_, ?_⟩
    · rintro rfl
      exact hpoint cs rfl
    · rintro rfl
      exact he cs rfl
    · rintro rfl
      exact hE cs rfl

/-- The number goes as far as there are digits. -/
theorem standsNext_of_takeDigits (hzero : c ≠ '0') (hdigit : c.isDigit = true) {m k : Nat}
    (htake : takeDigits (c :: cs) 0 0 = (m, k, rest)) (hends : EndsNumber rest) :
    StandsNext m (c :: cs) rest := by
  obtain ⟨ds, hcs, hds, hm, hle⟩ := takeDigits_eq htake (by decide)
  refine ⟨?_, hle, hends⟩
  cases ds with
  | nil =>
    rw [← List.nil_append rest, ← hcs] at hends
    rw [hends.noDigit c rfl] at hdigit
    cases hdigit
  | cons d ds =>
    obtain rfl : c = d := (List.cons.inj hcs).1
    rw [hm, toDigits_of_head hds hzero, hcs]

theorem standsNext_of_readUnsigned (hread : readUnsigned negative cs = .ok (.nat n, rest)) :
    negative = false ∧ StandsNext n cs rest := by
  unfold readUnsigned at hread
  split at hread
  · cases hread
  · -- a zero stands alone
    split at hread
    · exact (readDecimals_ne_nat _ _ _ hread).elim
    · exact (readExponent_ne_nat _ _ _ hread).elim
    · exact (readExponent_ne_nat _ _ _ hread).elim
    · rename_i c tail hpoint he hE
      split at hread
      · cases hread
      · rename_i hdigit
        simp only [Except.ok.injEq, Prod.mk.injEq] at hread
        obtain ⟨hn, rfl⟩ := hread
        obtain ⟨hnegative, rfl⟩ := integer_eq_nat hn
        have hends := Bool.eq_false_of_not_eq_true hdigit
        exact ⟨hnegative, rfl, by decide, endsNumber_cons ⟨hends, hpoint, he, hE⟩⟩
    · simp only [Except.ok.injEq, Prod.mk.injEq] at hread
      obtain ⟨hn, rfl⟩ := hread
      obtain ⟨hnegative, rfl⟩ := integer_eq_nat hn
      exact ⟨hnegative, rfl, by decide, endsNumber_nil⟩
  · rename_i c cs hzero
    split at hread
    · rename_i hdigit
      rcases htake : takeDigits (c :: cs) 0 0 with ⟨m, k, after⟩
      rw [htake] at hread
      dsimp only at hread
      split at hread
      · exact (readDecimals_ne_nat _ _ _ hread).elim
      · exact (readExponent_ne_nat _ _ _ hread).elim
      · exact (readExponent_ne_nat _ _ _ hread).elim
      · rename_i hpoint he hE
        split at hread
        · rename_i hcount
          have hafter := countDigits_eq_zero_iff.1 hcount
          have hdrop := dropDigits_of_noDigit hafter
          rw [hdrop] at hread hpoint he hE
          simp only [Except.ok.injEq, Prod.mk.injEq] at hread
          obtain ⟨hn, rfl⟩ := hread
          obtain ⟨hnegative, rfl⟩ := integer_eq_nat hn
          have hends := endsNumber_of_ne hafter hpoint he hE
          exact ⟨hnegative, standsNext_of_takeDigits hzero hdigit htake hends⟩
        · obtain ⟨y, hy⟩ := givesDouble_scaled _ _ _ _ _ _ hread
          cases hy
    · cases hread

theorem readUnsigned_zero (hends : EndsNumber rest) :
    readUnsigned false ('0' :: rest) = .ok (.nat 0, rest) := by
  cases rest with
  | nil => rfl
  | cons c rest =>
    obtain ⟨hdigit, hpoint, he, hE⟩ := hends c rfl
    unfold readUnsigned
    split
    · rename_i heq
      cases heq
    · rename_i heq
      obtain rfl := (List.cons.inj heq).2
      split
      · rename_i heq
        exact absurd (List.cons.inj heq).1 hpoint
      · rename_i heq
        exact absurd (List.cons.inj heq).1 he
      · rename_i heq
        exact absurd (List.cons.inj heq).1 hE
      · rename_i heq
        obtain ⟨rfl, rfl⟩ := List.cons.inj heq
        rw [if_neg (by rw [hdigit]; decide)]
        rfl
      · rename_i heq
        cases heq
    · rename_i hzero heq
      exact absurd (List.cons.inj heq).1.symm hzero

theorem readUnsigned_of_pos (hn : n ≠ 0) (hle : n ≤ maxInteger) (hends : EndsNumber rest) :
    readUnsigned false (Nat.toDigits 10 n ++ rest) = .ok (.nat n, rest) := by
  have hdrop := dropDigits_of_noDigit hends.noDigit
  have hcount := countDigits_eq_zero_iff.2 hends.noDigit
  have hvalue := @Nat.ofDigitChars_ten_toDigits n
  have htake := takeDigits_append isDigit_toDigits hends.noDigit (hvalue.trans_le hle) 0
  rw [hvalue] at htake
  have hhead := head_toDigits_ne n hn
  obtain ⟨c, tail, hchars, hdigit, -⟩ := (Digits.ofNat n).exists_cons
  change Nat.toDigits 10 n = c :: tail at hchars
  rw [hchars] at htake hhead ⊢
  unfold readUnsigned
  split
  · rename_i heq
    cases heq
  · rename_i heq
    exact absurd (congrArg some (List.cons.inj heq).1) hhead
  · rename_i heq
    rw [← heq, htake]
    obtain rfl := (List.cons.inj heq).1
    rw [if_pos hdigit]
    dsimp only
    rw [hdrop, hcount]
    split
    · exact absurd rfl (hends '.' rfl).2.1
    · exact absurd rfl (hends 'e' rfl).2.2.1
    · exact absurd rfl (hends 'E' rfl).2.2.2
    · rfl

theorem readUnsigned_of_standsNext (hnext : StandsNext n cs rest) :
    readUnsigned false cs = .ok (.nat n, rest) := by
  obtain ⟨rfl, hle, hends⟩ := hnext
  by_cases hn : n = 0
  · rw [hn]
    exact readUnsigned_zero hends
  · exact readUnsigned_of_pos hn hle hends

/-- A natural number is read where it stands next, and nowhere else. -/
theorem readNumber_eq_nat_iff : readNumber cs = .ok (.nat n, rest) ↔ StandsNext n cs rest := by
  constructor
  · intro hread
    unfold readNumber at hread
    split at hread
    · cases (standsNext_of_readUnsigned hread).1
    · exact (standsNext_of_readUnsigned hread).2
  · intro hnext
    have hread := readUnsigned_of_standsNext hnext
    unfold readNumber
    split
    · cases hread
    · exact hread

end Reading

/-! ### Between blanks -/

section Blanks

variable {n : Nat} {c : Char} {cs rest : List Char}

theorem isSpace_iff : isSpace c = true ↔ c ∈ [' ', '\n', '\t', '\r'] := by
  simp [isSpace, or_assoc]

theorem skipSpace_eq_nil_iff : skipSpace cs = [] ↔ ∀ c ∈ cs, isSpace c = true :=
  List.dropWhile_eq_nil_iff

/-- What is left begins with the first character that is no blank. -/
theorem skipSpace_eq_cons_iff : skipSpace cs = c :: rest ↔
    ∃ before, cs = before ++ c :: rest ∧ (∀ d ∈ before, isSpace d = true) ∧ isSpace c = false := by
  constructor
  · intro hskip
    refine ⟨cs.takeWhile isSpace, ?_, fun d hd => List.mem_takeWhile_imp hd, ?_⟩
    · rw [← hskip]
      exact List.takeWhile_append_dropWhile.symm
    · have hhead := List.head?_dropWhile_not isSpace cs
      rw [← skipSpace, hskip] at hhead
      simpa using hhead
  · rintro ⟨before, rfl, hbefore, hc⟩
    rw [skipSpace, List.dropWhile_append_of_pos hbefore]
    exact skipSpace_cons hc

theorem StandsNext.head (hnext : StandsNext n cs rest) :
    ∃ c tail, cs = c :: tail ∧ c.isDigit = true := by
  obtain ⟨c, tail, hchars, hdigit, -⟩ := (Digits.ofNat n).exists_cons
  change Nat.toDigits 10 n = c :: tail at hchars
  exact ⟨c, tail ++ rest, by rw [hnext.eq_append, hchars, List.cons_append], hdigit⟩

theorem readNumeral_eq_nat_iff :
    readNumeral cs = .ok (.nat n, rest) ↔ StandsNext n (skipSpace cs) rest := by
  constructor
  · intro hread
    unfold readNumeral at hread
    split at hread
    · cases hread
    · rename_i heq
      split at hread
      · rw [heq]
        exact readNumber_eq_nat_iff.1 hread
      · cases hread
  · intro hnext
    obtain ⟨c, tail, hcs, hdigit⟩ := hnext.head
    rw [readNumeral, hcs]
    dsimp only
    rw [if_pos (.inr hdigit), ← hcs]
    exact readNumber_eq_nat_iff.2 hnext

/-- A text holds one value, and blanks behind it. -/
theorem decode_eq_ok_iff {read : List Char → Reading α} {text : String} {a : α} :
    decode read text = .ok a ↔
      ∃ rest, read text.toList = .ok (a, rest) ∧ ∀ c ∈ rest, isSpace c = true := by
  rw [decode]
  cases read text.toList with
  | error e => simp
  | ok reading =>
    obtain ⟨b, rest⟩ := reading
    simp only [List.isEmpty_iff, skipSpace_eq_nil_iff]
    split <;> simp_all

end Blanks

end MinEntropy.Json

import Mathlib.Data.List.TakeWhile
import Mathlib.Data.Nat.Digits.Defs
import MinEntropy.Text.Blank
import MinEntropy.Text.Integer

/-! What is read as a number or a truth value, and what is left of a text without the blanks at its
ends. -/

namespace MinEntropy.Text

/-! ### Digits -/

theorem le_ofDigitChars (ds : List Char) (n : Nat) : n ≤ Nat.ofDigitChars 10 ds n := by
  induction ds generalizing n with
  | nil => exact le_rfl
  | cons c ds ih =>
    rw [Nat.ofDigitChars_cons]
    exact le_trans (by omega) (ih _)

theorem digit?_of_isDigit {c : Char} (hc : c.isDigit = true) :
    digit? c = some (c.toNat - '0'.toNat) := if_pos hc

theorem digit?_of_not_isDigit {c : Char} (hc : c.isDigit = false) : digit? c = none :=
  if_neg (by rw [hc]; decide)

/-- Reading digits on from a number within the limit. -/
theorem readDigits_eq_ok_iff {limit : Nat} {ds : List Char} {m n : Nat} (hm : m ≤ limit) :
    readDigits limit ds m = .ok n ↔
      (∀ c ∈ ds, c.isDigit = true) ∧ Nat.ofDigitChars 10 ds m = n ∧ n ≤ limit := by
  induction ds generalizing m with
  | nil =>
    simp only [readDigits, Except.ok.injEq, List.not_mem_nil, false_implies, implies_true, true_and,
      Nat.ofDigitChars_nil]
    constructor
    · rintro rfl
      exact ⟨rfl, hm⟩
    · exact And.left
  | cons c ds ih =>
    rw [readDigits, Nat.ofDigitChars_cons, List.forall_mem_cons]
    cases hc : c.isDigit with
    | false => simp [digit?_of_not_isDigit hc]
    | true =>
      rw [digit?_of_isDigit hc]
      dsimp only
      split
      · rename_i hover
        simp only [reduceCtorEq, true_and, false_iff]
        rintro ⟨-, hvalue, hn⟩
        have hle := le_ofDigitChars ds (10 * m + (c.toNat - '0'.toNat))
        omega
      · rename_i hfits
        rw [ih (Nat.not_lt.1 hfits)]
        simp

/-! ### Numbers -/

/-- Digits in front of which a plus may stand, and their value. -/
inductive IsDecimal : List Char → Nat → Prop
  | unsigned {ds : List Char} (hne : ds ≠ []) (hds : ∀ c ∈ ds, c.isDigit = true) :
      IsDecimal ds (Nat.ofDigitChars 10 ds 0)
  | signed {ds : List Char} (hne : ds ≠ []) (hds : ∀ c ∈ ds, c.isDigit = true) :
      IsDecimal ('+' :: ds) (Nat.ofDigitChars 10 ds 0)

section Numbers

variable {limit n : Nat} {cs : List Char}

theorem isDecimal_unsigned_iff {c : Char} (hc : c ≠ '+') :
    IsDecimal (c :: cs) n ↔
      (∀ d ∈ c :: cs, d.isDigit = true) ∧ Nat.ofDigitChars 10 (c :: cs) 0 = n := by
  constructor
  · intro hdecimal
    cases hdecimal with
    | unsigned hne hds => exact ⟨hds, rfl⟩
    | signed hne hds => exact absurd rfl hc
  · rintro ⟨hds, rfl⟩
    exact .unsigned (by simp) hds

theorem isDecimal_signed_iff :
    IsDecimal ('+' :: cs) n ↔
      cs ≠ [] ∧ (∀ d ∈ cs, d.isDigit = true) ∧ Nat.ofDigitChars 10 cs 0 = n := by
  constructor
  · intro hdecimal
    cases hdecimal with
    | unsigned hne hds => exact absurd (hds '+' (by simp)) (by decide)
    | signed hne hds => exact ⟨hne, hds, rfl⟩
  · rintro ⟨hne, hds, rfl⟩
    exact .signed hne hds

theorem not_isDecimal_nil : ¬ IsDecimal [] n := by
  intro hdecimal
  cases hdecimal with
  | unsigned hne hds => exact hne rfl

theorem readNat_eq_ok_iff : readNat limit cs = .ok n ↔ IsDecimal cs n ∧ n ≤ limit := by
  unfold readNat
  split
  · simp [not_isDecimal_nil]
  · simp [isDecimal_signed_iff]
  · rename_i digits hne
    have hdigits : digits ≠ [] := hne
    rw [readDigits_eq_ok_iff (Nat.zero_le _), isDecimal_signed_iff]
    simp [hdigits, and_assoc]
  · rename_i hnil hplus hsign
    rw [readDigits_eq_ok_iff (Nat.zero_le _)]
    cases cs with
    | nil => exact absurd rfl hnil
    | cons c cs =>
      have hc : c ≠ '+' := by
        rintro rfl
        exact hsign cs rfl
      rw [isDecimal_unsigned_iff hc, and_assoc]

/-- A number is read exactly from decimals within the limit. -/
theorem nat?_eq_some_iff : nat? limit cs = some n ↔ IsDecimal cs n ∧ n ≤ limit := by
  rw [← readNat_eq_ok_iff, nat?]
  cases readNat limit cs <;> simp [Except.toOption]

end Numbers

theorem bool?_eq_some_iff {cs : List Char} {b : Bool} :
    bool? cs = some b ↔ cs = (if b then "true" else "false").toList := by
  unfold bool?
  by_cases htrue : cs = "true".toList
  · rw [if_pos htrue]
    subst htrue
    cases b <;> decide
  · rw [if_neg htrue]
    by_cases hfalse : cs = "false".toList
    · rw [if_pos hfalse]
      subst hfalse
      cases b <;> decide
    · rw [if_neg hfalse]
      cases b with
      | false => exact iff_of_false (by simp) hfalse
      | true => exact iff_of_false (by simp) htrue

/-! ### Blanks -/

/-- A text between blanks that neither begins nor ends with one. -/
structure Trims (cs core : List Char) : Prop where
  between : ∃ before after, cs = before ++ core ++ after ∧
    (∀ c ∈ before, isBlank c = true) ∧ ∀ c ∈ after, isBlank c = true
  head : ∀ c ∈ core.head?, isBlank c = false
  last : ∀ c ∈ core.getLast?, isBlank c = false

theorem dropWhile_of_head {cs : List Char} (hhead : ∀ c ∈ cs.head?, isBlank c = false) :
    cs.dropWhile isBlank = cs := by
  cases cs with
  | nil => rfl
  | cons c cs => rw [List.dropWhile_cons_of_neg (by simp [hhead c rfl])]

theorem isBlank_of_head_dropWhile (cs : List Char) :
    ∀ c ∈ (cs.dropWhile isBlank).head?, isBlank c = false := by
  intro c hc
  have hhead := List.head?_dropWhile_not isBlank cs
  rw [Option.mem_def.1 hc] at hhead
  simpa using hhead

theorem trims_trim (cs : List Char) : Trims cs (trim cs) := by
  have hrest := List.takeWhile_append_dropWhile (p := isBlank) (l := cs)
  generalize hstart : cs.dropWhile isBlank = rest at hrest
  have hcore := congrArg List.reverse
    (List.takeWhile_append_dropWhile (p := isBlank) (l := rest.reverse))
  rw [List.reverse_append, List.reverse_reverse] at hcore
  have htrim : trim cs = (rest.reverse.dropWhile isBlank).reverse := by rw [trim, hstart]
  rw [htrim]
  refine ⟨⟨cs.takeWhile isBlank, (rest.reverse.takeWhile isBlank).reverse, ?_,
    fun c hc => List.mem_takeWhile_imp hc, fun c hc => ?_⟩, fun c hc => ?_, ?_⟩
  · rw [List.append_assoc, hcore, hrest]
  · exact List.mem_takeWhile_imp (List.mem_reverse.1 hc)
  · -- The core is the front of the rest, which begins where the blanks end.
    refine isBlank_of_head_dropWhile cs c ?_
    rw [hstart, ← hcore, List.head?_append, Option.mem_def.1 hc]
    rfl
  · rw [List.getLast?_reverse]
    exact isBlank_of_head_dropWhile _

theorem Trims.trim_eq {cs core : List Char} (htrims : Trims cs core) : trim cs = core := by
  obtain ⟨⟨before, after, rfl, hbefore, hafter⟩, hhead, hlast⟩ := htrims
  unfold trim
  rw [List.append_assoc, List.dropWhile_append_of_pos hbefore]
  cases core with
  | nil =>
    rw [List.nil_append, List.dropWhile_eq_nil_iff.2 hafter]
    rfl
  | cons c core =>
    rw [List.cons_append, List.dropWhile_cons_of_neg (by simp [hhead c rfl]), ← List.cons_append,
      List.reverse_append, List.dropWhile_append_of_pos (by simpa using hafter),
      dropWhile_of_head (by rwa [List.head?_reverse]), List.reverse_reverse]

/-- Trimming leaves what stands between the blanks. -/
theorem trim_eq_iff {cs core : List Char} : trim cs = core ↔ Trims cs core := by
  constructor
  · rintro rfl
    exact trims_trim cs
  · exact Trims.trim_eq

end MinEntropy.Text

import MinEntropy.Proofs.Figure.Naturals
import MinEntropy.Proofs.Json.Passing
import MinEntropy.Proofs.Text.Integer

/-! Reading numbers back. A number with a point or a power is read as its digits scaled by a power
of ten; so every finite figure that was written is read as a double. -/

namespace MinEntropy.Json

open Decimal

/-! ### Digits -/

/-- Digits that fit are taken, all of them. -/
theorem takeDigits_append {ds rest : List Char} (hds : ∀ c ∈ ds, c.isDigit = true)
    (hrest : NoDigit rest) {n : Nat} (hfit : Nat.ofDigitChars 10 ds n ≤ maxInteger) (k : Nat) :
    takeDigits (ds ++ rest) n k = (Nat.ofDigitChars 10 ds n, k + ds.length, rest) := by
  induction ds generalizing n k with
  | nil =>
    cases rest with
    | nil => rfl
    | cons c rest => simp [takeDigits, Text.digit?_of_not_isDigit (hrest c rfl)]
  | cons c ds ih =>
    rw [Nat.ofDigitChars_cons] at hfit ⊢
    have hstep := (Text.le_ofDigitChars ds _).trans hfit
    rw [List.cons_append, takeDigits, Text.digit?_of_isDigit (hds c (by simp))]
    dsimp only
    rw [if_neg (not_lt.2 hstep), ih (fun c hc => hds c (by simp [hc])) hfit, List.length_cons]
    congr 2
    omega

theorem nat?_chars (d : Digits) {limit : Nat} (hfit : d.value ≤ limit) :
    Text.nat? limit d.chars = some d.value :=
  Text.nat?_eq_some_iff.2 ⟨.unsigned d.ne_nil d.isDigit, hfit⟩

/-! ### Parts of a number -/

section Parts

variable {negative : Bool} {rest : List Char} (hrest : EndsNumber rest)

theorem readExponent_power {p : Power} (hfit : p.digits.value ≤ maxExponent) (digits : Nat)
    (power : Int) (hrest : NoDigit rest) :
    readExponent negative digits power (p.sign ++ (p.digits.chars ++ rest)) =
      scaled negative digits (power + p.value) rest := by
  have htake := takeWhile_isDigit p.digits.isDigit hrest
  have hdrop := dropDigits_chars p.digits hrest
  have hvalue : exponentValue? p.digits.chars = some p.digits.value := nat?_chars p.digits hfit
  have hpower : (if p.minus? = some true then power - p.digits.value
      else power + p.digits.value) = power + p.value := by
    rw [Power.value]
    split <;> omega
  obtain ⟨c, cs, hchars, hdigit, -⟩ := p.digits.exists_cons
  rw [readExponent, exponentSign_sign]
  dsimp only
  split
  · rename_i heq
    rw [hchars] at heq
    cases heq
  · rename_i c' _ heq
    rw [hchars] at heq
    obtain rfl : c = c' := (List.cons.inj heq).1
    rw [if_pos hdigit, htake, hvalue, hdrop]
    simp only [decide_eq_true_eq, hpower]

/-- The power of a number is small enough to be read. -/
def Numeral.PowerFits (n : Numeral) : Prop := ∀ p, n.power? = some p → p.digits.value ≤ maxExponent

include hrest

theorem readScale_powerText {n : Numeral} (hfit : n.PowerFits) (digits : Nat) (power : Int) :
    readScale negative digits power (n.powerText ++ rest) =
      scaled negative digits (power + n.powerValue) rest := by
  rw [Numeral.powerText, Numeral.powerValue]
  split
  · rename_i hnone
    rw [hnone, Option.map_none, Option.getD_none, Int.add_zero, List.nil_append]
    unfold readScale
    split
    · exact absurd rfl (hrest 'e' rfl).2.2.1
    · exact absurd rfl (hrest 'E' rfl).2.2.2
    · rfl
  · rename_i p hp
    have hread := @readExponent_power negative rest p (hfit p hp) digits power hrest.noDigit
    rw [hp, Power.text, List.cons_append, List.append_assoc]
    cases p.upper <;> exact hread

theorem readDecimals_places {n : Numeral} {d : Digits} (hfit : n.PowerFits) {digits : Nat}
    (hdigits : Nat.ofDigitChars 10 d.chars digits ≤ maxInteger) (power : Int) :
    readDecimals negative digits power (d.chars ++ (n.powerText ++ rest)) =
      scaled negative (Nat.ofDigitChars 10 d.chars digits) (power - d.chars.length + n.powerValue)
        rest := by
  have hnoDigit := noDigit_powerText_append hrest n
  have hsome := List.length_pos_of_ne_nil d.ne_nil
  have hdrop := dropDigits_of_noDigit hnoDigit
  rw [readDecimals, takeDigits_append d.isDigit hnoDigit hdigits, Nat.zero_add]
  dsimp only
  rw [if_neg (by omega), hdrop, readScale_powerText hrest hfit]

end Parts

/-- Digits in front of what is no digit. -/
theorem readUnsigned_whole {n : Numeral} (hdigits : n.whole.value ≤ maxInteger) (negative : Bool)
    {c : Char} (hc : c = '.' ∨ c = 'e' ∨ c = 'E') (cs : List Char) :
    readUnsigned negative (n.whole.chars ++ c :: cs) =
      if c = '.' then readDecimals negative n.whole.value 0 cs
      else readExponent negative n.whole.value 0 cs := by
  have hnoDigit : NoDigit (c :: cs) := noDigit_cons (by rcases hc with rfl | rfl | rfl <;> rfl)
  have htake := takeDigits_append n.whole.isDigit hnoDigit hdigits 0
  have hcount := countDigits_eq_zero_iff.2 hnoDigit
  have hdrop := dropDigits_of_noDigit hnoDigit
  obtain ⟨d, tail, hchars, hdigit, -⟩ := n.whole.exists_cons
  by_cases hzero : d = '0'
  · have hone := n.whole_of_zero (by rw [hchars, hzero]; rfl)
    rw [Digits.value, hone]
    rcases hc with rfl | rfl | rfl <;> rfl
  · rw [Digits.value] at *
    rw [hchars] at htake ⊢
    unfold readUnsigned
    split
    · rename_i heq
      cases heq
    · rename_i heq
      exact absurd (List.cons.inj heq).1 hzero
    · rename_i heq
      rw [← heq, htake]
      dsimp only
      rw [hcount, hdrop]
      obtain rfl := (List.cons.inj heq).1
      rw [if_pos hdigit]
      rcases hc with rfl | rfl | rfl <;> rfl

theorem readUnsigned_unsigned {n : Numeral} {rest : List Char} (hrest : EndsNumber rest)
    (hmarked : n.IsMarked) (hdigits : n.digits ≤ maxInteger) (hfit : n.PowerFits)
    (negative : Bool) :
    readUnsigned negative (n.unsigned ++ rest) = scaled negative n.digits n.scale rest := by
  have hall : n.digits = Nat.ofDigitChars 10 n.places n.whole.value := Nat.ofDigitChars_append 0
  have hscale : n.scale = n.powerValue - n.places.length := rfl
  have hwhole : n.whole.value ≤ maxInteger :=
    (Text.le_ofDigitChars n.places _).trans (hall ▸ hdigits)
  rw [Numeral.unsigned, List.append_assoc, List.append_assoc, Numeral.placesText]
  cases hplaces : n.places? with
  | some d =>
    have hchars : n.places = d.chars := by rw [Numeral.places, hplaces]; rfl
    rw [hchars] at hall hscale
    have hread := @readDecimals_places negative rest hrest n d hfit n.whole.value (hall ▸ hdigits) 0
    rw [zero_sub, neg_add_eq_sub] at hread
    rw [List.cons_append, readUnsigned_whole hwhole negative (.inl rfl), if_pos rfl, hread, hall,
      hscale]
  | none =>
    have hchars : n.places = [] := by rw [Numeral.places, hplaces]; rfl
    obtain ⟨p, hp⟩ := Option.isSome_iff_exists.1 (hmarked.resolve_left (by rw [hplaces]; decide))
    rw [hchars] at hall hscale
    have hvalue : n.powerValue = p.value := by rw [Numeral.powerValue, hp]; rfl
    have hread := @readExponent_power negative rest p (hfit p hp) n.whole.value 0 hrest.noDigit
    rw [Int.zero_add] at hread
    rw [List.nil_append, Numeral.powerText, hp, hall, hscale, hvalue]
    dsimp only
    rw [Power.text, List.cons_append, List.append_assoc, List.length_nil, Nat.cast_zero,
      Int.sub_zero]
    cases p.upper
    · rw [if_neg Bool.false_ne_true, readUnsigned_whole hwhole negative (.inr (.inl rfl))]
      exact hread
    · rw [if_pos rfl, readUnsigned_whole hwhole negative (.inr (.inr rfl))]
      exact hread

/-- A number with a point or a power is read as its digits, scaled by its power of ten. -/
theorem readNumber_text {n : Numeral} {rest : List Char} (hrest : EndsNumber rest)
    (hmarked : n.IsMarked) (hdigits : n.digits ≤ maxInteger) (hfit : n.PowerFits) :
    readNumber (n.text ++ rest) = scaled n.negative n.digits n.scale rest := by
  have hunsigned := readUnsigned_unsigned hrest hmarked hdigits hfit
  rw [Numeral.text, Decimal.signed]
  cases n.negative with
  | true => exact hunsigned true
  | false =>
    obtain ⟨c, cs, hchars, hdigit, -⟩ := n.whole.exists_cons
    have hread := hunsigned false
    rw [if_neg Bool.false_ne_true]
    rw [Numeral.unsigned, hchars, List.cons_append, List.cons_append] at hread ⊢
    rw [← hread]
    unfold readNumber
    split
    · rename_i heq
      exact absurd (List.cons.inj heq).1 (ne_of_isDigit hdigit rfl)
    · rfl

end MinEntropy.Json

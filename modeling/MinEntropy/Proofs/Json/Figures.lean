import MinEntropy.Proofs.Json.Numeral

/-! Figures in documents. A finite figure is written as a number that amounts to its shortest
decimal, so two finite figures have different texts; every other figure is null. -/

namespace MinEntropy

/-- What a document keeps of a figure: nothing unless it is finite. -/
def Figure.written (e : Option Float) : Option Float := e.filter Float.isFinite

namespace Json

open Decimal

/-- A number that tells a decimal, as the layouts of figures write it. -/
structure Numeral.Tells (n : Numeral) (negative : Bool) (s : Scaled) : Prop where
  negative : n.negative = negative
  magnitude : n.magnitude = s.value
  isMarked : n.IsMarked
  digits_le : n.digits ≤ 10 ^ 17
  power_eq : ∀ p, n.power? = some p → p.digits.value = s.leading.natAbs

/-! ### Layouts -/

theorem head_toDigits_ne (n : Nat) (hn : n ≠ 0) : (Nat.toDigits 10 n).head? ≠ some '0' := by
  induction n using Nat.strongRecOn with
  | ind n ih =>
    rcases Nat.lt_or_ge n 10 with hlt | hge
    · rw [Nat.toDigits_of_lt_base hlt]
      have hdigit : ∀ n < 10, n ≠ 0 → [n.digitChar].head? ≠ some '0' := by decide
      exact hdigit n hlt hn
    · rw [Nat.toDigits_of_base_le (by decide) hge,
        List.head?_append_of_ne_nil _ Nat.toDigits_ne_nil]
      exact ih (n / 10) (by omega) (by omega)

theorem isDigit_toDigits {n : Nat} : ∀ c ∈ Nat.toDigits 10 n, c.isDigit = true := fun _ hc =>
  Nat.isDigit_of_mem_toDigits (by decide) (by decide) hc

theorem isDigit_replicate_zero {k : Nat} : ∀ c ∈ List.replicate k '0', c.isDigit = true :=
  fun _ hc => List.eq_of_mem_replicate hc ▸ rfl

/-- Digits of which the first `n` are a whole part, and the rest the places after the point. -/
structure Cuts (ds : List Char) (n : Nat) : Prop where
  isDigit : ∀ c ∈ ds, c.isDigit = true
  ne_nil : ds.take n ≠ []
  whole_of_zero : (ds.take n).head? = some '0' → ds.take n = ['0']

/-- Digits cut in two, with a power of ten or without. No point is written in front of nothing. -/
def Numeral.cut (negative : Bool) {ds : List Char} {n : Nat} (h : Cuts ds n)
    (power? : Option Power) : Numeral where
  negative := negative
  whole := ⟨ds.take n, fun c hc => h.isDigit c (List.mem_of_mem_take hc), h.ne_nil⟩
  places? :=
    if hrest : ds.drop n = [] then none
    else some ⟨ds.drop n, fun c hc => h.isDigit c (List.mem_of_mem_drop hc), hrest⟩
  power? := power?
  whole_of_zero := h.whole_of_zero

section Cut

variable {negative : Bool} {ds : List Char} {n : Nat} (h : Cuts ds n) (power? : Option Power)

theorem places_cut : (Numeral.cut negative h power?).places = ds.drop n := by
  by_cases hrest : ds.drop n = [] <;> simp [Numeral.places, Numeral.cut, hrest]

theorem digits_cut : (Numeral.cut negative h power?).digits = Nat.ofDigitChars 10 ds 0 := by
  rw [Numeral.digits, places_cut]
  exact congrArg (Nat.ofDigitChars 10 · 0) (List.take_append_drop n ds)

theorem scale_cut : (Numeral.cut negative h power?).scale =
    (power?.map (·.value)).getD 0 - (ds.drop n).length := by
  rw [Numeral.scale, places_cut]
  rfl

theorem text_cut (hrest : ds.drop n ≠ []) : (Numeral.cut negative h none).text =
    signed negative (ds.take n ++ '.' :: ds.drop n) := by
  simp [Numeral.text, Numeral.unsigned, Numeral.placesText, Numeral.powerText, Numeral.cut, hrest]

end Cut

section Layout

variable {s : Scaled} {negative : Bool}

/-- The power of ten of the leading digit bounds what the decimal amounts to. -/
theorem digits_mul_lt {k : Nat} (hplain : s.leading ≤ 15) (hk : s.exponent = k) :
    s.digits * 10 ^ k < 10 ^ 16 := by
  have hlength : 0 < (Nat.toDigits 10 s.digits).length := Nat.length_toDigits_pos
  rw [Scaled.leading, digitsOf, hk] at hplain
  calc s.digits * 10 ^ k < 10 ^ (Nat.toDigits 10 s.digits).length * 10 ^ k :=
        Nat.mul_lt_mul_of_pos_right (lt_pow_length _) (Nat.pow_pos (by decide))
    _ = 10 ^ ((Nat.toDigits 10 s.digits).length + k) := (Nat.pow_add ..).symm
    _ ≤ 10 ^ 16 := Nat.pow_le_pow_right (by decide) (by omega)

/-- Zeros behind the digits, and one more behind the point. -/
theorem cuts_whole {n k : Nat} (hzero : n = 0 → k = 0) :
    Cuts (Nat.toDigits 10 n ++ List.replicate k '0' ++ ['0'])
      (Nat.toDigits 10 n ++ List.replicate k '0').length := by
  refine ⟨?_, ?_, fun hhead => ?_⟩
  · exact List.forall_mem_append.2 ⟨List.forall_mem_append.2
      ⟨isDigit_toDigits, isDigit_replicate_zero⟩, by simp⟩
  · rw [List.take_left]
    exact List.append_ne_nil_of_left_ne_nil Nat.toDigits_ne_nil _
  · rw [List.take_left] at hhead ⊢
    rw [List.head?_append_of_ne_nil _ Nat.toDigits_ne_nil] at hhead
    have hnone : n = 0 := by_contra fun hne => head_toDigits_ne n hne hhead
    rw [hzero hnone, hnone]
    rfl

theorem tells_whole (hzero : s.digits = 0 → s.exponent = 0) (hplain : s.leading ≤ 15)
    (hexponent : 0 ≤ s.exponent) :
    ∃ n : Numeral, n.Tells negative s ∧ n.text = signed negative (placePoint true s) := by
  obtain ⟨k, hk⟩ := Int.eq_ofNat_of_zero_le hexponent
  have hcuts : Cuts _ _ := @cuts_whole s.digits k fun hnone => by have := hzero hnone; omega
  have hdigits : Nat.ofDigitChars 10 (Nat.toDigits 10 s.digits ++ List.replicate k '0' ++ ['0']) 0 =
      s.digits * 10 ^ k * 10 := by
    rw [Nat.ofDigitChars_append, Nat.ofDigitChars_append, Nat.ofDigitChars_ten_toDigits,
      Nat.ofDigitChars_replicate_zero, Nat.ofDigitChars_cons, Nat.ofDigitChars_nil, Nat.sub_self,
      Nat.add_zero]
    ring
  have hrest : (Nat.toDigits 10 s.digits ++ List.replicate k '0' ++ ['0']).drop
      (Nat.toDigits 10 s.digits ++ List.replicate k '0').length = ['0'] := List.drop_left
  refine ⟨.cut negative hcuts none, ⟨rfl, ?_, .inl ?_, ?_, fun _ h => by cases h⟩, ?_⟩
  · rw [Numeral.magnitude, digits_cut, scale_cut, hrest, hdigits, Scaled.value, hk]
    push_cast
    rw [zpow_natCast, Option.map_none, Option.getD_none, List.length_singleton, Nat.cast_one,
      zero_sub, zpow_neg_one]
    ring
  · simp [Numeral.cut]
  · have hlt := digits_mul_lt hplain hk
    rw [digits_cut, hdigits]
    omega
  · rw [text_cut hcuts (by rw [hrest]; simp), hrest, List.take_left, placePoint,
      if_pos hexponent, hk, if_pos rfl, digitsOf, Int.toNat_natCast]

/-- Zeros in front of the digits make sure that one stands before the point. -/
def padded (places : Nat) (ds : List Char) : List Char :=
  List.replicate (places + 1 - ds.length) '0' ++ ds

section Padded

variable {places : Nat} {ds : List Char}

theorem length_padded : (padded places ds).length = max (places + 1) ds.length := by
  rw [padded, List.length_append, List.length_replicate]
  omega

theorem length_drop_padded :
    ((padded places ds).drop ((padded places ds).length - places)).length = places := by
  rw [List.length_drop, length_padded]
  omega

theorem cuts_padded (hds : ∀ c ∈ ds, c.isDigit = true) (hhead : ds.head? ≠ some '0') :
    Cuts (padded places ds) ((padded places ds).length - places) := by
  have hlength := @length_padded places ds
  refine ⟨List.forall_mem_append.2 ⟨isDigit_replicate_zero, hds⟩,
    List.ne_nil_of_length_pos (by rw [List.length_take]; omega), fun hfirst => ?_⟩
  rcases Nat.lt_or_ge places ds.length with hlong | hshort
  · have hnone : padded places ds = ds := by
      rw [padded, Nat.sub_eq_zero_of_le hlong, List.replicate_zero, List.nil_append]
    rw [hnone, List.head?_take, if_neg (by omega)] at hfirst
    exact absurd hfirst hhead
  · rw [show (padded places ds).length - places = 1 by omega] at hfirst ⊢
    cases hpadded : padded places ds with
    | nil => rw [hpadded] at hfirst; cases hfirst
    | cons c cs => rw [hpadded] at hfirst; cases hfirst; rfl

end Padded

theorem tells_fraction (hzero : s.digits = 0 → s.exponent = 0) (hdigits : s.digits ≤ 10 ^ 17)
    (hexponent : s.exponent < 0) :
    ∃ n : Numeral, n.Tells negative s ∧ n.text = signed negative (placePoint true s) := by
  obtain ⟨places, hplaces⟩ : ∃ places : Nat, s.exponent = -places :=
    ⟨s.exponent.natAbs, by omega⟩
  have hhead := head_toDigits_ne s.digits fun hnone => by have := hzero hnone; omega
  have hcuts := @cuts_padded places _ isDigit_toDigits hhead
  have hrest := @length_drop_padded places (Nat.toDigits 10 s.digits)
  have hall : Nat.ofDigitChars 10 (padded places (Nat.toDigits 10 s.digits)) 0 = s.digits := by
    rw [padded, Nat.ofDigitChars_append, Nat.ofDigitChars_replicate_zero, Nat.mul_zero,
      Nat.ofDigitChars_ten_toDigits]
  have hsome := List.ne_nil_of_length_pos (hrest.symm ▸ (by omega : 0 < places))
  refine ⟨.cut negative hcuts none, ⟨rfl, ?_, .inl ?_, ?_, fun _ h => by cases h⟩, ?_⟩
  · rw [Numeral.magnitude, digits_cut, scale_cut, hrest, hall, Scaled.value, hplaces,
      Option.map_none, Option.getD_none, zero_sub]
  · simp [Numeral.cut, hsome]
  · rw [digits_cut, hall]
    exact hdigits
  · rw [text_cut hcuts hsome, placePoint, if_neg (not_le.2 hexponent), hplaces, neg_neg,
      Int.toNat_natCast, digitsOf]
    rfl

theorem tells_power (hdigits : s.digits ≤ 10 ^ 17) :
    ∃ n : Numeral, n.Tells negative s ∧ n.text = signed negative (withPower s) := by
  have hall := @Nat.ofDigitChars_ten_toDigits s.digits
  have hdigit := @isDigit_toDigits s.digits
  have hleading : s.leading = s.exponent + ((Nat.toDigits 10 s.digits).length - 1 : Nat) := rfl
  obtain ⟨d, rest, hchars⟩ : ∃ d rest, Nat.toDigits 10 s.digits = d :: rest :=
    List.exists_cons_of_ne_nil Nat.toDigits_ne_nil
  rw [hchars] at hall hdigit hleading
  have hcuts : Cuts (d :: rest) 1 := ⟨hdigit, by simp, fun hfirst => by cases hfirst; rfl⟩
  let power : Power := ⟨false, some (decide (s.leading < 0)), .ofNat s.leading.natAbs⟩
  have hpower : power.value = s.leading := by
    simp only [power, Power.value, Digits.value_ofNat, Option.some.injEq, decide_eq_true_eq]
    split <;> omega
  refine ⟨.cut negative hcuts (some power), ⟨rfl, ?_, .inr rfl, ?_, fun p hp => ?_⟩, ?_⟩
  · have hscale : s.leading - ((d :: rest).drop 1).length = s.exponent := by
      rw [hleading]
      simp
    rw [Numeral.magnitude, digits_cut, scale_cut, hall, Option.map_some, Option.getD_some, hpower,
      hscale, Scaled.value]
  · rw [digits_cut, hall]
    exact hdigits
  · cases hp
    exact Digits.value_ofNat _
  · rw [withPower, digitsOf, hchars, ← hleading]
    cases rest <;> simp [Numeral.cut, Numeral.text, Numeral.unsigned, Numeral.placesText,
      Numeral.powerText, power, Power.text, Power.sign, Digits.ofNat, digitsOf]

/-- Either layout tells the decimal. -/
theorem exists_tells (hzero : s.digits = 0 → s.exponent = 0) (hdigits : s.digits ≤ 10 ^ 17)
    (negative : Bool) :
    ∃ n : Numeral, n.Tells negative s ∧ n.text = signed negative
      (if figure.isPlain s then placePoint figure.keepsPoint s else withPower s) := by
  by_cases hplain : figure.isPlain s = true
  · have hbounds : -5 ≤ s.leading ∧ s.leading ≤ 15 := by
      simpa [Style.isPlain, figure] using hplain
    rw [if_pos hplain]
    rcases le_or_gt 0 s.exponent with hwhole | hfraction
    · exact tells_whole hzero hbounds.2 hwhole
    · exact tells_fraction hzero hdigits hfraction
  · rw [if_neg hplain]
    exact tells_power hdigits

end Layout

/-! ### Figures -/

variable {x y : Float}

/-- A finite figure is written as a number that amounts to its shortest decimal. -/
theorem figureText_of_isFinite (hx : x.isFinite = true) :
    ∃ negative b n, Double.ofFloat x = .finite negative b ∧
      Numeral.Tells n negative (shortest b .even) ∧ figureText x = n.text := by
  obtain ⟨negative, b, hparts⟩ := exists_ofFloat hx
  have hb := isDouble_of_ofFloat hparts
  obtain ⟨n, htells, htext⟩ := exists_tells (shortest_of_digits hb .even)
    (shortest_admits hb .even).2 negative
  refine ⟨negative, b, n, hparts, htells, ?_⟩
  rw [htext, figureText, if_pos hx, Style.write, hparts]
  rfl

theorem figureText_of_not_isFinite (hx : ¬ x.isFinite = true) : figureText x = "null".toList :=
  if_neg hx

theorem Numeral.text_ne_null (n : Numeral) : n.text ≠ "null".toList := by
  obtain ⟨c, rest, hchars, hdigit, -⟩ := n.whole.exists_cons
  rw [text, unsigned, hchars, Decimal.signed]
  split
  · simp
  · intro h
    obtain rfl : c = 'n' := (List.cons.inj h).1
    cases hdigit

theorem figureText_ne_null {x : Float} (hx : x.isFinite = true) : figureText x ≠ "null".toList := by
  obtain ⟨_, _, n, -, -, htext⟩ := figureText_of_isFinite hx
  rw [htext]
  exact n.text_ne_null

/-- Finite figures are told apart by their texts. -/
theorem figureText_eq_iff :
    figureText x = figureText y ↔ x = y ∨ ¬ x.isFinite = true ∧ ¬ y.isFinite = true := by
  constructor
  · intro h
    by_cases hx : x.isFinite = true <;> by_cases hy : y.isFinite = true
    · obtain ⟨negative, b, n, hparts, htells, htext⟩ := figureText_of_isFinite hx
      obtain ⟨negative', b', n', hparts', htells', htext'⟩ := figureText_of_isFinite hy
      obtain rfl := Numeral.text_inj (htext.symm.trans (h.trans htext'))
      obtain rfl := htells.negative.symm.trans htells'.negative
      have hb := isDouble_of_ofFloat hparts
      have hb' := isDouble_of_ofFloat hparts'
      have hvalue := htells.magnitude.symm.trans htells'.magnitude
      have hsame := Binary.eq_of_admits hb hb' (shortest_admits hb .even).1
        (hvalue ▸ (shortest_admits hb' .even).1)
      exact .inl (eq_of_ofFloat hparts (hsame ▸ hparts'))
    · exact absurd (h.trans (figureText_of_not_isFinite hy)) (figureText_ne_null hx)
    · exact absurd (h.symm.trans (figureText_of_not_isFinite hx)) (figureText_ne_null hy)
    · exact .inr ⟨hx, hy⟩
  · rintro (rfl | ⟨hx, hy⟩)
    · rfl
    · rw [figureText_of_not_isFinite hx, figureText_of_not_isFinite hy]

/-! ### Figures that may be missing -/

theorem compact_num? (e : Option Float) :
    (num? e).compact = ((Figure.written e).map figureText).getD "null".toList := by
  cases e with
  | none => rfl
  | some x =>
    by_cases hx : x.isFinite = true
    · rw [Figure.written, Option.filter_some_pos hx]
      rfl
    · rw [Figure.written, Option.filter_some_neg (Bool.eq_false_of_not_eq_true hx)]
      exact figureText_of_not_isFinite hx

theorem isFinite_of_written {e : Option Float} {x : Float} (h : Figure.written e = some x) :
    x.isFinite = true := (Option.filter_eq_some_iff.1 h).2

theorem compact_num?_eq_iff {e e' : Option Float} :
    (num? e).compact = (num? e').compact ↔ Figure.written e = Figure.written e' := by
  rw [compact_num?, compact_num?]
  refine ⟨fun h => ?_, fun h => by rw [h]⟩
  cases he : Figure.written e with
  | none =>
    cases he' : Figure.written e' with
    | none => rfl
    | some y =>
      rw [he, he'] at h
      exact absurd h.symm (figureText_ne_null (isFinite_of_written he'))
  | some x =>
    have hx := isFinite_of_written he
    cases he' : Figure.written e' with
    | none =>
      rw [he, he'] at h
      exact absurd h (figureText_ne_null hx)
    | some y =>
      rw [he, he'] at h
      exact congrArg some ((figureText_eq_iff.1 h).resolve_right fun hxy => hxy.1 hx)

theorem compact_num_eq_iff {x y : Float} : (num x).compact = (num y).compact ↔
    Figure.written (some x) = Figure.written (some y) :=
  @compact_num?_eq_iff (some x) (some y)

end Json

end MinEntropy

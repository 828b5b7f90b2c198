import MinEntropy.Proofs.Json.Figures
import MinEntropy.Proofs.Json.Strings

/-! Passing over values. A scalar of any spelling, and every document without blanks, is passed over
to its last character and no further. -/

namespace MinEntropy.Json

/-- A value without parts, as a text may spell it. -/
inductive Scalar where
  | null
  | bool (b : Bool)
  | number (n : Numeral)
  | string (pieces : List Piece)

def Scalar.text : Scalar → List Char
  | null => "null".toList
  | bool b => (if b then "true" else "false").toList
  | number n => n.text
  | string pieces => '"' :: (pieces.flatMap Piece.text ++ ['"'])

/-- What follows does not go on with a number. -/
def EndsNumber (rest : List Char) : Prop :=
  ∀ c, rest.head? = some c → c.isDigit = false ∧ c ≠ '.' ∧ c ≠ 'e' ∧ c ≠ 'E'

theorem EndsNumber.noDigit {rest : List Char} (h : EndsNumber rest) : NoDigit rest :=
  fun c hc => (h c hc).1

theorem endsNumber_nil : EndsNumber [] := fun _ h => by cases h

theorem endsNumber_cons {c : Char} {rest : List Char}
    (hc : c.isDigit = false ∧ c ≠ '.' ∧ c ≠ 'e' ∧ c ≠ 'E') : EndsNumber (c :: rest) :=
  fun _ h => by
    cases h
    exact hc

/-! ### Numbers -/

section Numbers

variable {rest : List Char} (hrest : EndsNumber rest)

theorem dropDigits_chars {rest : List Char} (d : Digits) (hrest : NoDigit rest) :
    dropDigits (d.chars ++ rest) = rest := dropWhile_isDigit d.isDigit hrest

theorem countDigits_chars {rest : List Char} (d : Digits) (hrest : NoDigit rest) :
    countDigits (d.chars ++ rest) = d.chars.length :=
  congrArg List.length (takeWhile_isDigit d.isDigit hrest)

theorem dropDigits_of_noDigit {rest : List Char} (hrest : NoDigit rest) : dropDigits rest = rest :=
  @dropWhile_isDigit [] _ (by simp) hrest

theorem countDigits_eq_zero_iff {rest : List Char} : countDigits rest = 0 ↔ NoDigit rest := by
  cases rest with
  | nil => simp [countDigits, NoDigit]
  | cons c rest => cases hc : c.isDigit <;> simp [countDigits, NoDigit, hc]

theorem skipDigits_chars {rest : List Char} (d : Digits) (hrest : NoDigit rest) :
    skipDigits (d.chars ++ rest) = .ok ((), rest) := by
  rw [skipDigits, countDigits_chars d hrest, if_neg (List.length_pos_of_ne_nil d.ne_nil).ne',
    dropDigits_chars d hrest]

theorem exponentSign_sign (p : Power) (rest : List Char) :
    exponentSign (p.sign ++ (p.digits.chars ++ rest)) =
      (decide (p.minus? = some true), p.digits.chars ++ rest) := by
  obtain ⟨upper, minus, digits⟩ := p
  rcases minus with _ | _ | _
  · obtain ⟨c, tail, hchars, hdigit, -⟩ := digits.exists_cons
    have hplus : c ≠ '+' := fun h => by rw [h] at hdigit; cases hdigit
    have hminus : c ≠ '-' := fun h => by rw [h] at hdigit; cases hdigit
    rw [Power.sign, List.nil_append, hchars, List.cons_append]
    unfold exponentSign
    split
    · rename_i heq
      exact absurd (List.cons.inj heq).1 hplus
    · rename_i heq
      exact absurd (List.cons.inj heq).1 hminus
    · rfl
  · rfl
  · rfl

include hrest

theorem skipScale_powerText (n : Numeral) : skipScale (n.powerText ++ rest) = .ok ((), rest) := by
  rw [Numeral.powerText]
  split
  · cases rest with
    | nil => rfl
    | cons c rest =>
      obtain ⟨-, -, he, hE⟩ := hrest c rfl
      rw [List.nil_append, skipScale, if_neg (not_or.2 ⟨he, hE⟩)]
  · rename_i p _
    have hletter : (if p.upper then 'E' else 'e') = 'e' ∨ (if p.upper then 'E' else 'e') = 'E' := by
      cases p.upper
      · exact .inl rfl
      · exact .inr rfl
    rw [Power.text, List.cons_append, skipScale, if_pos hletter, skipExponent, List.append_assoc,
      exponentSign_sign]
    exact skipDigits_chars p.digits hrest.noDigit

theorem powerText_append_head {n : Numeral} {c : Char}
    (h : (n.powerText ++ rest).head? = some c) : c.isDigit = false ∧ c ≠ '.' := by
  rw [List.head?_append] at h
  cases hpower : n.powerText.head? with
  | none =>
    rw [hpower] at h
    exact ⟨(hrest c h).1, (hrest c h).2.1⟩
  | some d =>
    rw [hpower] at h
    cases h
    rcases Numeral.powerText_head hpower with rfl | rfl <;> exact ⟨rfl, by decide⟩

theorem noDigit_powerText_append (n : Numeral) : NoDigit (n.powerText ++ rest) := fun _ h =>
  (powerText_append_head hrest h).1

theorem skipFraction_placesText (n : Numeral) :
    skipFraction (n.placesText ++ (n.powerText ++ rest)) = .ok ((), rest) := by
  have hscale := skipScale_powerText hrest n
  have hhead (c) := @powerText_append_head rest hrest n c
  rw [Numeral.placesText]
  split
  · rw [List.nil_append]
    generalize n.powerText ++ rest = tail at *
    cases tail with
    | nil => exact hscale
    | cons c tail => rw [skipFraction, if_neg (hhead c rfl).2, hscale]
  · rename_i d _
    rw [List.cons_append, skipFraction, if_pos rfl,
      skipDigits_chars d (noDigit_powerText_append hrest n)]
    exact hscale

theorem noDigit_placesText_append (n : Numeral) :
    NoDigit (n.placesText ++ (n.powerText ++ rest)) := by
  rw [Numeral.placesText]
  split
  · exact noDigit_powerText_append hrest n
  · exact noDigit_cons rfl

theorem skipUnsigned_unsigned (n : Numeral) :
    skipUnsigned (n.unsigned ++ rest) = .ok ((), rest) := by
  have hfraction := skipFraction_placesText hrest n
  have hnoDigit := noDigit_placesText_append hrest n
  obtain ⟨c, tail, hchars, hdigit, htail⟩ := n.whole.exists_cons
  rw [Numeral.unsigned, List.append_assoc, List.append_assoc]
  rw [hchars, List.cons_append]
  generalize n.placesText ++ (n.powerText ++ rest) = after at *
  rw [skipUnsigned]
  split
  · rename_i hzero
    have hone := n.whole_of_zero (by rw [hchars, hzero]; rfl)
    rw [hchars] at hone
    obtain rfl := (List.cons.inj hone).2
    rw [List.nil_append, if_neg, hfraction]
    cases after with
    | nil => simp
    | cons d after => simp [hnoDigit d rfl]
  · rw [dropDigits, dropWhile_isDigit htail hnoDigit, hfraction]

end Numbers

/-! ### Scalars -/

theorem readWord_append (word rest : List Char) :
    readWord word (word ++ rest) = .ok ((), rest) := by
  induction word with
  | nil => rfl
  | cons c word ih => rw [List.cons_append, readWord, if_pos rfl, ih]

theorem ne_of_isDigit {c d : Char} (hc : c.isDigit = true) (hd : d.isDigit = false) : c ≠ d :=
  fun h => by
    rw [h, hd] at hc
    cases hc

/-- A number begins with a minus or a digit. -/
theorem Numeral.text_head (n : Numeral) :
    ∃ c cs, n.text = c :: cs ∧ (c = '-' ∨ c.isDigit = true) := by
  obtain ⟨c, cs, hchars, hdigit, -⟩ := n.whole.exists_cons
  rw [text, Decimal.signed]
  split
  · exact ⟨_, _, rfl, .inl rfl⟩
  · rw [unsigned, hchars]
    exact ⟨_, _, rfl, .inr hdigit⟩

theorem isSpace_of_isDigit {c : Char} (hc : c.isDigit = true) : isSpace c = false := by
  simp [isSpace, ne_of_isDigit hc (d := ' ') rfl, ne_of_isDigit hc (d := '\n') rfl,
    ne_of_isDigit hc (d := '\t') rfl, ne_of_isDigit hc (d := '\r') rfl]

section Scalars

variable {rest : List Char} (hrest : EndsNumber rest) (fuel : Nat)

include hrest

theorem skipValueWithin_number (n : Numeral) :
    skipValueWithin (fuel + 1) (n.text ++ rest) = .ok ((), rest) := by
  have hunsigned := skipUnsigned_unsigned hrest n
  rw [Numeral.text, Decimal.signed]
  split
  · rw [List.cons_append, skipValueWithin, skipSpace_cons rfl]
    exact hunsigned
  · obtain ⟨c, tail, hchars, hdigit, -⟩ := n.whole.exists_cons
    rw [Numeral.unsigned, hchars, List.cons_append] at hunsigned ⊢
    rw [List.cons_append] at hunsigned ⊢
    rw [skipValueWithin, skipSpace_cons (isSpace_of_isDigit hdigit)]
    dsimp only
    rw [if_neg (ne_of_isDigit hdigit rfl), if_neg (ne_of_isDigit hdigit rfl),
      if_neg (ne_of_isDigit hdigit rfl), if_neg (ne_of_isDigit hdigit rfl), if_pos hdigit,
      hunsigned]

/-- Scalars are passed over. -/
theorem skipValueWithin_scalar (t : Scalar) :
    skipValueWithin (fuel + 1) (t.text ++ rest) = .ok ((), rest) := by
  cases t with
  | null => exact readWord_append "ull".toList rest
  | bool b =>
    cases b with
    | true => exact readWord_append "rue".toList rest
    | false => exact readWord_append "alse".toList rest
  | number n => exact skipValueWithin_number hrest fuel n
  | string pieces =>
    rw [Scalar.text, List.cons_append, List.append_assoc, skipValueWithin, skipSpace_cons rfl]
    exact skipChars_pieces pieces rest

end Scalars

/-! ### Documents -/

/-- Whole numbers. -/
def Numeral.ofNat (n : Nat) : Numeral where
  negative := false
  whole := Digits.ofNat n
  places? := none
  power? := none
  whole_of_zero h := by
    have hzero : n = 0 := by_contra fun hne => head_toDigits_ne n hne h
    rw [hzero]
    rfl

theorem Numeral.text_ofNat (n : Nat) : (ofNat n).text = Nat.toDigits 10 n := by
  simp [ofNat, text, unsigned, placesText, powerText, Decimal.signed, Digits.ofNat]

theorem exists_scalar_quote (s : String) : ∃ t : Scalar, t.text = quote s := by
  obtain ⟨ps, hps⟩ := exists_pieces s.toList
  exact ⟨.string ps, by rw [Scalar.text, hps]; rfl⟩

/-- A figure is spelled as a number or as null. -/
theorem exists_scalar_figureText (x : Float) : ∃ t : Scalar, t.text = figureText x := by
  by_cases hx : x.isFinite = true
  · obtain ⟨_, _, n, -, -, htext⟩ := figureText_of_isFinite hx
    exact ⟨.number n, htext.symm⟩
  · exact ⟨.null, (figureText_of_not_isFinite hx).symm⟩

theorem Scalar.text_head (t : Scalar) :
    ∃ c cs, t.text = c :: cs ∧ isSpace c = false ∧ c ≠ ']' ∧ c ≠ '\x7d' := by
  cases t with
  | null => exact ⟨_, _, rfl, rfl, by decide, by decide⟩
  | bool b => cases b <;> exact ⟨_, _, rfl, rfl, by decide, by decide⟩
  | string => exact ⟨_, _, rfl, rfl, by decide, by decide⟩
  | number n =>
    obtain ⟨c, cs, htext, rfl | hdigit⟩ := n.text_head
    · exact ⟨_, _, htext, rfl, by decide, by decide⟩
    · exact ⟨_, _, htext, isSpace_of_isDigit hdigit, ne_of_isDigit hdigit rfl,
        ne_of_isDigit hdigit rfl⟩

theorem compact_cases (v : Json) :
    (∃ t : Scalar, v.compact = t.text) ∨ (∃ vs, v = .arr vs) ∨ ∃ ms, v = .obj ms := by
  cases v with
  | null => exact .inl ⟨.null, rfl⟩
  | bool b => exact .inl ⟨.bool b, rfl⟩
  | nat n => exact .inl ⟨.number (.ofNat n), (Numeral.text_ofNat n).symm⟩
  | num x =>
    obtain ⟨t, ht⟩ := exists_scalar_figureText x
    exact .inl ⟨t, ht.symm⟩
  | str s =>
    obtain ⟨t, ht⟩ := exists_scalar_quote s
    exact .inl ⟨t, ht.symm⟩
  | arr vs => exact .inr (.inl ⟨vs, rfl⟩)
  | obj ms => exact .inr (.inr ⟨ms, rfl⟩)

theorem compact_head (v : Json) :
    ∃ c cs, v.compact = c :: cs ∧ isSpace c = false ∧ c ≠ ']' ∧ c ≠ '\x7d' := by
  obtain ⟨t, ht⟩ | ⟨vs, rfl⟩ | ⟨ms, rfl⟩ := compact_cases v
  · rw [ht]
    exact t.text_head
  · rcases vs with _ | ⟨v, vs⟩ <;> exact ⟨_, _, rfl, rfl, by decide, by decide⟩
  · rcases ms with _ | ⟨⟨k, v⟩, ms⟩ <;> exact ⟨_, _, rfl, rfl, by decide, by decide⟩

theorem endsNumber_compactElements (vs : List Json) (rest : List Char) :
    EndsNumber (compactElements vs ++ rest) := by
  cases vs <;> exact endsNumber_cons (by decide)

theorem endsNumber_compactMembers (ms : List (String × Json)) (rest : List Char) :
    EndsNumber (compactMembers ms ++ rest) := by
  rcases ms with _ | ⟨⟨k, v⟩, ms⟩ <;> exact endsNumber_cons (by decide)

theorem skipKey_quote (k : String) (rest : List Char) :
    skipKey (quote k ++ ':' :: rest) = .ok ((), rest) := by
  rw [quote_append, skipKey, skipSpace_cons rfl]
  simp only [if_true, skipChars_flatMap_escape, readColon,
    skipSpace_cons (show isSpace ':' = false from rfl)]

section Elements

variable {fuel : Nat} {c : Char} {cs rest : List Char} (hc : isSpace c = false)

include hc

theorem skipElement_value (hvalue : skipValueWithin fuel cs = .ok ((), c :: rest)) :
    skipElement (fuel + 1) false cs =
      if c = ',' then skipElement fuel false rest
      else if c = ']' then .ok ((), rest) else .error .malformed := by
  rw [skipElement]
  simp only [Bool.false_eq_true, if_false, hvalue, skipSpace_cons hc]

theorem skipElement_member (k : String) (hvalue : skipValueWithin fuel cs = .ok ((), c :: rest)) :
    skipElement (fuel + 1) true (quote k ++ ':' :: cs) =
      if c = ',' then skipElement fuel true rest
      else if c = '\x7d' then .ok ((), rest) else .error .malformed := by
  rw [skipElement]
  simp only [if_true, skipKey_quote, hvalue, skipSpace_cons hc]

theorem skipFirst_cons (keyed : Bool) (hclose : c ≠ if keyed then '\x7d' else ']') :
    skipFirst (fuel + 1) keyed (c :: rest) = skipElement fuel keyed (c :: rest) := by
  rw [skipFirst, skipSpace_cons hc]
  exact if_neg hclose

end Elements

theorem skipValueWithin_of_scalar {v : Json} {t : Scalar} {fuel : Nat} {rest : List Char}
    (hv : v.compact = t.text) (hrest : EndsNumber rest) (hfuel : 3 * v.compact.length < fuel) :
    skipValueWithin fuel (v.compact ++ rest) = .ok ((), rest) := by
  obtain ⟨fuel, rfl⟩ := Nat.exists_eq_add_one.2 (Nat.zero_lt_of_lt hfuel)
  rw [hv]
  exact skipValueWithin_scalar hrest fuel t

-- The fuel outlasts the text: no character is paid for more than three times, as a value, as the
-- first part of one and as a part among others.
mutual

/-- A document is passed over. -/
theorem skipValueWithin_compact : ∀ (v : Json) (fuel : Nat) (rest : List Char), EndsNumber rest →
    3 * v.compact.length < fuel → skipValueWithin fuel (v.compact ++ rest) = .ok ((), rest)
  | .arr [], fuel, rest, _, hfuel => by
    obtain ⟨fuel, rfl⟩ : ∃ n, fuel = n + 2 := ⟨fuel - 2, by simp [compact] at hfuel; omega⟩
    rfl
  | .arr (v :: vs), fuel, rest, _, hfuel => by
    simp only [compact, List.cons_append, List.length_cons] at hfuel
    obtain ⟨fuel, rfl⟩ : ∃ n, fuel = n + 2 := ⟨fuel - 2, by omega⟩
    have helements := skipElement_compactElements v vs fuel rest (by omega)
    obtain ⟨c, cs, hhead, hspace, hclose, -⟩ := compact_head v
    simp only [compact, List.cons_append, List.append_assoc]
    rw [skipValueWithin, skipSpace_cons rfl]
    rw [hhead, List.cons_append] at helements ⊢
    exact (skipFirst_cons hspace false hclose).trans helements
  | .obj [], fuel, rest, _, hfuel => by
    obtain ⟨fuel, rfl⟩ : ∃ n, fuel = n + 2 := ⟨fuel - 2, by simp [compact] at hfuel; omega⟩
    rfl
  | .obj ((k, v) :: ms), fuel, rest, _, hfuel => by
    simp only [compact, List.cons_append, List.length_cons] at hfuel
    obtain ⟨fuel, rfl⟩ : ∃ n, fuel = n + 2 := ⟨fuel - 2, by omega⟩
    have hmembers := skipElement_compactMembers k v ms fuel rest (by omega)
    simp only [compact, List.cons_append, List.append_assoc] at hmembers ⊢
    rw [skipValueWithin, skipSpace_cons rfl]
    rw [quote_append] at hmembers ⊢
    exact (skipFirst_cons rfl true (by decide)).trans hmembers
  | .null, _, _, hrest, hfuel => skipValueWithin_of_scalar (t := .null) rfl hrest hfuel
  | .bool b, _, _, hrest, hfuel => skipValueWithin_of_scalar (t := .bool b) rfl hrest hfuel
  | .nat n, _, _, hrest, hfuel =>
    skipValueWithin_of_scalar (t := .number (.ofNat n)) (Numeral.text_ofNat n).symm hrest hfuel
  | .num x, _, _, hrest, hfuel =>
    let ⟨_, ht⟩ := exists_scalar_figureText x
    skipValueWithin_of_scalar ht.symm hrest hfuel
  | .str s, _, _, hrest, hfuel =>
    let ⟨_, ht⟩ := exists_scalar_quote s
    skipValueWithin_of_scalar ht.symm hrest hfuel
termination_by v => sizeOf v

theorem skipElement_compactElements : ∀ (v : Json) (vs : List Json) (fuel : Nat)
    (rest : List Char), 3 * (v.compact ++ compactElements vs).length < fuel →
      skipElement fuel false (v.compact ++ (compactElements vs ++ rest)) = .ok ((), rest)
  | v, [], fuel, rest, hfuel => by
    rw [List.length_append] at hfuel
    obtain ⟨fuel, rfl⟩ := Nat.exists_eq_add_one.2 (Nat.zero_lt_of_lt hfuel)
    have hvalue := skipValueWithin_compact v fuel (']' :: rest) (endsNumber_cons (by decide))
      (by simp [compactElements] at hfuel; omega)
    exact skipElement_value rfl hvalue
  | v, v' :: vs, fuel, rest, hfuel => by
    rw [List.length_append, compactElements, List.cons_append, List.length_cons] at hfuel
    obtain ⟨fuel, rfl⟩ := Nat.exists_eq_add_one.2 (Nat.zero_lt_of_lt hfuel)
    have hvalue := skipValueWithin_compact v fuel _ (endsNumber_compactElements (v' :: vs) rest)
      (by omega)
    have helements := skipElement_compactElements v' vs fuel rest (by omega)
    rw [compactElements, List.cons_append, List.cons_append, List.append_assoc] at hvalue ⊢
    exact (skipElement_value rfl hvalue).trans helements
termination_by v vs => sizeOf v + sizeOf vs

theorem skipElement_compactMembers : ∀ (k : String) (v : Json) (ms : List (String × Json))
    (fuel : Nat) (rest : List Char),
    3 * (quote k ++ ':' :: v.compact ++ compactMembers ms).length < fuel →
      skipElement fuel true (quote k ++ ':' :: v.compact ++ (compactMembers ms ++ rest)) =
        .ok ((), rest)
  | k, v, [], fuel, rest, hfuel => by
    simp only [List.length_append, List.length_cons] at hfuel
    obtain ⟨fuel, rfl⟩ := Nat.exists_eq_add_one.2 (Nat.zero_lt_of_lt hfuel)
    have hvalue := skipValueWithin_compact v fuel ('\x7d' :: rest) (endsNumber_cons (by decide))
      (by omega)
    rw [List.append_assoc, List.cons_append]
    exact skipElement_member rfl k hvalue
  | k, v, (k', v') :: ms, fuel, rest, hfuel => by
    simp only [List.length_append, List.length_cons, compactMembers] at hfuel
    obtain ⟨fuel, rfl⟩ := Nat.exists_eq_add_one.2 (Nat.zero_lt_of_lt hfuel)
    have hvalue := skipValueWithin_compact v fuel _
      (endsNumber_compactMembers ((k', v') :: ms) rest) (by omega)
    have hmembers := skipElement_compactMembers k' v' ms fuel rest
      (by simp only [List.length_append, List.length_cons]; omega)
    simp only [compactMembers, List.cons_append, List.append_assoc] at hvalue hmembers ⊢
    exact (skipElement_member rfl k hvalue).trans hmembers
termination_by _ v ms => sizeOf v + sizeOf ms

end

end MinEntropy.Json

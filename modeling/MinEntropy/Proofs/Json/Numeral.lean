import MinEntropy.Json.Skip
import MinEntropy.Json.Value
import MinEntropy.Proofs.Decimal.Doubles

/-! Numbers as JSON writes them, part by part. A text is a number in one way at most, and figures
are such texts. -/

namespace MinEntropy.Json

/-- Digits of ASCII, at least one. -/
structure Digits where
  chars : List Char
  isDigit : ∀ c ∈ chars, c.isDigit = true
  ne_nil : chars ≠ []

/-- A power of ten after its letter. -/
structure Power where
  upper : Bool
  /-- Whether the sign, if there is one, is a minus. -/
  minus? : Option Bool
  digits : Digits

/-- A number of JSON. A zero in front stands alone. -/
structure Numeral where
  negative : Bool
  whole : Digits
  places? : Option Digits
  power? : Option Power
  whole_of_zero : whole.chars.head? = some '0' → whole.chars = ['0']

/-- What follows does not go on with a digit. -/
def NoDigit (rest : List Char) : Prop := ∀ c, rest.head? = some c → c.isDigit = false

namespace Digits

def value (d : Digits) : Nat := Nat.ofDigitChars 10 d.chars 0

@[ext] theorem ext {d d' : Digits} (h : d.chars = d'.chars) : d = d' := by
  cases d
  cases d'
  simp_all

/-- The digits of a number. -/
def ofNat (n : Nat) : Digits where
  chars := Nat.toDigits 10 n
  isDigit _ hc := Nat.isDigit_of_mem_toDigits (by decide) (by decide) hc
  ne_nil := Nat.toDigits_ne_nil

@[simp] theorem value_ofNat (n : Nat) : (ofNat n).value = n := Nat.ofDigitChars_ten_toDigits

theorem exists_cons (d : Digits) :
    ∃ c rest, d.chars = c :: rest ∧ c.isDigit = true ∧ ∀ c ∈ rest, c.isDigit = true := by
  obtain ⟨chars, hdigit, hne⟩ := d
  cases chars with
  | nil => exact absurd rfl hne
  | cons c rest => exact ⟨c, rest, rfl, hdigit c (by simp), fun c hc => hdigit c (by simp [hc])⟩

end Digits

namespace Power

def sign (p : Power) : List Char :=
  match p.minus? with
  | none => []
  | some minus => [if minus then '-' else '+']

def text (p : Power) : List Char := (if p.upper then 'E' else 'e') :: (p.sign ++ p.digits.chars)

def value (p : Power) : Int :=
  if p.minus? = some true then -p.digits.value else p.digits.value

end Power

namespace Numeral

def placesText (n : Numeral) : List Char :=
  match n.places? with
  | none => []
  | some d => '.' :: d.chars

def powerText (n : Numeral) : List Char :=
  match n.power? with
  | none => []
  | some p => p.text

/-- The text after the sign. -/
def unsigned (n : Numeral) : List Char := n.whole.chars ++ (n.placesText ++ n.powerText)

def text (n : Numeral) : List Char := Decimal.signed n.negative n.unsigned

def places (n : Numeral) : List Char := (n.places?.map (·.chars)).getD []

/-- All digits in front of the power, as one number. -/
def digits (n : Numeral) : Nat := Nat.ofDigitChars 10 (n.whole.chars ++ n.places) 0

/-- The power that is written, or zero. -/
def powerValue (n : Numeral) : Int := (n.power?.map (·.value)).getD 0

/-- The power of ten by which the digits are scaled. -/
def scale (n : Numeral) : Int := n.powerValue - n.places.length

/-- What the number amounts to without its sign. -/
def magnitude (n : Numeral) : ℚ := n.digits * 10 ^ n.scale

/-- There is a point or a power, so this is no plain integer. -/
def IsMarked (n : Numeral) : Prop := n.places?.isSome = true ∨ n.power?.isSome = true

end Numeral

/-! ### A text is a number in one way -/

theorem takeWhile_isDigit {ds rest : List Char} (hds : ∀ c ∈ ds, c.isDigit = true)
    (hrest : NoDigit rest) : (ds ++ rest).takeWhile Char.isDigit = ds := by
  rw [List.takeWhile_append_of_pos hds]
  cases rest with
  | nil => simp
  | cons c rest => simp [hrest c rfl]

theorem dropWhile_isDigit {ds rest : List Char} (hds : ∀ c ∈ ds, c.isDigit = true)
    (hrest : NoDigit rest) : (ds ++ rest).dropWhile Char.isDigit = rest := by
  rw [List.dropWhile_append_of_pos hds]
  cases rest with
  | nil => rfl
  | cons c rest => simp [hrest c rfl]

namespace Digits

variable {d d' : Digits} {rest rest' : List Char}

theorem append_inj (hrest : NoDigit rest) (hrest' : NoDigit rest')
    (h : d.chars ++ rest = d'.chars ++ rest') : d = d' ∧ rest = rest' := by
  have hchars := congrArg (List.takeWhile Char.isDigit) h
  rw [takeWhile_isDigit d.isDigit hrest, takeWhile_isDigit d'.isDigit hrest'] at hchars
  exact ⟨ext hchars, List.append_cancel_left (hchars ▸ h)⟩

theorem chars_ne_cons_append {c : Char} (hc : c.isDigit = false) :
    d.chars ++ rest ≠ c :: rest' := by
  obtain ⟨c', tail, hchars, hdigit, -⟩ := d.exists_cons
  rw [hchars, List.cons_append]
  rintro h
  obtain rfl := (List.cons.inj h).1
  rw [hdigit] at hc
  cases hc

end Digits

theorem noDigit_cons {c : Char} {rest : List Char} (hc : c.isDigit = false) :
    NoDigit (c :: rest) := fun _ h => by
  cases h
  exact hc

theorem Power.text_inj {p p' : Power} (h : p.text = p'.text) : p = p' := by
  obtain ⟨upper, minus, digits⟩ := p
  obtain ⟨upper', minus', digits'⟩ := p'
  obtain ⟨hletter, hrest⟩ := List.cons.inj h
  have hupper : upper = upper' := by
    cases upper <;> cases upper' <;> first | rfl | cases hletter
  have hunsigned (d : Digits) (x : Char) (rest : List Char) (hx : x.isDigit = false) :
      d.chars ≠ x :: rest := by
    simpa using @Digits.chars_ne_cons_append d [] rest x hx
  -- A sign is no digit, so the signs agree, and with them the digits.
  have hsign : minus = minus' ∧ digits.chars = digits'.chars := by
    cases minus with
    | none =>
      cases minus' with
      | none => exact ⟨rfl, hrest⟩
      | some m => exact absurd hrest (hunsigned _ _ _ (by cases m <;> rfl))
    | some m =>
      cases minus' with
      | none => exact absurd hrest.symm (hunsigned _ _ _ (by cases m <;> rfl))
      | some m' =>
        obtain ⟨hchar, hchars⟩ := List.cons.inj hrest
        have hminus : m = m' := by cases m <;> cases m' <;> first | rfl | cases hchar
        exact ⟨congrArg some hminus, hchars⟩
  obtain ⟨rfl, hdigits⟩ := hsign
  rw [hupper, Digits.ext hdigits]

theorem Power.text_head (p : Power) : ∃ c rest, p.text = c :: rest ∧ (c = 'e' ∨ c = 'E') := by
  refine ⟨_, _, rfl, ?_⟩
  cases p.upper
  · exact .inl rfl
  · exact .inr rfl

namespace Numeral

variable {n n' : Numeral}

theorem powerText_head {c : Char} (h : n.powerText.head? = some c) : c = 'e' ∨ c = 'E' := by
  rw [powerText] at h
  split at h
  · cases h
  · rename_i p _
    obtain ⟨c', rest, htext, hletter⟩ := p.text_head
    rw [htext] at h
    cases h
    exact hletter

theorem noDigit_powerText (n : Numeral) : NoDigit n.powerText := fun c h => by
  rcases powerText_head h with rfl | rfl <;> rfl

theorem noDigit_placesText (n : Numeral) : NoDigit (n.placesText ++ n.powerText) := by
  rw [placesText]
  split
  · exact n.noDigit_powerText
  · exact noDigit_cons rfl

theorem powerText_inj (h : n.powerText = n'.powerText) : n.power? = n'.power? := by
  rw [powerText, powerText] at h
  cases hp : n.power? with
  | none =>
    cases hp' : n'.power? with
    | none => rfl
    | some p' => simp [hp, hp', Power.text] at h
  | some p =>
    cases hp' : n'.power? with
    | none => simp [hp, hp', Power.text] at h
    | some p' =>
      rw [hp, hp'] at h
      exact congrArg some (Power.text_inj h)

theorem placesText_inj (h : n.placesText ++ n.powerText = n'.placesText ++ n'.powerText) :
    n.places? = n'.places? ∧ n.power? = n'.power? := by
  have hnoPoint (n : Numeral) (rest : List Char) : n.powerText ≠ '.' :: rest := fun heq => by
    rcases @powerText_head n '.' (by rw [heq]; rfl) with hpoint | hpoint <;> cases hpoint
  rw [placesText, placesText] at h
  cases hd : n.places? with
  | none =>
    cases hd' : n'.places? with
    | none =>
      rw [hd, hd'] at h
      exact ⟨rfl, powerText_inj h⟩
    | some d' =>
      rw [hd, hd'] at h
      exact absurd h (hnoPoint _ _)
  | some d =>
    cases hd' : n'.places? with
    | none =>
      rw [hd, hd'] at h
      exact absurd h.symm (hnoPoint _ _)
    | some d' =>
      rw [hd, hd'] at h
      obtain ⟨hplaces, hpower⟩ :=
        Digits.append_inj n.noDigit_powerText n'.noDigit_powerText (List.cons.inj h).2
      exact ⟨congrArg some hplaces, powerText_inj hpower⟩

/-- A text is a number in one way. -/
theorem text_inj (h : n.text = n'.text) : n = n' := by
  have hdigit (n : Numeral) (rest : List Char) : n.unsigned ≠ '-' :: rest :=
    Digits.chars_ne_cons_append rfl
  have hsign : n.negative = n'.negative ∧ n.unsigned = n'.unsigned := by
    rw [text, text, Decimal.signed, Decimal.signed] at h
    split at h <;> split at h <;> rename_i hn hn'
    · exact ⟨hn.trans hn'.symm, (List.cons.inj h).2⟩
    · exact absurd h.symm (hdigit _ _)
    · exact absurd h (hdigit _ _)
    · exact ⟨(Bool.eq_false_of_not_eq_true hn).trans (Bool.eq_false_of_not_eq_true hn').symm, h⟩
  obtain ⟨hwhole, hrest⟩ :=
    Digits.append_inj n.noDigit_placesText n'.noDigit_placesText hsign.2
  obtain ⟨hplaces, hpower⟩ := placesText_inj hrest
  obtain ⟨hnegative, -⟩ := hsign
  cases n
  cases n'
  simp_all

end Numeral

end MinEntropy.Json

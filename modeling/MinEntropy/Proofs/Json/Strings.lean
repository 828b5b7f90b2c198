import Mathlib
import MinEntropy.Json.Decode
import MinEntropy.Json.Value

/-! Strings in documents. Every escape is undone where the string is read, and passed over where
nobody asked for it; so a written string ends where it was written to end, whatever is in it. -/

namespace MinEntropy.Json

variable {c d : Char} {cs rest : List Char}

/-! ### Single characters -/

theorem readChars_close : readChars ('"' :: cs) = .ok ([], cs) := by
  rw [readChars, if_pos rfl]

theorem readChars_escaped (h : readEscape cs = .ok (d, rest)) :
    readChars ('\\' :: cs) = (readChars rest).map fun (s, after) => (d :: s, after) := by
  rw [readChars, if_neg (by decide), if_pos rfl]
  split
  · rename_i hread
    rw [h] at hread
    cases hread
  · rename_i hread
    rw [h] at hread
    cases hread
    rfl

theorem readChars_plain (hquote : c ≠ '"') (hslash : c ≠ '\\') (hcontrol : ¬ c.toNat < 0x20) :
    readChars (c :: cs) = (readChars cs).map fun (s, after) => (c :: s, after) := by
  rw [readChars, if_neg hquote, if_neg hslash, if_neg hcontrol]

theorem skipChars_close : skipChars ('"' :: cs) = .ok ((), cs) := by
  rw [skipChars, if_pos rfl]

theorem skipChars_escaped (h : skipEscape cs = .ok ((), rest)) :
    skipChars ('\\' :: cs) = skipChars rest := by
  rw [skipChars, if_neg (by decide), if_pos rfl]
  split
  · rename_i hskip
    rw [h] at hskip
    cases hskip
  · rename_i hskip
    rw [h] at hskip
    cases hskip
    rfl

theorem skipChars_plain (hquote : c ≠ '"') (hslash : c ≠ '\\') (hcontrol : ¬ c.toNat < 0x20) :
    skipChars (c :: cs) = skipChars cs := by
  rw [skipChars, if_neg hquote, if_neg hslash, if_neg hcontrol]

theorem hexDigit?_hexDigit : ∀ n < 16, Text.hexDigit? (hexDigit n) = some n := by decide

/-- The four digits of a control character. -/
theorem hex4?_control {n : Nat} (hn : n < 0x20) :
    hex4? '0' '0' (hexDigit (n / 16)) (hexDigit (n % 16)) = some n := by
  rw [hex4?, hexDigit?_hexDigit _ (by omega), hexDigit?_hexDigit _ (by omega)]
  change some (0 + 0 + n / 16 * 16 + n % 16) = some n
  rw [Nat.add_zero, Nat.zero_add, Nat.div_add_mod']

theorem readCodeUnit_control (hc : c.toNat < 0x20) :
    readCodeUnit ('0' :: '0' :: hexDigit (c.toNat / 16) :: hexDigit (c.toNat % 16) :: rest) =
      .ok (c, rest) := by
  have hlow : isLowSurrogate c.toNat = false := by
    rw [isLowSurrogate, Bool.and_eq_false_iff]
    exact .inl (decide_eq_false (by omega))
  have hhigh : isHighSurrogate c.toNat = false := by
    rw [isHighSurrogate, Bool.and_eq_false_iff]
    exact .inl (decide_eq_false (by omega))
  rw [readCodeUnit, readHex4, hex4?_control hc]
  simp only [hlow, hhigh, Bool.false_eq_true, if_false, Char.ofNat_toNat]

/-- The characters that have an escape of one letter, and the letter. -/
def letters : List (Char × Char) :=
  [('"', '"'), ('\\', '\\'), ('\x08', 'b'), ('\x0c', 'f'), ('\n', 'n'), ('\r', 'r'), ('\t', 't')]

theorem escape_letter : ∀ p ∈ letters,
    escape p.1 = ['\\', p.2] ∧ p.2 ≠ 'u' ∧ simpleEscape? p.2 = some p.1 := by
  decide

/-- How a character is written: by an escape that stands for it, or as itself. -/
theorem escape_cases (c : Char) :
    (∃ e, escape c = ['\\', e] ∧ e ≠ 'u' ∧ simpleEscape? e = some c) ∨
    (c.toNat < 0x20 ∧ escape c =
      ['\\', 'u', '0', '0', hexDigit (c.toNat / 16), hexDigit (c.toNat % 16)]) ∨
    (c ≠ '"' ∧ c ≠ '\\' ∧ ¬ c.toNat < 0x20 ∧ escape c = [c]) := by
  by_cases hletter : c ∈ letters.map (·.1)
  · obtain ⟨p, hp, rfl⟩ := List.mem_map.1 hletter
    exact .inl ⟨p.2, escape_letter p hp⟩
  · simp only [letters, List.map_cons, List.map_nil, List.mem_cons, List.not_mem_nil, or_false,
      not_or] at hletter
    obtain ⟨hquote, hslash, hb, hf, hn, hr, ht⟩ := hletter
    rw [escape, if_neg hquote, if_neg hslash, if_neg hb, if_neg hf, if_neg hn, if_neg hr, if_neg ht]
    split
    · rename_i hcontrol
      exact .inr (.inl ⟨hcontrol, rfl⟩)
    · rename_i hcontrol
      exact .inr (.inr ⟨hquote, hslash, hcontrol, rfl⟩)

theorem readChars_escape (c : Char) (cs : List Char) :
    readChars (escape c ++ cs) = (readChars cs).map fun (s, after) => (c :: s, after) := by
  obtain ⟨e, htext, hletter, hsimple⟩ | ⟨hcontrol, htext⟩ | ⟨hquote, hslash, hcontrol, htext⟩ :=
    escape_cases c
  · rw [htext]
    refine readChars_escaped ?_
    change readEscape (e :: cs) = _
    rw [readEscape, if_neg hletter, hsimple]
  · rw [htext]
    refine readChars_escaped ?_
    change readEscape ('u' :: '0' :: '0' :: _ :: _ :: cs) = _
    rw [readEscape, if_pos rfl, readCodeUnit_control hcontrol]
  · rw [htext]
    exact readChars_plain hquote hslash hcontrol

/-- A piece of a string, as a text may spell it: a character as it is, or one of the escapes. -/
inductive Piece where
  | plain (c : Char) (h : c ≠ '"' ∧ c ≠ '\\' ∧ ¬ c.toNat < 0x20)
  | letter (e : Char) (h : (simpleEscape? e).isSome = true)
  | unit (a b c d : Char) (h : (hex4? a b c d).isSome = true)

def Piece.text : Piece → List Char
  | plain c _ => [c]
  | letter e _ => ['\\', e]
  | unit a b c d _ => ['\\', 'u', a, b, c, d]

theorem skipChars_piece (p : Piece) (cs : List Char) : skipChars (p.text ++ cs) = skipChars cs := by
  cases p with
  | plain c h => exact skipChars_plain h.1 h.2.1 h.2.2
  | letter e h =>
    refine skipChars_escaped ?_
    have hletter : e ≠ 'u' := fun he => by rw [he] at h; cases h
    change skipEscape (e :: cs) = _
    rw [skipEscape, if_neg hletter, if_pos h]
  | unit a b c d h =>
    refine skipChars_escaped ?_
    obtain ⟨n, hn⟩ := Option.isSome_iff_exists.1 h
    change skipEscape ('u' :: a :: b :: c :: d :: cs) = _
    rw [skipEscape, if_pos rfl, readHex4, hn]
    rfl

theorem exists_piece (c : Char) : ∃ p : Piece, p.text = escape c := by
  obtain ⟨e, htext, -, hsimple⟩ | ⟨hcontrol, htext⟩ | ⟨hquote, hslash, hcontrol, htext⟩ :=
    escape_cases c
  · exact ⟨.letter e (by rw [hsimple]; rfl), htext.symm⟩
  · exact ⟨.unit _ _ _ _ (by rw [hex4?_control hcontrol]; rfl), htext.symm⟩
  · exact ⟨.plain c ⟨hquote, hslash, hcontrol⟩, htext.symm⟩

/-! ### Whole strings -/

theorem readChars_flatMap_escape (s rest : List Char) :
    readChars (s.flatMap escape ++ '"' :: rest) = .ok (s, rest) := by
  induction s with
  | nil => exact readChars_close
  | cons c s ih =>
    rw [List.flatMap_cons, List.append_assoc, readChars_escape, ih]
    rfl

theorem skipChars_pieces (ps : List Piece) (rest : List Char) :
    skipChars (ps.flatMap Piece.text ++ '"' :: rest) = .ok ((), rest) := by
  induction ps with
  | nil => exact skipChars_close
  | cons p ps ih => rw [List.flatMap_cons, List.append_assoc, skipChars_piece, ih]

/-- What is written is one of the spellings. -/
theorem exists_pieces (s : List Char) :
    ∃ ps : List Piece, ps.flatMap Piece.text = s.flatMap escape := by
  induction s with
  | nil => exact ⟨[], rfl⟩
  | cons c s ih =>
    obtain ⟨p, hp⟩ := exists_piece c
    obtain ⟨ps, hps⟩ := ih
    exact ⟨p :: ps, by rw [List.flatMap_cons, List.flatMap_cons, hp, hps]⟩

theorem skipChars_flatMap_escape (s rest : List Char) :
    skipChars (s.flatMap escape ++ '"' :: rest) = .ok ((), rest) := by
  obtain ⟨ps, hps⟩ := exists_pieces s
  rw [← hps, skipChars_pieces]

theorem quote_append (s : String) (rest : List Char) :
    quote s ++ rest = '"' :: (s.toList.flatMap escape ++ '"' :: rest) := by
  simp [quote]

theorem skipSpace_cons (hc : isSpace c = false) : skipSpace (c :: cs) = c :: cs := by
  rw [skipSpace, List.dropWhile_cons_of_neg (by rw [hc]; decide)]

theorem readString_quote (s : String) (rest : List Char) :
    readString (quote s ++ rest) = .ok (s, rest) := by
  rw [quote_append, readString, skipSpace_cons rfl]
  simp only [if_true, readChars_flatMap_escape, Except.map, String.ofList_toList]

theorem readKey_quote (s : String) (rest : List Char) :
    readKey (quote s ++ rest) = .ok (s, rest) := by
  rw [quote_append, readKey, skipSpace_cons rfl]
  simp only [if_true, readChars_flatMap_escape, Except.map, String.ofList_toList]

/-- A written string ends where it was written to end. -/
theorem quote_append_inj {s s' : String} {rest rest' : List Char}
    (h : quote s ++ rest = quote s' ++ rest') : s = s' ∧ rest = rest' := by
  have hread := readString_quote s rest
  rw [h, readString_quote] at hread
  cases hread
  exact ⟨rfl, rfl⟩

end MinEntropy.Json

import Mathlib
import MinEntropy.Text.Utf8

/-! The text of any bytes. Characters are read where their bytes stand; a piece that breaks off a
character is replaced as a whole, and so is each byte with which none begins. That leaves one text
for any bytes, and it is the one that the reader finds byte by byte. -/

namespace MinEntropy.Text.Utf8

open String (utf8EncodeChar)

/-- A character begins with the bytes, or they are the whole of it. -/
def Begins (bytes : List UInt8) : Prop := ∃ c : Char, bytes <+: utf8EncodeChar c

/-- The characters of bytes. -/
inductive Lossy : List UInt8 → List Char → Prop
  | nil : Lossy [] []
  | char (c : Char) {rest : List UInt8} {cs : List Char} (hrest : Lossy rest cs) :
    Lossy (utf8EncodeChar c ++ rest) (c :: cs)
  | broken {piece rest : List UInt8} {cs : List Char} (hsome : piece ≠ [])
    (hbegins : Begins piece) (hpart : ∀ c, utf8EncodeChar c ≠ piece)
    (hend : ∀ b ∈ rest.head?, ¬ Begins (piece ++ [b])) (hrest : Lossy rest cs) :
    Lossy (piece ++ rest) (replacement :: cs)
  | stray {b : UInt8} {rest : List UInt8} {cs : List Char} (hb : ¬ Begins [b])
    (hrest : Lossy rest cs) : Lossy (b :: rest) (replacement :: cs)

/-! ### The bytes of a character -/

/-- The last groups of six bits of a number, each in a byte of its own. -/
def groups : Nat → Nat → List UInt8
  | 0, _ => []
  | k + 1, n => UInt8.ofNat (n / 64 ^ k % 64 + 0x80) :: groups k n

/-- The character of a number begins with the byte, and so many follow it. -/
def Leads (b : UInt8) (more n : Nat) : Prop :=
  more = 0 ∧ n < 0x80 ∧ b.toNat = n ∨
  more = 1 ∧ 0x80 ≤ n ∧ n < 0x800 ∧ b.toNat = n / 64 + 0xc0 ∨
  more = 2 ∧ 0x800 ≤ n ∧ n < 0x10000 ∧ b.toNat = n / 4096 + 0xe0 ∨
  more = 3 ∧ 0x10000 ≤ n ∧ b.toNat = n / 262144 + 0xf0

theorem encode_cons (c : Char) :
    ∃ b more, Leads b more c.toNat ∧ utf8EncodeChar c = b :: groups more c.toNat := by
  have hvalid : c.toNat.isValidChar := c.valid
  have hval : c.val.toNat = c.toNat := rfl
  have htoNat {n : Nat} (hn : n < 256) : (UInt8.ofNat n).toNat = n := UInt8.toNat_ofNat_of_lt' hn
  unfold utf8EncodeChar Leads
  unfold Nat.isValidChar at hvalid
  rw [hval]
  generalize c.toNat = n at *
  dsimp only
  split
  · exact ⟨_, 0, .inl ⟨rfl, by omega, htoNat (by omega)⟩, rfl⟩
  split
  · rw [Nat.mod_eq_of_lt (show n / 64 < 32 by omega)]
    refine ⟨_, 1, .inr (.inl ⟨rfl, by omega, by omega, htoNat (by omega)⟩), ?_⟩
    simp [groups]
  split
  · rw [Nat.mod_eq_of_lt (show n / 4096 < 16 by omega)]
    refine ⟨_, 2, .inr (.inr (.inl ⟨rfl, by omega, by omega, htoNat (by omega)⟩)), ?_⟩
    simp [groups]
  · rw [Nat.mod_eq_of_lt (show n / 262144 < 8 by omega)]
    refine ⟨_, 3, .inr (.inr (.inr ⟨rfl, by omega, htoNat (by omega)⟩)), ?_⟩
    simp [groups]

theorem prefix_singleton_iff {b b' : UInt8} {rest : List UInt8} : [b] <+: b' :: rest ↔ b' = b := by
  rw [List.cons_prefix_cons, eq_comm]
  exact and_iff_left List.nil_prefix

theorem encode_append_inj {c c' : Char} {rest rest' : List UInt8}
    (h : utf8EncodeChar c ++ rest = utf8EncodeChar c' ++ rest') : c = c' ∧ rest = rest' := by
  have hread (c : Char) (rest : List UInt8) :
      (utf8EncodeChar c ++ rest).toByteArray.utf8DecodeChar? 0 = some c := by
    rw [List.toByteArray_append]
    exact ByteArray.utf8DecodeChar?_utf8EncodeChar_append
  have hchar : c = c' := by
    have hsame := hread c rest
    rw [h, hread] at hsame
    exact (Option.some.inj hsame).symm
  subst hchar
  exact ⟨rfl, List.append_cancel_left h⟩

/-! ### What is pending -/

/-- The number of a character that the pending one may become: its next six bits are those of a byte
in the range. -/
def Pending.Covers (p : Pending) (n : Nat) : Prop :=
  ∃ b, p.lo ≤ b ∧ b ≤ p.hi ∧ n / 64 ^ (p.more - 1) = (p.next b).bits

theorem Pending.covers_iff {p : Pending} (hlo : 0x80 ≤ p.lo) (hhi : p.hi ≤ 0xbf) {n : Nat} :
    p.Covers n ↔ n / 64 ^ (p.more - 1) / 64 = p.bits ∧
      p.lo.toNat ≤ n / 64 ^ (p.more - 1) % 64 + 0x80 ∧
      n / 64 ^ (p.more - 1) % 64 + 0x80 ≤ p.hi.toNat := by
  have hmin := UInt8.le_iff_toNat_le.1 hlo
  have hmax := UInt8.le_iff_toNat_le.1 hhi
  change 128 ≤ _ at hmin
  change _ ≤ 191 at hmax
  unfold Covers
  generalize n / 64 ^ (p.more - 1) = m
  constructor
  · rintro ⟨b, hb, hb', hbits⟩
    have hge := UInt8.le_iff_toNat_le.1 hb
    have hle := UInt8.le_iff_toNat_le.1 hb'
    change m = p.bits * 64 + (b.toNat - 0x80) at hbits
    omega
  · rintro ⟨hbits, hge, hle⟩
    have hbyte : (UInt8.ofNat (m % 64 + 0x80)).toNat = m % 64 + 0x80 :=
      UInt8.toNat_ofNat_of_lt' (show _ < 256 by omega)
    refine ⟨UInt8.ofNat (m % 64 + 0x80), UInt8.le_iff_toNat_le.2 ?_, UInt8.le_iff_toNat_le.2 ?_, ?_⟩
    · rwa [hbyte]
    · rwa [hbyte]
    · change m = p.bits * 64 + (_ - 0x80)
      rw [hbyte]
      omega

/-- Once a byte has been read, nothing but the bits so far is known. -/
theorem Pending.covers_next_iff {p : Pending} {b : UInt8} {n : Nat} (hmore : 1 < p.more) :
    (p.next b).Covers n ↔ n / 64 ^ (p.more - 1) = (p.next b).bits := by
  obtain ⟨k, hk⟩ : ∃ k, p.more = k + 2 := ⟨p.more - 2, by omega⟩
  rw [covers_iff (UInt8.le_refl _) (UInt8.le_refl _)]
  change n / 64 ^ (p.more - 1 - 1) / 64 = _ ∧ 128 ≤ _ ∧ _ ≤ 191 ↔ _
  rw [hk, Nat.div_div_eq_div_mul, ← pow_succ]
  change n / 64 ^ (k + 1) = _ ∧ _ ↔ n / 64 ^ (k + 1) = _
  omega

/-- A character has begun with the piece, and all that is known of it is pending. -/
structure Pending.Holds (p : Pending) (piece : List UInt8) : Prop where
  more_pos : 0 < p.more
  ne_nil : piece ≠ []
  lo_ge : 0x80 ≤ p.lo
  lo_le_hi : p.lo ≤ p.hi
  hi_le : p.hi ≤ 0xbf
  covers : ∀ c : Char, piece <+: utf8EncodeChar c → p.Covers c.toNat
  encode : ∀ c : Char, p.Covers c.toNat → utf8EncodeChar c = piece ++ groups p.more c.toNat
  isValid : ∀ n, p.Covers n → n.isValidChar

namespace Pending.Holds

variable {p : Pending} {piece : List UInt8} {b : UInt8} (h : p.Holds piece)

include h

theorem ne_whole (c : Char) : utf8EncodeChar c ≠ piece := by
  intro hwhole
  have hencode := h.encode c (h.covers c (hwhole ▸ List.prefix_rfl))
  obtain ⟨k, hk⟩ := Nat.exists_eq_add_one.2 h.more_pos
  rw [hwhole, hk, groups, List.self_eq_append_right] at hencode
  cases hencode

/-- The bytes of a character go on with the byte of its next six bits. -/
theorem encode_next {c : Char} (hlo : p.lo ≤ b) (hhi : b ≤ p.hi)
    (hbits : c.toNat / 64 ^ (p.more - 1) = (p.next b).bits) :
    utf8EncodeChar c = piece ++ b :: groups (p.more - 1) c.toNat := by
  have hge := UInt8.le_iff_toNat_le.1 (UInt8.le_trans h.lo_ge hlo)
  have hle := UInt8.le_iff_toNat_le.1 (UInt8.le_trans hhi h.hi_le)
  rw [h.encode c ⟨b, hlo, hhi, hbits⟩]
  obtain ⟨k, hk⟩ := Nat.exists_eq_add_one.2 h.more_pos
  rw [hk, Nat.add_sub_cancel] at hbits ⊢
  rw [groups, hbits]
  have hbyte : (p.bits * 64 + (b.toNat - 0x80)) % 64 + 0x80 = b.toNat := by
    change 128 ≤ _ at hge
    change _ ≤ 191 at hle
    omega
  rw [next, hbyte, UInt8.ofNat_toNat]

/-- Every byte in the range leads on to a character. -/
theorem exists_char (hlo : p.lo ≤ b) (hhi : b ≤ p.hi) :
    ∃ c : Char, c.toNat / 64 ^ (p.more - 1) = (p.next b).bits := by
  have hbits : (p.next b).bits * 64 ^ (p.more - 1) / 64 ^ (p.more - 1) = (p.next b).bits :=
    Nat.mul_div_cancel _ (Nat.pow_pos (by decide))
  refine ⟨Char.ofNat ((p.next b).bits * 64 ^ (p.more - 1)), ?_⟩
  rw [Char.toNat_ofNat, if_pos (h.isValid _ ⟨b, hlo, hhi, hbits⟩), hbits]

theorem bits_of_prefix {c : Char} (hc : piece ++ [b] <+: utf8EncodeChar c) :
    p.lo ≤ b ∧ b ≤ p.hi ∧ c.toNat / 64 ^ (p.more - 1) = (p.next b).bits := by
  obtain ⟨b', hlo, hhi, hbits⟩ := h.covers c ((List.prefix_append _ _).trans hc)
  rw [h.encode_next hlo hhi hbits, List.prefix_append_right_inj, List.cons_prefix_cons] at hc
  rw [hc.1]
  exact ⟨hlo, hhi, hbits⟩

theorem begins_iff : Begins (piece ++ [b]) ↔ p.lo ≤ b ∧ b ≤ p.hi := by
  constructor
  · rintro ⟨c, hc⟩
    obtain ⟨hlo, hhi, -⟩ := h.bits_of_prefix hc
    exact ⟨hlo, hhi⟩
  · rintro ⟨hlo, hhi⟩
    obtain ⟨c, hbits⟩ := h.exists_char hlo hhi
    refine ⟨c, ?_⟩
    rw [h.encode_next hlo hhi hbits, List.prefix_append_right_inj, List.cons_prefix_cons]
    exact ⟨rfl, List.nil_prefix⟩

theorem begins : Begins piece := by
  obtain ⟨c, hc⟩ := h.begins_iff.2 ⟨UInt8.le_refl _, h.lo_le_hi⟩
  exact ⟨c, (List.prefix_append _ _).trans hc⟩

theorem encode_last (hlo : p.lo ≤ b) (hhi : b ≤ p.hi) (hmore : p.more = 1) :
    utf8EncodeChar (Char.ofNat (p.next b).bits) = piece ++ [b] := by
  obtain ⟨c, hbits⟩ := h.exists_char hlo hhi
  have hencode := h.encode_next hlo hhi hbits
  rw [hmore] at hbits hencode
  have hchar : Char.ofNat (p.next b).bits = c := by
    rw [← hbits]
    exact (congrArg Char.ofNat (Nat.div_one _)).trans (Char.ofNat_toNat c)
  rw [hchar]
  exact hencode

theorem holds_next (hlo : p.lo ≤ b) (hhi : b ≤ p.hi) (hmore : 1 < p.more) :
    (p.next b).Holds (piece ++ [b]) := by
  refine ⟨Nat.sub_pos_of_lt hmore, List.append_ne_nil_of_right_ne_nil _ (List.cons_ne_nil _ _),
    UInt8.le_refl _, show (0x80 : UInt8) ≤ 0xbf by decide, UInt8.le_refl _, fun c hc => ?_,
    fun c hc => ?_, fun n hn => ?_⟩
  · exact (covers_next_iff hmore).2 (h.bits_of_prefix hc).2.2
  · rw [h.encode_next hlo hhi ((covers_next_iff hmore).1 hc), List.append_assoc]
    rfl
  · exact h.isValid n ⟨b, hlo, hhi, (covers_next_iff hmore).1 hn⟩

end Pending.Holds

/-! ### Where a character may begin -/

section Begin

variable {b : UInt8} {p : Pending}

/-- The first byte of several bounds the second so that the number takes no fewer bytes and is that
of a character. -/
theorem lead?_cases (h : lead? b = some p) :
    p.more = 1 ∧ 0xc2 ≤ b.toNat ∧ b.toNat < 0xe0 ∧ p.bits = b.toNat - 0xc0 ∧
      p.lo.toNat = 0x80 ∧ p.hi.toNat = 0xbf ∨
    p.more = 2 ∧ 0xe0 ≤ b.toNat ∧ b.toNat < 0xf0 ∧ p.bits = b.toNat - 0xe0 ∧
      p.lo.toNat = (if b.toNat = 0xe0 then 0xa0 else 0x80) ∧
      p.hi.toNat = (if b.toNat = 0xed then 0x9f else 0xbf) ∨
    p.more = 3 ∧ 0xf0 ≤ b.toNat ∧ b.toNat < 0xf5 ∧ p.bits = b.toNat - 0xf0 ∧
      p.lo.toNat = (if b.toNat = 0xf0 then 0x90 else 0x80) ∧
      p.hi.toNat = (if b.toNat = 0xf4 then 0x8f else 0xbf) := by
  unfold lead? at h
  dsimp only at h
  split at h
  · cases h
  split at h
  · cases h
    exact .inl ⟨rfl, by omega, by omega, rfl, rfl, rfl⟩
  split at h
  · cases h
    exact .inr (.inl ⟨rfl, by omega, by omega, rfl, apply_ite .., apply_ite ..⟩)
  split at h
  · cases h
    exact .inr (.inr ⟨rfl, by omega, by omega, rfl, apply_ite .., apply_ite ..⟩)
  · cases h

theorem range_of_lead? (h : lead? b = some p) : 0x80 ≤ p.lo ∧ p.lo ≤ p.hi ∧ p.hi ≤ 0xbf := by
  have hcases := lead?_cases h
  rw [UInt8.le_iff_toNat_le, UInt8.le_iff_toNat_le, UInt8.le_iff_toNat_le]
  change 0x80 ≤ _ ∧ _ ∧ _ ≤ 0xbf
  grind

/-- The numbers that a first byte admits, in plain arithmetic. -/
theorem covers_of_lead?_iff (h : lead? b = some p) {n : Nat} : p.Covers n ↔
    p.more = 1 ∧ 0x80 ≤ n ∧ n < 0x800 ∧ b.toNat = n / 64 + 0xc0 ∨
    p.more = 2 ∧ 0x800 ≤ n ∧ n < 0x10000 ∧ n.isValidChar ∧ b.toNat = n / 4096 + 0xe0 ∨
    p.more = 3 ∧ 0x10000 ≤ n ∧ n.isValidChar ∧ b.toNat = n / 262144 + 0xf0 := by
  rw [Pending.covers_iff (range_of_lead? h).1 (range_of_lead? h).2.2]
  unfold Nat.isValidChar
  obtain ⟨hmore, hfirst⟩ | ⟨hmore, hfirst⟩ | ⟨hmore, hfirst⟩ := lead?_cases h
  · have hpow : 64 ^ (p.more - 1) = 1 := by rw [hmore]; rfl
    rw [hpow]
    omega
  · have hpow : 64 ^ (p.more - 1) = 64 := by rw [hmore]; rfl
    obtain ⟨hge, hlt, hbits, hlo, hhi⟩ := hfirst
    rw [hpow]
    split at hlo <;> split at hhi <;> omega
  · have hpow : 64 ^ (p.more - 1) = 4096 := by rw [hmore]; rfl
    obtain ⟨hge, hlt, hbits, hlo, hhi⟩ := hfirst
    rw [hpow]
    split at hlo <;> split at hhi <;> omega

theorem holds_of_lead? (h : lead? b = some p) : p.Holds [b] := by
  have hcases := lead?_cases h
  obtain ⟨hlo, hle, hhi⟩ := range_of_lead? h
  refine ⟨by omega, List.cons_ne_nil _ _, hlo, hle, hhi, fun c hc => ?_, fun c hc => ?_,
    fun n hn => ?_⟩
  · obtain ⟨b', more, hleads, hencode⟩ := encode_cons c
    have hvalid : c.toNat.isValidChar := c.valid
    rw [hencode, prefix_singleton_iff] at hc
    rw [covers_of_lead?_iff h]
    subst hc
    obtain hfirst | hfirst | hfirst | hfirst := hleads <;> omega
  · obtain ⟨b', more, hleads, hencode⟩ := encode_cons c
    rw [covers_of_lead?_iff h] at hc
    have hsame : more = p.more ∧ b'.toNat = b.toNat := by
      unfold Leads at hleads
      obtain ⟨hmore, hge, hlt, hb⟩ | ⟨hmore, hge, hlt, -, hb⟩ | ⟨hmore, hge, -, hb⟩ := hc <;> omega
    rw [hencode, UInt8.toNat_inj.1 hsame.2, hsame.1]
    rfl
  · rw [covers_of_lead?_iff h] at hn
    unfold Nat.isValidChar at *
    omega

theorem encode_of_lt (hb : b < 0x80) : utf8EncodeChar (Char.ofNat b.toNat) = [b] := by
  have hlt : b.toNat < 0x80 := UInt8.lt_iff_toNat_lt.1 hb
  have hnumber : (Char.ofNat b.toNat).toNat = b.toNat := by
    rw [Char.toNat_ofNat, if_pos (.inl (by omega))]
  obtain ⟨b', more, hleads, hencode⟩ := encode_cons (Char.ofNat b.toNat)
  rw [hnumber] at hleads hencode
  have hsame : more = 0 ∧ b'.toNat = b.toNat := by
    unfold Leads at hleads
    omega
  rw [hencode, hsame.1, UInt8.toNat_inj.1 hsame.2]
  rfl

theorem lead?_ne_none (hb : ¬ b < 0x80) (hbegins : Begins [b]) : lead? b ≠ none := by
  obtain ⟨c, hc⟩ := hbegins
  obtain ⟨b', more, hleads, hencode⟩ := encode_cons c
  have hvalid : c.toNat.isValidChar := c.valid
  rw [hencode, prefix_singleton_iff] at hc
  subst hc
  have hge : ¬ b'.toNat < 0x80 := fun hlt => hb (UInt8.lt_iff_toNat_lt.2 hlt)
  unfold Leads at hleads
  unfold Nat.isValidChar at hvalid
  unfold lead?
  dsimp only
  rw [if_neg (by omega)]
  split
  · nofun
  split
  · nofun
  rw [if_pos (by omega)]
  nofun

end Begin

/-! ### Reading on -/

/-- What is known between two bytes: the piece of a character that is pending, if one is. -/
inductive Stands : Option Pending → List UInt8 → Prop
  | clear : Stands none []
  | pending {p : Pending} {piece : List UInt8} (h : p.Holds piece) : Stands (some p) piece

section Read

variable {b : UInt8} {p : Pending} {st : Option Pending} {piece : List UInt8}

theorem decodeFrom_cons (st : Option Pending) (b : UInt8) (rest : List UInt8) :
    decodeFrom st (b :: rest) = (step st b).1 ++ decodeFrom (step st b).2 rest := by
  cases st <;> rfl

/-- A byte that may follow completes a character or leaves one pending. -/
theorem Stands.read_cases (h : Stands st piece) (hb : Begins (piece ++ [b])) :
    (∃ c, utf8EncodeChar c = piece ++ [b] ∧
      ∀ rest, decodeFrom st (b :: rest) = c :: decodeFrom none rest) ∨
    ∃ p, p.Holds (piece ++ [b]) ∧
      ∀ rest, decodeFrom st (b :: rest) = decodeFrom (some p) rest := by
  simp only [decodeFrom_cons]
  cases h with
  | clear =>
    rw [step, begin]
    by_cases hlt : b < 0x80
    · rw [if_pos hlt]
      exact .inl ⟨_, encode_of_lt hlt, fun _ => rfl⟩
    · rw [if_neg hlt]
      obtain ⟨p, hp⟩ := Option.ne_none_iff_exists'.1 (lead?_ne_none hlt hb)
      rw [hp]
      exact .inr ⟨p, holds_of_lead? hp, fun _ => rfl⟩
  | @pending p _ h =>
    obtain ⟨hlo, hhi⟩ := h.begins_iff.1 hb
    have hpos := h.more_pos
    rw [step, if_pos ⟨hlo, hhi⟩]
    dsimp only
    by_cases hmore : p.more = 1
    · rw [if_pos (show (p.next b).more = 0 from Nat.sub_eq_zero_of_le hmore.le)]
      exact .inl ⟨_, h.encode_last hlo hhi hmore, fun _ => rfl⟩
    · rw [if_neg (show (p.next b).more ≠ 0 from Nat.sub_ne_zero_of_lt (by omega))]
      exact .inr ⟨_, h.holds_next hlo hhi (by omega), fun _ => rfl⟩

theorem decodeFrom_of_stray (hb : ¬ Begins [b]) (rest : List UInt8) :
    decodeFrom none (b :: rest) = replacement :: decodeFrom none rest := by
  have hge : ¬ b < 0x80 := fun hlt =>
    hb ⟨Char.ofNat b.toNat, by rw [encode_of_lt hlt]⟩
  have hnone : lead? b = none :=
    Option.eq_none_iff_forall_ne_some.2 fun p hp => hb (holds_of_lead? hp).begins
  rw [decodeFrom_cons, step, begin, if_neg hge, hnone]
  rfl

theorem Pending.Holds.decodeFrom_of_broken (h : p.Holds piece) (hb : ¬ Begins (piece ++ [b]))
    (rest : List UInt8) :
    decodeFrom (some p) (b :: rest) = replacement :: decodeFrom none (b :: rest) := by
  have hstep : step (some p) b = (replacement :: (begin b).1, (begin b).2) :=
    if_neg (mt h.begins_iff.2 hb)
  rw [decodeFrom_cons, hstep, decodeFrom_cons]
  rfl

end Read

/-- The reader finds characters and replacements where they belong. -/
theorem Stands.lossy_decodeFrom (bytes : List UInt8) {st : Option Pending} {piece : List UInt8}
    (h : Stands st piece) : Lossy (piece ++ bytes) (decodeFrom st bytes) := by
  induction bytes generalizing st piece with
  | nil =>
    cases h with
    | clear => exact .nil
    | pending h => exact .broken h.ne_nil h.begins h.ne_whole nofun .nil
  | cons b rest ih =>
    -- A byte that may follow goes on with what stands, whatever that is; one that may not is read
    -- again as if nothing stood before it.
    have hcont {st : Option Pending} {piece : List UInt8} (h : Stands st piece)
        (hb : Begins (piece ++ [b])) : Lossy (piece ++ b :: rest) (decodeFrom st (b :: rest)) := by
      rw [List.append_cons]
      obtain ⟨c, hencode, hread⟩ | ⟨p, hp, hread⟩ := h.read_cases hb
      · rw [hread, ← hencode]
        exact .char c (ih .clear)
      · rw [hread]
        exact ih (.pending hp)
    have hfresh : Lossy (b :: rest) (decodeFrom none (b :: rest)) := by
      by_cases hb : Begins [b]
      · exact hcont .clear hb
      · rw [decodeFrom_of_stray hb]
        exact .stray hb (ih .clear)
    cases h with
    | clear => exact hfresh
    | pending h =>
      by_cases hb : Begins (piece ++ [b])
      · exact hcont (.pending h) hb
      · rw [h.decodeFrom_of_broken hb]
        refine .broken h.ne_nil h.begins h.ne_whole (fun b' hb' => ?_) hfresh
        cases hb'
        exact hb

/-! ### There is only one text -/

theorem not_prefix_of_whole {c c' : Char} {b : UInt8} :
    ¬ utf8EncodeChar c ++ [b] <+: utf8EncodeChar c' := by
  rintro ⟨rest, hrest⟩
  rw [List.append_assoc] at hrest
  obtain ⟨-, hnil⟩ := encode_append_inj (hrest.trans (List.append_nil _).symm)
  cases hnil

/-- The reader comes through every piece of a character. -/
theorem exists_stands (piece : List UInt8) (hbegins : Begins piece)
    (hpart : ∀ c, utf8EncodeChar c ≠ piece) :
    ∃ st, Stands st piece ∧ ∀ rest, decodeFrom none (piece ++ rest) = decodeFrom st rest := by
  -- From the end: without its last byte a piece is still one of the same character.
  induction piece using List.reverseRecOn with
  | nil => exact ⟨none, .clear, fun _ => rfl⟩
  | append_singleton piece b ih =>
    obtain ⟨c, hc⟩ := hbegins
    obtain ⟨st, hst, hread⟩ := ih ⟨c, (List.prefix_append _ _).trans hc⟩ fun c' hwhole =>
      not_prefix_of_whole (hwhole ▸ hc)
    obtain ⟨c', hwhole, -⟩ | ⟨p, hp, hnext⟩ := hst.read_cases ⟨c, hc⟩
    · exact absurd hwhole (hpart c')
    · refine ⟨some p, .pending hp, fun rest => ?_⟩
      rw [List.append_assoc, hread]
      exact hnext rest

theorem decodeFrom_encode (c : Char) (rest : List UInt8) :
    decodeFrom none (utf8EncodeChar c ++ rest) = c :: decodeFrom none rest := by
  obtain hnil | ⟨piece, b, hencode⟩ := List.eq_nil_or_concat (utf8EncodeChar c)
  · exact absurd hnil String.utf8EncodeChar_ne_nil
  rw [List.concat_eq_append] at hencode
  have hwhole : piece ++ [b] <+: utf8EncodeChar c := by rw [hencode]
  obtain ⟨st, hst, hread⟩ := exists_stands piece ⟨c, (List.prefix_append _ _).trans hwhole⟩
    fun c' hc' => not_prefix_of_whole (hc' ▸ hwhole)
  rw [hencode, List.append_assoc, hread]
  obtain ⟨c', hc', hlast⟩ | ⟨p, hp, -⟩ := hst.read_cases ⟨c, hwhole⟩
  · have hsame : utf8EncodeChar c' ++ [] = utf8EncodeChar c ++ [] := by rw [hc', hencode]
    rw [← (encode_append_inj hsame).1]
    exact hlast rest
  · exact absurd hencode (hp.ne_whole c)

theorem Lossy.decodeFrom_eq {bytes : List UInt8} {cs : List Char} (h : Lossy bytes cs) :
    decodeFrom none bytes = cs := by
  induction h with
  | nil => rfl
  | char c _ ih => rw [decodeFrom_encode, ih]
  | @broken piece rest _ hsome hbegins hpart hend _ ih =>
    obtain ⟨st, hst, hread⟩ := exists_stands piece hbegins hpart
    rw [hread]
    cases hst with
    | clear => exact absurd rfl hsome
    | pending h =>
      cases rest with
      | nil => rw [← ih]; rfl
      | cons b rest => rw [h.decodeFrom_of_broken (hend b rfl), ih]
  | stray hb _ ih => rw [decodeFrom_of_stray hb, ih]

/-- Any bytes have one text, and the reader finds it. -/
theorem lossy_iff {bytes : List UInt8} {text : String} :
    Lossy bytes text.toList ↔ lossy bytes = text := by
  constructor
  · intro h
    rw [lossy, h.decodeFrom_eq, String.ofList_toList]
  · rintro rfl
    rw [lossy, String.toList_ofList]
    exact Stands.clear.lossy_decodeFrom bytes

/-! ### Bytes that are a text -/

/-- The bytes of some characters. -/
def IsText (bytes : List UInt8) : Prop := ∃ cs : List Char, bytes = cs.flatMap utf8EncodeChar

theorem decode?_eq_none_iff {bytes : List UInt8} : decode? bytes = none ↔ ¬ IsText bytes := by
  have htext : (ByteArray.mk bytes.toArray).IsValidUTF8 ↔ IsText bytes := by
    constructor
    · rintro ⟨cs, hcs⟩
      have hdata := congrArg ByteArray.data hcs
      rw [List.utf8Encode, List.data_toByteArray] at hdata
      exact ⟨cs, List.toArray_inj hdata⟩
    · rintro ⟨cs, rfl⟩
      refine ⟨cs, ?_⟩
      rw [List.utf8Encode]
      exact ByteArray.ext List.data_toByteArray.symm
  rw [← htext, decode?, String.fromUTF8?]
  split
  · simpa
  · simpa

end MinEntropy.Text.Utf8

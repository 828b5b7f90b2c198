import MinEntropy.Proofs.Json.Passing

/-! Documents that are written alike. A document without blanks is never the beginning of another
one, so two lists or objects have one text only where their parts have, one by one. -/

namespace MinEntropy.Json

/-- Of two texts that go on, neither document is the beginning of the other. -/
theorem compact_append_inj {v v' : Json} {rest rest' : List Char} (hrest : EndsNumber rest)
    (hrest' : EndsNumber rest') (h : v.compact ++ rest = v'.compact ++ rest') :
    v.compact = v'.compact ∧ rest = rest' := by
  let fuel := 3 * (v.compact.length + v'.compact.length) + 1
  have hskip := skipValueWithin_compact v fuel rest hrest (by omega)
  rw [h, skipValueWithin_compact v' fuel rest' hrest' (by omega)] at hskip
  cases hskip
  exact ⟨List.append_cancel_right h, rfl⟩

/-! ### Parts -/

theorem compactElements_inj {vs vs' : List Json} (h : compactElements vs = compactElements vs') :
    List.Forall₂ (fun v v' => v.compact = v'.compact) vs vs' := by
  have happend (vs : List Json) : EndsNumber (compactElements vs) := by
    simpa using endsNumber_compactElements vs []
  induction vs generalizing vs' with
  | nil =>
    cases vs' with
    | nil => exact .nil
    | cons v' vs' => simp [compactElements] at h
  | cons v vs ih =>
    cases vs' with
    | nil => simp [compactElements] at h
    | cons v' vs' =>
      rw [compactElements, compactElements, List.cons_append, List.cons_append] at h
      obtain ⟨hv, hvs⟩ := compact_append_inj (happend vs) (happend vs') (List.cons.inj h).2
      exact .cons hv (ih hvs)

/-- Two members are written alike. -/
def SameMember (m m' : String × Json) : Prop := m.1 = m'.1 ∧ m.2.compact = m'.2.compact

theorem member_append_inj {k k' : String} {v v' : Json} {ms ms' : List (String × Json)}
    (h : quote k ++ ':' :: v.compact ++ compactMembers ms =
      quote k' ++ ':' :: v'.compact ++ compactMembers ms') :
    SameMember (k, v) (k', v') ∧ compactMembers ms = compactMembers ms' := by
  have happend (ms : List (String × Json)) : EndsNumber (compactMembers ms) := by
    simpa using endsNumber_compactMembers ms []
  rw [List.append_assoc, List.append_assoc] at h
  obtain ⟨hk, hvalue⟩ := quote_append_inj h
  obtain ⟨hv, hms⟩ := compact_append_inj (happend ms) (happend ms') (List.cons.inj hvalue).2
  exact ⟨⟨hk, hv⟩, hms⟩

theorem compactMembers_inj {ms ms' : List (String × Json)}
    (h : compactMembers ms = compactMembers ms') : List.Forall₂ SameMember ms ms' := by
  induction ms generalizing ms' with
  | nil =>
    rcases ms' with _ | ⟨⟨k', v'⟩, ms'⟩
    · exact .nil
    · simp [compactMembers] at h
  | cons m ms ih =>
    obtain ⟨k, v⟩ := m
    rcases ms' with _ | ⟨⟨k', v'⟩, ms'⟩
    · simp [compactMembers] at h
    · rw [compactMembers, compactMembers] at h
      obtain ⟨hm, hms⟩ := member_append_inj (List.cons.inj h).2
      exact .cons hm (ih hms)

/-! ### Values -/

/-- Two lists are written alike when their elements are, one by one. -/
theorem compact_arr_eq_iff {vs vs' : List Json} : (arr vs).compact = (arr vs').compact ↔
    List.Forall₂ (fun v v' => v.compact = v'.compact) vs vs' := by
  have hclose (v : Json) (vs : List Json) : ']' :: [] ≠ v.compact ++ compactElements vs := by
    obtain ⟨c, cs, hhead, -, hne, -⟩ := compact_head v
    rw [hhead]
    exact fun heq => hne (List.cons.inj heq).1.symm
  have hcompact (v : Json) (vs : List Json) :
      (arr (v :: vs)).compact = '[' :: (v.compact ++ compactElements vs) := rfl
  constructor
  · intro h
    rcases vs with _ | ⟨v, vs⟩ <;> rcases vs' with _ | ⟨v', vs'⟩
    · exact .nil
    · exact absurd (List.cons.inj h).2 (hclose v' vs')
    · exact absurd (List.cons.inj h).2.symm (hclose v vs)
    · refine @compactElements_inj (v :: vs) (v' :: vs') ?_
      rw [hcompact, hcompact] at h
      exact congrArg (',' :: ·) (List.cons.inj h).2
  · intro h
    have helements : compactElements vs = compactElements vs' := by
      induction h with
      | nil => rfl
      | cons hv _ ih => rw [compactElements, compactElements, hv, ih]
    cases h with
    | nil => rfl
    | cons hv _ =>
      rw [hcompact, hcompact]
      exact congrArg ('[' :: ·) (List.cons.inj helements).2

/-- Two objects are written alike when their members are, one by one. -/
theorem compact_obj_eq_iff {ms ms' : List (String × Json)} :
    (obj ms).compact = (obj ms').compact ↔ List.Forall₂ SameMember ms ms' := by
  have hcompact (m : String × Json) (ms : List (String × Json)) : (obj (m :: ms)).compact =
      '\x7b' :: (quote m.1 ++ ':' :: m.2.compact ++ compactMembers ms) := rfl
  constructor
  · intro h
    rcases ms with _ | ⟨m, ms⟩ <;> rcases ms' with _ | ⟨m', ms'⟩
    · exact .nil
    · cases (List.cons.inj (List.cons.inj h).2).1
    · cases (List.cons.inj (List.cons.inj h).2).1
    · refine @compactMembers_inj (m :: ms) (m' :: ms') ?_
      rw [hcompact, hcompact] at h
      exact congrArg (',' :: ·) (List.cons.inj h).2
  · intro h
    have hmembers : compactMembers ms = compactMembers ms' := by
      induction h with
      | nil => rfl
      | cons hm _ ih => rw [compactMembers, compactMembers, hm.1, hm.2, ih]
    cases h with
    | nil => rfl
    | cons hm _ =>
      rw [hcompact, hcompact]
      exact congrArg ('\x7b' :: ·) (List.cons.inj hmembers).2

theorem compact_str_eq_iff {s s' : String} : (str s).compact = (str s').compact ↔ s = s' :=
  ⟨fun h => (quote_append_inj (congrArg (· ++ []) h)).1, fun h => by rw [h]⟩

theorem compact_nat_eq_iff {n n' : Nat} : (nat n).compact = (nat n').compact ↔ n = n' := by
  refine ⟨fun h => ?_, fun h => by rw [h]⟩
  change Nat.toDigits 10 n = Nat.toDigits 10 n' at h
  rw [← @Nat.ofDigitChars_ten_toDigits n, h, Nat.ofDigitChars_ten_toDigits]

theorem compact_bool_eq_iff {b b' : Bool} : (bool b).compact = (bool b').compact ↔ b = b' := by
  revert b b'
  decide

end MinEntropy.Json

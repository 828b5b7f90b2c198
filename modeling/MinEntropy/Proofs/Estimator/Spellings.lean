import MinEntropy.Estimator.Document
import MinEntropy.Proofs.Json.Recovery

/-! The texts that an outcome is read from. An object may have its members in any order and others
among them; what counts is that none of its own is there twice and that name and verdict are there.
A list of the three parts is read as the object is. -/

namespace MinEntropy.Outcome

open Json

/-- The names of the members that an outcome has. -/
def ownKeys : List String := ["name", "entropy_estimate", "passed"]

/-- A member of an object that may be read as an outcome: one of an outcome's own, or one of another
name whose value has no parts. -/
inductive Member where
  | name (s : String)
  | estimate (e : Option Float)
  | passed (b : Bool)
  | other (key : String) (value : Scalar) (foreign : key ∉ ownKeys)

namespace Member

def key : Member → String
  | name _ => "name"
  | estimate _ => "entropy_estimate"
  | passed _ => "passed"
  | other key _ _ => key

def value : Member → List Char
  | name s => quote s
  | estimate e => (num? e).compact
  | passed b => (bool b).compact
  | other _ value _ => value.text

def text (m : Member) : List Char := quote m.key ++ ':' :: m.value

def isOwn : Member → Bool
  | other .. => false
  | _ => true

end Member

/-- The members after the first, and the brace. -/
def membersText : List Member → List Char
  | [] => ['\x7d']
  | m :: ms => ',' :: m.text ++ membersText ms

/-- An object with the given members, in the given order. -/
def objectText : List Member → List Char
  | [] => ['\x7b', '\x7d']
  | m :: ms => '\x7b' :: m.text ++ membersText ms

def ownMembers (o : Outcome) : List Member := [.name o.name, .estimate o.estimate, .passed o.passed]

theorem objectText_ownMembers (o : Outcome) : objectText o.ownMembers = o.json.compact := by
  simp [objectText, membersText, ownMembers, Member.text, Member.key, Member.value, json, members,
    compact, compactMembers, scalar]

/-! ### Members one by one -/

/-- What has been read once a member has been added, unless it was there before. -/
def Draft.add? (d : Draft) : Member → Option Draft
  | .name s => if d.name.isSome then none else some { d with name := some s }
  | .estimate e => if d.estimate.isSome then none else some { d with estimate := some (reread e) }
  | .passed b => if d.passed.isSome then none else some { d with passed := some b }
  | .other .. => some d

/-- What has been read after some members. -/
def Draft.addAll? (d : Option Draft) (ms : List Member) : Option Draft :=
  ms.foldl (fun d m => d.bind (·.add? m)) d

/-- An answer to what was read, or the fault of a value that does not fit. -/
def orUnfit (a : Option α) : Except Fault α :=
  match a with
  | some a => .ok a
  | none => .error .unfit

theorem readColon_colon (rest : List Char) : readColon (':' :: rest) = .ok ((), rest) := rfl

theorem once_eq {seen : Option α} {read : List Char → Reading α} {rest after : List Char} {a : α}
    (h : read rest = .ok (a, after)) :
    once seen read (':' :: rest) = if seen.isSome then .error .unfit else .ok (a, after) := by
  rw [once, readColon_colon]
  split
  · rfl
  · exact h

theorem readMember_member (m : Member) (d : Draft) {rest : List Char} (hrest : EndsNumber rest) :
    readMember m.key d (':' :: (m.value ++ rest)) =
      (orUnfit (d.add? m)).map fun d' => (d', rest) := by
  cases m with
  | name s =>
    rw [Member.key, Member.value, readMember, if_pos rfl, once_eq (readString_quote s rest),
      Draft.add?]
    split <;> rfl
  | estimate e =>
    rw [Member.key, Member.value, readMember, if_neg (by decide), if_pos rfl,
      once_eq (readFigure?_num? e hrest), Draft.add?]
    split <;> rfl
  | passed b =>
    rw [Member.key, Member.value, readMember, if_neg (by decide), if_neg (by decide), if_pos rfl,
      once_eq (readBool_bool b rest), Draft.add?]
    split <;> rfl
  | other key value hforeign =>
    simp only [ownKeys, List.mem_cons, List.not_mem_nil, or_false, not_or] at hforeign
    obtain ⟨hname, hestimate, hpassed⟩ := hforeign
    rw [Member.key, Member.value, readMember, if_neg hname, if_neg hestimate, if_neg hpassed,
      readColon_colon]
    dsimp only
    rw [skipValue, skipValueWithin_scalar hrest]
    rfl

theorem endsNumber_membersText (ms : List Member) (rest : List Char) :
    EndsNumber (membersText ms ++ rest) := by
  cases ms <;> exact endsNumber_cons (by decide)

theorem addAll?_none (ms : List Member) : Draft.addAll? none ms = none := by
  induction ms with
  | nil => rfl
  | cons m ms ih => exact ih

/-- One member and those after it. -/
theorem readMembers_member (m : Member) (ms : List Member) (d : Draft) (fuel : Nat)
    (rest : List Char)
    (ih : ∀ d, readMembers readMember fuel false d (membersText ms ++ rest) =
      (orUnfit (Draft.addAll? (some d) ms)).map fun d' => (d', rest)) :
    (do
      let (key, cs) ← readKey (m.text ++ (membersText ms ++ rest))
      let (d, cs) ← readMember key d cs
      readMembers readMember fuel false d cs) =
    (orUnfit (Draft.addAll? (some d) (m :: ms))).map fun d' => (d', rest) := by
  have hmember := readMember_member m d (endsNumber_membersText ms rest)
  rw [Member.text, List.append_assoc, readKey_quote, List.cons_append]
  change (readMember m.key d (':' :: (m.value ++ (membersText ms ++ rest)))).bind _ = _
  rw [hmember]
  cases hadd : d.add? m with
  | none =>
    have hall : Draft.addAll? (some d) (m :: ms) = none := by
      rw [Draft.addAll?, List.foldl_cons, Option.bind_some, hadd]
      exact addAll?_none ms
    rw [hall]
    rfl
  | some d' =>
    have hall : Draft.addAll? (some d) (m :: ms) = Draft.addAll? (some d') ms := by
      rw [Draft.addAll?, List.foldl_cons, Option.bind_some, hadd, Draft.addAll?]
    rw [hall]
    exact ih d'

theorem readMembers_membersText (ms : List Member) (d : Draft) (fuel : Nat)
    (hfuel : ms.length < fuel) (rest : List Char) :
    readMembers readMember fuel false d (membersText ms ++ rest) =
      (orUnfit (Draft.addAll? (some d) ms)).map fun d' => (d', rest) := by
  obtain ⟨fuel, rfl⟩ := Nat.exists_eq_add_one.2 (Nat.zero_lt_of_lt hfuel)
  induction ms generalizing d fuel with
  | nil => rfl
  | cons m ms ih =>
    rw [List.length_cons] at hfuel
    obtain ⟨fuel, rfl⟩ := Nat.exists_eq_add_one.2 (show 0 < fuel by omega)
    rw [membersText, List.cons_append, List.cons_append, List.append_assoc, readMembers,
      skipSpace_cons rfl]
    exact readMembers_member m ms d _ rest fun d => ih d fuel (by omega)

/-- The outcome of an object, if its members make one. -/
def gather (ms : List Member) : Option Outcome :=
  (Draft.addAll? (some .empty) ms).bind Draft.finish?

theorem length_le_membersText (ms : List Member) : ms.length ≤ (membersText ms).length := by
  induction ms with
  | nil => exact Nat.zero_le _
  | cons m ms ih =>
    rw [membersText, List.cons_append, List.length_cons, List.length_cons, List.length_append]
    omega

theorem readObject_objectText (ms : List Member) :
    Json.readObject readMember .empty (objectText ms).tail =
      (orUnfit (Draft.addAll? (some .empty) ms)).map fun d => (d, []) := by
  cases ms with
  | nil => rfl
  | cons m ms =>
    have hlength := length_le_membersText ms
    have htail : (objectText (m :: ms)).tail = m.text ++ (membersText ms ++ []) := by
      rw [List.append_nil]
      rfl
    have hstart : ∃ cs, m.text ++ (membersText ms ++ []) = '"' :: cs := ⟨_, rfl⟩
    rw [htail, Json.readObject]
    have hfuel : ms.length < (m.text ++ (membersText ms ++ [])).length := by
      have hpos : 0 < m.text.length := by simp [Member.text, quote]
      rw [List.length_append, List.length_append]
      omega
    generalize (m.text ++ (membersText ms ++ [])).length = fuel at *
    obtain ⟨cs, hcs⟩ := hstart
    have hmember := readMembers_member m ms .empty fuel [] fun d =>
      readMembers_membersText ms d fuel hfuel []
    rw [hcs] at hmember ⊢
    rw [readMembers, skipSpace_cons rfl]
    exact hmember

/-- An object is read as what its members make. -/
theorem decode_objectText (ms : List Member) :
    decode read (String.ofList (objectText ms)) = orUnfit (gather ms) := by
  have hbrace : objectText ms = '\x7b' :: (objectText ms).tail := by cases ms <;> rfl
  have hread : read (objectText ms) = (orUnfit (gather ms)).map fun o => (o, []) := by
    rw [hbrace, read, skipSpace_cons rfl]
    change readObject (objectText ms).tail = _
    rw [readObject, readObject_objectText, gather]
    cases Draft.addAll? (some .empty) ms with
    | none => rfl
    | some d =>
      cases hfinish : d.finish? with
      | none => simp [orUnfit, Except.map, hfinish]
      | some o => simp [orUnfit, Except.map, hfinish]
  rw [decode, String.toList_ofList, hread]
  cases gather ms <;> rfl

/-! ### What members make an outcome -/

theorem add?_comm (d : Draft) (m m' : Member) :
    (d.add? m).bind (·.add? m') = (d.add? m').bind (·.add? m) := by
  obtain ⟨name, estimate, passed⟩ := d
  cases m <;> cases m' <;> cases name <;> cases estimate <;> cases passed <;> rfl

/-- The order of members makes no difference. -/
theorem addAll?_perm {ms ms' : List Member} (h : ms.Perm ms') (d : Option Draft) :
    Draft.addAll? d ms = Draft.addAll? d ms' := by
  refine h.foldl_eq' (fun m _ m' _ d => ?_) d
  cases d with
  | none => rfl
  | some d => exact add?_comm d m m'

/-- Members of other names make no difference. -/
theorem addAll?_filter_isOwn (ms : List Member) (d : Option Draft) :
    Draft.addAll? d (ms.filter Member.isOwn) = Draft.addAll? d ms := by
  induction ms generalizing d with
  | nil => rfl
  | cons m ms ih =>
    cases hm : m.isOwn with
    | true => rw [List.filter_cons_of_pos hm]; exact ih _
    | false =>
      have hsame : d.bind (·.add? m) = d := by
        cases m with
        | other => cases d <;> rfl
        | _ => cases hm
      rw [List.filter_cons_of_neg (by rw [hm]; decide), ih]
      change _ = Draft.addAll? (d.bind (·.add? m)) ms
      rw [hsame]

/-- The names of what has been read. -/
def Draft.keys (d : Draft) : List String :=
  (if d.name.isSome then ["name"] else []) ++
    (if d.estimate.isSome then ["entropy_estimate"] else []) ++
    (if d.passed.isSome then ["passed"] else [])

theorem Draft.nodup_keys (d : Draft) : d.keys.Nodup := by
  obtain ⟨name, estimate, passed⟩ := d
  cases name <;> cases estimate <;> cases passed <;> simp [keys]

theorem Draft.keys_add? {d d' : Draft} {m : Member} (h : d.add? m = some d') :
    d'.keys.Perm ((if m.isOwn then [m.key] else []) ++ d.keys) := by
  obtain ⟨name, estimate, passed⟩ := d
  cases m <;> cases name <;> cases estimate <;> cases passed <;> cases h <;>
    (simp [keys, Member.isOwn, Member.key, List.Perm.swap]; try decide)

theorem Draft.keys_addAll? {ms : List Member} {d d' : Draft}
    (h : Draft.addAll? (some d) ms = some d') :
    d'.keys.Perm ((ms.filter Member.isOwn).map Member.key ++ d.keys) := by
  induction ms generalizing d with
  | nil =>
    cases h
    exact .rfl
  | cons m ms ih =>
    change Draft.addAll? (d.add? m) ms = some d' at h
    cases hadd : d.add? m with
    | none =>
      rw [hadd, addAll?_none] at h
      cases h
    | some d₁ =>
      rw [hadd] at h
      refine ((ih h).trans ((keys_add? hadd).append_left _)).trans ?_
      cases hm : m.isOwn with
      | true =>
        rw [List.filter_cons_of_pos hm, if_pos rfl, List.map_cons]
        exact List.perm_middle
      | false =>
        rw [List.filter_cons_of_neg (by rw [hm]; decide), if_neg Bool.false_ne_true]
        exact .rfl

/-- No other member has a name of an outcome's own. -/
theorem count_key {key : String} (hkey : key ∈ ownKeys) (ms : List Member) :
    (ms.map Member.key).count key = ((ms.filter Member.isOwn).map Member.key).count key := by
  induction ms with
  | nil => rfl
  | cons m ms ih =>
    cases m with
    | other k value hforeign =>
      have hne : k ≠ key := fun h => hforeign (h ▸ hkey)
      rw [List.map_cons, List.filter_cons_of_neg Bool.false_ne_true, ← ih]
      exact List.count_cons_of_ne hne
    | _ => rw [List.map_cons, List.filter_cons_of_pos rfl, List.map_cons, List.count_cons,
        List.count_cons, ih]

/-- The members make no outcome: one of its own is there twice, or name or verdict is not there. -/
def Unfit (ms : List Member) : Prop :=
  (∃ key ∈ ownKeys, 2 ≤ (ms.map Member.key).count key) ∨
    "name" ∉ ms.map Member.key ∨ "passed" ∉ ms.map Member.key

theorem gather_of_unfit {ms : List Member} (h : Unfit ms) : gather ms = none := by
  by_contra hsome
  obtain ⟨o, ho⟩ := Option.ne_none_iff_exists'.1 hsome
  obtain ⟨d, hd, hfinish⟩ := Option.bind_eq_some_iff.1 ho
  have hkeys := Draft.keys_addAll? hd
  have hcount (key : String) (hkey : key ∈ ownKeys) :
      (ms.map Member.key).count key = d.keys.count key := by
    rw [count_key hkey, hkeys.count_eq]
    exact congrArg _ (List.append_nil _).symm
  have hthere (key : String) (hkey : key ∈ ownKeys) (hd : key ∈ d.keys) :
      key ∈ ms.map Member.key := by
    rw [← List.count_pos_iff, hcount key hkey]
    exact List.count_pos_iff.2 hd
  obtain ⟨name, estimate, passed⟩ := d
  obtain ⟨key, hkey, htwice⟩ | hname | hpassed := h
  · rw [hcount key hkey] at htwice
    have := List.nodup_iff_count_le_one.1 (Draft.nodup_keys ⟨name, estimate, passed⟩) key
    omega
  · refine hname (hthere _ (by decide) ?_)
    cases name <;> cases passed <;> cases hfinish
    simp [Draft.keys]
  · refine hpassed (hthere _ (by decide) ?_)
    cases name <;> cases passed <;> cases hfinish
    simp [Draft.keys]

/-- The members spell the outcome: its own are there once each, in any order and with others among
them; a missing estimate may be left out. -/
def Spells (o : Outcome) (ms : List Member) : Prop :=
  (ms.filter Member.isOwn).Perm o.ownMembers ∨
    Figure.written o.estimate = none ∧
      (ms.filter Member.isOwn).Perm [.name o.name, .passed o.passed]

/-- The outcome with its estimate as a document gives it back. -/
def reread (o : Outcome) : Outcome := { o with estimate := Json.reread o.estimate }

theorem gather_of_spells {o : Outcome} {ms : List Member} (h : o.Spells ms) :
    gather ms = some o.reread := by
  rw [gather, ← addAll?_filter_isOwn]
  obtain hall | ⟨hnone, hleft⟩ := h
  · rw [addAll?_perm hall]
    rfl
  · rw [addAll?_perm hleft, reread, reread_of_written_eq_none hnone]
    rfl

/-! ### Lists -/

theorem readSeparator_quote (s : String) (rest : List Char) :
    readSeparator true (quote s ++ rest) = .ok ((), quote s ++ rest) := by
  rw [quote_append, readSeparator, skipSpace_cons rfl]
  rfl

theorem readSeparator_comma {v : Json} {cs : List Char} :
    readSeparator false (',' :: (v.compact ++ cs)) = .ok ((), v.compact ++ cs) := by
  obtain ⟨c, rest, hhead, hspace, hclose, -⟩ := compact_head v
  rw [hhead, List.cons_append, readSeparator, skipSpace_cons rfl]
  dsimp only
  rw [if_neg (by decide), if_neg Bool.false_ne_true, if_pos rfl, skipSpace_cons hspace]
  exact if_neg hclose

/-- The three parts of an outcome as a list. -/
def listed (o : Outcome) : Json := .arr [.str o.name, .num? o.estimate, .bool o.passed]

theorem decode_listed (o : Outcome) : decode read (compactText o.listed) = .ok o.reread := by
  have htext : o.listed.compact = '[' :: (quote o.name ++ ',' :: ((num? o.estimate).compact ++
      ',' :: ((bool o.passed).compact ++ [']']))) := by
    simp [listed, compact, compactElements, scalar]
  have hname := readString_quote o.name
    (',' :: ((num? o.estimate).compact ++ ',' :: ((bool o.passed).compact ++ [']'])))
  have hcomma : EndsNumber (',' :: ((bool o.passed).compact ++ [']'])) :=
    endsNumber_cons (by decide)
  have hestimate := readFigure?_num? o.estimate hcomma
  have hpassed := readBool_bool o.passed [']']
  have hread : read o.listed.compact = .ok (o.reread, []) := by
    rw [htext, read, skipSpace_cons rfl]
    dsimp only
    rw [if_pos rfl]
    simp only [readList, readSeparator_quote, hname, readSeparator_comma, hestimate, hpassed, bind,
      Except.bind]
    rfl
  rw [decode, compactText, String.toList_ofList, hread]
  rfl

/-! ### All spellings -/

/-- What comes back of an outcome that was written: its name and verdict as they were, and an
estimate, where there was a finite one, as the number reader takes its digits. -/
structure Reread (o o' : Outcome) : Prop where
  name : o'.name = o.name
  passed : o'.passed = o.passed
  absent : o'.estimate = none ↔ ∀ x, o.estimate = some x → x.isNaN = true ∨ x.isInf = true
  figure : ∀ x, o.estimate = some x → x.isFinite = true →
    ∃ n, readNumber (figureText x) = .ok (n, []) ∧ o'.estimate = some n.toFloat

theorem reread_reread (o : Outcome) : o.Reread o.reread := by
  have hfigure (x : Float) (hx : o.estimate = some x) (hfinite : x.isFinite = true) :
      ∃ n, readNumber (figureText x) = .ok (n, []) ∧ o.reread.estimate = some n.toFloat := by
    obtain ⟨y, hy, halone, -⟩ := reread_of_isFinite hfinite
    exact ⟨.double y, halone, (congrArg Json.reread hx).trans hy⟩
  refine ⟨rfl, rfl, ⟨fun hnone x hx => ?_, fun hall => ?_⟩, hfigure⟩
  · by_contra hnumber
    rw [not_or, Bool.not_eq_true, Bool.not_eq_true] at hnumber
    have hfinite : x.isFinite = true := by rw [Figure.isFinite_eq, hnumber.1, hnumber.2]; rfl
    obtain ⟨n, -, hsome⟩ := hfigure x hx hfinite
    rw [hnone] at hsome
    cases hsome
  · refine reread_of_written_eq_none (Option.filter_eq_none_iff.2 fun x hx hfinite => ?_)
    rw [Figure.isFinite_eq, Bool.and_eq_true, Bool.not_eq_true', Bool.not_eq_true'] at hfinite
    rcases hall x hx with hnan | hinf
    · rw [hfinite.1] at hnan
      cases hnan
    · rw [hfinite.2] at hinf
      cases hinf

theorem spells_ownMembers (o : Outcome) : o.Spells o.ownMembers := .inl .rfl

/-- However an outcome is spelled it is read as the same one, and what makes no outcome is refused
for its content. -/
theorem decode_spellings (o : Outcome) : ∃ o', o.Reread o' ∧
    decode read (compactText o.json) = .ok o' ∧
    decode read (compactText o.listed) = .ok o' ∧
    (∀ ms, o.Spells ms → decode read (String.ofList (objectText ms)) = .ok o') ∧
    ∀ ms, Unfit ms → decode read (String.ofList (objectText ms)) = .error .unfit := by
  have hspells (ms : List Member) (h : o.Spells ms) :
      decode read (String.ofList (objectText ms)) = .ok o.reread := by
    rw [decode_objectText, gather_of_spells h]
    rfl
  have hunfit (ms : List Member) (h : Unfit ms) :
      decode read (String.ofList (objectText ms)) = .error .unfit := by
    rw [decode_objectText, gather_of_unfit h]
    rfl
  have hown := hspells _ o.spells_ownMembers
  rw [objectText_ownMembers] at hown
  exact ⟨o.reread, o.reread_reread, hown, o.decode_listed, hspells, hunfit⟩

/-- Backwards and with a stranger in front, and with one name too many. -/
theorem decode_spellings_backwards :
    let o : Outcome := ⟨"\"\n", some 0.5, true⟩
    let stranger : Member := .other "" .null (by decide)
    o.Spells (stranger :: o.ownMembers.reverse) ∧ Unfit (.name "" :: o.ownMembers) ∧ ∃ o',
      (∃ n, readNumber (figureText 0.5) = .ok (n, []) ∧ o'.estimate = some n.toFloat) ∧
      decode read (String.ofList (objectText (stranger :: o.ownMembers.reverse))) = .ok o' ∧
      decode read (String.ofList (objectText (.name "" :: o.ownMembers))) = .error .unfit := by
  intro o stranger
  have hspells : o.Spells (stranger :: o.ownMembers.reverse) :=
    .inl (List.reverse_perm o.ownMembers)
  have hunfit : Unfit (.name "" :: o.ownMembers) := .inl ⟨"name", by decide, by decide⟩
  obtain ⟨o', hreread, -, -, hread, hrefused⟩ := decode_spellings o
  exact ⟨hspells, hunfit, o', hreread.figure 0.5 rfl (by decide), hread _ hspells,
    hrefused _ hunfit⟩

end MinEntropy.Outcome

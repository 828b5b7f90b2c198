import Mathlib.Data.List.Perm.Basic
import Mathlib.Tactic.MkIffOfInductiveProp
import Mathlib.Tactic.Tauto
import MinEntropy.Proofs.Service.Settlement
import MinEntropy.Proofs.Text.Integer

/-! What the pairs of a query say of an assessment, and what comes of a query that says nothing
sensible. Each parameter may be given once; other pairs, and the order of pairs, do not matter. -/

namespace MinEntropy.Query

/-- The keys of the parameters. -/
def keys : List String := ["word_size", "iid", "non_iid"]

/-- The values that some pairs have for a key. -/
def values (key : String) (list : List (String × String)) : List String :=
  (list.filter (·.1 = key)).map (·.2)

/-- Nothing is given, or a single value that is read. -/
def Gives (Reads : String → α → Prop) (default : α) (vs : List String) (a : α) : Prop :=
  (vs = [] ∧ a = default) ∨ ∃ v, vs = [v] ∧ Reads v a

/-- A decimal of 32 bits. -/
def ReadsWordSize (v : String) (n : Nat) : Prop := Text.IsDecimal v.toList n ∧ n ≤ 4294967295

def ReadsFlag (v : String) (b : Bool) : Prop := v = if b then "true" else "false"

/-- The parameters that pairs stand for. -/
structure Means (list : List (String × String)) (p : Parameters) : Prop where
  wordSize : Gives ReadsWordSize 0 (values "word_size" list) p.wordSize
  iid : Gives ReadsFlag false (values "iid" list) p.iid
  nonIid : Gives ReadsFlag false (values "non_iid" list) p.nonIid

/-- Pairs that stand for parameters. -/
structure IsReadable (list : List (String × String)) : Prop where
  once : ∀ key ∈ keys, (values key list).length ≤ 1
  wordSize : ∀ v ∈ values "word_size" list, ∃ n, ReadsWordSize v n
  flags : ∀ key ∈ ["iid", "non_iid"], ∀ v ∈ values key list, v = "true" ∨ v = "false"

/-! ### Values -/

section Values

variable {key key' : String} {v : String} {list list' : List (String × String)}

theorem values_singleton : values key [(key', v)] = if key' = key then [v] else [] := by
  by_cases hkey : key' = key <;> simp [values, hkey]

theorem values_append (list list' : List (String × String)) :
    values key (list ++ list') = values key list ++ values key list' := by
  simp [values]

theorem values_perm (hperm : list.Perm list') : (values key list).Perm (values key list') :=
  (hperm.filter _).map _

end Values

section Gives

variable {Reads : String → α → Prop} {default a : α} {vs vs' : List String}

theorem exists_gives_iff (default : α) :
    (∃ a, Gives Reads default vs a) ↔ vs.length ≤ 1 ∧ ∀ v ∈ vs, ∃ a, Reads v a := by
  constructor
  · rintro ⟨a, ⟨rfl, -⟩ | ⟨v, rfl, hreads⟩⟩
    · simp
    · refine ⟨by simp, fun v' hv' => ?_⟩
      obtain rfl := List.mem_singleton.1 hv'
      exact ⟨a, hreads⟩
  · rintro ⟨hlength, hreads⟩
    match vs, hlength with
    | [], _ => exact ⟨default, .inl ⟨rfl, rfl⟩⟩
    | [v], _ =>
      obtain ⟨a, ha⟩ := hreads v List.mem_cons_self
      exact ⟨a, .inr ⟨v, rfl, ha⟩⟩

/-- A single value has no order. -/
theorem Gives.perm (hperm : vs.Perm vs') (hgives : Gives Reads default vs a) :
    Gives Reads default vs' a := by
  rcases hgives with ⟨rfl, ha⟩ | ⟨v, rfl, hreads⟩
  · exact .inl ⟨hperm.nil_eq.symm, ha⟩
  · exact .inr ⟨v, (List.perm_singleton.1 hperm.symm), hreads⟩

end Gives

theorem readWordSize_eq_ok_iff {v : String} {n : Nat} :
    readWordSize v = .ok n ↔ ReadsWordSize v n := by
  have hlimit : maxWordSizeValue = 4294967295 := rfl
  rw [ReadsWordSize, ← Text.readNat_eq_ok_iff, readWordSize, hlimit]
  cases Text.readNat 4294967295 v.toList <;> simp

theorem readFlag_eq_ok_iff {v : String} {b : Bool} : readFlag v = .ok b ↔ ReadsFlag v b := by
  rw [ReadsFlag, ← String.toList_inj, ← Text.bool?_eq_some_iff, readFlag]
  cases Text.bool? v.toList <;> simp

theorem exists_readsFlag_iff {v : String} :
    (∃ b, ReadsFlag v b) ↔ v = "true" ∨ v = "false" := by
  simp [ReadsFlag, Bool.exists_bool, or_comm]

/-! ### Pair by pair -/

/-- What is known of a parameter after some values: at most one is read, and only where nothing was
known. -/
inductive Fills (read : String → Except Fault α) : Option α → List String → Option α → Prop
  | kept (seen : Option α) : Fills read seen [] seen
  | filled {v : String} {a : α} (hread : read v = .ok a) : Fills read none [v] (some a)

section Fills

variable {read : String → Except Fault α} {seen filled : Option α} {v : String}
variable {vs vs' : List String}

theorem fills_nil_iff : Fills read seen [] filled ↔ filled = seen := by
  constructor
  · rintro ⟨⟩
    rfl
  · rintro rfl
    exact .kept _

theorem fills_singleton_iff :
    Fills read seen [v] filled ↔ seen = none ∧ ∃ a, read v = .ok a ∧ filled = some a := by
  constructor
  · rintro ⟨⟩
    rename_i a hread
    exact ⟨rfl, a, hread, rfl⟩
  · rintro ⟨rfl, a, hread, rfl⟩
    exact .filled hread

theorem fills_append_iff :
    Fills read seen (vs ++ vs') filled ↔
      ∃ between, Fills read seen vs between ∧ Fills read between vs' filled := by
  constructor
  · intro hfills
    generalize hall : vs ++ vs' = all at hfills
    cases hfills with
    | kept =>
      obtain ⟨rfl, rfl⟩ := List.append_eq_nil_iff.1 hall
      exact ⟨seen, .kept _, .kept _⟩
    | filled hread =>
      rcases List.append_eq_singleton_iff.1 hall with ⟨rfl, rfl⟩ | ⟨rfl, rfl⟩
      · exact ⟨none, .kept _, .filled hread⟩
      · exact ⟨_, .filled hread, .kept _⟩
  · rintro ⟨between, ⟨⟩ | hread, hrest⟩
    · exact hrest
    · cases hrest
      exact .filled hread

/-- A value given for the first time changes a draft. -/
theorem map_once_eq_ok_iff {name : String} {change : α → Draft} {d : Draft} :
    (Draft.once name seen read v).map change = .ok d ↔
      seen = none ∧ ∃ a, read v = .ok a ∧ change a = d := by
  cases seen with
  | some a => simp [Draft.once, Except.map]
  | none => cases hread : read v <;> simp [Draft.once, Except.map, hread]

/-- A parameter that was not known at first has its value or the default in the end. -/
theorem exists_fills_iff {Reads : String → α → Prop} {default a : α}
    (hreads : ∀ {v a}, read v = .ok a ↔ Reads v a) :
    (∃ filled, Fills read none vs filled ∧ filled.getD default = a) ↔
      Gives Reads default vs a := by
  constructor
  · rintro ⟨filled, ⟨⟩ | hread, rfl⟩
    · exact .inl ⟨rfl, rfl⟩
    · exact .inr ⟨_, rfl, hreads.1 hread⟩
  · rintro (⟨rfl, rfl⟩ | ⟨v, rfl, hv⟩)
    · exact ⟨none, .kept _, rfl⟩
    · exact ⟨some a, .filled (hreads.2 hv), rfl⟩

end Fills

/-- Some pairs lead from one draft to another, slot by slot. -/
@[mk_iff] structure Takes (list : List (String × String)) (d d' : Draft) : Prop where
  wordSize : Fills readWordSize d.wordSize (values "word_size" list) d'.wordSize
  iid : Fills readFlag d.iid (values "iid" list) d'.iid
  nonIid : Fills readFlag d.nonIid (values "non_iid" list) d'.nonIid

section Take

variable {d d' : Draft} {pair : String × String} {list list' : List (String × String)}
variable {p : Parameters}

theorem takes_append_iff :
    Takes (list ++ list') d d' ↔ ∃ d₁, Takes list d d₁ ∧ Takes list' d₁ d' := by
  constructor
  · rintro ⟨hwidth, hiid, hnonIid⟩
    rw [values_append, fills_append_iff] at hwidth hiid hnonIid
    obtain ⟨w, hw, hwidth⟩ := hwidth
    obtain ⟨i, hi, hiid⟩ := hiid
    obtain ⟨n, hn, hnonIid⟩ := hnonIid
    exact ⟨⟨w, i, n⟩, ⟨hw, hi, hn⟩, ⟨hwidth, hiid, hnonIid⟩⟩
  · rintro ⟨d₁, ⟨hw, hi, hn⟩, ⟨hwidth, hiid, hnonIid⟩⟩
    constructor <;> rw [values_append, fills_append_iff]
    · exact ⟨_, hw, hwidth⟩
    · exact ⟨_, hi, hiid⟩
    · exact ⟨_, hn, hnonIid⟩

/-- A pair changes the slot of its key, and no slot where it has another key. -/
theorem take_eq_ok_iff : take d pair = .ok d' ↔ Takes [pair] d d' := by
  obtain ⟨key, v⟩ := pair
  obtain ⟨wordSize, iid, nonIid⟩ := d
  obtain ⟨wordSize', iid', nonIid'⟩ := d'
  rw [takes_iff]
  unfold take
  simp only [values_singleton]
  by_cases hwidth : key = "word_size"
  · subst hwidth
    simp [map_once_eq_ok_iff, fills_singleton_iff, fills_nil_iff]
    grind
  · by_cases hiid : key = "iid"
    · subst hiid
      simp [map_once_eq_ok_iff, fills_singleton_iff, fills_nil_iff]
      grind
    · by_cases hnonIid : key = "non_iid"
      · subst hnonIid
        simp [map_once_eq_ok_iff, fills_singleton_iff, fills_nil_iff]
        grind
      · simp [hwidth, hiid, hnonIid, fills_nil_iff]
        grind

theorem takeAll_eq_ok_iff : takeAll d list = .ok d' ↔ Takes list d d' := by
  induction list generalizing d with
  | nil =>
    obtain ⟨wordSize, iid, nonIid⟩ := d
    obtain ⟨wordSize', iid', nonIid'⟩ := d'
    simp only [takes_iff, takeAll, values, List.filter_nil, List.map_nil, fills_nil_iff,
      Except.ok.injEq, Draft.mk.injEq]
    tauto
  | cons pair list ih =>
    have hcons : takeAll d (pair :: list) = .ok d' ↔
        ∃ d₁, take d pair = .ok d₁ ∧ takeAll d₁ list = .ok d' := by
      rw [takeAll]
      cases take d pair <;> simp
    rw [hcons, ← List.singleton_append, takes_append_iff]
    simp only [take_eq_ok_iff, ih]

theorem ofPairs_eq_ok_iff : ofPairs list = .ok p ↔ Means list p := by
  have hdraft : ofPairs list = .ok p ↔ ∃ d, takeAll .empty list = .ok d ∧ d.finish = p := by
    unfold ofPairs
    cases takeAll .empty list <;> simp [Except.map]
  simp only [hdraft, takeAll_eq_ok_iff]
  constructor
  · rintro ⟨d, ⟨hwidth, hiid, hnonIid⟩, rfl⟩
    exact ⟨(exists_fills_iff readWordSize_eq_ok_iff).1 ⟨_, hwidth, rfl⟩,
      (exists_fills_iff readFlag_eq_ok_iff).1 ⟨_, hiid, rfl⟩,
      (exists_fills_iff readFlag_eq_ok_iff).1 ⟨_, hnonIid, rfl⟩⟩
  · rintro ⟨hwidth, hiid, hnonIid⟩
    obtain ⟨w, hwidth, hw⟩ := (exists_fills_iff readWordSize_eq_ok_iff).2 hwidth
    obtain ⟨i, hiid, hi⟩ := (exists_fills_iff readFlag_eq_ok_iff).2 hiid
    obtain ⟨n, hnonIid, hn⟩ := (exists_fills_iff readFlag_eq_ok_iff).2 hnonIid
    refine ⟨⟨w, i, n⟩, ⟨hwidth, hiid, hnonIid⟩, ?_⟩
    rw [Draft.finish, hw, hi, hn]

/-- Some parameters are meant exactly by the pairs that can be read. -/
theorem exists_means_iff : (∃ p, Means list p) ↔ IsReadable list := by
  constructor
  · rintro ⟨p, hwidth, hiid, hnonIid⟩
    obtain ⟨hwidth, hwidths⟩ := (exists_gives_iff _).1 ⟨_, hwidth⟩
    obtain ⟨hiid, hiids⟩ := (exists_gives_iff _).1 ⟨_, hiid⟩
    obtain ⟨hnonIid, hnonIids⟩ := (exists_gives_iff _).1 ⟨_, hnonIid⟩
    refine ⟨?_, hwidths, ?_⟩
    · simp only [keys, List.forall_mem_cons]
      exact ⟨hwidth, hiid, hnonIid, List.forall_mem_nil _⟩
    · simp only [List.forall_mem_cons, ← exists_readsFlag_iff]
      exact ⟨hiids, hnonIids, List.forall_mem_nil _⟩
  · rintro ⟨honce, hwidths, hflags⟩
    simp only [keys, List.forall_mem_cons] at honce
    simp only [List.forall_mem_cons, ← exists_readsFlag_iff] at hflags
    obtain ⟨w, hw⟩ := (exists_gives_iff 0).2 ⟨honce.1, hwidths⟩
    obtain ⟨i, hi⟩ := (exists_gives_iff false).2 ⟨honce.2.1, hflags.1⟩
    obtain ⟨n, hn⟩ := (exists_gives_iff false).2 ⟨honce.2.2.1, hflags.2.1⟩
    exact ⟨⟨w, i, n⟩, hw, hi, hn⟩

/-- Pairs with other keys change nothing, not even the fault. -/
theorem takeAll_filter : takeAll d (list.filter (·.1 ∈ keys)) = takeAll d list := by
  induction list generalizing d with
  | nil => rfl
  | cons pair list ih =>
    by_cases hkey : pair.1 ∈ keys
    · rw [List.filter_cons_of_pos (by simpa using hkey), takeAll, takeAll]
      cases take d pair with
      | ok d₁ => exact ih
      | error e => rfl
    · have htake : take d pair = .ok d := by
        simp only [keys, List.mem_cons, List.not_mem_nil, or_false, not_or] at hkey
        simp [take, hkey]
      rw [List.filter_cons_of_neg (by simpa using hkey), ih, takeAll, htake]

theorem Means.perm (hperm : list.Perm list') (hmeans : Means list p) : Means list' p :=
  ⟨hmeans.wordSize.perm (values_perm hperm), hmeans.iid.perm (values_perm hperm),
    hmeans.nonIid.perm (values_perm hperm)⟩

end Take

end MinEntropy.Query

namespace MinEntropy.Service

open Query (IsReadable Means pairs)

section Requests

variable (s : Service σ τ) {q r : HttpRequest} (o : Occasion) (st : σ × τ)

theorem query_of_missing (hmark : '?' ∉ r.localPart) : r.query = "" := by
  have hnone : r.localPart.dropWhile (· ≠ '?') = [] := by
    rw [List.dropWhile_eq_nil_iff]
    intro c hc
    exact decide_eq_true fun heq => hmark (heq ▸ hc)
  unfold HttpRequest.query
  rw [hnone]
  rfl

/-- Of its target, only the path of a request and what its query is read as matter. -/
theorem handle_congr (hmethod : q.method = r.method) (hpath : q.path = r.path)
    (hquery : Query.parameters q.query = Query.parameters r.query)
    (hheaders : q.headers = r.headers) (hbody : q.body = r.body) :
    s.handle q o st = s.handle r o st := by
  unfold handle serveRoute assess idOf HttpRequest.header?
  rw [hmethod, hpath, hquery, hheaders, hbody]

variable {s}

theorem heard_of_malformed {fault : Query.Fault} (hroute : routeOf r = .ok .assess)
    (hlimit : r.body.length ≤ s.settings.maxUploadBytes)
    (hquery : Query.parameters r.query = .error fault) :
    s.asked r o st = [] ∧ s.heard r o st = [.rejected (queryRefusal fault)] ∧
      (s.handle r o st).1.response = rejection r o (queryRefusal fault) := by
  rw [asked, heard, s.handle_of_assess o st hroute, s.watched.handle_of_assess o _ hroute,
    s.assess_of_malformed o st hlimit hquery, s.watched.assess_of_malformed o _ hlimit hquery]
  exact ⟨rfl, rfl, rfl⟩

theorem heard_of_tooLarge (hroute : routeOf r = .ok .assess)
    (hlimit : s.settings.maxUploadBytes < r.body.length) :
    (s.handle r o st).1.response.status = 413 ∧ s.heard r o st = [] ∧ s.asked r o st = [] := by
  rw [asked, heard, s.handle_of_assess o st hroute, s.watched.handle_of_assess o _ hroute,
    s.assess_of_tooLarge o st hlimit, s.watched.assess_of_tooLarge o _ hlimit]
  exact ⟨rfl, rfl, rfl⟩

end Requests

/-- A query is understood exactly if its pairs give each parameter once at most, with a decimal or
one of the two words; other pairs, the order of pairs and an empty query do not count. A request
within the limit is assessed by its parameters, or rejected before the suite is asked; beyond the
limit its query is not looked at. -/
theorem query_decides {s : Service σ τ} {r : HttpRequest} (hmethod : r.method = "POST")
    (hpath : r.path = "/api/v1/assess") (o : Occasion) (st : σ × τ) :
    (∀ list, (∃ p, Query.ofPairs list = .ok p) ↔ IsReadable list) ∧
    (∀ list p, Query.ofPairs list = .ok p ↔ Means list p) ∧
    (∀ list, Query.ofPairs (list.filter (·.1 ∈ Query.keys)) = Query.ofPairs list) ∧
    (∀ list list' p, list.Perm list' → (Query.ofPairs list = .ok p ↔ Query.ofPairs list' = .ok p)) ∧
    (∀ target, HttpRequest.path { r with target } = r.path →
      (pairs (HttpRequest.query { r with target })).Perm (pairs r.query) →
      (IsReadable (pairs (HttpRequest.query { r with target })) ↔ IsReadable (pairs r.query)) ∧
      (IsReadable (pairs r.query) → s.handle { r with target } o st = s.handle r o st)) ∧
    (∀ target, '?' ∉ HttpRequest.localPart { r with target } →
      HttpRequest.path { r with target } = r.path → r.query = "" →
      s.handle { r with target } o st = s.handle r o st) ∧
    (r.body.length ≤ s.settings.maxUploadBytes →
      (∀ p, Means (pairs r.query) p → (s.handle r o st).1.ending =
        some (o.ending (s.coordinator.assess ⟨r.body, p.wordSize, p.iid, p.nonIid⟩ o.took st).1)) ∧
      (¬ IsReadable (pairs r.query) → ∃ e, e.reason = "malformed_query" ∧
        s.heard r o st = [.rejected e] ∧ s.asked r o st = [] ∧
        (s.handle r o st).1.response = rejection r o e)) ∧
    (s.settings.maxUploadBytes < r.body.length →
      (s.handle r o st).1.response.status = 413 ∧ s.heard r o st = [] ∧ s.asked r o st = []) := by
  have hroute := routeOf_eq_assess_iff.2 ⟨hmethod, hpath⟩
  have hreadable (list) : (∃ p, Query.ofPairs list = .ok p) ↔ IsReadable list := by
    simp only [Query.ofPairs_eq_ok_iff, Query.exists_means_iff]
  have hpermuted (list list' p) (hperm : list.Perm list') :
      Query.ofPairs list = .ok p ↔ Query.ofPairs list' = .ok p := by
    simp only [Query.ofPairs_eq_ok_iff]
    exact ⟨.perm hperm, .perm hperm.symm⟩
  refine ⟨hreadable, fun list p => Query.ofPairs_eq_ok_iff, fun list => ?_, hpermuted,
    fun target htarget hperm => ⟨?_, fun hread => ?_⟩, fun target hmark htarget hempty => ?_,
    fun hlimit => ⟨fun p hmeans => ?_, fun hunreadable => ?_⟩, s.heard_of_tooLarge o st hroute⟩
  · rw [Query.ofPairs, Query.takeAll_filter, Query.ofPairs]
  · simp only [← hreadable, hpermuted _ _ _ hperm]
  · obtain ⟨p, hp⟩ := (hreadable _).2 hread
    exact s.handle_congr o st rfl htarget (((hpermuted _ _ p hperm).2 hp).trans hp.symm) rfl rfl
  · exact s.handle_congr o st rfl htarget
      (congrArg Query.parameters ((query_of_missing hmark).trans hempty.symm)) rfl rfl
  · have hreads : s.Reads r p := ⟨hlimit, Query.ofPairs_eq_ok_iff.2 hmeans⟩
    rw [s.handle_of_assess o st hroute, assess_of_reads o st hreads]
    rfl
  · cases hquery : Query.parameters r.query with
    | ok p => exact absurd ((hreadable _).1 ⟨p, hquery⟩) hunreadable
    | error fault =>
      obtain ⟨hasked, hheard, hresponse⟩ := heard_of_malformed o st hroute hlimit hquery
      exact ⟨queryRefusal fault, rfl, hheard, hasked, hresponse⟩

/-- Unknown keys may be repeated and known ones may not. -/
theorem query_decides_repeated :
    let s : Service (List Reply) (List Event) :=
      ⟨.default, ⟨.replaying "trial", .recording⟩, none⟩
    let r : HttpRequest := ⟨"POST", "/api/v1/assess?iid=true&iid=true", [], [0, 1, 2]⟩
    let o : Occasion := ⟨"one", ⟨0, 0⟩, false⟩
    Means (pairs "x=1&iid=true&word_size=%2B08&x=2") ⟨8, true, false⟩ ∧
    ¬ IsReadable (pairs r.query) ∧
    ∃ e, e.reason = "malformed_query" ∧ s.heard r o ([], []) = [.rejected e] ∧
      s.asked r o ([], []) = [] := by
  intro s r o
  obtain ⟨hreadable, hmeans, -, -, -, -, hwithin, -⟩ :=
    query_decides (s := s) (r := r) rfl (by decide +kernel) o ([], [])
  have hfault : Query.ofPairs (pairs r.query) = .error (.duplicate "iid") := by decide +kernel
  have hunreadable : ¬ IsReadable (pairs r.query) := by
    rw [← hreadable, hfault]
    rintro ⟨p, hp⟩
    cases hp
  obtain ⟨e, hreason, hheard, hasked, -⟩ := (hwithin (by decide)).2 hunreadable
  exact ⟨(hmeans _ _).1 (by decide +kernel), hunreadable, e, hreason, hheard, hasked⟩

/-- Beyond the limit a request is refused without a look at its query, and nothing is heard. -/
theorem exists_unread_query :
    let s : Service (List Reply) (List Event) :=
      ⟨{ ServiceSettings.default with maxUploadBytes := 1024 }, ⟨.replaying "trial", .recording⟩,
        none⟩
    let r : HttpRequest := ⟨"POST", "/api/v1/assess?iid=1", [], List.replicate 1025 0⟩
    let o : Occasion := ⟨"one", ⟨0, 0⟩, false⟩
    ¬ IsReadable (pairs r.query) ∧ (s.handle r o ([], [])).1.response.status = 413 ∧
      s.heard r o ([], []) = [] ∧ s.asked r o ([], []) = [] := by
  intro s r o
  have hroute : routeOf r = .ok .assess := by decide +kernel
  have hlength : r.body.length = 1025 := List.length_replicate
  have hlimit : s.settings.maxUploadBytes < r.body.length := by
    rw [hlength]
    decide
  have hfault : Query.ofPairs (pairs r.query) = .error .badFlag := by decide +kernel
  refine ⟨?_, s.heard_of_tooLarge o _ hroute hlimit⟩
  rw [← Query.exists_means_iff]
  rintro ⟨p, hp⟩
  rw [← Query.ofPairs_eq_ok_iff, hfault] at hp
  cases hp

end MinEntropy.Service

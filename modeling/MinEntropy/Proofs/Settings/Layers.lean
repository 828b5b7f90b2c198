import MinEntropy.Proofs.Text.Integer
import MinEntropy.Settings.Environment

/-! Settings in layers: the environment lies over the file, and the file over the defaults. -/

namespace MinEntropy.Settings

/-! ### Kinds of values -/

/-- The kinds of values that settings have. -/
inductive Kind : Type → Type
  | text : Kind String
  /-- A text that the environment spells in letters of either case. -/
  | word : Kind String
  | path : Kind (Option String)
  | number (limit : Nat) : Kind Nat
  | truth : Kind Bool

namespace Kind

/-- The item of a file that stands for a value. -/
def Holds : Kind α → Toml.Item → α → Prop
  | text, item, s | word, item, s => item = .text s
  | path, item, p => ∃ s, item = .text s ∧ p = some s
  | number limit, item, n => item = .integer n ∧ n ≤ limit
  | truth, item, b => item = .boolean b

/-- The text of a variable that stands for a value. -/
def Spells : Kind α → String → α → Prop
  | text, t, s => s = t
  | word, t, s => s = t.toLower
  | path, t, p => p = some t
  | number limit, t, n => ∃ core, Text.Trims t.toList core ∧ Text.IsDecimal core n ∧ n ≤ limit
  | truth, t, b => Text.Trims t.toList (if b then "true" else "false").toList

def ofItem? : Kind α → Toml.Item → Option α
  | text | word => text?
  | path => fun item => (text? item).map some
  | number limit => natural? limit
  | truth => boolean?

def trimmed (read : List Char → Option α) (t : String) : Option α := read (Text.trim t.toList)

def ofText? : Kind α → String → Option α
  | text => some
  | word => fun t => some (lowerCase t)
  | path => fun t => some (some t)
  | number limit => trimmed (Text.nat? limit)
  | truth => trimmed Text.bool?

section Readers

variable {item : Toml.Item}

theorem text?_eq_some_iff {s : String} : text? item = some s ↔ item = .text s := by
  cases item <;> simp [text?]

theorem boolean?_eq_some_iff {b : Bool} : boolean? item = some b ↔ item = .boolean b := by
  cases item <;> simp [boolean?]

theorem natural?_eq_some_iff {limit n : Nat} :
    natural? limit item = some n ↔ item = .integer n ∧ n ≤ limit := by
  cases item with
  | integer i =>
    simp only [natural?, Option.ite_none_right_eq_some, Option.some.injEq, Toml.Item.integer.injEq]
    omega
  | _ => simp [natural?]

theorem ofItem?_eq_some_iff {kind : Kind α} {a : α} :
    kind.ofItem? item = some a ↔ kind.Holds item a := by
  cases kind with
  | text => exact text?_eq_some_iff
  | word => exact text?_eq_some_iff
  | path => simp [ofItem?, Holds, text?_eq_some_iff, @eq_comm _ a]
  | number limit => exact natural?_eq_some_iff
  | truth => exact boolean?_eq_some_iff

theorem ofText?_eq_some_iff {kind : Kind α} {t : String} {a : α} :
    kind.ofText? t = some a ↔ kind.Spells t a := by
  cases kind with
  | text => exact Option.some_inj.trans eq_comm
  | word => exact Option.some_inj.trans eq_comm
  | path => exact Option.some_inj.trans eq_comm
  | number limit => simp [ofText?, trimmed, Spells, Text.nat?_eq_some_iff, ← Text.trim_eq_iff]
  | truth => simp only [ofText?, trimmed, Spells, Text.bool?_eq_some_iff, ← Text.trim_eq_iff]

end Readers

end Kind

/-! ### Where settings stand -/

/-- What stands in a section under a name, or at a place. Elements of a list are settings in their
order, and so are the tables under a repeated header. A date holds none. -/
inductive StandsIn (place : Nat) (name : String) : Toml.Item → Toml.Item → Prop
  | named {origin : Toml.Origin} {entries : Toml.Entries} {item : Toml.Item}
      (hitem : entries.lookup name = some item) : StandsIn place name (.table origin entries) item
  | listed {elements : List Toml.Item} {item : Toml.Item}
      (hitem : elements[place]? = some item) : StandsIn place name (.list elements) item
  | repeated {members : List Toml.Entries} {entries : Toml.Entries}
      (hentries : members[place]? = some entries) :
      StandsIn place name (.tables members) (.table .header entries)

/-- An item that is a section, though it need not hold any setting. -/
inductive IsSection : Toml.Item → Prop
  | table (origin : Toml.Origin) (entries : Toml.Entries) : IsSection (.table origin entries)
  | list (elements : List Toml.Item) : IsSection (.list elements)
  | tables (members : List Toml.Entries) : IsSection (.tables members)
  | date : IsSection .date

section Sections

variable {part item : Toml.Item} {place : Nat} {name : String}

theorem section_ofItem?_eq_none_iff : Section.ofItem? part = none ↔ ¬ IsSection part := by
  cases part with
  | table origin entries => simp [Section.ofItem?, IsSection.table]
  | list elements => simp [Section.ofItem?, IsSection.list]
  | tables members => simp [Section.ofItem?, IsSection.tables]
  | date => simp [Section.ofItem?, IsSection.date]
  | _ => exact iff_of_true rfl nofun

theorem standsIn_iff : StandsIn place name part item ↔
    (Section.ofItem? part).bind (·.item? place name) = some item := by
  constructor
  · rintro (hitem | hitem | hentries)
    · exact hitem
    · exact hitem
    · simp [Section.ofItem?, Section.item?, hentries]
  · cases part with
    | table origin entries => exact .named
    | list elements => exact .listed
    | tables members =>
      simp only [Section.ofItem?, Option.bind_some, Section.item?, List.getElem?_map,
        Option.map_eq_some_iff]
      rintro ⟨entries, hentries, rfl⟩
      exact .repeated hentries
    | date => nofun
    | _ => nofun

end Sections

/-- A setting in the layers, and where they hold it. -/
structure Setting (α : Type) where
  part : String
  place : Nat
  name : String
  /-- The variable of the environment, if there is one. -/
  key : Option String
  kind : Kind α
  value : Settings → α

namespace Setting

def host : Setting String :=
  ⟨"server", 0, "host", some "EA_SERVER_HOST", .text, (·.service.host)⟩

def port : Setting Nat :=
  ⟨"server", 1, "port", some "EA_SERVER_PORT", .number 65535, (·.service.port)⟩

def metricsEnabled : Setting Bool :=
  ⟨"server", 2, "metrics_enabled", some "EA_METRICS_ENABLED", .truth, (·.service.metricsEnabled)⟩

def maxUploadBytes : Setting Nat :=
  ⟨"server", 3, "max_upload_bytes", some "EA_MAX_UPLOAD_BYTES", .number 18446744073709551615,
    (·.service.maxUploadBytes)⟩

def timeoutSeconds : Setting Nat :=
  ⟨"server", 4, "timeout_secs", some "EA_TIMEOUT_SECS", .number 18446744073709551615,
    (·.service.timeoutSeconds)⟩

def library : Setting (Option String) :=
  ⟨"estimators", 0, "library", some "EA_ESTIMATOR_LIBRARY", .path, (·.library)⟩

def verbose : Setting Nat :=
  ⟨"estimators", 1, "verbose", some "EA_VERBOSE", .number 255, (·.verbose)⟩

/-- No variable overrides it. -/
def minRecommendedSamples : Setting Nat :=
  ⟨"estimators", 2, "min_recommended_samples", none, .number 18446744073709551615,
    (·.minRecommendedSamples)⟩

def level : Setting String :=
  ⟨"logging", 0, "level", some "EA_LOG_LEVEL", .word, (·.level)⟩

def all : List (Σ α, Setting α) :=
  [⟨_, host⟩, ⟨_, port⟩, ⟨_, metricsEnabled⟩, ⟨_, maxUploadBytes⟩, ⟨_, timeoutSeconds⟩,
    ⟨_, library⟩, ⟨_, verbose⟩, ⟨_, minRecommendedSamples⟩, ⟨_, level⟩]

theorem forall_mem_all {p : (Σ α, Setting α) → Prop} :
    (∀ x ∈ all, p x) ↔ p ⟨_, host⟩ ∧ p ⟨_, port⟩ ∧ p ⟨_, metricsEnabled⟩ ∧ p ⟨_, maxUploadBytes⟩ ∧
      p ⟨_, timeoutSeconds⟩ ∧ p ⟨_, library⟩ ∧ p ⟨_, verbose⟩ ∧ p ⟨_, minRecommendedSamples⟩ ∧
      p ⟨_, level⟩ := by
  simp [all]

section Layers

variable (x : Setting α) (root : Toml.Entries) (env : Environment) (s c : Settings)

/-- The file sets it by an item. -/
def IsSetBy (item : Toml.Item) : Prop :=
  ∃ part, root.lookup x.part = some part ∧ StandsIn x.place x.name part item

/-- What the environment sets. -/
def overriding? : Option String := x.key.bind env.value?

/-- The value is the file's, or else the default. -/
inductive InFile : Prop
  | set {item : Toml.Item} (hitem : x.IsSetBy root item) (hvalue : x.kind.Holds item (x.value s))
  | unset (hnone : ∀ item, ¬ x.IsSetBy root item) (hvalue : x.value s = x.value .default)

/-- The value is the environment's, or else as it was. -/
def Overridden : Prop :=
  match x.overriding? env with
  | some text => x.kind.Spells text (x.value c)
  | none => x.value c = x.value s

/-- The value is that of the highest layer that sets it. -/
def IsChosen : Prop :=
  match x.overriding? env with
  | some text => x.kind.Spells text (x.value c)
  | none => x.InFile root c

end Layers

section Lemmas

variable {x : Setting α} {root : Toml.Entries} {env : Environment} {s c : Settings}

/-- The item that is found in the file. -/
def item? (x : Setting α) (root : Toml.Entries) : Option Toml.Item :=
  (section? x.part root).bind (·.item? x.place x.name)

theorem item?_eq_some_iff {item : Toml.Item} : x.item? root = some item ↔ x.IsSetBy root item := by
  unfold item? section? IsSetBy
  cases root.lookup x.part with
  | none => simp [Section.empty, Section.item?]
  | some part => simp [standsIn_iff]

theorem item?_eq_none_iff : x.item? root = none ↔ ∀ item, ¬ x.IsSetBy root item := by
  simp only [Option.eq_none_iff_forall_ne_some, ne_eq, item?_eq_some_iff]

theorem inFile_iff : x.InFile root s ↔
    valueOr (x.value .default) x.kind.ofItem? (x.item? root) = some (x.value s) := by
  cases hitem : x.item? root with
  | none =>
    have hnone := item?_eq_none_iff.1 hitem
    constructor
    · rintro (⟨hset, -⟩ | ⟨-, hvalue⟩)
      · exact absurd hset (hnone _)
      · exact congrArg some hvalue.symm
    · exact fun hvalue => .unset hnone (Option.some.inj hvalue).symm
  | some item =>
    have hset := item?_eq_some_iff.1 hitem
    constructor
    · rintro (⟨hother, hvalue⟩ | ⟨hnone, -⟩)
      · obtain rfl := Option.some.inj (hitem.symm.trans (item?_eq_some_iff.2 hother))
        exact Kind.ofItem?_eq_some_iff.2 hvalue
      · exact absurd hset (hnone item)
    · exact fun hvalue => .set hset (Kind.ofItem?_eq_some_iff.1 hvalue)

theorem inFile_of_valueOr {part : Section} (hpart : section? x.part root = some part)
    (hvalue : valueOr (x.value .default) x.kind.ofItem? (part.item? x.place x.name) =
      some (x.value s)) : x.InFile root s := by
  rw [inFile_iff, item?, hpart]
  exact hvalue

theorem InFile.congr (hs : x.InFile root s) : x.InFile root c ↔ x.value c = x.value s := by
  rw [inFile_iff] at hs ⊢
  rw [hs, Option.some_inj, eq_comm]

/-- What overrides the file is chosen from the layers. -/
theorem overridden_iff (hs : x.InFile root s) : x.Overridden env s c ↔ x.IsChosen root env c := by
  unfold Overridden IsChosen
  cases x.overriding? env with
  | none => exact hs.congr.symm
  | some text => rfl

end Lemmas

end Setting

theorem inFile_of_ofEntries? {root : Toml.Entries} {s : Settings} (hs : ofEntries? root = some s) :
    ∀ x ∈ Setting.all, x.2.InFile root s := by
  unfold ofEntries? serviceOf? at hs
  simp only [Option.bind_eq_bind, Option.bind_eq_some_iff, Option.pure_def, Option.some.injEq] at hs
  obtain ⟨service, hservice, estimators, hestimators, logging, hlogging, _,
    ⟨host, hhost, port, hport, metricsEnabled, hmetricsEnabled, maxUploadBytes, hmaxUploadBytes,
      timeoutSeconds, htimeoutSeconds, rfl⟩,
    library, hlibrary, verbose, hverbose, minRecommendedSamples, hminRecommendedSamples,
    level, hlevel, rfl⟩ := hs
  exact Setting.forall_mem_all.2 ⟨Setting.inFile_of_valueOr hservice hhost,
    Setting.inFile_of_valueOr hservice hport,
    Setting.inFile_of_valueOr hservice hmetricsEnabled,
    Setting.inFile_of_valueOr hservice hmaxUploadBytes,
    Setting.inFile_of_valueOr hservice htimeoutSeconds,
    Setting.inFile_of_valueOr hestimators hlibrary,
    Setting.inFile_of_valueOr hestimators hverbose,
    Setting.inFile_of_valueOr hestimators hminRecommendedSamples,
    Setting.inFile_of_valueOr hlogging hlevel⟩

/-! ### The environment -/

theorem bind_eq_ok_iff {x : Except ε α} {f : α → Except ε β} {b : β} :
    x >>= f = .ok b ↔ ∃ a, x = .ok a ∧ f a = .ok b := by
  cases x with
  | error e => simp [bind, Except.bind]
  | ok a => simp [bind, Except.bind]

theorem override_eq_ok_iff {x : Setting α} {env : Environment} {s c : Settings} {key : String}
    {read : List Char → Option α} (hkey : x.key = some key)
    (hread : x.kind.ofText? = Kind.trimmed read) :
    override env key read (x.value s) = .ok (x.value c) ↔ x.Overridden env s c := by
  unfold override Setting.Overridden Setting.overriding?
  rw [hkey, Option.bind_some]
  cases env.value? key with
  | none =>
    dsimp only
    rw [Except.ok.injEq, eq_comm]
  | some text =>
    dsimp only
    rw [← Kind.ofText?_eq_some_iff, hread, readVariable, Kind.trimmed]
    cases read (Text.trim text.toList) <;> simp

theorem overridden_iff_eq {x : Setting α} {env : Environment} {s c : Settings} {key : String}
    {f : String → α} (hkey : x.key = some key)
    (hread : ∀ text a, x.kind.Spells text a ↔ a = f text) :
    x.Overridden env s c ↔ x.value c = ((env.value? key).map f).getD (x.value s) := by
  unfold Setting.Overridden Setting.overriding?
  rw [hkey, Option.bind_some]
  cases env.value? key with
  | none => rfl
  | some text => exact hread text _

theorem orElse_eq_getD (first second : Option α) :
    (first <|> second) = (first.map some).getD second := by
  cases first <;> rfl

section Overrides

variable {env : Environment} {s c : Settings}

theorem host_overridden_iff : Setting.host.Overridden env s c ↔
    c.service.host = (env.value? "EA_SERVER_HOST").getD s.service.host := by
  rw [overridden_iff_eq (f := id) rfl fun _ _ => Iff.rfl, Option.map_id, id]
  rfl

theorem library_overridden_iff : Setting.library.Overridden env s c ↔
    c.library = (env.value? "EA_ESTIMATOR_LIBRARY" <|> s.library) := by
  rw [overridden_iff_eq (f := some) rfl fun _ _ => Iff.rfl, orElse_eq_getD]
  rfl

theorem level_overridden_iff : Setting.level.Overridden env s c ↔
    c.level = ((env.value? "EA_LOG_LEVEL").map lowerCase).getD s.level :=
  overridden_iff_eq rfl fun _ _ => Iff.rfl

/-- Every setting is overridden where its variable is set. -/
theorem overrideAll_eq_ok_iff :
    overrideAll env s = .ok c ↔ ∀ x ∈ Setting.all, x.2.Overridden env s c := by
  rw [Setting.forall_mem_all, host_overridden_iff, library_overridden_iff, level_overridden_iff]
  unfold overrideAll
  simp only [bind_eq_ok_iff]
  constructor
  · rintro ⟨port, hport, metricsEnabled, hmetricsEnabled, maxUploadBytes, hmaxUploadBytes,
      timeoutSeconds, htimeoutSeconds, verbose, hverbose, hc⟩
    obtain rfl := Except.ok.inj hc
    exact ⟨rfl, (override_eq_ok_iff (x := Setting.port) rfl rfl).1 hport,
      (override_eq_ok_iff (x := Setting.metricsEnabled) rfl rfl).1 hmetricsEnabled,
      (override_eq_ok_iff (x := Setting.maxUploadBytes) rfl rfl).1 hmaxUploadBytes,
      (override_eq_ok_iff (x := Setting.timeoutSeconds) rfl rfl).1 htimeoutSeconds, rfl,
      (override_eq_ok_iff (x := Setting.verbose) rfl rfl).1 hverbose, rfl, rfl⟩
  · rintro ⟨hhost, hport, hmetricsEnabled, hmaxUploadBytes, htimeoutSeconds, hlibrary, hverbose,
      hminRecommendedSamples, hlevel⟩
    refine ⟨c.service.port, (override_eq_ok_iff rfl rfl).2 hport, c.service.metricsEnabled,
      (override_eq_ok_iff rfl rfl).2 hmetricsEnabled, c.service.maxUploadBytes,
      (override_eq_ok_iff rfl rfl).2 hmaxUploadBytes, c.service.timeoutSeconds,
      (override_eq_ok_iff rfl rfl).2 htimeoutSeconds, c.verbose,
      (override_eq_ok_iff rfl rfl).2 hverbose, ?_⟩
    have hsamples : c.minRecommendedSamples = s.minRecommendedSamples := hminRecommendedSamples
    rw [← hhost, ← hlibrary, ← hlevel, ← hsamples]
    rfl

end Overrides

end MinEntropy.Settings

import Mathlib.Logic.Function.Basic
import MinEntropy.Proofs.Settings.Loading
import MinEntropy.Proofs.Text.Utf8

/-! Why settings are refused. Much may be wrong at once with the file, with the environment and with
what comes out of them; the first flaw in a fixed order decides the error. -/

namespace MinEntropy.Settings

/-! ### Flaws in an order -/

/-- Something that may be wrong, with the error that tells of it. -/
abbrev Flaw := SettingsError → Prop

/-- None of the flaws is there. -/
def Clear (flaws : List Flaw) : Prop := ∀ p ∈ flaws, ∀ e, ¬ p e

/-- The error of the first flaw that is there. -/
inductive First : List Flaw → SettingsError → Prop
  | here {p : Flaw} {e : SettingsError} (rest : List Flaw) (hp : p e) : First (p :: rest) e
  | later {p : Flaw} {rest : List Flaw} {e : SettingsError} (hp : ∀ e, ¬ p e)
    (hrest : First rest e) : First (p :: rest) e

/-- Some flaws decide whether there is a value, and with which error there is none. -/
def DecidedBy (x : Except SettingsError α) (flaws : List Flaw) : Prop :=
  ∀ e, x = .error e ↔ First flaws e

section Flaws

variable {p : Flaw} {ps qs : List Flaw} {e : SettingsError}

theorem clear_cons_iff : Clear (p :: ps) ↔ (∀ e, ¬ p e) ∧ Clear ps := List.forall_mem_cons

theorem not_first_nil : ¬ First [] e := nofun

theorem first_cons_iff : First (p :: ps) e ↔ p e ∨ (∀ e, ¬ p e) ∧ First ps e := by
  constructor
  · rintro (⟨_, hp⟩ | ⟨hp, hrest⟩)
    · exact .inl hp
    · exact .inr ⟨hp, hrest⟩
  · rintro (hp | ⟨hp, hrest⟩)
    · exact .here ps hp
    · exact .later hp hrest

theorem first_append_iff : First (ps ++ qs) e ↔ First ps e ∨ Clear ps ∧ First qs e := by
  induction ps with
  | nil => simp [Clear, not_first_nil]
  | cons p ps ih => rw [List.cons_append, first_cons_iff, ih, first_cons_iff, clear_cons_iff]; tauto

/-- A flaw with a condition and an error of its own. -/
theorem first_guard_iff {condition : Prop} [Decidable condition] {error : SettingsError} :
    First ((fun e => condition ∧ e = error) :: ps) e ↔
      if condition then e = error else First ps e := by
  rw [first_cons_iff]
  split
  · rename_i hcondition
    simp [hcondition]
  · rename_i hcondition
    simp [hcondition]

theorem exists_first_iff : (∃ e, First ps e) ↔ ¬ Clear ps := by
  induction ps with
  | nil => simp [Clear, not_first_nil]
  | cons p ps ih =>
    -- A flaw that is there hides all later ones.
    rw [clear_cons_iff, not_and_or, ← ih]
    by_cases hp : ∃ e, p e
    · obtain ⟨e, he⟩ := hp
      exact iff_of_true ⟨e, .here ps he⟩ (.inl fun hp => hp e he)
    · rw [not_exists] at hp
      simp [first_cons_iff, hp]

end Flaws

section Decided

variable {x : Except SettingsError α} {f : α → Except SettingsError β} {ps qs : List Flaw}

theorem decidedBy_ok (a : α) : DecidedBy (.ok a) [] := fun _ => iff_of_false nofun not_first_nil

theorem decidedBy_single {p : Flaw} (hp : ∀ e, x = .error e ↔ p e) : DecidedBy x [p] := by
  intro e
  rw [hp, first_cons_iff]
  simp [not_first_nil]

theorem DecidedBy.exists_ok_iff (hx : DecidedBy x ps) : (∃ a, x = .ok a) ↔ Clear ps := by
  rw [← not_iff_not, ← exists_first_iff]
  cases x with
  | ok a => simp [← hx _]
  | error e => simp [← hx _]

/-- What comes later is looked at only where nothing was wrong before. -/
theorem DecidedBy.bind (hx : DecidedBy x ps) (hf : ∀ a, x = .ok a → DecidedBy (f a) qs) :
    DecidedBy (x >>= f) (ps ++ qs) := by
  intro e
  rw [first_append_iff, ← hx e, ← hx.exists_ok_iff]
  cases x with
  | error e' => simp [Bind.bind, Except.bind]
  | ok a => simpa [Bind.bind, Except.bind] using hf a rfl e

end Decided

/-! ### The flaws of each layer -/

/-- The bytes of the file cannot be had, or are no text. -/
inductive IsUnreadable : Option (Except String (List UInt8)) → Flaw
  | missing (reason : String) : IsUnreadable (some (.error reason)) (.unreadableFile reason)
  | garbled {bytes : List UInt8} (hbytes : ¬ Text.Utf8.IsText bytes) :
    IsUnreadable (some (.ok bytes)) (.unreadableFile notText)

/-- The item of a setting holds no value of its kind, or what stands for its section is none. -/
inductive Setting.IsMistyped (x : Setting α) (root : Toml.Entries) : Prop
  | item {item : Toml.Item} (hitem : x.IsSetBy root item) (hvalue : ∀ a, ¬ x.kind.Holds item a)
  | part {part : Toml.Item} (hpart : root.lookup x.part = some part) (hsection : ¬ IsSection part)

/-- The file is no document, or one with settings of the wrong kind. -/
def IsUnparsable (file : Option (Except String (List UInt8))) : Flaw := fun e =>
  e = .unparsableFile ∧
    ∀ root, document? file = some root → ∃ x ∈ Setting.all, x.2.IsMistyped root

/-- The settings whose variables are not taken as they are, in the order in which they are looked
at. -/
def Setting.typed : List (Σ α, Setting α) :=
  [⟨_, port⟩, ⟨_, metricsEnabled⟩, ⟨_, maxUploadBytes⟩, ⟨_, timeoutSeconds⟩, ⟨_, verbose⟩]

def IsBlank (text : String) : Prop := ∀ c ∈ text.toList, Text.isBlank c = true

/-- The variable of a setting is not blank and spells no value of its kind. -/
def Setting.IsUnfit (x : Setting α) (env : Environment) : Flaw := fun e =>
  ∃ key, x.key = some key ∧ ∃ text, env key = some text ∧ ¬ IsBlank text ∧
    (∀ a, ¬ x.kind.Spells text a) ∧ e = .invalidVariable key text

/-- The settings that come out of the layers, valid or not. -/
def Layered (file : Option (Except String (List UInt8))) (env : Environment) (c : Settings) :
    Prop :=
  ∃ root, document? file = some root ∧ ∀ x ∈ Setting.all, x.2.IsChosen root env c

/-- What may be wrong with settings, in the order in which it is looked for. -/
def faults (resolve : Resolver) : List (Settings → Flaw) :=
  [fun c e => c.service.port = 0 ∧ e = .invalidPort,
    fun c e => c.service.maxUploadBytes < 1024 ∧ e = .uploadLimitTooSmall c.service.maxUploadBytes,
    fun c e => c.service.timeoutSeconds = 0 ∧ e = .invalidTimeout,
    fun c e => resolve c.service.host = none ∧ e = .invalidHost c.service.host,
    fun c e => c.level ∉ ["trace", "debug", "info", "warn", "error"] ∧ e = .invalidLogLevel c.level]

/-- Everything that may be wrong, layer by layer. -/
def flaws (resolve : Resolver) (file : Option (Except String (List UInt8))) (env : Environment) :
    List Flaw :=
  [IsUnreadable file, IsUnparsable file] ++
    (Setting.typed.map fun x => x.2.IsUnfit env) ++
    (faults resolve).map fun fault e => ∃ c, Layered file env c ∧ fault c e

/-! ### The file -/

section File

variable {x : Setting α} {root : Toml.Entries} {file : Option (Except String (List UInt8))}

/-- The value of a setting in a document, or its default. -/
def Setting.inDocument? (x : Setting α) (root : Toml.Entries) : Option α :=
  (section? x.part root).bind fun part =>
    valueOr (x.value .default) x.kind.ofItem? (part.item? x.place x.name)

theorem section?_eq_none_iff {name : String} : section? name root = none ↔
    ∃ part, root.lookup name = some part ∧ ¬ IsSection part := by
  unfold section?
  cases root.lookup name with
  | none => simp
  | some part => simp [section_ofItem?_eq_none_iff]

theorem Setting.isMistyped_iff : x.IsMistyped root ↔ x.inDocument? root = none := by
  have hmistyped : x.IsMistyped root ↔ (∃ item, x.item? root = some item ∧
      x.kind.ofItem? item = none) ∨ section? x.part root = none := by
    simp only [item?_eq_some_iff, Option.eq_none_iff_forall_ne_some (o := x.kind.ofItem? _), ne_eq,
      Kind.ofItem?_eq_some_iff, section?_eq_none_iff]
    constructor
    · rintro (⟨hitem, hvalue⟩ | ⟨hpart, hsection⟩)
      · exact .inl ⟨_, hitem, hvalue⟩
      · exact .inr ⟨_, hpart, hsection⟩
    · rintro (⟨item, hitem, hvalue⟩ | ⟨part, hpart, hsection⟩)
      · exact .item hitem hvalue
      · exact .part hpart hsection
  rw [hmistyped, inDocument?, item?]
  cases section? x.part root with
  | none => simp
  | some part => cases hitem : part.item? x.place x.name <;> simp [valueOr, hitem]

/-- Steps that do not depend on each other all have to succeed. -/
theorem isSome_bind_iff {x : Option α} {f : α → Option β} {p : Prop}
    (hf : ∀ a, (f a).isSome = true ↔ p) : (x.bind f).isSome = true ↔ x.isSome = true ∧ p := by
  cases x with
  | none => simp
  | some a => simpa using hf a

theorem exists_ofEntries?_iff (root : Toml.Entries) :
    (∃ s, ofEntries? root = some s) ↔ ∀ x ∈ Setting.all, ∃ a, x.2.inDocument? root = some a := by
  simp only [Setting.forall_mem_all, ← Option.isSome_iff_exists]
  simp only [Setting.inDocument?, Setting.host, Setting.port, Setting.metricsEnabled,
    Setting.maxUploadBytes, Setting.timeoutSeconds, Setting.library, Setting.verbose,
    Setting.minRecommendedSamples, Setting.level]
  unfold ofEntries?
  cases section? "server" root with
  | none => simp
  | some service =>
    cases section? "estimators" root with
    | none => simp
    | some estimators =>
      cases section? "logging" root with
      | none => simp
      | some logging =>
        have hservice : (serviceOf? service).isSome = true ↔ _ :=
          isSome_bind_iff fun _ => isSome_bind_iff fun _ => isSome_bind_iff fun _ =>
            isSome_bind_iff fun _ => isSome_bind_iff fun _ => iff_true_intro rfl
        refine (isSome_bind_iff fun _ => isSome_bind_iff fun _ => isSome_bind_iff fun _ =>
          isSome_bind_iff fun _ => isSome_bind_iff fun _ => iff_true_intro rfl).trans ?_
        rw [hservice]
        simp only [and_true, and_assoc]
        rfl

theorem ofEntries?_eq_none_iff :
    ofEntries? root = none ↔ ∃ x ∈ Setting.all, x.2.IsMistyped root := by
  have hsome := exists_ofEntries?_iff root
  simp only [← Option.ne_none_iff_exists'] at hsome
  rw [← not_iff_not, ← ne_eq, hsome, not_exists]
  simp only [not_and, Setting.isMistyped_iff, ne_eq]

theorem isUnparsable_iff {e : SettingsError} :
    IsUnparsable file e ↔ e = .unparsableFile ∧ (document? file).bind ofEntries? = none := by
  simp only [IsUnparsable, ← ofEntries?_eq_none_iff, Option.bind_eq_none_iff]

theorem isUnreadable_error_iff {reason : String} {e : SettingsError} :
    IsUnreadable (some (.error reason)) e ↔ e = .unreadableFile reason := by
  constructor
  · rintro ⟨⟩
    rfl
  · rintro rfl
    exact .missing reason

theorem isUnreadable_ok_iff {bytes : List UInt8} {e : SettingsError} :
    IsUnreadable (some (.ok bytes)) e ↔
      Text.Utf8.decode? bytes = none ∧ e = .unreadableFile notText := by
  rw [Text.Utf8.decode?_eq_none_iff]
  constructor
  · rintro ⟨⟩
    rename_i hbytes
    exact ⟨hbytes, rfl⟩
  · rintro ⟨hbytes, rfl⟩
    exact .garbled hbytes

theorem decidedBy_file : DecidedBy (ofFile? file) [IsUnreadable file, IsUnparsable file] := by
  intro e
  rw [first_cons_iff, first_cons_iff, isUnparsable_iff]
  simp only [not_first_nil, and_false, or_false]
  rcases file with _ | reason | bytes
  · have hnone : ofEntries? [] = some .default := rfl
    have hread (e : SettingsError) : ¬ IsUnreadable none e := nofun
    simp [ofFile?, document?, hnone, hread]
  · simp [ofFile?, ofFile, isUnreadable_error_iff, eq_comm]
  · cases htext : Text.Utf8.decode? bytes with
    | none => simp [ofFile?, ofFile, isUnreadable_ok_iff, htext, eq_comm]
    | some text =>
      have hdocument : document? (some (.ok bytes)) = Toml.parse? text := by simp [document?, htext]
      simp only [ofFile?, ofFile, isUnreadable_ok_iff, htext, hdocument]
      cases (Toml.parse? text).bind ofEntries? <;> simp [eq_comm]

end File

/-! ### The environment -/

section Variables

variable {env : Environment} {key text : String}

theorem value?_eq_some_iff : env.value? key = some text ↔ env key = some text ∧ ¬ IsBlank text := by
  simp [Environment.value?, Option.filter_eq_some_iff, IsBlank, Text.isBlankText]

theorem isUnfit_iff {x : Setting α} (hkey : x.key = some key) {e : SettingsError} :
    x.IsUnfit env e ↔ ∃ text, env.value? key = some text ∧ x.kind.ofText? text = none ∧
      e = .invalidVariable key text := by
  simp only [Setting.IsUnfit, value?_eq_some_iff, hkey, Option.some.injEq, exists_eq_left',
    ← Kind.ofText?_eq_some_iff, ← ne_eq, ← Option.eq_none_iff_forall_ne_some, and_assoc]

theorem decidedBy_override {x : Setting α} {read : List Char → Option α} (hkey : x.key = some key)
    (hread : x.kind.ofText? = Kind.trimmed read) (current : α) :
    DecidedBy (override env key read current) [x.IsUnfit env] := by
  refine decidedBy_single fun e => ?_
  rw [isUnfit_iff hkey, hread, override]
  cases env.value? key with
  | none => simp
  | some text =>
    cases hvalue : read (Text.trim text.toList) <;>
      simp [readVariable, Kind.trimmed, hvalue, eq_comm]

/-- What is overridden does not matter to the flaws of the variables. -/
theorem decidedBy_overrideAll (s : Settings) :
    DecidedBy (overrideAll env s) (Setting.typed.map fun x => x.2.IsUnfit env) :=
  (decidedBy_override (x := Setting.port) rfl rfl _).bind fun _ _ =>
    (decidedBy_override (x := Setting.metricsEnabled) rfl rfl _).bind fun _ _ =>
      (decidedBy_override (x := Setting.maxUploadBytes) rfl rfl _).bind fun _ _ =>
        (decidedBy_override (x := Setting.timeoutSeconds) rfl rfl _).bind fun _ _ =>
          (decidedBy_override (x := Setting.verbose) rfl rfl _).bind fun _ _ => decidedBy_ok _

/-- A blank variable is like one that is not set. -/
theorem value?_update (hblank : ∀ text, env key = some text → IsBlank text) (other : String) :
    env.value? other = Environment.value? (Function.update env key none) other := by
  by_cases hother : other = key
  · subst hother
    rw [Environment.value?, Environment.value?, Function.update_self, Option.filter_none,
      Option.filter_eq_none_iff]
    intro text htext
    simpa [Text.isBlankText, IsBlank] using hblank text htext
  · rw [Environment.value?, Environment.value?, Function.update_of_ne hother]

end Variables

/-! ### The check -/

theorem decidedBy_validate (resolve : Resolver) (c : Settings) :
    DecidedBy (c.validate resolve) ((faults resolve).map fun fault => fault c) := by
  intro e
  simp only [faults, List.map_cons, List.map_nil, first_guard_iff, not_first_nil]
  unfold validate fault? ServiceSettings.fault? ServiceSettings.minUploadBytes levels
  by_cases hport : c.service.port = 0
  · simp [hport, eq_comm]
  by_cases huploads : c.service.maxUploadBytes < 1024
  · simp [hport, huploads, eq_comm]
  by_cases htimeout : c.service.timeoutSeconds = 0
  · simp [hport, huploads, htimeout, eq_comm]
  cases resolve c.service.host with
  | none => simp [hport, huploads, htimeout, eq_comm]
  | some address =>
    by_cases hlevel : c.level ∈ ["trace", "debug", "info", "warn", "error"]
    · simp [hport, huploads, htimeout, hlevel]
    · simp [hport, huploads, htimeout, hlevel, eq_comm]

/-! ### All layers -/

section Loading

variable {resolve : Resolver} {file : Option (Except String (List UInt8))} {env : Environment}

theorem layered_iff {s c : Settings} (hs : ofFile? file = .ok s) :
    Layered file env c ↔ overrideAll env s = .ok c := by
  obtain ⟨root, hroot, hentries⟩ := ofFile?_eq_ok_iff.1 hs
  rw [overrideAll_eq_ok_iff_isChosen hentries, Layered, hroot]
  simp

theorem decidedBy_flaws : DecidedBy (loadWith resolve file env) (flaws resolve file env) := by
  unfold loadWith flaws
  rw [List.append_assoc]
  refine decidedBy_file.bind fun s hs => (decidedBy_overrideAll s).bind fun c hc => ?_
  -- By now the layers yield one value, so that the faults are looked for in it alone.
  have hfaults : ((faults resolve).map fun fault e => ∃ c, Layered file env c ∧ fault c e) =
      (faults resolve).map fun fault => fault c := by
    refine List.map_congr_left fun fault _ => funext fun e => propext ?_
    simp [layered_iff hs, hc]
  rw [hfaults]
  exact decidedBy_validate resolve c

/-- Whatever is wrong, the first flaw decides the error, and settings are loaded exactly where there
is none. What a variable holds is then in force, unless it is blank, which is as if it were not
set. -/
theorem first_flaw_decides (resolve : Resolver) (file : Option (Except String (List UInt8)))
    (env : Environment) :
    (∀ e, loadWith resolve file env = .error e ↔ First (flaws resolve file env) e) ∧
    ((∃ c, loadWith resolve file env = .ok c) ↔ Clear (flaws resolve file env)) ∧
    (∀ c, loadWith resolve file env = .ok c → Layered file env c ∧
      ∀ x ∈ Setting.all, ∀ key text, x.2.key = some key → env key = some text → ¬ IsBlank text →
        x.2.kind.Spells text (x.2.value c)) ∧
    ∀ key text, env key = some text → IsBlank text →
      loadWith resolve file env = loadWith resolve file (Function.update env key none) := by
  refine ⟨decidedBy_flaws, decidedBy_flaws.exists_ok_iff, fun c hload => ?_,
    fun key text henv hblank => ?_⟩
  · obtain ⟨root, s, hroot, hs, hchosen, -⟩ := loadWith_eq_ok_iff.1 hload
    refine ⟨⟨root, hroot, hchosen⟩, fun x hx key text hkey henv hblank => ?_⟩
    have hover : x.2.overriding? env = some text := by
      rw [Setting.overriding?, hkey, Option.bind_some, value?_eq_some_iff]
      exact ⟨henv, hblank⟩
    have hvalue := hchosen x hx
    rwa [Setting.IsChosen, hover] at hvalue
  · have hvalue : ∀ other, env key = some other → IsBlank other := by
      intro other hother
      obtain rfl := Option.some.inj (henv.symm.trans hother)
      exact hblank
    unfold loadWith
    simp only [overrideAll_of_agree fun other _ => value?_update hvalue other]

/-- A text where a port should stand hides what is wrong with the variables. In the other file the
first variable that is unfit decides; a blank one does not hide what the file says, whose port
decides where no variable is set. Overrides cure all that is wrong. -/
theorem first_flaw_decides_cured :
    let file (text : String) : Option (Except String (List UInt8)) :=
      some (.ok (Text.Utf8.encode text))
    let mistyped := file "[server]\nmax_upload_bytes = 512\nport = \"80\"\n"
    let faulty := file "[server]\nport = 0\nmetrics_enabled = false\nmax_upload_bytes = 512\n"
    let env : Environment := fun key =>
      [("EA_SERVER_PORT", "\u00a0"), ("EA_TIMEOUT_SECS", " 1s"), ("EA_VERBOSE", "256"),
        ("EA_LOG_LEVEL", "loud")].lookup key
    let cured : Environment := fun key =>
      [("EA_SERVER_PORT", "\u00a0+80\n"), ("EA_MAX_UPLOAD_BYTES", "1024"),
        ("EA_TIMEOUT_SECS", "01"), ("EA_VERBOSE", "255"), ("EA_LOG_LEVEL", "WARN")].lookup key
    First (flaws Net.Address.ofHost? mistyped env) .unparsableFile ∧
    First (flaws Net.Address.ofHost? faulty env) (.invalidVariable "EA_TIMEOUT_SECS" " 1s") ∧
    load faulty env = load faulty (Function.update env "EA_SERVER_PORT" none) ∧
    First (flaws Net.Address.ofHost? faulty fun _ => none) .invalidPort ∧
    Clear (flaws Net.Address.ofHost? faulty cured) ∧
    load faulty cured = .ok ⟨⟨"0.0.0.0", 80, false, 1024, 1⟩, none, 255, 1000000, "warn"⟩ ∧
    Layered faulty cured ⟨⟨"0.0.0.0", 80, false, 1024, 1⟩, none, 255, 1000000, "warn"⟩ := by
  intro file mistyped faulty env cured
  have decided {file : Option (Except String (List UInt8))} {env : Environment} {e : SettingsError}
      (hload : load file env = .error e) : First (flaws Net.Address.ofHost? file env) e :=
    ((first_flaw_decides Net.Address.ofHost? file env).1 e).1 hload
  obtain ⟨-, -, -, hblank⟩ := first_flaw_decides Net.Address.ofHost? faulty env
  obtain ⟨-, hclear, hforce, -⟩ := first_flaw_decides Net.Address.ofHost? faulty cured
  have hcured : load faulty cured =
      .ok ⟨⟨"0.0.0.0", 80, false, 1024, 1⟩, none, 255, 1000000, "warn"⟩ := by decide +kernel
  exact ⟨decided (by decide +kernel), decided (by decide +kernel),
    hblank _ _ rfl (by simp [IsBlank, Text.isBlank]), decided (by decide +kernel),
    hclear.1 ⟨_, hcured⟩, hcured, (hforce _ hcured).1⟩

end Loading

end MinEntropy.Settings

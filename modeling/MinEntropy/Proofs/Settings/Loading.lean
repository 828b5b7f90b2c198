import Mathlib.Control.Monad.Basic
import MinEntropy.Proofs.Settings.Layers
import MinEntropy.Service.Basic

/-! What loading settings comes to. Nothing but the highest layer that sets a setting counts, and
only what comes out of the layers is checked. -/

namespace MinEntropy.Settings

/-- The variables that are looked at. -/
def keys : List String :=
  ["EA_SERVER_HOST", "EA_SERVER_PORT", "EA_METRICS_ENABLED", "EA_MAX_UPLOAD_BYTES",
    "EA_TIMEOUT_SECS", "EA_ESTIMATOR_LIBRARY", "EA_VERBOSE", "EA_LOG_LEVEL"]

/-- The document in an optional file; no file is like an empty one. -/
def document? : Option (Except String (List UInt8)) → Option Toml.Entries
  | none => some []
  | some (.error _) => none
  | some (.ok bytes) => (Text.Utf8.decode? bytes).bind Toml.parse?

structure IsValid (resolve : Resolver) (c : Settings) : Prop where
  port_ne_zero : c.service.port ≠ 0
  le_maxUploadBytes : 1024 ≤ c.service.maxUploadBytes
  le_timeoutSeconds : 1 ≤ c.service.timeoutSeconds
  resolves : ∃ address, resolve c.service.host = some address
  level_mem : c.level ∈ ["trace", "debug", "info", "warn", "error"]

section Validity

variable {resolve : Resolver} {s c : Settings}

theorem service_fault?_eq_none_iff : s.service.fault? resolve = none ↔
    s.service.port ≠ 0 ∧ 1024 ≤ s.service.maxUploadBytes ∧ 1 ≤ s.service.timeoutSeconds ∧
      ∃ address, resolve s.service.host = some address := by
  unfold ServiceSettings.fault? ServiceSettings.minUploadBytes
  by_cases hport : s.service.port = 0
  · simp [hport]
  · by_cases huploads : s.service.maxUploadBytes < 1024
    · simp [hport, huploads, Nat.not_le.2 huploads]
    · by_cases htimeout : s.service.timeoutSeconds = 0
      · simp [hport, huploads, htimeout]
      · cases resolve s.service.host with
        | none => simp [hport, huploads, htimeout]
        | some address =>
          simp [hport, huploads, htimeout, Nat.not_lt.1 huploads, Nat.one_le_iff_ne_zero]

theorem validate_eq_ok_iff : s.validate resolve = .ok c ↔ s = c ∧ s.IsValid resolve := by
  have hvalid : s.IsValid resolve ↔ s.service.fault? resolve = none ∧ s.level ∈ levels := by
    rw [service_fault?_eq_none_iff]
    constructor
    · rintro ⟨hport, huploads, htimeout, hresolves, hlevel⟩
      exact ⟨⟨hport, huploads, htimeout, hresolves⟩, hlevel⟩
    · rintro ⟨⟨hport, huploads, htimeout, hresolves⟩, hlevel⟩
      exact ⟨hport, huploads, htimeout, hresolves, hlevel⟩
  unfold validate fault?
  rw [hvalid]
  cases s.service.fault? resolve with
  | some e => simp
  | none =>
    by_cases hlevel : s.level ∈ levels
    · simp [hlevel]
    · simp [hlevel]

end Validity

/-- A file is read if its document makes settings. -/
theorem ofFile?_eq_ok_iff {file : Option (Except String (List UInt8))} {s : Settings} :
    ofFile? file = .ok s ↔ ∃ root, document? file = some root ∧ ofEntries? root = some s := by
  rcases file with _ | reason | bytes
  · have hnone : ofEntries? [] = some .default := rfl
    simp [ofFile?, document?, hnone]
  · simp [ofFile?, ofFile, document?]
  · cases htext : Text.Utf8.decode? bytes with
    | none => simp [ofFile?, ofFile, document?, htext]
    | some text =>
      cases hroot : Toml.parse? text with
      | none => simp [ofFile?, ofFile, document?, htext, hroot]
      | some root =>
        cases hs : ofEntries? root <;> simp [ofFile?, ofFile, document?, htext, hroot, hs]

/-- What overrides a document is chosen from the layers. -/
theorem overrideAll_eq_ok_iff_isChosen {root : Toml.Entries} {env : Environment} {s c : Settings}
    (hs : ofEntries? root = some s) :
    overrideAll env s = .ok c ↔ ∀ x ∈ Setting.all, x.2.IsChosen root env c := by
  rw [overrideAll_eq_ok_iff]
  exact forall₂_congr fun x hx => Setting.overridden_iff (inFile_of_ofEntries? hs x hx)

/-- What loading yields is chosen from the layers, and valid. -/
theorem loadWith_eq_ok_iff {resolve : Resolver} {file : Option (Except String (List UInt8))}
    {env : Environment} {c : Settings} :
    loadWith resolve file env = .ok c ↔
      ∃ root s, document? file = some root ∧ ofEntries? root = some s ∧
        (∀ x ∈ Setting.all, x.2.IsChosen root env c) ∧ c.IsValid resolve := by
  unfold loadWith
  simp only [bind_eq_ok_iff, ofFile?_eq_ok_iff, validate_eq_ok_iff]
  constructor
  · rintro ⟨s, ⟨root, hroot, hs⟩, _, hoverrides, rfl, hvalid⟩
    exact ⟨root, s, hroot, hs, (overrideAll_eq_ok_iff_isChosen hs).1 hoverrides, hvalid⟩
  · rintro ⟨root, s, hroot, hs, hchosen, hvalid⟩
    exact ⟨s, ⟨root, hroot, hs⟩, c, (overrideAll_eq_ok_iff_isChosen hs).2 hchosen, rfl, hvalid⟩

/-- Neither the environment nor the file names a library. -/
def NamesNoLibrary (file : Option (Except String (List UInt8))) (env : Environment) : Prop :=
  env.value? "EA_ESTIMATOR_LIBRARY" = none ∧
    ∀ root, document? file = some root → ∀ item, ¬ Setting.library.IsSetBy root item

section Interference

variable {env env' : Environment} {s s' : Settings}

theorem override_congr {x : Setting α} {key : String} {read : List Char → Option α}
    (hkey : x.key = some key) (hsame : x.overriding? env = none → x.value s = x.value s') :
    override env key read (x.value s) = override env key read (x.value s') := by
  unfold override
  unfold Setting.overriding? at hsame
  rw [hkey, Option.bind_some] at hsame
  cases henv : env.value? key with
  | some text => rfl
  | none => rw [hsame henv]

theorem getD_map_congr (text : Option String) (f : String → α) {a a' : α}
    (hsame : text = none → a = a') : (text.map f).getD a = (text.map f).getD a' := by
  cases text with
  | none => exact hsame rfl
  | some text => rfl

theorem bind_congr_of_eq {x y : Except ε α} {f g : α → Except ε β} (hxy : x = y)
    (hfg : ∀ a, f a = g a) : x >>= f = y >>= g := by
  rw [hxy, funext hfg]

/-- What is overridden does not matter. -/
theorem overrideAll_congr
    (hsame : ∀ x ∈ Setting.all, x.2.overriding? env = none → x.2.value s = x.2.value s') :
    overrideAll env s = overrideAll env s' := by
  obtain ⟨hhost, hport, hmetricsEnabled, hmaxUploadBytes, htimeoutSeconds, hlibrary, hverbose,
    hminRecommendedSamples, hlevel⟩ := Setting.forall_mem_all.1 hsame
  unfold overrideAll
  refine bind_congr_of_eq (override_congr (x := Setting.port) rfl hport) fun port => ?_
  refine bind_congr_of_eq (override_congr (x := Setting.metricsEnabled) rfl hmetricsEnabled)
    fun metricsEnabled => ?_
  refine bind_congr_of_eq (override_congr (x := Setting.maxUploadBytes) rfl hmaxUploadBytes)
    fun maxUploadBytes => ?_
  refine bind_congr_of_eq (override_congr (x := Setting.timeoutSeconds) rfl htimeoutSeconds)
    fun timeoutSeconds => ?_
  refine bind_congr_of_eq (override_congr (x := Setting.verbose) rfl hverbose) fun verbose => ?_
  have hhost := getD_map_congr (env.value? "EA_SERVER_HOST") id hhost
  have hlibrary := getD_map_congr (env.value? "EA_ESTIMATOR_LIBRARY") some hlibrary
  have hlevel := getD_map_congr (env.value? "EA_LOG_LEVEL") lowerCase hlevel
  have hminRecommendedSamples := hminRecommendedSamples rfl
  simp only [Option.map_id, id, Setting.host, Setting.library, Setting.level,
    Setting.minRecommendedSamples] at hhost hlibrary hlevel hminRecommendedSamples
  simp only [orElse_eq_getD, hhost, hlibrary, hlevel, hminRecommendedSamples]

/-- Other variables do not matter. -/
theorem overrideAll_of_agree (hsame : ∀ key ∈ keys, env.value? key = env'.value? key) :
    overrideAll env s = overrideAll env' s := by
  simp only [keys, List.forall_mem_cons] at hsame
  obtain ⟨hhost, hport, hmetricsEnabled, hmaxUploadBytes, htimeoutSeconds, hlibrary, hverbose,
    hlevel, -⟩ := hsame
  simp only [overrideAll, override, hhost, hport, hmetricsEnabled, hmaxUploadBytes,
    htimeoutSeconds, hlibrary, hverbose, hlevel]

end Interference

/-- Each setting is that of the highest layer that sets it, and what is loaded is valid, so that a
service accepts it. Nothing else in the environment or the file matters, not even where the file
alone would be refused. -/
theorem loadWith_layers (resolve : Resolver) (env : Environment) :
    (∀ file c, loadWith resolve file env = .ok c ↔
      ∃ root s, document? file = some root ∧ ofEntries? root = some s ∧
        (∀ x ∈ Setting.all, x.2.IsChosen root env c) ∧ c.IsValid resolve) ∧
    (∀ file c, loadWith resolve file env = .ok c →
      ∀ {σ τ : Type} (coordinator : Coordinator σ τ) metrics,
        Service.createWith resolve c.service coordinator metrics =
          .ok ⟨c.service, coordinator, metrics⟩) ∧
    (∀ file env', (∀ key ∈ keys, env.value? key = env'.value? key) →
      loadWith resolve file env = loadWith resolve file env') ∧
    (∀ file file' s s', ofFile? file = .ok s → ofFile? file' = .ok s' →
      (∀ x ∈ Setting.all, x.2.overriding? env = none → x.2.value s = x.2.value s') →
        loadWith resolve file env = loadWith resolve file' env) ∧
    ∀ contents, loadFileWith resolve contents = loadWith resolve (some contents) fun _ => none := by
  refine ⟨fun file c => loadWith_eq_ok_iff, fun file c hload σ τ coordinator metrics => ?_,
    fun file env' hsame => ?_, fun file file' s s' hs hs' hsame => ?_, fun contents => ?_⟩
  · obtain ⟨_, _, _, _, _, hport, huploads, htimeout, hresolves, _⟩ := loadWith_eq_ok_iff.1 hload
    have hfault := service_fault?_eq_none_iff.2 ⟨hport, huploads, htimeout, hresolves⟩
    rw [Service.createWith, hfault]
  · unfold loadWith
    simp only [overrideAll_of_agree hsame]
  · unfold loadWith
    rw [hs, hs']
    exact congrArg (· >>= (validate · resolve)) (overrideAll_congr hsame)
  · rfl

/-- The file alone has no port and an unknown level. The environment corrects both, and would
correct them in other files. -/
theorem loadWith_layers_corrected :
    let file (port : Nat) (level : String) : Option (Except String (List UInt8)) :=
      some (.ok (Text.Utf8.encode ("[server]\nport = " ++ toString port ++
        "\ntimeout_secs = 60\n\n[logging]\nlevel = \"" ++ level ++ "\"\n")))
    let env : Environment := fun key =>
      [("EA_SERVER_PORT", " 8080 "), ("EA_LOG_LEVEL", "DEBUG"), ("EA_VERBOSE", " ")].lookup key
    let s (port : Nat) (level : String) : Settings :=
      ⟨⟨"0.0.0.0", port, true, 104857600, 60⟩, none, 1, 1000000, level⟩
    ofFile? (file 0 "verbose") = .ok (s 0 "verbose") ∧
    load (file 0 "verbose") (fun _ => none) = .error .invalidPort ∧
    load (file 0 "verbose") env = .ok (s 8080 "debug") ∧
    load (file 443 "loud") env = .ok (s 8080 "debug") ∧
    (s 8080 "debug").IsValid Net.Address.ofHost? := by
  intro file env s
  obtain ⟨hload, -, -, hfiles, -⟩ := loadWith_layers Net.Address.ofHost? env
  have hfirst : ofFile? (file 0 "verbose") = .ok (s 0 "verbose") := by decide +kernel
  have hsecond : ofFile? (file 443 "loud") = .ok (s 443 "loud") := by decide +kernel
  have hloaded : load (file 0 "verbose") env = .ok (s 8080 "debug") := by decide +kernel
  have hport : Setting.port.overriding? env ≠ none := by decide +kernel
  have hlevel : Setting.level.overriding? env ≠ none := by decide +kernel
  have hsame : ∀ x ∈ Setting.all, x.2.overriding? env = none →
      x.2.value (s 443 "loud") = x.2.value (s 0 "verbose") :=
    Setting.forall_mem_all.2 ⟨fun _ => rfl, fun hnone => absurd hnone hport, fun _ => rfl,
      fun _ => rfl, fun _ => rfl, fun _ => rfl, fun _ => rfl, fun _ => rfl,
      fun hnone => absurd hnone hlevel⟩
  refine ⟨hfirst, by decide +kernel, hloaded, ?_, ?_⟩
  · exact (hfiles _ _ _ _ hsecond hfirst hsame).trans hloaded
  · obtain ⟨_, _, _, _, _, hvalid⟩ := (hload _ _).1 hloaded
    exact hvalid

end MinEntropy.Settings

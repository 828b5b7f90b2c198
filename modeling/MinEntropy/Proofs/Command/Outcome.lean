import MinEntropy.Command.Run
import MinEntropy.Proofs.Command.Failure
import MinEntropy.Proofs.Report.Answers
import MinEntropy.Proofs.Settings.Loading

/-! What an assessment leaves behind: its exit code, the file that it writes and what it prints. All
follow from the point where it failed, or from the answer that it came to. -/

namespace MinEntropy.Report

end MinEntropy.Report

namespace MinEntropy.Command

section Stages

variable (w : World σ) (config : Option String) (a : AssessArguments)

/-- The verbosity of the arguments, or else that of the settings, which counts up to three. -/
def AssessArguments.verbosity (s : Settings) : Nat := a.verbose.getD (min s.verbose 3)

/-- The command is not set up rightly. -/
inductive Misconfigured : Prop
  | settings {e : SettingsError}
    (hs : Settings.load (config.map w.read) w.environment = .error e)
  | suite (hmock : a.suite.mock = false) (hflag : a.suite.library = none)
    (hsettings : Settings.NamesNoLibrary (config.map w.read) w.environment)

/-- The filter for the log cannot be read. -/
def BreaksDown : Prop :=
  ∃ s, Settings.load (config.map w.read) w.environment = .ok s ∧ filter w s = none

/-- The suite that is chosen: the stand-in, or the library of the arguments or the settings. -/
inductive Chooses (suite : SuiteArguments) (s : Settings) (verbosity : Nat) : ReadySuite → Prop
  | standIn (hmock : suite.mock = true) :
    Chooses suite s verbosity ⟨_, Mock.suite .estimates, []⟩
  | library {path : String} {b : Binding σ} (hmock : suite.mock = false)
    (hpath : (suite.library <|> s.library) = some path)
    (hload : Binding.load path (w.library? path) verbosity = .ok b) :
    Chooses suite s verbosity ⟨_, b.suite, (Usage.none, w.libraryStart)⟩

/-- The samples, with the name they go by: those of a file, or else of standard input. -/
inductive Supplies : Option String → String → List UInt8 → Prop
  | file {path : String} {data : List UInt8} (hread : w.read path = .ok data) :
    Supplies (some path) path data
  | input {data : List UInt8} (hread : w.input = .ok data) : Supplies none "-" data

/-- What an assessment works on once its suite and its samples are there. -/
structure Job where
  verbosity : Nat
  ready : ReadySuite
  filename : String
  data : List UInt8

/-- The suite and the samples are there. -/
structure Obtains (job : Job) : Prop where
  suite : ∃ s, Settings.load (config.map w.read) w.environment = .ok s ∧
    job.verbosity = a.verbosity s ∧ Chooses w a.suite s job.verbosity job.ready
  samples : Supplies w a.file job.filename job.data

/-- A coordinator with the suite gives the answer, however long that takes. -/
def Job.Answers (job : Job) (answer : Report.Answer) : Prop :=
  ∀ took, ((⟨job.ready.suite, .silent⟩ : Coordinator job.ready.State Unit).assess
    (a.request job.data) took (job.ready.start, ())).1 = .ok answer

/-- A later step fails: the library, the samples in a file or on standard input, the assessment, or
the file for the report. -/
inductive Fails : Prop
  | library {s : Settings} {path : String} {e : LibraryError} (hmock : a.suite.mock = false)
    (hs : Settings.load (config.map w.read) w.environment = .ok s)
    (hpath : (a.suite.library <|> s.library) = some path)
    (hload : Binding.load path (w.library? path) (a.verbosity s) = .error e)
  | samples {path reason : String} (hfile : a.file = some path)
    (hread : w.read path = .error reason)
  | input {reason : String} (hfile : a.file = none) (hread : w.input = .error reason)
  | assessment {job : Job} {e : AssessmentError} (hjob : Obtains w config a job)
    (hanswer : job.Answers a (.error e))
  | output {path reason : String} (hpath : a.output = some path)
    (hrefused : w.destination path = .refused reason)

/-- The report on an answer. -/
def Job.report (job : Job) (answer : Report.Answer) : Report :=
  (Report.new job.filename a.mode a.bits job.data w.now).withAnswer answer

/-- The members of that report. -/
def Job.members (job : Job) (answer : Report.Answer) : List (String × Json) :=
  Report.members job.filename a.mode a.bits job.data w.now answer

/-- The line that names the file with the report. -/
def notice (verbosity : Nat) (path : String) : Report.Answer → String
  | .ok _ => if 0 < verbosity then "Results written to " ++ path ++ "\n" else ""
  | .error _ => ""

end Stages

/-! ### Stages -/

section Lemmas

variable {w : World σ} {config : Option String} {a : AssessArguments} {s : Settings}

theorem chooses_iff {verbosity : Nat} {ready : ReadySuite} :
    Chooses w a.suite s verbosity ready ↔
      ∃ line, chooseSuite w a.suite s verbosity = .ok (ready, line) := by
  constructor
  · rintro (hmock | ⟨hmock, hpath, hload⟩)
    · exact ⟨mockWarning, by simp [chooseSuite, hmock]⟩
    · exact ⟨_, by simp [chooseSuite, hmock, hpath, hload]; rfl⟩
  · rintro ⟨line, hsuite⟩
    unfold chooseSuite at hsuite
    cases hmock : a.suite.mock with
    | true =>
      simp only [hmock, if_true, Except.ok.injEq, Prod.mk.injEq] at hsuite
      obtain ⟨rfl, -⟩ := hsuite
      exact .standIn hmock
    | false =>
      cases hpath : (a.suite.library <|> s.library) with
      | none => simp [hmock, hpath] at hsuite
      | some path =>
        cases hload : Binding.load path (w.library? path) verbosity with
        | error e => simp [hmock, hpath, hload] at hsuite
        | ok b =>
          simp only [hmock, hpath, hload, Bool.false_eq_true, if_false, Except.ok.injEq,
            Prod.mk.injEq] at hsuite
          obtain ⟨rfl, -⟩ := hsuite
          exact .library hmock hpath hload

theorem supplies_iff {file : Option String} {filename : String} {data : List UInt8} :
    Supplies w file filename data ↔ readSamples w file = .ok (filename, data) := by
  constructor
  · rintro (hread | hread)
    · simp [readSamples, hread]
    · simp [readSamples, hread, inputName]
  · intro hsamples
    cases file with
    | none =>
      cases hread : w.input with
      | error reason => simp [readSamples, hread] at hsamples
      | ok bytes =>
        obtain ⟨rfl, rfl⟩ : inputName = filename ∧ bytes = data := by
          simpa [readSamples, hread] using hsamples
        exact .input hread
    | some path =>
      cases hread : w.read path with
      | error reason => simp [readSamples, hread] at hsamples
      | ok bytes =>
        obtain ⟨rfl, rfl⟩ : path = filename ∧ bytes = data := by
          simpa [readSamples, hread] using hsamples
        exact .file hread

/-- What is obtained depends on the settings that are loaded. -/
theorem Obtains.of_settings {job : Job} (hjob : Obtains w config a job)
    (hs : loadSettings w config = .ok s) :
    job.verbosity = a.verbosity s ∧
      (∃ line, chooseSuite w a.suite s (a.verbosity s) = .ok (job.ready, line)) ∧
      readSamples w a.file = .ok (job.filename, job.data) := by
  obtain ⟨⟨s', hs', hverbosity, hsuite⟩, hsamples⟩ := hjob
  obtain rfl := Except.ok.inj (hs.symm.trans hs')
  exact ⟨hverbosity, chooses_iff.1 (hverbosity ▸ hsuite), supplies_iff.1 hsamples⟩

section Conclusion

variable {job : Job} {answer : Report.Answer} {log : List Log.Line}

end Conclusion

/-! ### The course of an assessment -/

/-- How an assessment may go: it is not set up rightly, or it stops before there is an answer, or it
reports on an answer. -/
inductive Course (w : World σ) (config : Option String) (a : AssessArguments) : Outcome → Prop
  | misconfigured {log : List Log.Line} {f : Failure} (hsetup : Misconfigured w config a)
    (hcode : f.exitCode = 2) (hnone : ∀ job, ¬ Obtains w config a job) :
    Course w config a (.failed log f)
  | stopped {log : List Log.Line} {f : Failure} (hsetup : ¬ Misconfigured w config a)
    (hfails : Fails w config a) (hcode : f.exitCode = 1) (hnone : ∀ job, ¬ Obtains w config a job) :
    Course w config a (.failed log f)
  | answered {job : Job} {answer : Report.Answer} (log : List Log.Line)
    (hsetup : ¬ Misconfigured w config a) (hjob : Obtains w config a job)
    (hanswer : job.Answers a answer) :
    Course w config a (conclude w a job.verbosity job.filename job.data answer log)

section Run

variable {tokens : List String} (v : Visit)

theorem perform_of_filter (hs : loadSettings w config = .ok s) {rules : Log.Filter}
    (hf : filter w s = some rules) :
    (perform w ⟨config, .assess a⟩ v).outcome = assess w s a := by
  unfold perform
  simp [hs, hf, runTask]

theorem Obtains.exists_conclude {job : Job} (hjob : Obtains w config a job)
    (hcalm : ¬ BreaksDown w config) :
    ∃ log, (perform w ⟨config, .assess a⟩ v).outcome =
      conclude w a job.verbosity job.filename job.data (job.ready.answer a job.data) log := by
  obtain ⟨s, hs, -⟩ := hjob.suite
  obtain ⟨hverbosity, ⟨line, hsuite⟩, hsamples⟩ := hjob.of_settings hs
  obtain ⟨rules, hf⟩ := Option.ne_none_iff_exists'.1 fun hf => hcalm ⟨s, hs, hf⟩
  obtain ⟨log, hassess⟩ := Command.exists_conclude hsuite hsamples
  rw [perform_of_filter v hs hf, hassess, hverbosity]
  exact ⟨log, rfl⟩

end Run

section Exceptions

variable {tokens : List String} {v : Visit} {job : Job}

end Exceptions

end Lemmas

end MinEntropy.Command

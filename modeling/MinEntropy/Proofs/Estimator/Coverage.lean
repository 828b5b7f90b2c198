import MinEntropy.Estimator.Mock
import MinEntropy.Proofs.Assessment.Calls
import MinEntropy.Proofs.Assessment.Sequence

/-! The stand-in suite runs the whole catalogue of a track. Procedures over two symbols are left out
on literal symbols exactly where the bits run, so that no procedure is left out altogether. -/

namespace MinEntropy

open Exchange

theorem Procedure.name_injective {p q : Procedure} (hname : p.name = q.name) : p = q := by
  cases p <;> cases q <;> simp_all [name]

/-! ### The programme of a track -/

namespace Mode

/-- The catalogue of a track for an alphabet, with the view that each procedure runs on. -/
def programme (alphabetSize : Nat) : Mode → List (Representation × Procedure)
  | iid => iid.procedures.map (.literal, ·)
  | nonIid =>
    if alphabetSize = 2 then nonIid.procedures.map (.literal, ·)
    else
      nonIid.procedures.map (.bitstring, ·) ++
        (nonIid.procedures.filter (!·.binaryOnly)).map (.literal, ·)

/-- The views that a procedure has in a programme. -/
def viewsIn (programme : List (Representation × Procedure)) (q : Procedure) :
    List Representation :=
  (programme.filter (·.2 = q)).map (·.1)

theorem procedures_nodup (mode : Mode) : mode.procedures.Nodup := by
  cases mode <;> decide

section Views

variable {mode : Mode} {q : Procedure} (hq : q ∈ mode.procedures)

theorem viewsIn_append (xs ys : List (Representation × Procedure)) (q : Procedure) :
    viewsIn (xs ++ ys) q = viewsIn xs q ++ viewsIn ys q := by
  simp [viewsIn]

include hq in
theorem viewsIn_filter (runs : Procedure → Bool) (view : Representation) :
    viewsIn ((mode.procedures.filter runs).map (view, ·)) q = if runs q then [view] else [] := by
  have honce : (mode.procedures.filter runs).filter (· = q) = if runs q then [q] else [] := by
    rw [List.filter_comm, List.filter_eq, mode.procedures_nodup.count, if_pos hq,
      List.replicate_one, List.filter_cons, List.filter_nil]
  rw [viewsIn, List.filter_map, List.map_map]
  change ((mode.procedures.filter runs).filter (· = q)).map _ = _
  rw [honce]
  split <;> rfl

include hq in
theorem viewsIn_map (view : Representation) :
    viewsIn (mode.procedures.map (view, ·)) q = [view] := by
  simpa using viewsIn_filter hq (fun _ => true) view

include hq in
theorem viewsIn_programme (n : Nat) :
    viewsIn (mode.programme n) q =
      if q.binaryOnly then [if n = 2 then .literal else .bitstring]
      else if mode = .nonIid ∧ n ≠ 2 then [.bitstring, .literal] else [.literal] := by
  have hiid : ∀ q ∈ iid.procedures, q.binaryOnly = false := by decide
  cases mode with
  | iid =>
    rw [programme, viewsIn_map hq, hiid q hq]
    simp
  | nonIid =>
    by_cases hn : n = 2
    · rw [programme, if_pos hn, viewsIn_map hq]
      simp [hn]
    · rw [programme, if_neg hn, viewsIn_append, viewsIn_map hq, viewsIn_filter hq]
      by_cases hbinary : q.binaryOnly <;> simp [hn, hbinary]

end Views

theorem length_programme (mode : Mode) (n : Nat) :
    (mode.programme n).length =
      match mode with
      | .iid => 4
      | .nonIid => if n = 2 then 10 else 17 := by
  cases mode with
  | iid => rfl
  | nonIid =>
    by_cases hn : n = 2
    · rw [programme, if_pos hn, List.length_map]
      exact (if_pos hn).symm
    · rw [programme, if_neg hn, List.length_append, List.length_map, List.length_map]
      exact (if_neg hn).symm

end Mode

/-! ### Outcomes that cover a catalogue -/

namespace ModeResult

/-- The outcomes cover the catalogue of a track: every procedure is there once for each view that it
is owed to, in order. -/
structure Covers (m : ModeResult) (mode : Mode) (alphabetSize : Nat) : Prop where
  mode_eq : m.mode = mode
  listed : m.outcomes.map (fun o => (o.view, o.name)) =
    (mode.programme alphabetSize).map fun x => (x.1, x.2.name)
  binaryOnly : ∀ q ∈ mode.procedures, q.binaryOnly = true →
    (m.outcomes.filter (·.name = q.name)).map (·.view) =
      [if alphabetSize = 2 then .literal else .bitstring]
  other : ∀ q ∈ mode.procedures, q.binaryOnly = false →
    (m.outcomes.filter (·.name = q.name)).map (·.view) =
      if mode = .nonIid ∧ alphabetSize ≠ 2 then [.bitstring, .literal] else [.literal]
  length_outcomes : m.outcomes.length =
    match mode with
    | .iid => 4
    | .nonIid => if alphabetSize = 2 then 10 else 17

variable {m : ModeResult} {mode : Mode} {n : Nat}

theorem views_of_listed (hlisted : m.outcomes.map (fun o => (o.view, o.name)) =
    (mode.programme n).map fun x => (x.1, x.2.name)) (q : Procedure) :
    (m.outcomes.filter (·.name = q.name)).map (·.view) = Mode.viewsIn (mode.programme n) q := by
  have hnames : (m.outcomes.filter (·.name = q.name)).map (·.view) =
      ((m.outcomes.map fun o => (o.view, o.name)).filter (·.2 = q.name)).map (·.1) := by
    rw [List.filter_map, List.map_map]
    rfl
  have hsame : (fun x : Representation × Procedure => decide (x.2.name = q.name)) =
      fun x => decide (x.2 = q) := by
    funext x
    exact decide_eq_decide.2 ⟨Procedure.name_injective, congrArg Procedure.name⟩
  rw [hnames, hlisted, List.filter_map, List.map_map, Mode.viewsIn, ← hsame]
  rfl

/-- The list of what was run says how often each procedure was run, and on what. -/
theorem covers_of_listed (hmode : m.mode = mode)
    (hlisted : m.outcomes.map (fun o => (o.view, o.name)) =
      (mode.programme n).map fun x => (x.1, x.2.name)) : m.Covers mode n := by
  refine ⟨hmode, hlisted, fun q hq hbinary => ?_, fun q hq hother => ?_, ?_⟩
  · rw [views_of_listed hlisted, Mode.viewsIn_programme hq, if_pos hbinary]
  · rw [views_of_listed hlisted, Mode.viewsIn_programme hq, hother]
    rfl
  · have hlength := congrArg List.length hlisted
    rw [List.length_map, List.length_map, mode.length_programme] at hlength
    exact hlength

end ModeResult

/-! ### The stand-in -/

namespace Mock

/-- The stand-in answers every call, with or without estimates. -/
def answering (withEstimates : Bool) : Behaviour :=
  if withEstimates then .estimates else .noEstimates

variable (withEstimates : Bool)

/-- A call with the reply of the stand-in. -/
def exchange (c : Call) : Exchange := ⟨c, .outcomes (outcomes withEstimates c)⟩

theorem reply_answering (c : Call) :
    reply (answering withEstimates) c = .outcomes (outcomes withEstimates c) := by
  cases withEstimates <;> rfl

theorem converse_answering (calls : List Call) (seen : List Record) :
    (suite (answering withEstimates)).converse calls seen =
      (calls.map (exchange withEstimates), seen ++ calls.map Record.ofCall) := by
  induction calls generalizing seen with
  | nil => simp
  | cons c rest ih =>
    have hanswer : (suite (answering withEstimates)).answer c seen =
        (.outcomes (outcomes withEstimates c), seen ++ [.ofCall c]) :=
      congrArg (·, seen ++ [.ofCall c]) (reply_answering withEstimates c)
    have hok :
        Exchange.failure? ⟨c, ((suite (answering withEstimates)).answer c seen).1⟩ = none := by
      rw [hanswer]
      rfl
    rw [Suite.converse_of_success _ _ hok, hanswer, ih]
    simp [exchange]

theorem failure?_exchange {calls : List Call} :
    ∀ x ∈ calls.map (exchange withEstimates), x.failure? = none := by
  intro x hx
  obtain ⟨c, -, rfl⟩ := List.mem_map.1 hx
  rfl

theorem names_recorded (c : Call) :
    (exchange withEstimates c).recorded.map (fun o => (o.view, o.name)) =
      (c.mode.procedures.filter (·.appliesTo c.view c.alphabetSize)).map fun q =>
        (c.view, q.name) := by
  simp [exchange, recorded, outcomes, Outcome.normalise]

end Mock

/-! ### What the stand-in is asked -/

namespace Prepared

variable (p : Prepared) {mode : Mode} (withEstimates : Bool)

/-- What a track runs: on every view that is dispatched, the procedures that apply there. -/
def runs (mode : Mode) : List (Representation × Procedure) :=
  (p.dispatch mode).views.flatMap fun view =>
    (mode.procedures.filter (·.appliesTo view (p.call mode view).alphabetSize)).map (view, ·)

theorem mem_runs {view : Representation} {q : Procedure} :
    (view, q) ∈ p.runs mode ↔
      view ∈ (p.dispatch mode).views ∧ q ∈ mode.procedures ∧
        q.appliesTo view (p.call mode view).alphabetSize = true := by
  simp [runs]

/-- An alphabet has two letters, or more: then the bits run as well. -/
theorem runs_eq_programme (hletters : 2 ≤ p.alphabetSize) (mode : Mode) :
    p.runs mode = mode.programme p.alphabetSize := by
  unfold runs dispatch Dispatch.decide
  cases mode with
  | iid => rfl
  | nonIid =>
    by_cases hmany : 2 < p.alphabetSize
    · have hne : p.alphabetSize ≠ 2 := by omega
      simp [Dispatch.views, initialEntropy, hmany, hne, Mode.programme, call,
        Procedure.appliesTo]
    · have htwo : p.alphabetSize = 2 := by omega
      simp [Dispatch.views, initialEntropy, htwo, Mode.programme, call, Procedure.appliesTo]

/-- No procedure is left out on all the views that are dispatched. -/
theorem exists_view (hletters : 2 ≤ p.alphabetSize) {q : Procedure}
    (hq : q ∈ mode.procedures) :
    ∃ view ∈ (p.dispatch mode).views,
      q.appliesTo view (p.call mode view).alphabetSize = true := by
  have hviews : Mode.viewsIn (p.runs mode) q ≠ [] := by
    rw [p.runs_eq_programme hletters, Mode.viewsIn_programme hq]
    split
    · simp
    · split <;> simp
  obtain ⟨view, hview⟩ := List.exists_mem_of_ne_nil _ hviews
  obtain ⟨⟨view, q'⟩, hmem, rfl⟩ := List.mem_map.1 hview
  obtain ⟨hrun, hsame⟩ := List.mem_filter.1 hmem
  obtain rfl : q' = q := of_decide_eq_true hsame
  obtain ⟨hdispatched, -, happlies⟩ := p.mem_runs.1 hrun
  exact ⟨view, hdispatched, happlies⟩

theorem listed_conclude (hletters : 2 ≤ p.alphabetSize) :
    (p.conclude mode ((p.calls mode).map (Mock.exchange withEstimates))).outcomes.map
        (fun o => (o.view, o.name)) =
      (mode.programme p.alphabetSize).map fun x => (x.1, x.2.name) := by
  have hown : ∀ x ∈ (p.calls mode).map (Mock.exchange withEstimates), x.call.mode = mode := by
    intro x hx
    obtain ⟨c, hc, rfl⟩ := List.mem_map.1 hx
    exact p.mode_of_mem_calls hc
  rw [p.conclude_outcomes, track, List.filter_eq_self.2 (by simpa using hown), ←
    p.runs_eq_programme hletters, runs, calls, List.map_map, List.flatMap_map, List.map_flatMap,
    List.map_flatMap]
  refine List.flatMap_congr fun view _ => ?_
  rw [Function.comp_apply, Mock.names_recorded, List.map_map]
  cases view <;> rfl

theorem covers_conclude (hletters : 2 ≤ p.alphabetSize) (mode : Mode) :
    (p.conclude mode ((p.calls mode).map (Mock.exchange withEstimates))).Covers mode
      p.alphabetSize :=
  ModeResult.covers_of_listed p.conclude_mode (p.listed_conclude withEstimates hletters)

end Prepared

namespace Request

variable {r : Request} (p : Prepared) (withEstimates : Bool)

theorem mode_of_mem_exchanges {mode : Mode} {selected : Bool} {x : Exchange}
    (hx : x ∈ (callsOf p mode selected).map (Mock.exchange withEstimates)) :
    x.call.mode = mode := by
  obtain ⟨c, hc, rfl⟩ := List.mem_map.1 hx
  exact mode_of_mem_callsOf hc

/-- Samples that can be prepared make a sound request with any choice of tracks but none. -/
theorem exists_validate {p : Prepared} (hp : Samples.prepare r.data r.wordSize = .ok p)
    (hselected : r.runIid = true ∨ r.runNonIid = true) :
    ∃ selection, r.validate = .ok selection := by
  obtain ⟨hdata, w, hw, -⟩ := Samples.prepare_eq_ok_iff.1 hp
  have hwidth : r.wordSize ≤ maxWordSize := by
    by_contra hwide
    rw [Samples.resolve_eq_none (Nat.not_le.1 hwide)] at hw
    cases hw
  cases hflags : Selection.ofFlags? r.runIid r.runNonIid with
  | some selection => exact ⟨selection, validate_eq_ok_iff.2 ⟨hdata, hwidth, hflags⟩⟩
  | none =>
    obtain ⟨hiid, hnonIid⟩ := Selection.ofFlags?_eq_none_iff.1 hflags
    simp [hiid, hnonIid] at hselected

theorem iid_conclude (hiid : r.runIid = true) :
    (r.conclude p ((r.calls p).map (Mock.exchange withEstimates))).iid =
      some (p.conclude .iid ((p.calls .iid).map (Mock.exchange withEstimates))) := by
  have hother : ∀ x ∈ (callsOf p .nonIid r.runNonIid).map (Mock.exchange withEstimates),
      x.call.mode ≠ .iid := by
    intro x hx
    rw [mode_of_mem_exchanges p withEstimates hx]
    decide
  change slot p .iid r.runIid _ = _
  rw [slot, if_pos hiid, calls, List.map_append, p.conclude_append_left hother, callsOf,
    if_pos hiid]

theorem nonIid_conclude (hnonIid : r.runNonIid = true) :
    (r.conclude p ((r.calls p).map (Mock.exchange withEstimates))).nonIid =
      some (p.conclude .nonIid ((p.calls .nonIid).map (Mock.exchange withEstimates))) := by
  have hother : ∀ x ∈ (callsOf p .iid r.runIid).map (Mock.exchange withEstimates),
      x.call.mode ≠ .nonIid := by
    intro x hx
    rw [mode_of_mem_exchanges p withEstimates hx]
    decide
  change slot p .nonIid r.runNonIid _ = _
  rw [slot, if_pos hnonIid, calls, List.map_append, p.conclude_append_right hother, callsOf,
    if_pos hnonIid]

end Request

namespace Coordinator

open Mock (answering)

/-- Whatever the samples, the stand-in covers the catalogue of every track that is assessed: with
ten outcomes on the second track for two letters, and with seventeen for more. No procedure is left
out by the views that are dispatched and the procedures that apply to them taken together. -/
theorem assess_covers (withEstimates : Bool) {o : Observer τ} (hcalm : o.breaksAtStart = none)
    {data : List UInt8} {wordSize : Nat} {p : Prepared}
    (hp : Samples.prepare data wordSize = .ok p) (took : Duration) (st : List Mock.Record × τ) :
    let c : Coordinator (List Mock.Record) τ := ⟨Mock.suite (answering withEstimates), o⟩
    (∀ runIid runNonIid, runIid = true ∨ runNonIid = true → ∃ result,
      (c.assess ⟨data, wordSize, runIid, runNonIid⟩ took st).1 = .ok (.ok result) ∧
      (runIid = true → ∃ m, result.iid = some m ∧ m.Covers .iid p.alphabetSize) ∧
      (runNonIid = true → ∃ m, result.nonIid = some m ∧ m.Covers .nonIid p.alphabetSize)) ∧
    (∀ mode, ∃ m, (c.assessMode data wordSize mode st).1 = .ok m ∧ m.Covers mode p.alphabetSize) ∧
    (∀ mode : Mode, ∀ q ∈ mode.procedures, ∃ view ∈ (p.dispatch mode).views,
      q.appliesTo view (p.call mode view).alphabetSize = true) := by
  intro c
  obtain ⟨hdata, w, hw, hpw⟩ := Samples.prepare_eq_ok_iff.1 hp
  have hletters := (Samples.compaction_of_prepareAt hpw).two_le_alphabetSize
  refine ⟨fun runIid runNonIid hselected => ?_, fun mode => ?_,
    fun mode q hq => p.exists_view hletters hq⟩
  · obtain ⟨selection, hr⟩ := Request.exists_validate
      (r := ⟨data, wordSize, runIid, runNonIid⟩) hp hselected
    rw [c.assess_of_running _ _ hr hcalm, Suite.runRequest_eq _ hp, Mock.converse_answering,
      settle_of_clean (Mock.failure?_exchange withEstimates)]
    exact ⟨_, rfl,
      fun hiid => ⟨_, Request.iid_conclude p _ hiid, p.covers_conclude _ hletters _⟩,
      fun hnonIid => ⟨_, Request.nonIid_conclude p _ hnonIid, p.covers_conclude _ hletters _⟩⟩
  · refine ⟨_, ?_, p.covers_conclude withEstimates hletters mode⟩
    rw [c.assessMode_of_prepared hp, Suite.runMode_eq, Mock.converse_answering,
      settle_of_clean (Mock.failure?_exchange withEstimates)]

/-- Three letters, both tracks: bits and literal symbols together come to seventeen outcomes, and
the procedures over two symbols show on the bits alone. -/
theorem assess_covers_three_letters :
    let c : Coordinator (List Mock.Record) Unit := ⟨Mock.suite (answering true), .silent⟩
    let r : Request := ⟨[0, 1, 2], 0, true, true⟩
    ∃ p result m, Samples.prepare r.data r.wordSize = .ok p ∧ p.alphabetSize = 3 ∧
      (c.assess r ⟨0, 0⟩ ([], ())).1 = .ok (.ok result) ∧ result.nonIid = some m ∧
      m.outcomes.length = 17 ∧
      (m.outcomes.filter (·.name = "Markov Test")).map (·.view) = [.bitstring] ∧
      (m.outcomes.filter (·.name = "LZ78Y Test")).map (·.view) = [.bitstring, .literal] := by
  intro c r
  have hp : Samples.prepare r.data r.wordSize =
      .ok ⟨[0, 1, 2], some [0, 0, 0, 1, 1, 0], 3, ⟨2, by decide, by decide⟩⟩ := by
    decide +kernel
  obtain ⟨hassess, -⟩ := assess_covers true (o := .silent) rfl hp ⟨0, 0⟩ ([], ())
  obtain ⟨result, hresult, -, hnonIid⟩ := hassess true true (.inl rfl)
  obtain ⟨m, hm, hcovers⟩ := hnonIid rfl
  exact ⟨_, result, m, hp, rfl, hresult, hm, hcovers.length_outcomes,
    hcovers.binaryOnly .markov (by decide) rfl, hcovers.other .lz78y (by decide) rfl⟩

end Coordinator

end MinEntropy

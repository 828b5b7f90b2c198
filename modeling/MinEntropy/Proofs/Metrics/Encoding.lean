import MinEntropy.Proofs.Metrics.Lines
import MinEntropy.Proofs.Metrics.Observations

/-! An account that is encoded now and then. Every text shows what happened before it and nothing
else, encoding leaves no trace, and the order of the events shows in the sums alone. -/

namespace MinEntropy.Metrics

/-- What is done with an account. -/
inductive Use where
  | note (e : Event)
  | encode

namespace Use

def event? : Use → Option Event
  | note e => some e
  | encode => none

def isEncode : Use → Bool
  | note _ => false
  | encode => true

/-- The text that a use shows, and the account after it. -/
def apply : Use → Registry → Option String × Registry
  | note e, r => (none, r.note e)
  | encode, r => (some r.text, r)

/-- The texts that some uses show in turn, and the account after them. -/
def run : List Use → Registry → List String × Registry
  | [], r => ([], r)
  | u :: rest, r =>
    let (text, r₁) := u.apply r
    let (texts, r₂) := run rest r₁
    (text.toList ++ texts, r₂)

end Use

/-! ### What a history should show -/

/-- Lines under the heading of their family; without lines there is no heading. -/
def headed (name help kind : String) (lines : List String) : List String :=
  if lines = [] then [] else
    ("# HELP " ++ name ++ " " ++ help) :: ("# TYPE " ++ name ++ " " ++ kind) :: lines

/-- The number of every key that was counted. -/
def counterLines (name : String) (keys : List κ) (labels : κ → String) (count : κ → Nat) :
    List String :=
  (keys.filter (count · ≠ 0)).map fun k => entry name (labels k) (toString (count k))

/-- For every selection with observations how many there are up to each bound, how many in all, and
their sum in the order in which they were made. -/
def histogramLines (name : String) (scale : List (String × Float))
    (values : Selection → List Float) : List String :=
  (selections.filter fun s => (values s).length ≠ 0).flatMap fun s =>
    (scale.map fun (bound, b) =>
      entry (name ++ "_bucket") (bucketLabel s bound) (toString (Histogram.upTo b (values s)))) ++
    [entry (name ++ "_bucket") (bucketLabel s "+Inf") (toString (values s).length),
      entry (name ++ "_sum") (typeLabel s) (valueText ((values s).foldl (· + ·) 0.0)),
      entry (name ++ "_count") (typeLabel s) (toString (values s).length)]

/-! The bounds of the buckets, as they are written. -/

def sizeScale : List (String × Float) :=
  [("1024", 1024.0), ("10240", 10240.0), ("102400", 102400.0), ("1024000", 1024000.0),
    ("10240000", 10240000.0), ("102400000", 102400000.0)]

def durationScale : List (String × Float) :=
  [("0.01", 0.01), ("0.02", 0.02), ("0.04", 0.04), ("0.08", 0.08), ("0.16", 0.16), ("0.32", 0.32),
    ("0.64", 0.64), ("1.28", 1.28), ("2.56", 2.56), ("5.12", 5.12)]

def entropyScale : List (String × Float) :=
  [("0", 0.0), ("0.5", 0.5), ("1", 1.0), ("1.5", 1.5), ("2", 2.0), ("2.5", 2.5), ("3", 3.0),
    ("3.5", 3.5), ("4", 4.0), ("4.5", 4.5), ("5", 5.0), ("5.5", 5.5), ("6", 6.0), ("6.5", 6.5),
    ("7", 7.0), ("7.5", 7.5), ("8", 8.0)]

/-- The lines that tell of some events. -/
def pageLines (events : List Event) : List String :=
  headed "entropy_data_size_bytes" "Size of data being assessed in bytes" "histogram"
    (histogramLines "entropy_data_size_bytes" sizeScale fun s =>
      events.filterMap (·.size? s)) ++
  headed "entropy_duration_seconds" "Duration of entropy assessment in seconds" "histogram"
    (histogramLines "entropy_duration_seconds" durationScale fun s =>
      events.filterMap (·.seconds? s)) ++
  headed "entropy_errors_total" "Total number of entropy assessment errors" "counter"
    (counterLines "entropy_errors_total" failures failureLabel fun key =>
      events.countP (·.failsAs key)) ++
  headed "entropy_min_entropy_value" "Minimum entropy values calculated" "histogram"
    (histogramLines "entropy_min_entropy_value" entropyScale fun s =>
      events.filterMap (·.figure? s)) ++
  headed "entropy_rejected_total" "Total number of requests rejected before assessment" "counter"
    (counterLines "entropy_rejected_total" refusals reasonLabel fun reason =>
      events.countP (·.isRefusal reason)) ++
  headed "entropy_requests_total" "Total number of entropy assessment requests" "counter"
    (counterLines "entropy_requests_total" selections typeLabel fun s =>
      events.countP (·.starts s))

/-- The text that tells of some events. -/
def page (events : List Event) : String := String.join ((pageLines events).map (· ++ "\n"))

/-- The families that have sums. -/
def histogramNames : List String :=
  ["entropy_data_size_bytes", "entropy_duration_seconds", "entropy_min_entropy_value"]

/-- Two lines that differ at most in the sum of a histogram. -/
inductive SameButSum : String → String → Prop
  | same (text : String) : SameButSum text text
  | sum {name : String} (hname : name ∈ histogramNames) (s : Selection) (x y : Float) :
      SameButSum (entry (name ++ "_sum") (typeLabel s) (valueText x))
        (entry (name ++ "_sum") (typeLabel s) (valueText y))

/-- Two texts whose lines differ at most in the sums of histograms. -/
def SameButSums (text text' : String) : Prop :=
  List.Forall₂ SameButSum (linesOf text) (linesOf text')

/-! ### The lines of an account -/

section Lines

variable {κ : Type} (name : String)

theorem Series.lines_ne_nil (s : Series) : s.lines name ≠ [] := by
  unfold Series.lines
  split
  · exact List.cons_ne_nil _ _
  · exact List.append_ne_nil_of_right_ne_nil _ (List.cons_ne_nil _ _)

theorem family_lines_eq (f : Family) :
    (if f.series = [] then [] else f.lines) =
      headed f.name f.help f.kind.label (f.series.flatMap (Series.lines f.name)) := by
  have hempty : f.series.flatMap (Series.lines f.name) = [] ↔ f.series = [] := by
    rw [List.flatMap_eq_nil_iff, List.eq_nil_iff_forall_not_mem]
    exact forall₂_congr fun s _ => iff_false_intro (Series.lines_ne_nil f.name s)
  unfold headed
  simp only [hempty]
  rfl

/-- A scale writes its bounds as values are written. -/
def IsWritten (scale : List (String × Float)) : Prop := ∀ x ∈ scale, valueText x.2 = x.1

instance (scale : List (String × Float)) : Decidable (IsWritten scale) :=
  inferInstanceAs (Decidable (∀ x ∈ scale, _))

theorem bucketLines_ofList {scale : List (String × Float)} (hscale : IsWritten scale)
    (s : Selection) (values : List Float) :
    bucketLines name s (Histogram.ofList (scale.map (·.2)) values).buckets values.length =
      (scale.map fun (bound, b) =>
        entry name (bucketLabel s bound) (toString (Histogram.upTo b values))) ++
      [entry name (bucketLabel s "+Inf") (toString values.length)] := by
  simp only [bucketLines, Histogram.ofList, List.map_map]
  congr 1
  refine List.map_congr_left fun x hx => ?_
  rw [Function.comp_apply, Function.comp_apply, hscale x hx]

theorem histogramLines_eq {scale : List (String × Float)} (hscale : IsWritten scale)
    (values : Selection → List Float) :
    (Registry.histogramsBySelection fun s => .ofList (scale.map (·.2)) (values s)).flatMap
        (Series.lines name) = histogramLines name scale values := by
  have hcount (s : Selection) :
      (Histogram.ofList (scale.map (·.2)) (values s)).count = (values s).length := rfl
  simp only [lines_histograms, histogramLines, hcount, bucketLines_ofList _ hscale, selections_eq,
    List.append_assoc]
  rfl

theorem bounds_eq :
    Registry.sizeBounds = sizeScale.map (·.2) ∧
      Registry.durationBounds = durationScale.map (·.2) ∧
        Registry.entropyBounds = entropyScale.map (·.2) := by decide +kernel

theorem isWritten_scales :
    IsWritten sizeScale ∧ IsWritten durationScale ∧ IsWritten entropyScale := by decide +kernel

theorem lines_ofEvents (events : List Event) :
    (Registry.ofEvents events).lines = pageLines events := by
  have htallies := Registry.tallies_ofEvents events
  obtain ⟨hsizes, hdurations, hentropies⟩ := bounds_eq
  obtain ⟨hsizeScale, hdurationScale, hentropyScale⟩ := isWritten_scales
  rw [Registry.lines_eq, Registry.allFamilies, Registry.countersBySelection,
    funext (Registry.sizes_ofEvents · events), funext (Registry.durations_ofEvents · events),
    funext (Registry.entropies_ofEvents · events), funext htallies.requests,
    funext htallies.errors, funext htallies.rejections, hsizes, hdurations, hentropies]
  simp only [List.flatMap_cons, List.flatMap_nil, family_lines_eq,
    histogramLines_eq _ hsizeScale, histogramLines_eq _ hdurationScale,
    histogramLines_eq _ hentropyScale, lines_counters spells_failure,
    lines_counters spells_reason, lines_counters spells_selection, List.append_assoc,
    List.append_nil, pageLines]
  rfl

theorem text_ofEvents (events : List Event) : (Registry.ofEvents events).text = page events := by
  rw [Registry.text, lines_ofEvents, page]

theorem linesOf_page (events : List Event) : linesOf (page events) = pageLines events := by
  rw [← text_ofEvents, Registry.linesOf_text, lines_ofEvents]

end Lines

/-! ### The order of the events -/

section Order

variable {name : String} {lines lines' : List String} {events others : List Event}

theorem sameButSum_refl (lines : List String) : List.Forall₂ SameButSum lines lines :=
  List.forall₂_same.2 fun text _ => .same text

theorem sameButSum_headed (help kind : String)
    (hlines : List.Forall₂ SameButSum lines lines') :
    List.Forall₂ SameButSum (headed name help kind lines) (headed name help kind lines') := by
  cases hlines with
  | nil => exact .nil
  | cons hfirst hrest => exact .cons (.same _) (.cons (.same _) (.cons hfirst hrest))

theorem sameButSum_flatMap {κ : Type} (keys : List κ) {f g : κ → List String}
    (hkeys : ∀ k, List.Forall₂ SameButSum (f k) (g k)) :
    List.Forall₂ SameButSum (keys.flatMap f) (keys.flatMap g) := by
  induction keys with
  | nil => exact .nil
  | cons k rest ih => exact List.rel_append (hkeys k) ih

theorem sameButSum_histogramLines (hname : name ∈ histogramNames)
    (scale : List (String × Float)) {values values' : Selection → List Float}
    (hperm : ∀ s, (values s).Perm (values' s)) :
    List.Forall₂ SameButSum (histogramLines name scale values)
      (histogramLines name scale values') := by
  unfold histogramLines
  simp only [(hperm _).length_eq, Histogram.upTo_perm _ (hperm _)]
  refine sameButSum_flatMap _ fun s => List.rel_append (sameButSum_refl _) ?_
  exact .cons (.same _) (.cons (.sum hname s _ _) (.cons (.same _) .nil))

/-- What was counted stays as it is, and so does every bucket. -/
theorem sameButSums_page (hperm : events.Perm others) :
    SameButSums (page events) (page others) := by
  have hvalues (value? : Event → Option Float) :
      (events.filterMap value?).Perm (others.filterMap value?) := hperm.filterMap value?
  rw [SameButSums, linesOf_page, linesOf_page]
  unfold pageLines
  simp only [hperm.countP_eq]
  refine List.rel_append (List.rel_append (List.rel_append (List.rel_append (List.rel_append
    (sameButSum_headed _ _ ?_) (sameButSum_headed _ _ ?_)) (sameButSum_refl _))
    (sameButSum_headed _ _ ?_)) (sameButSum_refl _)) (sameButSum_refl _)
  · exact sameButSum_histogramLines (by decide) _ fun s => hvalues _
  · exact sameButSum_histogramLines (by decide) _ fun s => hvalues _
  · exact sameButSum_histogramLines (by decide) _ fun s => hvalues _

end Order

/-! ### Runs -/

namespace Use

variable (uses later : List Use) (past : List Event) (r : Registry)

/-- The events among some uses. -/
def events (uses : List Use) : List Event := uses.filterMap event?

theorem run_append :
    run (uses ++ later) r =
      ((run uses r).1 ++ (run later (run uses r).2).1, (run later (run uses r).2).2) := by
  induction uses generalizing r with
  | nil => rfl
  | cons u rest ih => simp only [List.cons_append, run, ih, List.append_assoc]

theorem length_run : (run uses r).1.length = uses.countP (·.isEncode) := by
  induction uses generalizing r with
  | nil => rfl
  | cons u rest ih =>
    cases u with
    | note e => simpa [run, apply, isEncode] using ih (r.note e)
    | encode => simpa [run, apply, isEncode] using ih r

theorem ofEvents_append (e : Event) :
    Registry.ofEvents (past ++ [e]) = (Registry.ofEvents past).note e := by
  rw [Registry.ofEvents, List.foldl_append]
  rfl

theorem account_run :
    (run uses (.ofEvents past)).2 = .ofEvents (past ++ events uses) := by
  induction uses generalizing past with
  | nil => simp [run, events]
  | cons u rest ih =>
    cases u with
    | note e =>
      have hrest := ih (past ++ [e])
      rw [ofEvents_append, List.append_assoc] at hrest
      exact hrest
    | encode => exact ih past

/-- Encoding leaves the account as it is. -/
theorem account_run_empty : (run uses .empty).2 = .ofEvents (events uses) := account_run uses []

theorem run_notes (es : List Event) :
    run (es.map note) (.ofEvents past) = ([], .ofEvents (past ++ es)) := by
  induction es generalizing past with
  | nil => simp [run]
  | cons e rest ih =>
    have hrest := ih (past ++ [e])
    rw [ofEvents_append, List.append_assoc] at hrest
    simp only [List.map_cons, run, apply, hrest]
    rfl

/-- What an encode shows is fixed by the events before it. -/
theorem pages_encode (before after : List Use) :
    (run (before ++ encode :: after) .empty).1[before.countP (·.isEncode)]? =
      some (page (events before)) := by
  rw [run_append, ← length_run before .empty, account_run_empty]
  simp [run, apply, text_ofEvents]

theorem pages_perm {past past' : List Event} (hperm : past.Perm past') :
    List.Forall₂ SameButSums (run uses (.ofEvents past)).1 (run uses (.ofEvents past')).1 := by
  induction uses generalizing past past' with
  | nil => exact .nil
  | cons u rest ih =>
    cases u with
    | note e =>
      have hrest := ih (hperm.append_right [e])
      rw [ofEvents_append, ofEvents_append] at hrest
      exact hrest
    | encode =>
      have hpage := sameButSums_page hperm
      rw [← text_ofEvents, ← text_ofEvents] at hpage
      exact .cons hpage (ih hperm)

/-- What comes of the uses of a new account. -/
structure Tells (uses : List Use) : Prop where
  length_pages : (run uses .empty).1.length = uses.countP (·.isEncode)
  page_eq : ∀ before after, uses = before ++ encode :: after →
    (run uses .empty).1[before.countP (·.isEncode)]? = some (page (events before))
  /-- Nothing is left of the encodes. -/
  account_eq : (run uses .empty).2 = .ofEvents (events uses)
  text_eq : (run uses .empty).2.text = page (events uses)
  /-- Events in another order between two encodes change sums alone. -/
  reordered : ∀ (before : List Use) (es others : List Event) (after : List Use),
    uses = before ++ es.map note ++ after → es.Perm others →
    List.Forall₂ SameButSums (run uses .empty).1 (run (before ++ others.map note ++ after) .empty).1
  cumulative : ∀ s, ((run uses .empty).2.sizes s).IsCumulative ∧
    ((run uses .empty).2.durations s).IsCumulative ∧
    ((run uses .empty).2.entropies s).IsCumulative

theorem tells_run (uses : List Use) : Tells uses where
  length_pages := length_run uses .empty
  page_eq := by
    rintro before after rfl
    exact pages_encode before after
  account_eq := account_run_empty uses
  text_eq := by rw [account_run_empty, text_ofEvents]
  reordered := by
    rintro before es others after rfl hperm
    simp only [List.append_assoc, run_append, account_run_empty, run_notes, List.nil_append]
    exact List.rel_append (List.forall₂_same.2 fun text _ => sameButSum_refl (linesOf text))
      (pages_perm after (hperm.append_left _))
  cumulative s := by
    rw [account_run_empty, Registry.sizes_ofEvents, Registry.durations_ofEvents,
      Registry.entropies_ofEvents]
    obtain ⟨hsizes, hdurations, hentropies⟩ := Registry.bounds_sorted
    exact ⟨Histogram.isCumulative_ofList hsizes _, Histogram.isCumulative_ofList hdurations _,
      Histogram.isCumulative_ofList hentropies _⟩

end Use

/-- Each key stands once among those that a page goes through. -/
structure KeysComplete : Prop where
  selections : ∀ s, selections.count s = 1
  failures : ∀ key, failures.count key = 1
  refusals : ∀ e : RequestError, refusals.count e.reason = 1

theorem keysComplete : KeysComplete where
  selections s := by cases s <;> decide
  failures := fun (s, kind) => by cases s <;> cases kind <;> decide
  refusals e := by cases e <;> simp [RequestError.reason, Metrics.refusals]

/-- Whenever an account is encoded, it shows all that happened until then and nothing else. -/
theorem encodings_tell (uses : List Use) : Use.Tells uses ∧ KeysComplete :=
  ⟨Use.tells_run uses, keysComplete⟩

/-- Between two refusals, and after them. -/
theorem encodings_tell_refusals :
    (Use.run [.note (.rejected .emptyData), .encode, .note (.rejected .emptyData), .encode]
      .empty).1 = ["1", "2"].map fun n =>
        "# HELP entropy_rejected_total Total number of requests rejected before assessment\n" ++
        "# TYPE entropy_rejected_total counter\n" ++
        "entropy_rejected_total\x7breason=\"empty_data\"\x7d " ++ n ++ "\n" := by
  obtain ⟨htells, -⟩ := encodings_tell
    [.note (.rejected .emptyData), .encode, .note (.rejected .emptyData), .encode]
  have hfirst := htells.page_eq [.note (.rejected .emptyData)] _ rfl
  have hsecond := htells.page_eq
    [.note (.rejected .emptyData), .encode, .note (.rejected .emptyData)] _ rfl
  have hlength : (Use.run _ _).1.length = 2 := htells.length_pages
  refine List.ext_getElem? fun i => ?_
  match i with
  | 0 => exact hfirst
  | 1 => exact hsecond
  | i + 2 =>
    rw [List.getElem?_eq_none (by omega), List.getElem?_eq_none (by simp)]

end MinEntropy.Metrics

import MinEntropy.Proofs.Metrics.Entries

/-! What the text of an account shows. Under the name of every count there is a line for each key
that has occurred, with its labels and its number, and no other line. -/

namespace MinEntropy.Metrics

/-- The line gives a value under the name. -/
def isUnder (name line : String) : Bool := line.startsWith (name ++ "\x7b")

/-- The lines of a text that give values under a name. -/
def linesUnder (text name : String) : List String := (linesOf text).filter (isUnder name)

/-- The lines under a name are those of the keys whose counts are not zero. -/
def Shows (text name : String) (keys : List κ) (labels : κ → String) (count : κ → Nat) : Prop :=
  linesUnder text name =
    (keys.filter (count · ≠ 0)).map fun k => entry name (labels k) (toString (count k))

/-- The lines of some buckets of a selection, the one without bound last. -/
def bucketLines (name : String) (s : Selection) (buckets : List (Float × Nat)) (total : Nat) :
    List String :=
  (buckets.map fun (b, n) => entry name (bucketLabel s (valueText b)) (toString n)) ++
    [entry name (bucketLabel s "+Inf") (toString total)]

/-- The lines of a histogram are those of the selections whose counts are not zero. -/
structure ShowsHistogram (text name : String) (table : Selection → Histogram)
    (count : Selection → Nat) : Prop where
  buckets : linesUnder text (name ++ "_bucket") =
    (selections.filter (count · ≠ 0)).flatMap fun s =>
      bucketLines (name ++ "_bucket") s (table s).buckets (count s)
  sums : linesUnder text (name ++ "_sum") =
    (selections.filter (count · ≠ 0)).map fun s =>
      entry (name ++ "_sum") (typeLabel s) (valueText (table s).sum)
  counts : Shows text (name ++ "_count") selections typeLabel count

/-! ### Series -/

section Series

variable {name : String} {keys : List κ} {labels : κ → List (String × String)} {shown : κ → String}

theorem lines_counter {labels : List (String × String)} {shown : String}
    (hspells : Spells labels shown) (name : String) (n : Nat) :
    Series.lines name ⟨labels, .counter n⟩ = [entry name shown (toString n)] := by
  rw [← line_of_spells hspells]
  rfl

theorem lines_histogram (name : String) (s : Selection) (h : Histogram) :
    Series.lines name ⟨Registry.selectionLabel s, .histogram h⟩ =
      bucketLines (name ++ "_bucket") s h.buckets h.count ++
        [entry (name ++ "_sum") (typeLabel s) (valueText h.sum),
          entry (name ++ "_count") (typeLabel s) (toString h.count)] := by
  simp only [Series.lines, bucketLines, line_of_spells (spells_bucket s _),
    line_of_spells (spells_selection s), List.append_assoc]
  rfl

theorem lines_seriesOf (name : String) (value : κ → Reading) :
    (Registry.seriesOf keys labels value).flatMap (Series.lines name) =
      (keys.filter fun k => (value k).occurred).flatMap fun k =>
        Series.lines name ⟨labels k, value k⟩ := by
  rw [Registry.seriesOf, List.filter_map, List.flatMap_map]
  rfl

/-- The lines of counters. -/
theorem lines_counters (hspells : ∀ k, Spells (labels k) (shown k)) (name : String)
    (count : κ → Nat) :
    (Registry.seriesOf keys labels fun k => .counter (count k)).flatMap (Series.lines name) =
      (keys.filter (count · ≠ 0)).map fun k => entry name (shown k) (toString (count k)) := by
  simp only [lines_seriesOf, lines_counter (hspells _), List.map_eq_flatMap]
  rfl

/-- The lines of histograms. -/
theorem lines_histograms (name : String) (table : Selection → Histogram) :
    (Registry.histogramsBySelection table).flatMap (Series.lines name) =
      (Selection.all.filter fun s => (table s).count ≠ 0).flatMap fun s =>
        bucketLines (name ++ "_bucket") s (table s).buckets (table s).count ++
          [entry (name ++ "_sum") (typeLabel s) (valueText (table s).sum),
            entry (name ++ "_count") (typeLabel s) (toString (table s).count)] := by
  simp only [Registry.histogramsBySelection, lines_seriesOf, lines_histogram]
  rfl

end Series

/-! ### Families -/

namespace Registry

theorem lines_eq (r : Registry) :
    r.lines = r.allFamilies.flatMap fun f => if f.series = [] then [] else f.lines := by
  rw [lines, families]
  induction r.allFamilies with
  | nil => rfl
  | cons f rest ih =>
    by_cases hseries : f.series = []
    · simpa [hseries] using ih
    · simpa [hseries] using ih

theorem filter_lines (r : Registry) (p : String → Bool) :
    r.lines.filter p =
      r.allFamilies.flatMap fun f => if f.series = [] then [] else f.lines.filter p := by
  rw [lines_eq, List.filter_flatMap]
  congr 1
  funext f
  split
  · rfl
  · rfl

end Registry

section Whole

theorem isLine_bucketLines {name : String} (hname : IsLine name) (s : Selection)
    (buckets : List (Float × Nat)) (total : Nat) :
    ∀ l ∈ bucketLines name s buckets total, IsLine l := by
  simp only [bucketLines, List.forall_mem_append, List.forall_mem_map, List.forall_mem_singleton,
    isLine_entry]
  exact ⟨fun bucket _ => ⟨hname, isLine_bucketLabel s (isLine_valueText _), isLine_toString _⟩,
    hname, isLine_bucketLabel s (by decide), isLine_toString _⟩

theorem isLine_counters {name : String} (hname : IsLine name) {keys : List κ}
    {labels : κ → List (String × String)} {shown : κ → String}
    (hspells : ∀ k, Spells (labels k) (shown k)) (hshown : ∀ k ∈ keys, IsLine (shown k))
    (count : κ → Nat) :
    ∀ l ∈ (Registry.seriesOf keys labels fun k => .counter (count k)).flatMap (Series.lines name),
      IsLine l := by
  rw [lines_counters hspells, List.forall_mem_map]
  intro k hk
  exact isLine_entry.2 ⟨hname, hshown k (List.mem_filter.1 hk).1, isLine_toString _⟩

theorem isLine_histograms {name : String} (hname : IsLine name) (table : Selection → Histogram) :
    ∀ l ∈ (Registry.histogramsBySelection table).flatMap (Series.lines name), IsLine l := by
  have hsuffix (suffix : String) (hsuffix : IsLine suffix) : IsLine (name ++ suffix) :=
    isLine_append.2 ⟨hname, hsuffix⟩
  rw [lines_histograms]
  intro l hl
  obtain ⟨s, -, hl⟩ := List.mem_flatMap.1 hl
  rcases List.mem_append.1 hl with hl | hl
  · exact isLine_bucketLines (hsuffix "_bucket" (by decide)) s _ _ l hl
  · have hvalues : ∀ l ∈ [entry (name ++ "_sum") (typeLabel s) (valueText (table s).sum),
        entry (name ++ "_count") (typeLabel s) (toString (table s).count)], IsLine l := by
      simp only [List.forall_mem_cons, isLine_entry, isLine_typeLabel, isLine_valueText,
        isLine_toString, hsuffix "_sum" (by decide), hsuffix "_count" (by decide), and_self,
        List.not_mem_nil, false_imp_iff, implies_true]
    exact hvalues l hl

theorem isLine_family {name help : String} (hname : IsLine name) (hhelp : IsLine help)
    {series : List Series} (hseries : ∀ l ∈ series.flatMap (Series.lines name), IsLine l)
    (kind : FamilyKind) : ∀ l ∈ (Family.mk name help kind series).lines, IsLine l := by
  have hhelpMark : IsLine "# HELP " := by decide
  have htypeMark : IsLine "# TYPE " := by decide
  have hblank : IsLine " " := by decide
  have hkind : IsLine kind.label := by cases kind <;> decide
  simp only [Family.lines, List.forall_mem_cons, isLine_append, hname, hhelp, hhelpMark, htypeMark,
    hblank, hkind, and_self, true_and]
  exact hseries

namespace Registry

variable (r : Registry)

theorem isLine_lines : ∀ l ∈ r.lines, IsLine l := by
  intro l hl
  obtain ⟨f, hf, hl⟩ := List.mem_flatMap.1 hl
  have hf := (List.mem_filter.1 hf).1
  simp only [allFamilies, List.mem_cons, List.not_mem_nil, or_false] at hf
  rcases hf with rfl | rfl | rfl | rfl | rfl | rfl
  · exact isLine_family (by decide) (by decide) (isLine_histograms (by decide) _) _ l hl
  · exact isLine_family (by decide) (by decide) (isLine_histograms (by decide) _) _ l hl
  · exact isLine_family (by decide) (by decide)
      (isLine_counters (by decide) spells_failure (fun key _ => isLine_failureLabel key) _) _ l hl
  · exact isLine_family (by decide) (by decide) (isLine_histograms (by decide) _) _ l hl
  · exact isLine_family (by decide) (by decide)
      (isLine_counters (by decide) spells_reason (by decide) _) _ l hl
  · exact isLine_family (by decide) (by decide)
      (isLine_counters (by decide) spells_selection (fun s _ => isLine_typeLabel s) _) _ l hl

/-- The lines can be read back from the text. -/
theorem linesOf_text : linesOf r.text = r.lines := linesOf_join r.isLine_lines

end Registry

end Whole

/-! ### Names -/

/-- A name that neither opens labels nor starts a comment. -/
def IsPlain (name : String) : Prop := '\x7b' ∉ name.toList ∧ '#' ∉ name.toList

instance (name : String) : Decidable (IsPlain name) := inferInstanceAs (Decidable (_ ∧ _))

theorem isPlain_append {a b : String} : IsPlain (a ++ b) ↔ IsPlain a ∧ IsPlain b := by
  simp [IsPlain]
  grind

theorem append_singleton_prefix_iff {c : α} {xs ys rest : List α} (hxs : c ∉ xs) (hys : c ∉ ys) :
    xs ++ [c] <+: ys ++ c :: rest ↔ xs = ys := by
  induction xs generalizing ys with
  | nil => cases ys <;> simp_all [eq_comm]
  | cons x xs ih =>
    cases ys with
    | nil => simp_all [List.cons_prefix_cons, eq_comm]
    | cons y ys => simp_all [List.cons_prefix_cons]

section Names

variable {name other : String}

theorem isUnder_entry (hname : IsPlain name) (hother : IsPlain other) (labels number : String) :
    isUnder name (entry other labels number) = decide (other = name) := by
  rw [Bool.eq_iff_iff, isUnder, entry, String.startsWith_string_iff]
  simp [append_singleton_prefix_iff hname.1 hother.1, String.toList_inj, eq_comm]

/-- Entries of one name are kept together or dropped together. -/
theorem filter_map_entry (hname : IsPlain name) (hother : IsPlain other) (xs : List α)
    (labels number : α → String) :
    (xs.map fun x => entry other (labels x) (number x)).filter (isUnder name) =
      if other = name then xs.map fun x => entry name (labels x) (number x) else [] := by
  by_cases hn : other = name
  · subst hn
    rw [if_pos rfl, List.filter_eq_self, List.forall_mem_map]
    intro x _
    rw [isUnder_entry hname hname, decide_eq_true rfl]
  · rw [if_neg hn, List.filter_eq_nil_iff, List.forall_mem_map]
    intro x _
    simp [isUnder_entry hname hother, hn]

theorem filter_entry (hname : IsPlain name) (hother : IsPlain other) (labels number : String) :
    [entry other labels number].filter (isUnder name) =
      if other = name then [entry name labels number] else [] :=
  filter_map_entry hname hother [()] (fun _ => labels) fun _ => number

theorem filter_bucketLines (hname : IsPlain name) (hother : IsPlain other) (s : Selection)
    (buckets : List (Float × Nat)) (total : Nat) :
    (bucketLines other s buckets total).filter (isUnder name) =
      if other = name then bucketLines name s buckets total else [] := by
  rw [bucketLines, List.filter_append, filter_map_entry hname hother, filter_entry hname hother]
  split
  · rfl
  · rfl

theorem isUnder_comment (hname : IsPlain name) {text : String}
    (htext : text.toList.head? = some '#') : isUnder name text = false := by
  obtain ⟨rest, hrest⟩ := List.head?_eq_some_iff.1 htext
  rw [Bool.eq_false_iff, isUnder, ne_eq, String.startsWith_string_iff, hrest]
  intro hprefix
  cases hchars : name.toList with
  | nil => simp [hchars] at hprefix
  | cons c cs =>
    have hhash := hname.2
    simp [hchars, List.cons_prefix_cons] at hprefix hhash
    exact hhash.1 hprefix.1.symm

theorem filter_family_lines (hname : IsPlain name) (f : Family) :
    f.lines.filter (isUnder name) =
      (f.series.flatMap (Series.lines f.name)).filter (isUnder name) := by
  rw [Family.lines, List.filter_cons_of_neg, List.filter_cons_of_neg]
  · simp [isUnder_comment hname]
  · simp [isUnder_comment hname]

/-- A family without data would add nothing. -/
theorem linesUnder_text (r : Registry) (hname : IsPlain name) :
    linesUnder r.text name = r.allFamilies.flatMap fun f =>
      (f.series.flatMap (Series.lines f.name)).filter (isUnder name) := by
  rw [linesUnder, r.linesOf_text, r.filter_lines]
  congr 1
  funext f
  by_cases hseries : f.series = []
  · simp [hseries]
  · rw [if_neg hseries, filter_family_lines hname]

/-- The three names of a histogram keep its lines apart. -/
theorem filter_histograms (hname : IsPlain name) (hother : IsPlain other)
    (table : Selection → Histogram) :
    ((Registry.histogramsBySelection table).flatMap (Series.lines other)).filter (isUnder name) =
      (Selection.all.filter fun s => (table s).count ≠ 0).flatMap fun s =>
        (if other ++ "_bucket" = name then bucketLines name s (table s).buckets (table s).count
          else []) ++
        (if other ++ "_sum" = name then [entry name (typeLabel s) (valueText (table s).sum)]
          else []) ++
        (if other ++ "_count" = name then [entry name (typeLabel s) (toString (table s).count)]
          else []) := by
  have hplain (suffix : String) (hsuffix : IsPlain suffix) : IsPlain (other ++ suffix) :=
    isPlain_append.2 ⟨hother, hsuffix⟩
  have hpair (x y : String) : [x, y] = [x] ++ [y] := rfl
  rw [lines_histograms, List.filter_flatMap]
  simp only [hpair, List.filter_append, filter_bucketLines hname (hplain "_bucket" (by decide)),
    filter_entry hname (hplain "_sum" (by decide)),
    filter_entry hname (hplain "_count" (by decide)), List.append_assoc]

theorem filter_counters (hname : IsPlain name) (hother : IsPlain other) {keys : List κ}
    {labels : κ → List (String × String)} {shown : κ → String}
    (hspells : ∀ k, Spells (labels k) (shown k)) (count : κ → Nat) :
    ((Registry.seriesOf keys labels fun k => .counter (count k)).flatMap
        (Series.lines other)).filter (isUnder name) =
      if other = name then
        (keys.filter (count · ≠ 0)).map fun k => entry name (shown k) (toString (count k))
      else [] := by
  rw [lines_counters hspells, filter_map_entry hname hother]

end Names

namespace Registry

variable (r : Registry)

/-- What a text shows of an account, every number under its own name. -/
structure Reports (text : String) (requests sizes durations entropies : Selection → Nat)
    (errors : Selection × ErrorKind → Nat) (rejections : String → Nat) : Prop where
  requests : Shows text "entropy_requests_total" selections typeLabel requests
  sizes : ShowsHistogram text "entropy_data_size_bytes" r.sizes sizes
  durations : ShowsHistogram text "entropy_duration_seconds" r.durations durations
  entropies : ShowsHistogram text "entropy_min_entropy_value" r.entropies entropies
  errors : Shows text "entropy_errors_total" failures failureLabel errors
  rejections : Shows text "entropy_rejected_total" refusals reasonLabel rejections

/-- The text of an account shows what the account holds. -/
theorem reports_totals :
    r.Reports r.text r.requests (fun s => (r.sizes s).count) (fun s => (r.durations s).count)
      (fun s => (r.entropies s).count) r.errors r.rejections := by
  have hnothing (keys : List Selection) : keys.flatMap (fun _ => ([] : List String)) = [] :=
    List.flatMap_eq_nil_iff.2 fun _ _ => rfl
  -- each of the twelve names is looked for in all the families
  refine ⟨?_, ⟨?_, ?_, ?_⟩, ⟨?_, ?_, ?_⟩, ⟨?_, ?_, ?_⟩, ?_, ?_⟩
  all_goals
    change linesUnder r.text _ = _
    rw [linesUnder_text r (by decide), allFamilies]
    simp only [List.flatMap_cons, List.flatMap_nil, countersBySelection]
    simp (disch := decide) only [filter_counters _ _ spells_selection,
      filter_counters _ _ spells_failure, filter_counters _ _ spells_reason, filter_histograms]
    simp [hnothing, List.map_eq_flatMap, selections_eq, failures_eq, refusals_eq]

end Registry

end MinEntropy.Metrics

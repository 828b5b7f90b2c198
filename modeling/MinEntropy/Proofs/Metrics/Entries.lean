import MinEntropy.Metrics.Exposition

/-! The text of an account, written out. Every value stands on a line of its own behind a name and
labels between braces, and the lines can be read back from the text. -/

namespace MinEntropy.Metrics

/-- The lines of a text. What stands behind the last line end is none. -/
def linesOf (text : String) : List String :=
  (text.toList.splitOn '\n').dropLast.map String.ofList

/-- A line with a name, labels between braces, a blank and a number. -/
def entry (name labels number : String) : String :=
  name ++ "\x7b" ++ labels ++ "\x7d " ++ number

/-! Every selection, every failure and every reason to turn a request away, in the order in which
they are shown. -/

def selections : List Selection := [.iid, .nonIid, .mixed]

def failures : List (Selection × ErrorKind) :=
  [(.iid, .foreign), (.nonIid, .foreign), (.mixed, .foreign),
    (.iid, .invalidInput), (.nonIid, .invalidInput), (.mixed, .invalidInput),
    (.iid, .resourceExhausted), (.nonIid, .resourceExhausted), (.mixed, .resourceExhausted)]

def refusals : List String :=
  ["empty_data", "invalid_word_size", "malformed_query", "no_mode_selected"]

theorem selections_eq : Selection.all = selections := rfl

theorem failures_eq : Registry.failureKeys = failures := rfl

theorem refusals_eq : RequestError.reasons = refusals := rfl

/-- The label of a selection. -/
def typeLabel : Selection → String
  | .iid => "test_type=\"IID\""
  | .nonIid => "test_type=\"Non-IID\""
  | .mixed => "test_type=\"mixed\""

/-- The labels of a failure. -/
def failureLabel : Selection × ErrorKind → String
  | (s, .invalidInput) => "error_type=\"invalid_input\"," ++ typeLabel s
  | (s, .resourceExhausted) => "error_type=\"resource_exhausted\"," ++ typeLabel s
  | (s, .foreign) => "error_type=\"foreign\"," ++ typeLabel s

/-- The label of a reason. -/
def reasonLabel (reason : String) : String := "reason=\"" ++ reason ++ "\""

/-- The labels of a bucket of a selection. -/
def bucketLabel (s : Selection) (bound : String) : String :=
  typeLabel s ++ ",le=\"" ++ bound ++ "\""

/-! ### Labels -/

/-- The labels are written so between the braces. -/
def Spells (labels : List (String × String)) (shown : String) : Prop :=
  labelText labels = "\x7b" ++ shown ++ "\x7d"

theorem line_of_spells {labels : List (String × String)} {shown : String}
    (hshown : Spells labels shown) (name value : String) :
    line name labels value = entry name shown value := by
  rw [line, hshown, entry]
  simp [String.append_assoc]

theorem spells_selection (s : Selection) : Spells (Registry.selectionLabel s) (typeLabel s) := by
  cases s <;> rfl

theorem spells_failure (key : Selection × ErrorKind) :
    Spells (Registry.failureLabels key) (failureLabel key) := by
  obtain ⟨s, kind⟩ := key
  cases s <;> cases kind <;> rfl

theorem spells_reason (reason : String) : Spells [("reason", reason)] (reasonLabel reason) := by
  simp [Spells, labelText, reasonLabel]

theorem spells_bucket (s : Selection) (bound : String) :
    Spells (Registry.selectionLabel s ++ [("le", bound)]) (bucketLabel s bound) := by
  cases s <;>
    simp [Spells, labelText, bucketLabel, typeLabel, Registry.selectionLabel, Selection.label,
      ← String.append_assoc]

/-! ### Lines -/

/-- The text stays on one line. -/
def IsLine (text : String) : Prop := '\n' ∉ text.toList

instance (text : String) : Decidable (IsLine text) := inferInstanceAs (Decidable (¬ _))

theorem isLine_append {a b : String} : IsLine (a ++ b) ↔ IsLine a ∧ IsLine b := by
  simp [IsLine, not_or]

theorem isLine_ofList {cs : List Char} : IsLine (String.ofList cs) ↔ '\n' ∉ cs := by
  simp [IsLine]

theorem linesOf_join {lines : List String} (hlines : ∀ l ∈ lines, IsLine l) :
    linesOf (String.join (lines.map (· ++ "\n"))) = lines := by
  induction lines with
  | nil => rfl
  | cons l rest ih =>
    obtain ⟨hl, hrest⟩ := List.forall_mem_cons.1 hlines
    have htext : (String.join ((l :: rest).map (· ++ "\n"))).toList =
        l.toList ++ '\n' :: (String.join (rest.map (· ++ "\n"))).toList := by
      simp
    have hfree : ∀ c ∈ l.toList, (c == '\n') = false := fun c hc =>
      beq_false_of_ne fun h => hl (h ▸ hc)
    have hih := ih hrest
    unfold linesOf at hih ⊢
    rw [htext, List.splitOn, List.splitOnP_append_cons_of_forall_mem hfree _ rfl,
      List.dropLast_cons_of_ne_nil (List.splitOnP_ne_nil _ _), List.map_cons, String.ofList_toList]
    exact congrArg (l :: ·) hih

/-! A number is written without a line end. -/

theorem newline_not_mem_digitsOf (n : Nat) : '\n' ∉ Decimal.digitsOf n := fun hmem =>
  absurd (Nat.isDigit_of_mem_toDigits (by decide) (by decide) hmem) (by decide)

theorem isLine_toString (n : Nat) : IsLine (toString n) :=
  isLine_ofList.2 (newline_not_mem_digitsOf n)

theorem newline_not_mem_placePoint (keepsPoint : Bool) (s : Decimal.Scaled) :
    '\n' ∉ Decimal.placePoint keepsPoint s := by
  have hdigits := newline_not_mem_digitsOf s.digits
  unfold Decimal.placePoint
  dsimp only
  split
  · cases keepsPoint <;> simp [hdigits]
  · have hpadded : ∀ places : Nat, '\n' ∉
        List.replicate (places + 1 - (Decimal.digitsOf s.digits).length) '0' ++
          Decimal.digitsOf s.digits := by
      simp [hdigits]
    simp only [List.mem_append, List.mem_cons, not_or]
    exact ⟨fun hmem => hpadded _ (List.mem_of_mem_take hmem), by decide,
      fun hmem => hpadded _ (List.mem_of_mem_drop hmem)⟩

theorem newline_not_mem_signed {cs : List Char} (hcs : '\n' ∉ cs) (negative : Bool) :
    '\n' ∉ Decimal.signed negative cs := by
  cases negative <;> simp [Decimal.signed, hcs]

theorem isLine_valueText (x : Float) : IsLine (valueText x) := by
  rw [valueText, isLine_ofList, Decimal.Style.write]
  split
  · decide
  · exact newline_not_mem_signed (by decide) _
  · exact newline_not_mem_signed (newline_not_mem_placePoint _ _) _

theorem isLine_entry {name labels number : String} :
    IsLine (entry name labels number) ↔ IsLine name ∧ IsLine labels ∧ IsLine number := by
  have hopen : IsLine "\x7b" := by decide
  have hclose : IsLine "\x7d " := by decide
  simp [entry, isLine_append, hopen, hclose, and_assoc]

theorem isLine_typeLabel (s : Selection) : IsLine (typeLabel s) := by
  cases s <;> decide

theorem isLine_failureLabel (key : Selection × ErrorKind) : IsLine (failureLabel key) := by
  obtain ⟨s, kind⟩ := key
  cases s <;> cases kind <;> decide

theorem isLine_bucketLabel (s : Selection) {bound : String} (hbound : IsLine bound) :
    IsLine (bucketLabel s bound) := by
  have hopen : IsLine ",le=\"" := by decide
  have hclose : IsLine "\"" := by decide
  simp [bucketLabel, isLine_append, isLine_typeLabel, hbound, hopen, hclose]

end MinEntropy.Metrics

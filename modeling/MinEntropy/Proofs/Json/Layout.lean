import Mathlib.Data.List.Basic
import MinEntropy.Json.Value

/-! How the members of an indented document stand in its text: each on a line of its own, two blanks
in. -/

namespace MinEntropy.Json

/-- A member, as it stands on its line. -/
def memberLine (m : String × Json) : String :=
  "  \"" ++ m.1 ++ "\": " ++ String.ofList (m.2.indented 1)

/-- A document with a line for each member. -/
def layout (members : List (String × Json)) : String :=
  "\x7b\n" ++ ",\n".intercalate (members.map memberLine) ++ "\n\x7d"

/-- A key that nothing need be escaped in. -/
def IsPlain (key : String) : Prop := ∀ c ∈ key.toList, escape c = [c]

instance (key : String) : Decidable (IsPlain key) :=
  decidable_of_iff (key.toList.all fun c => escape c = [c]) (by simp [IsPlain])

theorem quote_of_isPlain {key : String} (hkey : IsPlain key) :
    quote key = '"' :: key.toList ++ ['"'] := by
  rw [quote, List.flatMap_congr hkey, List.flatMap_singleton']

/-- The lines after the first. -/
theorem indentedMembers_eq {members : List (String × Json)} (hkeys : ∀ m ∈ members, IsPlain m.1) :
    indentedMembers 0 members =
      (members.flatMap fun m => ",\n".toList ++ (memberLine m).toList) ++ "\n\x7d".toList := by
  induction members with
  | nil => rfl
  | cons m members ih =>
    obtain ⟨key, v⟩ := m
    obtain ⟨hkey, hkeys⟩ := List.forall_mem_cons.1 hkeys
    rw [indentedMembers, ih hkeys, quote_of_isPlain hkey]
    simp [memberLine, newline]

theorem toList_intercalate_cons (s t : String) (texts : List String) :
    (s.intercalate (t :: texts)).toList =
      t.toList ++ texts.flatMap fun u => s.toList ++ u.toList := by
  induction texts generalizing t with
  | nil => simp
  | cons u texts ih => simp [ih]

theorem indentedText_obj {members : List (String × Json)} (hne : members ≠ [])
    (hkeys : ∀ m ∈ members, IsPlain m.1) : (obj members).indentedText = layout members := by
  obtain ⟨⟨key, v⟩, members, rfl⟩ := List.exists_cons_of_ne_nil hne
  obtain ⟨hkey, hkeys⟩ := List.forall_mem_cons.1 hkeys
  rw [← String.toList_inj, indentedText, indented, indentedMembers_eq hkeys, quote_of_isPlain hkey,
    layout, List.map_cons, String.toList_append, String.toList_append, toList_intercalate_cons]
  simp [memberLine, newline, List.flatMap_map]

end MinEntropy.Json

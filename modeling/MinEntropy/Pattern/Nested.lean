/-! Parts of a pattern with the depth to which they are nested. -/

namespace MinEntropy.Pattern

structure Nested (α : Type) where
  value : α
  depth : Nat
  deriving DecidableEq, Repr

namespace Nested

/-- A part without parts of its own. -/
def flat (a : α) : Nested α := ⟨a, 0⟩

/-- A value made of parts. -/
def ofParts (parts : List (Nested α)) (b : β) : Nested β :=
  ⟨b, (parts.map (·.depth)).foldl max 0 + 1⟩

/-- Parts put together, unless there is just one. -/
def join (combine : List α → α) : List (Nested α) → Nested α
  | [] => flat (combine [])
  | [part] => part
  | parts => ofParts parts (combine (parts.map (·.value)))

end Nested

end MinEntropy.Pattern

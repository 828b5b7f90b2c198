/-! The width of a symbol: one to eight bits. -/

namespace MinEntropy

/-- The widest symbol that fits a sample byte. -/
def maxWordSize : Nat := 8

/-- Bits per symbol. -/
structure WordSize where
  bits : Nat
  one_le : 1 ≤ bits
  le_max : bits ≤ maxWordSize
  deriving DecidableEq, Repr

namespace WordSize

def ofNat? (bits : Nat) : Option WordSize :=
  if h : 1 ≤ bits ∧ bits ≤ maxWordSize then some ⟨bits, h.1, h.2⟩ else none

/-- Why a width is refused. -/
def outOfRange (bits : Nat) : String := s!"word size {bits} outside 1..=8"

/-- Number of distinct values of a symbol. -/
def maxSymbols (w : WordSize) : Nat := Nat.pow 2 w.bits

/-- Selects the low `bits` bits of a sample. -/
def mask (w : WordSize) : UInt8 := UInt8.ofNat (w.maxSymbols - 1)

/-- All samples laid over each other. -/
def fold (data : List UInt8) : UInt8 := data.foldl (· ||| ·) 0

/-- The width of a byte: the position of its highest set bit, counted from one. -/
def width (b : UInt8) : Nat := if b = 0 then 0 else b.toNat.log2 + 1

theorem width_le (b : UInt8) : width b ≤ maxWordSize := by
  unfold width maxWordSize
  split
  · omega
  · next h =>
    have hb : b.toNat ≠ 0 := fun h0 => h (UInt8.toNat_inj.mp (by simpa using h0))
    have : b.toNat.log2 < 8 := (Nat.log2_lt hb).2 b.toNat_lt
    omega

/-- The least width that holds every sample; one bit when all samples are zero. -/
def detect (data : List UInt8) : WordSize :=
  ⟨max 1 (width (fold data)), Nat.le_max_left .., Nat.max_le.2 ⟨by decide, width_le _⟩⟩

instance : ToString WordSize := ⟨fun w => toString w.bits⟩

theorem ofNat?_eq_some_iff {bits : Nat} {w : WordSize} : ofNat? bits = some w ↔ w.bits = bits := by
  unfold ofNat?
  constructor
  · intro h
    split at h
    · cases h; rfl
    · cases h
  · rintro rfl
    simp [w.one_le, w.le_max]

end WordSize

end MinEntropy

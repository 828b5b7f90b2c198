/-! Entropy figures: bits per symbol as doubles, and the lesser of two of them. -/

namespace MinEntropy.Figure

/-- The lesser of two figures. What is not a number gives way to the other, and of two equal figures
the first stays. -/
def lesser (a b : Float) : Float := if b < a then b else if a.isNaN then b else a

/-- Finite and not below zero. -/
def isValid (h : Float) : Bool := h.isFinite && 0.0 ≤ h

def infinity : Float := 1.0 / 0.0

/-- The least of some figures, starting from a ceiling. -/
def least (ceiling : Float) (figures : List Float) : Float := figures.foldl lesser ceiling

end MinEntropy.Figure

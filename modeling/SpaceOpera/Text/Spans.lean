/-!
# Spans of code points

A character class written as the closed intervals of code points that make it up.
-/

namespace SpaceOpera.Text

/-- Closed intervals of code points. -/
abbrev Spans := List (Nat × Nat)

/-- Does one of the intervals hold the character? -/
def Spans.contains (s : Spans) (c : Char) : Bool :=
  s.any fun p => p.1 ≤ c.toNat && c.toNat ≤ p.2

@[simp]
theorem Spans.contains_append (s t : Spans) (c : Char) :
    Spans.contains (s ++ t) c = (s.contains c || t.contains c) := by
  simp [Spans.contains]

end SpaceOpera.Text

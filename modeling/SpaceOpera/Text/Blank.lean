import SpaceOpera.Text.Spans

/-!
# Blank characters

The Unicode property `White_Space`.  Words are what stands between blanks, and a name made of blanks
alone is no name.
-/

namespace SpaceOpera.Text

/-- Characters with the property `White_Space`. -/
def blankSpans : Spans := [
  (0x9, 0xd), (0x20, 0x20), (0x85, 0x85), (0xa0, 0xa0), (0x1680, 0x1680), (0x2000, 0x200a),
  (0x2028, 0x2029), (0x202f, 0x202f), (0x205f, 0x205f), (0x3000, 0x3000)]

/-- A character with the property `White_Space`. -/
def isBlank (c : Char) : Bool :=
  blankSpans.contains c

/-- The blanks of ASCII are blank. -/
theorem isBlank_of_isWhitespace (c : Char) (h : c.isWhitespace = true) : isBlank c = true := by
  simp only [Char.isWhitespace, Bool.or_eq_true, decide_eq_true_eq] at h
  rcases h with ((h | h) | h) | h <;> subst h <;> decide

end SpaceOpera.Text

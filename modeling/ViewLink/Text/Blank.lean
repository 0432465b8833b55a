/-!
# Blank characters

Whether a setting is empty is asked of its visible characters, so a string of blanks alone counts as
empty. Blank are the characters of Unicode's `White_Space` property. It has the blanks that take
room on the line and the line ends, and it leaves out the characters of no width, such as the zero
width space and the byte order mark.
-/

set_option autoImplicit false

namespace ViewLink.Text

/-- The first and last code points of the ranges of blank characters. -/
def blankRanges : List (Nat × Nat) :=
  [(0x9, 0xD), (0x20, 0x20), (0x85, 0x85), (0xA0, 0xA0), (0x1680, 0x1680), (0x2000, 0x200A),
    (0x2028, 0x2029), (0x202F, 0x202F), (0x205F, 0x205F), (0x3000, 0x3000)]

/-- **Whether a character is blank.** -/
def isBlank (c : Char) : Bool := blankRanges.any fun r => r.1 ≤ c.toNat && c.toNat ≤ r.2

/-- Whether a text shows nothing: it is empty, or all its characters are blank. -/
def isBlankText (s : String) : Bool := s.toList.all isBlank

theorem isBlank_of_isWhitespace {c : Char} (h : c.isWhitespace) : isBlank c := by
  simp only [Char.isWhitespace, Bool.or_eq_true, decide_eq_true_eq] at h
  rcases h with (((rfl | rfl) | rfl) | rfl) <;> decide

end ViewLink.Text

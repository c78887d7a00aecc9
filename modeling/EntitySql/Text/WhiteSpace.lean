import EntitySql.Text.CodeSet

/-!
# White space

The characters with the property `White_Space`.  Zero-width spaces, joiners and
the byte order mark are not among them, and neither are the information
separators U+001C to U+001F.

Main results:

- Theorem `Text.isBlank_of_isWhitespace`: what core counts as white space is a blank.
-/

namespace EntitySql
namespace Text

/-- The code points with the property `White_Space`. -/
def whiteSpace : CodeSet where
  changes := [
    0x9, 0xE, 0x20, 0x21, 0x85, 0x86, 0xA0, 0xA1, 0x1680, 0x1681, 0x2000, 0x200B, 0x2028, 0x202A,
    0x202F, 0x2030, 0x205F, 0x2060, 0x3000, 0x3001]

/-- A blank is a character of white space. -/
def isBlank (c : Char) : Bool :=
  whiteSpace.contains c

/-- Every character that core counts as white space is a blank. -/
theorem isBlank_of_isWhitespace {c : Char} (h : c.isWhitespace = true) : isBlank c = true := by
  simp only [Char.isWhitespace, Bool.or_eq_true, decide_eq_true_eq] at h
  rcases h with ((rfl | rfl) | rfl) | rfl <;> decide

end Text
end EntitySql

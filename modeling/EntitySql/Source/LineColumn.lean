/-!
# Lines and columns

A position in a text for human readers: lines and columns count from one, and
only the line feed ends a line.  An offset past the end of the text has the
position of the end.

Main results:

- Theorem `LineColumn.advanceAll_append`: a concatenation leads on from where its
  first part ends.
- Theorem `LineColumn.ofOffset_of_length_le`: past the end of the text nothing moves.
-/

namespace EntitySql

/-- A line and a column, both counted from one. -/
structure LineColumn where
  line : Nat
  column : Nat
deriving DecidableEq, Repr

namespace LineColumn

/-- The beginning of a text. -/
def first : LineColumn := ⟨1, 1⟩

/-- The position after a character. -/
def advance (position : LineColumn) (c : Char) : LineColumn :=
  if c = '\n' then ⟨position.line + 1, 1⟩ else ⟨position.line, position.column + 1⟩

/-- The position after all characters of a text. -/
def advanceAll (position : LineColumn) (text : List Char) : LineColumn :=
  text.foldl advance position

/-- The position of a character offset. -/
def ofOffset (source : List Char) (offset : Nat) : LineColumn :=
  first.advanceAll (source.take offset)

/-- The first character leads to the position from which the others go on. -/
@[simp]
theorem advanceAll_cons (position : LineColumn) (c : Char) (text : List Char) :
    position.advanceAll (c :: text) = (position.advance c).advanceAll text :=
  rfl

/-- A concatenation leads on from where its first part ends. -/
@[simp]
theorem advanceAll_append (position : LineColumn) (s t : List Char) :
    position.advanceAll (s ++ t) = (position.advanceAll s).advanceAll t :=
  List.foldl_append

/-- Past the end of the text nothing moves. -/
theorem ofOffset_of_length_le {source : List Char} {offset : Nat} (h : source.length ≤ offset) :
    ofOffset source offset = ofOffset source source.length := by
  simp [ofOffset, List.take_of_length_le h]

end LineColumn
end EntitySql

import Mathlib.Algebra.GroupWithZero.Nat
import EntitySql.Proofs.Text.Offsets
import EntitySql.Source.LineColumn

/-!
# Addressing a text by its lines

Line feeds separate the lines of a text.  A line and a column of it stand for an
offset: all lines before it with their line feeds, and the characters of the
line before the column; the column behind the last character stands for the end
of the line.  Going through a text character by character finds, for every
offset up to its end, the line and column that stand for it.

Main results:

- Theorem `Text.lines_induction`: a text is one line, or a line in front of a text.
- Theorem `LineColumn.advanceAll_take`: going through a text up to a column of a line.
- Theorem `LineColumn.precedes_ofOffset`: positions grow with their offsets.
- Theorem `LineColumn.addressedByLines`: offsets, and lines with columns, are the
  inverse of each other.
-/

namespace EntitySql
namespace Text

/-! ## Lines -/

/-- The lines of a text, which line feeds separate. -/
def lines (text : List Char) : List (List Char) :=
  text.splitOn '\n'

/-- The offset at which a line begins, the lines counted from zero: each line before it takes up
its characters and a line feed. -/
def lineStart (text : List Char) (n : Nat) : Nat :=
  (((lines text).take n).map fun line => line.length + 1).sum

/-- Induction over the lines of a text. -/
@[elab_as_elim]
theorem lines_induction {motive : List Char → Prop}
    (single : ∀ line, '\n' ∉ line → motive line)
    (more : ∀ line rest, '\n' ∉ line → motive rest → motive (line ++ '\n' :: rest))
    (text : List Char) : motive text := by
  induction hlength : text.length using Nat.strongRecOn generalizing text with
  | ind n ih =>
    by_cases hfeed : '\n' ∈ text
    · rcases List.eq_append_cons_of_mem hfeed with ⟨line, rest, rfl, hline⟩
      have hshorter : rest.length < n := by
        rw [← hlength, List.length_append, List.length_cons]
        omega
      exact more line rest hline (ih rest.length hshorter rest rfl)
    · exact single text hfeed

/-- A text without line feed is one line. -/
theorem lines_of_not_mem {line : List Char} (h : '\n' ∉ line) : lines line = [line] :=
  List.splitOn_eq_singleton h

/-- Its only line is the text itself. -/
theorem getElem?_lines_of_not_mem {only line : List Char} {n : Nat} (h : '\n' ∉ only) :
    (lines only)[n]? = some line ↔ n = 0 ∧ only = line := by
  rw [lines_of_not_mem h, List.getElem?_singleton]
  by_cases hn : n = 0
  · simp [hn]
  · simp [hn]

/-- A line feed ends the first line. -/
theorem lines_append {line : List Char} (h : '\n' ∉ line) (rest : List Char) :
    lines (line ++ '\n' :: rest) = line :: lines rest :=
  List.splitOn_append_cons_self_of_not_mem h rest

/-- The first line begins with the text. -/
@[simp]
theorem lineStart_zero (text : List Char) : lineStart text 0 = 0 :=
  rfl

/-- A later line begins behind the first one, its line feed and the lines between. -/
theorem lineStart_append_succ {line : List Char} (h : '\n' ∉ line) (rest : List Char) (n : Nat) :
    lineStart (line ++ '\n' :: rest) (n + 1) = line.length + 1 + lineStart rest n := by
  rw [lineStart, lines_append h, List.take_succ_cons, List.map_cons, List.sum_cons, ← lineStart]

/-- A line ends within its text. -/
theorem lineStart_add_length_le {text line : List Char} {n : Nat}
    (h : (lines text)[n]? = some line) : lineStart text n + line.length ≤ text.length := by
  induction text using lines_induction generalizing n with
  | single first hfirst =>
    rcases (getElem?_lines_of_not_mem hfirst).1 h with ⟨rfl, rfl⟩
    rw [lineStart_zero]
    omega
  | more first rest hfirst ih =>
    rw [lines_append hfirst] at h
    rw [List.length_append, List.length_cons]
    cases n with
    | zero =>
      cases h
      rw [lineStart_zero]
      omega
    | succ n =>
      have hrest := ih h
      rw [lineStart_append_succ hfirst]
      omega

/-- Every offset up to the end of a text lies in a line or at its end. -/
theorem exists_line_of_le {text : List Char} {offset : Nat} (h : offset ≤ text.length) :
    ∃ n line column, (lines text)[n]? = some line ∧ column ≤ line.length ∧
      lineStart text n + column = offset := by
  induction text using lines_induction generalizing offset with
  | single first hfirst =>
    have hline := (getElem?_lines_of_not_mem hfirst).2 ⟨rfl, rfl⟩
    exact ⟨0, first, offset, hline, h, Nat.zero_add offset⟩
  | more first rest hfirst ih =>
    rw [List.length_append, List.length_cons] at h
    by_cases hfirstLine : offset ≤ first.length
    · refine ⟨0, first, offset, ?_, hfirstLine, Nat.zero_add offset⟩
      rw [lines_append hfirst]
      rfl
    · have hrest : offset - (first.length + 1) ≤ rest.length := by omega
      rcases ih hrest with ⟨n, line, column, hline, hcolumn, hoffset⟩
      refine ⟨n + 1, line, column, ?_, hcolumn, ?_⟩
      · rw [lines_append hfirst]
        exact hline
      · rw [lineStart_append_succ hfirst]
        omega

end Text

namespace LineColumn

/-! ## Going through the lines -/

/-- Within a line only the column moves. -/
theorem advanceAll_of_not_mem {line : List Char} (h : '\n' ∉ line) (position : LineColumn) :
    position.advanceAll line = ⟨position.line, position.column + line.length⟩ := by
  induction line generalizing position with
  | nil => rfl
  | cons c line ih =>
    rw [List.mem_cons, not_or] at h
    have hadvance : position.advance c = ⟨position.line, position.column + 1⟩ :=
      if_neg (Ne.symm h.1)
    rw [advanceAll_cons, hadvance, ih h.2, List.length_cons]
    simp only [Nat.add_assoc, Nat.add_comm 1]

/-- From the beginning of a line, its characters before a column lead to that column. -/
theorem advanceAll_take_of_not_mem {line : List Char} {column : Nat} (h : '\n' ∉ line)
    (hcolumn : column ≤ line.length) (first : Nat) :
    (⟨first, 1⟩ : LineColumn).advanceAll (line.take column) = ⟨first, 1 + column⟩ := by
  have htake : '\n' ∉ line.take column := fun hmem => h (List.mem_of_mem_take hmem)
  rw [advanceAll_of_not_mem htake, List.length_take, Nat.min_eq_left hcolumn]

/-- From the beginning of a text, its characters before a column of one of its lines lead to that
line and column. -/
theorem advanceAll_take {text line : List Char} {n column : Nat}
    (hline : (Text.lines text)[n]? = some line) (hcolumn : column ≤ line.length) (first : Nat) :
    (⟨first, 1⟩ : LineColumn).advanceAll (text.take (Text.lineStart text n + column)) =
      ⟨first + n, 1 + column⟩ := by
  induction text using Text.lines_induction generalizing n first with
  | single only honly =>
    rcases (Text.getElem?_lines_of_not_mem honly).1 hline with ⟨rfl, rfl⟩
    rw [Text.lineStart_zero, Nat.zero_add]
    exact advanceAll_take_of_not_mem honly hcolumn first
  | more begun rest hbegun ih =>
    rw [Text.lines_append hbegun] at hline
    cases n with
    | zero =>
      cases hline
      rw [Text.lineStart_zero, Nat.zero_add, List.take_append_of_le_length hcolumn]
      exact advanceAll_take_of_not_mem hbegun hcolumn first
    | succ n =>
      -- The first line and its line feed are behind; the rest begins a line further down.
      have hoffset : Text.lineStart (begun ++ '\n' :: rest) (n + 1) + column =
          begun.length + ((Text.lineStart rest n + column) + 1) := by
        rw [Text.lineStart_append_succ hbegun]
        omega
      rw [hoffset, List.take_length_add_append, List.take_succ_cons, advanceAll_append,
        advanceAll_of_not_mem hbegun, advanceAll_cons]
      have hnext := ih hline (first + 1)
      rw [Nat.add_assoc, Nat.add_comm 1 n] at hnext
      exact hnext

/-! ## The order of positions -/

/-- Positions are ordered by lines, and within a line by columns. -/
def Precedes (p q : LineColumn) : Prop :=
  p.line < q.line ∨ p.line = q.line ∧ p.column < q.column

/-- Positions are ordered one behind the other. -/
theorem Precedes.trans {p q r : LineColumn} (hpq : p.Precedes q) (hqr : q.Precedes r) :
    p.Precedes r := by
  unfold Precedes at *
  omega

/-- A character leads further on. -/
theorem precedes_advance (position : LineColumn) (c : Char) :
    position.Precedes (position.advance c) := by
  rw [advance]
  split
  · exact Or.inl (Nat.lt_succ_self position.line)
  · exact Or.inr ⟨rfl, Nat.lt_succ_self position.column⟩

/-- The characters of a text lead further and further on. -/
theorem precedes_advanceAll (position : LineColumn) (c : Char) (text : List Char) :
    position.Precedes (position.advanceAll (c :: text)) := by
  induction text generalizing position c with
  | nil => exact precedes_advance position c
  | cons d text ih => exact (precedes_advance position c).trans (ih (position.advance c) d)

/-- Positions grow with their offsets. -/
theorem precedes_ofOffset {text : List Char} {m n : Nat} (hlt : m < n) (hle : n ≤ text.length) :
    (ofOffset text m).Precedes (ofOffset text n) := by
  rcases Text.exists_take_eq_append_cons hlt hle with ⟨c, more, hmore⟩
  rw [ofOffset, ofOffset, hmore, advanceAll_append]
  exact precedes_advanceAll _ c more

/-! ## Lines and columns as addresses -/

/-- A text has the line, and the line has a character at the column or ends before it. -/
structure StandsIn (position : LineColumn) (text : List Char) : Prop where
  line_pos : 1 ≤ position.line
  line_le : position.line ≤ (Text.lines text).length
  column_pos : 1 ≤ position.column
  column_le : ∃ line, (Text.lines text)[position.line - 1]? = some line ∧
    position.column ≤ line.length + 1

/-- The offset for which a line and column stand. -/
def toOffset (position : LineColumn) (text : List Char) : Nat :=
  Text.lineStart text (position.line - 1) + (position.column - 1)

/-- Up to the end of a text every offset has a line and column that stand for it. -/
theorem exists_toOffset_eq {text : List Char} {offset : Nat} (h : offset ≤ text.length) :
    ∃ position : LineColumn, position.StandsIn text ∧ position.toOffset text = offset := by
  rcases Text.exists_line_of_le h with ⟨n, line, column, hline, hcolumn, hoffset⟩
  refine ⟨⟨n + 1, column + 1⟩, ⟨?_, ?_, ?_, ?_⟩, hoffset⟩
  · exact Nat.succ_le_succ (Nat.zero_le n)
  · exact (List.getElem?_eq_some_iff.1 hline).1
  · exact Nat.succ_le_succ (Nat.zero_le column)
  · exact ⟨line, hline, Nat.succ_le_succ hcolumn⟩

/-- A line and column stand for an offset within the text. -/
theorem StandsIn.toOffset_le {position : LineColumn} {text : List Char}
    (h : position.StandsIn text) : position.toOffset text ≤ text.length := by
  rcases h.column_le with ⟨line, hline, hcolumn⟩
  have hend := Text.lineStart_add_length_le hline
  rw [toOffset]
  omega

/-- The offset for which a line and column stand has this line and column. -/
theorem StandsIn.ofOffset_toOffset {position : LineColumn} {text : List Char}
    (h : position.StandsIn text) : ofOffset text (position.toOffset text) = position := by
  rcases h.column_le with ⟨line, hline, hcolumn⟩
  have hposition := advanceAll_take hline (Nat.sub_le_of_le_add hcolumn) 1
  rw [Nat.add_sub_cancel' h.line_pos, Nat.add_sub_cancel' h.column_pos] at hposition
  exact hposition

/-- Behind a last line feed there is one more line, which is empty. -/
example : (LineColumn.mk 4 1).toOffset "ab\n\nc\n".toList = 6 ∧
    ofOffset "ab\n\nc\n".toList 6 = ⟨4, 1⟩ := by
  decide

/-- Offsets into a text, and the lines and columns that stand in it, are the inverse of each
other. -/
structure AddressedByLines (text : List Char) : Prop where
  /-- An offset up to the end has a line and column that stand in the text. -/
  standsIn : ∀ offset, offset ≤ text.length → (ofOffset text offset).StandsIn text
  /-- They stand for the offset. -/
  toOffset_ofOffset : ∀ offset, offset ≤ text.length →
    (ofOffset text offset).toOffset text = offset
  /-- A line and column that stand in the text stand for an offset up to its end. -/
  toOffset_le : ∀ position : LineColumn, position.StandsIn text →
    position.toOffset text ≤ text.length
  /-- The offset has this line and column. -/
  ofOffset_toOffset : ∀ position : LineColumn, position.StandsIn text →
    ofOffset text (position.toOffset text) = position
  /-- An offset further on has a further position. -/
  increasing : ∀ m n, m < n → n ≤ text.length → (ofOffset text m).Precedes (ofOffset text n)
  /-- Different offsets have different positions. -/
  injective : ∀ m n, m ≤ text.length → n ≤ text.length →
    ofOffset text m = ofOffset text n → m = n
  /-- Past the end an offset has the position of the end. -/
  pastEnd : ∀ offset, text.length < offset → ofOffset text offset = ofOffset text text.length

/-- Going through a text finds the line and column that stand for an offset. -/
theorem addressedByLines (text : List Char) : AddressedByLines text := by
  have hinverse : ∀ offset, offset ≤ text.length →
      (ofOffset text offset).StandsIn text ∧ (ofOffset text offset).toOffset text = offset := by
    intro offset h
    rcases exists_toOffset_eq h with ⟨position, hstands, rfl⟩
    rw [hstands.ofOffset_toOffset]
    exact ⟨hstands, rfl⟩
  exact
    { standsIn := fun offset h => (hinverse offset h).1
      toOffset_ofOffset := fun offset h => (hinverse offset h).2
      toOffset_le := fun position h => h.toOffset_le
      ofOffset_toOffset := fun position h => h.ofOffset_toOffset
      increasing := fun m n => precedes_ofOffset
      injective := fun m n hm hn heq => by
        rw [← (hinverse m hm).2, heq, (hinverse n hn).2]
      pastEnd := fun offset h => ofOffset_of_length_le (Nat.le_of_lt h) }

end LineColumn
end EntitySql

import EntitySql.Query.Declaration
import EntitySql.Text.WhiteSpace

/-!
# Reading a query

A query is a sequence of declarations, with blanks before each, and a statement
after them.  Reading gives the declarations with their places, and either the
statement or what is wrong with the next declaration.

Main results:

- Theorem `Reading.scan_of_not_isAhead`: without a declaration ahead, everything
  but leading blanks is the statement.
- Theorem `Reading.scan_of_find`: a declaration ahead comes first, and reading goes on after it.
-/

namespace EntitySql

/-- A declaration and the offset of its first character. -/
structure Placed where
  declaration : Declaration
  offset : Nat
deriving DecidableEq, Repr

/-- The span of a declaration, which its text takes up. -/
def Placed.span (p : Placed) : Span :=
  ⟨p.offset, p.offset + p.declaration.text.length⟩

/-- The declarations of a query and what comes after them. -/
structure Reading where
  declarations : List Placed
  ending : Except Malformed (List Char)

namespace Reading

/-- A declaration in front of those that are read after it. -/
def prepend (p : Placed) (r : Reading) : Reading :=
  { r with declarations := p :: r.declarations }

/-- Dropping blanks and a nonempty part of what follows makes a text shorter. -/
theorem length_drop_lt {text : List Char} (layout : Layout)
    (h : Declaration.isAhead (text.dropWhile Text.isBlank) = true) :
    ((text.dropWhile Text.isBlank).drop layout.length).length < text.length := by
  have hle := (List.dropWhile_sublist (l := text) Text.isBlank).length_le
  have hprefix := (List.isPrefixOf_iff_prefix.1 h).length_le
  have hpos := layout.length_pos
  simp only [List.length_drop, Declaration.keyword, List.length_cons] at hprefix ⊢
  omega

/-- Reads a text whose first character has the given offset. -/
def scan (offset : Nat) (text : List Char) : Reading :=
  let start := offset + (text.takeWhile Text.isBlank).length
  let ahead := text.dropWhile Text.isBlank
  if _h : Declaration.isAhead ahead then
    match Layout.find ahead with
    | .error fault => ⟨[], .error fault⟩
    | .ok layout =>
      prepend ⟨layout.declaration ahead, start⟩
        (scan (start + layout.length) (ahead.drop layout.length))
  else ⟨[], .ok ahead⟩
termination_by text.length
decreasing_by exact length_drop_lt layout _h

/-- Reads a query. -/
def ofQuery (query : String) : Reading :=
  scan 0 query.toList

/-- Without a declaration ahead, everything but leading blanks is the statement. -/
theorem scan_of_not_isAhead {text : List Char}
    (h : Declaration.isAhead (text.dropWhile Text.isBlank) = false) (offset : Nat) :
    scan offset text = ⟨[], .ok (text.dropWhile Text.isBlank)⟩ := by
  rw [scan]
  simp [h]

/-- A malformed declaration ahead ends the reading. -/
theorem scan_of_malformed {text : List Char} {fault : Malformed}
    (h : Declaration.isAhead (text.dropWhile Text.isBlank) = true)
    (hfind : Layout.find (text.dropWhile Text.isBlank) = .error fault) (offset : Nat) :
    scan offset text = ⟨[], .error fault⟩ := by
  rw [scan]
  simp [h, hfind]

/-- A declaration ahead comes first, and reading goes on after it. -/
theorem scan_of_find {text : List Char} {layout : Layout}
    (h : Declaration.isAhead (text.dropWhile Text.isBlank) = true)
    (hfind : Layout.find (text.dropWhile Text.isBlank) = .ok layout) (offset : Nat) :
    scan offset text =
      let start := offset + (text.takeWhile Text.isBlank).length
      prepend ⟨layout.declaration (text.dropWhile Text.isBlank), start⟩
        (scan (start + layout.length) ((text.dropWhile Text.isBlank).drop layout.length)) := by
  rw [scan]
  simp [h, hfind]

end Reading
end EntitySql

import EntitySql.Source.LineColumn
import EntitySql.Source.Span

/-!
# Source locations

A location names a place in a query text twice, as a line and column for
readers and as an offset and length for programs.  Converting a location to a
span adds the length to the offset, and the sum may exceed a 64-bit word.

Main results:

- Theorem `SourceLocation.span?_eq_ok_iff`: the span exists exactly when a word can hold its end.
- Theorem `SourceLocation.ofSpan_offset`: the location of a span begins where the span begins.
-/

namespace EntitySql

/-- A place in a query text. -/
structure SourceLocation where
  line : Nat
  column : Nat
  offset : Nat
  length : Nat
deriving DecidableEq, Repr

namespace SourceLocation

/-- The beginning of a text. -/
def beginning : SourceLocation := ⟨1, 1, 0, 0⟩

/-- The location of a span in a text. -/
def ofSpan (span : Span) (source : String) : SourceLocation :=
  let position := LineColumn.ofOffset source.toList span.start
  { line := position.line
    column := position.column
    offset := span.start
    length := span.length }

/-- The span of a location, unless a word cannot hold its end. -/
def span? (location : SourceLocation) : Except Word.Overflow Span :=
  (Word.add? location.offset location.length).map fun stop => ⟨location.offset, stop⟩

/-- A word can hold each of the four numbers. -/
def Representable (location : SourceLocation) : Prop :=
  Word.Fits location.line ∧ Word.Fits location.column ∧ Word.Fits location.offset ∧
    Word.Fits location.length

instance (location : SourceLocation) : Decidable location.Representable :=
  inferInstanceAs (Decidable (_ ∧ _))

/-- The written form of a location is its line and column. -/
def render (location : SourceLocation) : String :=
  Text.decimal location.line ++ ":" ++ Text.decimal location.column

instance : Dump SourceLocation where
  dump location :=
    Dump.record "SourceLocation"
      [("line", dump location.line), ("column", dump location.column),
        ("offset", dump location.offset), ("length", dump location.length)]

/-! ## JSON -/

instance : Json.Encode SourceLocation where
  encode location :=
    .object
      [("line", Json.encode location.line), ("column", Json.encode location.column),
        ("offset", Json.encode location.offset), ("length", Json.encode location.length)]

/-- Reads a location from the members of an object. -/
def ofMembers (members : List (String × Json)) : Except Json.DecodeError SourceLocation := do
  let column ← Json.readMember members "column" Span.readOffset
  let length ← Json.readMember members "length" Span.readOffset
  let line ← Json.readMember members "line" Span.readOffset
  let offset ← Json.readMember members "offset" Span.readOffset
  let line ← Json.required "line" line
  let column ← Json.required "column" column
  let offset ← Json.required "offset" offset
  let length ← Json.required "length" length
  return ⟨line, column, offset, length⟩

/-- Reads a location from an array of its fields. -/
def ofItems (items : List Json) : Except Json.DecodeError SourceLocation := do
  let expected := Json.recordItems "SourceLocation" 4
  let line ← Json.readElement items 0 expected Span.readOffset
  let column ← Json.readElement items 1 expected Span.readOffset
  let offset ← Json.readElement items 2 expected Span.readOffset
  let length ← Json.readElement items 3 expected Span.readOffset
  Json.noMore items 4
  return ⟨line, column, offset, length⟩

instance : Json.Decode SourceLocation where
  decode := Json.readRecord "SourceLocation" ofMembers ofItems

/-! ## Basic laws -/

/-- The span of a location exists exactly when a word can hold its end. -/
theorem span?_eq_ok_iff {location : SourceLocation} {span : Span} :
    location.span? = .ok span ↔
      Word.Fits (location.offset + location.length) ∧
        span = ⟨location.offset, location.offset + location.length⟩ := by
  constructor
  · intro h
    cases hsum : Word.add? location.offset location.length with
    | ok stop =>
      rw [span?, hsum] at h
      cases h
      rcases Word.add?_eq_ok_iff.1 hsum with ⟨hfits, rfl⟩
      exact ⟨hfits, rfl⟩
    | error fault =>
      rw [span?, hsum] at h
      cases h
  · rintro ⟨hfits, rfl⟩
    rw [span?, Word.add?_eq_ok_iff.2 ⟨hfits, rfl⟩]
    rfl

/-- The location of a span begins where the span begins. -/
@[simp]
theorem ofSpan_offset (span : Span) (source : String) : (ofSpan span source).offset = span.start :=
  rfl

/-- The location of a span has its length. -/
@[simp]
theorem ofSpan_length (span : Span) (source : String) : (ofSpan span source).length = span.length :=
  rfl

end SourceLocation
end EntitySql

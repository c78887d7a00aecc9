import EntitySql.Json.Decode
import EntitySql.Text.Utf8

/-!
# Spans

A span is a half-open range of character offsets into a query text.  Offsets
count characters, never bytes.  A span whose end lies before its start is
reversed: it is empty, contains nothing and cuts nothing out of a text.

Main results:

- Theorem `Span.contains_iff`: a span contains the offsets from its start to just before its end.
- Theorem `Span.length_eq_zero_iff`: a span is empty exactly when its length is zero.
- Theorem `Span.slice_of_isReversed`: a reversed span cuts nothing out of a text.
-/

namespace EntitySql

/-- A half-open range of character offsets. -/
structure Span where
  start : Nat
  stop : Nat
deriving DecidableEq, Repr

namespace Span

/-- The empty span at the beginning of a text. -/
def zero : Span := ⟨0, 0⟩

/-- The empty span at a position. -/
def point (position : Nat) : Span := ⟨position, position⟩

/-- The number of characters in a span; a reversed one has none. -/
def length (s : Span) : Nat := s.stop - s.start

/-- A span is empty when no offset lies in it. -/
def isEmpty (s : Span) : Bool := s.stop ≤ s.start

/-- A span is reversed when its end lies before its start. -/
def isReversed (s : Span) : Bool := s.stop < s.start

/-- An offset lies in a span. -/
def contains (s : Span) (offset : Nat) : Bool := s.start ≤ offset && offset < s.stop

/-- The greater end of a span, which a text must reach. -/
def reach (s : Span) : Nat := max s.start s.stop

/-- A word can hold either end. -/
def Representable (s : Span) : Prop := Word.Fits s.start ∧ Word.Fits s.stop

instance (s : Span) : Decidable s.Representable :=
  inferInstanceAs (Decidable (_ ∧ _))

/--
The text that a span covers, cut out between the byte positions of its ends.
There is none if the span is reversed or goes past the end of the text.
-/
def slice (s : Span) (source : String) : Option String :=
  if s.isReversed then none
  else do
    let start ← Text.bytePosition? source.toList s.start
    let stop ← Text.bytePosition? source.toList s.stop
    let covered ← Text.byteRange? source.toList start stop
    some (String.ofList covered)

/-- The written form of a span, with the brackets of a half-open interval. -/
def render (s : Span) : String :=
  "[" ++ Text.decimal s.start ++ ", " ++ Text.decimal s.stop ++ ")"

instance : Dump Span where
  dump s := Dump.record "Span" [("start", dump s.start), ("end", dump s.stop)]

/-! ## JSON -/

instance : Json.Encode Span where
  encode s := .object [("start", Json.encode s.start), ("end", Json.encode s.stop)]

/-- Reads an offset. -/
def readOffset (value : Json) : Except Json.DecodeError Nat :=
  Json.readNatural "usize" Word.limit value

/-- Reads a span from the members of an object. -/
def ofMembers (members : List (String × Json)) : Except Json.DecodeError Span := do
  let stop ← Json.readMember members "end" readOffset
  let start ← Json.readMember members "start" readOffset
  let start ← Json.required "start" start
  let stop ← Json.required "end" stop
  return ⟨start, stop⟩

/-- Reads a span from an array of its fields. -/
def ofItems (items : List Json) : Except Json.DecodeError Span := do
  let expected := Json.recordItems "Span" 2
  let start ← Json.readElement items 0 expected readOffset
  let stop ← Json.readElement items 1 expected readOffset
  Json.noMore items 2
  return ⟨start, stop⟩

instance : Json.Decode Span where
  decode := Json.readRecord "Span" ofMembers ofItems

/-! ## Basic laws -/

/-- A span contains the offsets from its start to just before its end. -/
theorem contains_iff {s : Span} {offset : Nat} :
    s.contains offset = true ↔ s.start ≤ offset ∧ offset < s.stop := by
  simp [contains]

/-- No other offset lies in a span. -/
theorem contains_eq_false_iff {s : Span} {offset : Nat} :
    s.contains offset = false ↔ ¬(s.start ≤ offset ∧ offset < s.stop) := by
  rw [← contains_iff, Bool.not_eq_true]

/-- A span is reversed when its end lies before its start. -/
theorem isReversed_iff {s : Span} : s.isReversed = true ↔ s.stop < s.start := by
  simp [isReversed]

/-- A span is not reversed when its ends are in order. -/
theorem isReversed_eq_false_iff {s : Span} : s.isReversed = false ↔ s.start ≤ s.stop := by
  simp [isReversed]

/-- A span is empty exactly when its length is zero. -/
theorem length_eq_zero_iff {s : Span} : s.length = 0 ↔ s.isEmpty = true := by
  simp [length, isEmpty]
  omega

/-- A text reaches a span when it reaches both ends. -/
theorem reach_le_iff {s : Span} {n : Nat} : s.reach ≤ n ↔ s.start ≤ n ∧ s.stop ≤ n :=
  Nat.max_le

/-- A reversed span cuts nothing out of a text. -/
theorem slice_of_isReversed {s : Span} (h : s.isReversed = true) (source : String) :
    s.slice source = none := by
  simp [slice, h]

end Span
end EntitySql

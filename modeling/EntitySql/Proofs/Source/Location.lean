import EntitySql.Proofs.Source.Slice
import EntitySql.Source.Location

/-!
# From a span to its location and back

A location keeps the start and the length of the span it was made from, and its
own span ends where the two add up.  The length of a reversed span is cut off at
zero, so the sum is the greater end of the span: a word that holds both ends
holds the sum too, at whatever distance beyond the text they lie.  Only a
location put together from other numbers can overflow.

Main results:

- Theorem `Span.start_add_length`: start and length add up to the greater end.
- Theorem `SourceLocation.span?_ofSpan`: the span of a location made from a span.
- Theorem `SourceLocation.span?_eq_error_iff`: which locations have no span.
- Theorem `SourceLocation.convertsBack`: what a span and its location have in common.
-/

namespace EntitySql

namespace Word

/-- A sum is refused exactly when a word cannot hold it. -/
theorem add?_eq_error_iff {m n : Nat} {fault : Overflow} :
    add? m n = .error fault ↔ limit ≤ m + n ∧ fault = .addition := by
  unfold add?
  split
  next h => simp [Nat.not_le.2 h]
  next h => simp [Nat.not_lt.1 h, eq_comm]

end Word

namespace Span

/-- The span from the start on: a reversed span is replaced by the empty one at its start. -/
def straightened (s : Span) : Span :=
  if s.isReversed then point s.start else s

/-- A span that is not reversed stays as it is. -/
theorem straightened_of_not_isReversed {s : Span} (h : s.isReversed = false) :
    s.straightened = s := by
  rw [straightened, h]
  rfl

/-- The length leads from the start to the greater end. -/
theorem start_add_length (s : Span) : s.start + s.length = s.reach := by
  rw [length, reach]
  omega

/-- From the start to the greater end a span is straightened. -/
theorem straightened_eq (s : Span) : s.straightened = ⟨s.start, s.reach⟩ := by
  rw [straightened, reach]
  split
  next h =>
    have hstop := Nat.le_of_lt (isReversed_iff.1 h)
    rw [Nat.max_eq_left hstop]
    rfl
  next h =>
    have hstart := isReversed_eq_false_iff.1 (Bool.not_eq_true _ ▸ h)
    rw [Nat.max_eq_right hstart]

/-- A word that holds both ends of a span holds the greater one. -/
theorem Representable.fits_reach {s : Span} (h : s.Representable) : Word.Fits s.reach :=
  Nat.max_lt.2 h

end Span

namespace SourceLocation

/-- A location has no span exactly when a word cannot hold its end. -/
theorem span?_eq_error_iff {location : SourceLocation} {fault : Word.Overflow} :
    location.span? = .error fault ↔
      Word.limit ≤ location.offset + location.length ∧ fault = .addition := by
  rw [← Word.add?_eq_error_iff, span?]
  cases Word.add? location.offset location.length with
  | ok stop => simp [Except.map]
  | error other => simp [Except.map]

/-- The location of a span has a span: the one that it was made from, or if this is reversed the
empty one at its start. -/
theorem span?_ofSpan {span : Span} (h : span.Representable) (source : String) :
    (ofSpan span source).span? = .ok span.straightened := by
  rw [span?_eq_ok_iff, ofSpan_offset, ofSpan_length, span.start_add_length]
  exact ⟨h.fits_reach, span.straightened_eq⟩

/-- A span and its location convert into each other, and cut the same out of the text. -/
structure ConvertsBack (span : Span) (source : String) : Prop where
  /-- The location has a span: the same one, or the empty one at the start of a reversed one. -/
  back : (ofSpan span source).span? =
    .ok (if span.isReversed then ⟨span.start, span.start⟩ else span)
  /-- What the span cuts out of the text is as long as the location says. -/
  length_eq : ∀ text, span.slice source = some text →
    (ofSpan span source).length = text.length
  /-- The span of the location cuts out the same. -/
  slice_eq : ∀ text, span.slice source = some text →
    ∃ again, (ofSpan span source).span? = .ok again ∧ again.slice source = some text
  /-- Any location at all overflows exactly when a word cannot hold where it ends. -/
  overflows : ∀ (location : SourceLocation) (fault : Word.Overflow),
    location.span? = .error fault ↔
      UInt64.size ≤ location.offset + location.length ∧ fault = .addition

/-- A location made from a span converts back to it. -/
theorem convertsBack {span : Span} (h : span.Representable) (source : String) :
    ConvertsBack span source where
  back := span?_ofSpan h source
  length_eq text htext := (Span.chars_of_slice htext).1.symm
  slice_eq text htext := by
    have hreversed : span.isReversed = false :=
      Span.isReversed_eq_false_iff.2 (Span.slice_eq_some_iff.1 htext).1
    refine ⟨span, ?_, htext⟩
    rw [span?_ofSpan h, Span.straightened_of_not_isReversed hreversed]
  overflows location fault := span?_eq_error_iff

/-- The greatest end that a word can hold, far beyond a text of two lines. -/
theorem convertsBack_greatest_end :
    let span : Span := ⟨2, UInt64.size - 1⟩
    span.Representable ∧ ConvertsBack span "ü\n€" := by
  intro span
  have h : span.Representable := by decide
  exact ⟨h, convertsBack h "ü\n€"⟩

-- The start of a reversed span may be the greatest number of all.
example : (ofSpan ⟨UInt64.size - 1, 7⟩ "ü\n€").span? = .ok (.point (UInt64.size - 1)) := by
  rfl

end SourceLocation
end EntitySql

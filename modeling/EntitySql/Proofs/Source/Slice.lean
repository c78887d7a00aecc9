import EntitySql.Proofs.Text.Offsets
import EntitySql.Source.Span

/-!
# Slices of a text

A span is cut out of a text by the byte positions of its ends, which are found
by counting characters.  A range of bytes that begins and ends at such positions
never splits a character, so the cut is made exactly when the span fits the
text, and it holds exactly the characters that the span covers.

Main results:

- Theorem `Span.slice_eq_some_iff`: when a span cuts something out, and what.
- Theorem `Span.slice_append_slice`: cuts that follow each other make up one cut.
- Theorem `Span.slicesByCharacters`: cutting by bytes is cutting by characters.
-/

namespace EntitySql
namespace Span

/-- The characters of a text that a span covers. -/
def covered (s : Span) (text : List Char) : List Char :=
  (text.drop s.start).take s.length

/-- A span in order and in range cuts out the characters that it covers. -/
theorem slice_of_le {s : Span} {source : String} (horder : s.start ≤ s.stop)
    (hstop : s.stop ≤ source.length) :
    s.slice source = some (String.ofList (s.covered source.toList)) := by
  rw [← String.length_toList] at hstop
  have hreversed := isReversed_eq_false_iff.2 horder
  have hfirst := Text.bytePosition?_eq_some (Nat.le_trans horder hstop)
  have hlast := Text.bytePosition?_eq_some hstop
  have hrange : Text.byteRange? source.toList _ _ = some (s.covered source.toList) :=
    Text.byteRange?_eq_some_iff.2 ⟨s.start, s.stop, horder, hfirst, hlast, rfl⟩
  rw [slice, hreversed, hfirst, hlast]
  simp [hrange]

/-- A span cuts something out of a text exactly when it is not reversed and the text reaches its
end, and then it cuts out the characters that it covers. -/
theorem slice_eq_some_iff {s : Span} {source text : String} :
    s.slice source = some text ↔
      s.start ≤ s.stop ∧ s.stop ≤ source.length ∧
        text = String.ofList (s.covered source.toList) := by
  constructor
  · intro h
    have horder : s.start ≤ s.stop := by
      cases hreversed : s.isReversed with
      | true => simp [slice_of_isReversed hreversed] at h
      | false => exact isReversed_eq_false_iff.1 hreversed
    have hstop : s.stop ≤ source.length := by
      rw [← String.length_toList, ← Text.bytePosition?_isSome_iff]
      cases hposition : Text.bytePosition? source.toList s.stop with
      | some position => rfl
      | none => simp [slice, hposition] at h
    rw [slice_of_le horder hstop, Option.some.injEq] at h
    exact ⟨horder, hstop, h.symm⟩
  · intro h
    rcases h with ⟨horder, hstop, rfl⟩
    exact slice_of_le horder hstop

/-- A span cuts something out exactly when it is in order and in range. -/
theorem slice_isSome_iff {s : Span} {source : String} :
    (s.slice source).isSome = true ↔ s.start ≤ s.stop ∧ s.stop ≤ source.length := by
  rw [Option.isSome_iff_exists]
  constructor
  · intro h
    rcases h with ⟨text, htext⟩
    rcases slice_eq_some_iff.1 htext with ⟨horder, hstop, -⟩
    exact ⟨horder, hstop⟩
  · intro h
    exact ⟨_, slice_of_le h.1 h.2⟩

/-- Characters of one to four bytes are cut out whole. -/
example : (⟨1, 4⟩ : Span).slice "aü€😀b" = some "ü€😀" := by
  decide

/-! ## Covered characters -/

/-- Where a text reaches the end of a span, the span covers as many characters as it is long. -/
theorem length_covered {s : Span} {text : List Char} (horder : s.start ≤ s.stop)
    (hstop : s.stop ≤ text.length) : (s.covered text).length = s.length := by
  rw [covered, List.length_take, List.length_drop, length]
  omega

/-- The covered characters are those of the text, counted from the start of the span. -/
theorem getElem?_covered {s : Span} {i : Nat} (h : i < s.length) (text : List Char) :
    (s.covered text)[i]? = text[s.start + i]? := by
  rw [covered, List.getElem?_take_of_lt h, List.getElem?_drop]

/-- What two spans cover that follow each other is covered by both together. -/
theorem covered_append_covered {a b c : Nat} (hab : a ≤ b) (hbc : b ≤ c) (text : List Char) :
    (⟨a, b⟩ : Span).covered text ++ (⟨b, c⟩ : Span).covered text =
      (⟨a, c⟩ : Span).covered text := by
  have hsplit : c - a = (b - a) + (c - b) := by omega
  have hdrop : (text.drop a).drop (b - a) = text.drop b := by
    rw [List.drop_drop, Nat.add_sub_cancel' hab]
  simp only [covered, length]
  rw [hsplit, List.take_add, hdrop]

/-- What is cut out of a text has the length of its span, and every character of it stands in the
text. -/
theorem chars_of_slice {s : Span} {source text : String} (h : s.slice source = some text) :
    text.length = s.length ∧
      ∀ i, i < s.length → text.toList[i]? = source.toList[s.start + i]? := by
  rcases slice_eq_some_iff.1 h with ⟨horder, hstop, rfl⟩
  rw [← String.length_toList] at hstop
  rw [← String.length_toList, String.toList_ofList]
  exact ⟨length_covered horder hstop, fun i hi => getElem?_covered hi source.toList⟩

/-- Cuts that follow each other make up one cut. -/
theorem slice_append_slice {a b c : Nat} {source : String} (hab : a ≤ b) (hbc : b ≤ c)
    (hc : c ≤ source.length) :
    ∃ first second, (⟨a, b⟩ : Span).slice source = some first ∧
      (⟨b, c⟩ : Span).slice source = some second ∧
        (⟨a, c⟩ : Span).slice source = some (first ++ second) := by
  refine ⟨_, _, slice_of_le hab (Nat.le_trans hbc hc), slice_of_le hbc hc, ?_⟩
  rw [slice_of_le (Nat.le_trans hab hbc) hc, ← String.ofList_append, covered_append_covered hab hbc]

/-! ## Covered bytes -/

/-- The middle part of a byte array, cut out at the sizes of what stands around it. -/
theorem extract_append_append (a b c : ByteArray) :
    (a ++ (b ++ c)).extract a.size (a.size + b.size) = b := by
  have hbehind := ByteArray.extract_append_size_add (a := a) (b := b ++ c) (i := 0) (j := b.size)
  rw [Nat.add_zero] at hbehind
  rw [hbehind, ByteArray.extract_append_eq_left rfl]

/-- The bytes that are cut out of a text are those between the positions of the ends. -/
theorem bytes_of_slice {s : Span} {source text : String} (h : s.slice source = some text) :
    ∃ start stop, Text.bytePosition? source.toList s.start = some start ∧
      Text.bytePosition? source.toList s.stop = some stop ∧
        text.toByteArray = source.toByteArray.extract start stop := by
  rcases slice_eq_some_iff.1 h with ⟨horder, hstop, rfl⟩
  rw [← String.length_toList] at hstop
  refine ⟨_, _, Text.bytePosition?_eq_some (Nat.le_trans horder hstop),
    Text.bytePosition?_eq_some hstop, ?_⟩
  have hends : source.toList.take s.start ++ s.covered source.toList =
      source.toList.take s.stop := Text.take_append_between horder source.toList
  have hbytes : source.toByteArray =
      (source.toList.take s.start).utf8Encode ++
        ((s.covered source.toList).utf8Encode ++ (source.toList.drop s.stop).utf8Encode) := by
    rw [← List.utf8Encode_append, ← List.utf8Encode_append, ← List.append_assoc, hends,
      List.take_append_drop, ← String.toByteArray_ofList, String.ofList_toList]
  rw [String.toByteArray_ofList, ← hends, Text.byteLength_append, Text.byteLength_eq_size,
    Text.byteLength_eq_size, hbytes, extract_append_append]

/-! ## Cutting by bytes and by characters -/

/-- Spans cut a text by the byte positions of their ends, and the cuts are those by characters. -/
structure SlicesByCharacters (source : String) : Prop where
  /-- An offset has a byte position when the text has as many characters. -/
  position_isSome : ∀ offset,
    (Text.bytePosition? source.toList offset).isSome = true ↔ offset ≤ source.length
  /-- The position is the number of bytes of the characters before the offset. -/
  position_eq : ∀ offset position, Text.bytePosition? source.toList offset = some position →
    position = (String.ofList (source.toList.take offset)).utf8ByteSize
  /-- Positions grow with their offsets. -/
  position_lt : ∀ m n start stop, m < n → Text.bytePosition? source.toList m = some start →
    Text.bytePosition? source.toList n = some stop → start < stop
  /-- Between the positions of two offsets in order, and only there, a range of bytes is cut out. -/
  range_isSome : ∀ start stop, (Text.byteRange? source.toList start stop).isSome = true ↔
    ∃ m n, m ≤ n ∧ Text.bytePosition? source.toList m = some start ∧
      Text.bytePosition? source.toList n = some stop
  /-- A span cuts something out when it is not reversed and the text reaches its end. -/
  slice_isSome : ∀ s : Span,
    (s.slice source).isSome = true ↔ s.start ≤ s.stop ∧ s.stop ≤ source.length
  /-- The cut has the characters of the text from the start of the span to before its end. -/
  slice_chars : ∀ (s : Span) (text : String), s.slice source = some text →
    text.length = s.length ∧
      ∀ i, i < s.length → text.toList[i]? = source.toList[s.start + i]?
  /-- The cut has the bytes of the text between the positions of the ends. -/
  slice_bytes : ∀ (s : Span) (text : String), s.slice source = some text →
    ∃ start stop, Text.bytePosition? source.toList s.start = some start ∧
      Text.bytePosition? source.toList s.stop = some stop ∧
        text.toByteArray = source.toByteArray.extract start stop
  /-- Cuts that follow each other make up one cut. -/
  slice_append : ∀ a b c, a ≤ b → b ≤ c → c ≤ source.length →
    ∃ first second, (⟨a, b⟩ : Span).slice source = some first ∧
      (⟨b, c⟩ : Span).slice source = some second ∧
        (⟨a, c⟩ : Span).slice source = some (first ++ second)

/-- Cutting a text by the byte positions of offsets is cutting it by characters. -/
theorem slicesByCharacters (source : String) : SlicesByCharacters source where
  position_isSome offset := by
    rw [Text.bytePosition?_isSome_iff, String.length_toList]
  position_eq offset position h := by
    rw [(Text.bytePosition?_eq_some_iff.1 h).2, Text.byteLength_eq_size,
      ← String.toByteArray_ofList, String.size_toByteArray]
  position_lt m n start stop := Text.bytePosition?_lt
  range_isSome start stop := by
    rw [Option.isSome_iff_exists]
    constructor
    · intro h
      rcases h with ⟨part, hpart⟩
      rcases Text.byteRange?_eq_some_iff.1 hpart with ⟨m, n, hle, hstart, hstop, -⟩
      exact ⟨m, n, hle, hstart, hstop⟩
    · intro h
      rcases h with ⟨m, n, hle, hstart, hstop⟩
      exact ⟨_, Text.byteRange?_eq_some_iff.2 ⟨m, n, hle, hstart, hstop, rfl⟩⟩
  slice_isSome s := slice_isSome_iff
  slice_chars s text := chars_of_slice
  slice_bytes s text := bytes_of_slice
  slice_append a b c := slice_append_slice

end Span
end EntitySql

import EntitySql.Text.Utf8

/-!
# Offsets into a text

An offset counts the characters before it.  Every character takes at least one
byte, so an offset further on in a text has a greater byte position, and the
byte positions of the offsets are exactly the boundaries of the characters: a
range of bytes is cut out of a text when both of its ends are such positions,
and it holds the characters between the offsets.

Main results:

- Theorem `Text.byteLength_eq_size`: bytes are counted as UTF-8 writes them.
- Theorem `Text.bytePosition?_eq_some_iff`: which offsets have a position, and which one.
- Theorem `Text.bytePosition?_lt`: positions grow with their offsets.
- Theorem `Text.byteRange?_eq_some_iff`: which ranges of bytes are cut out of a text.
-/

namespace EntitySql
namespace Text

/-! ## Characters between offsets -/

/-- The characters before an offset and those from there to a further one. -/
theorem take_append_between {m n : Nat} (h : m ≤ n) (text : List Char) :
    text.take m ++ (text.drop m).take (n - m) = text.take n := by
  rw [← List.take_add, Nat.add_sub_cancel' h]

/-- There is a character between an offset and a further one. -/
theorem exists_take_eq_append_cons {text : List Char} {m n : Nat} (hlt : m < n)
    (hle : n ≤ text.length) : ∃ c more, text.take n = text.take m ++ c :: more := by
  rw [← take_append_between (Nat.le_of_lt hlt)]
  cases hbetween : (text.drop m).take (n - m) with
  | nil =>
    have hlength := congrArg List.length hbetween
    rw [List.length_take, List.length_drop, List.length_nil] at hlength
    omega
  | cons c more => exact ⟨c, more, rfl⟩

/-! ## Bytes of a text -/

/-- The bytes of a text are those of its UTF-8 encoding. -/
theorem byteLength_eq_size (text : List Char) : byteLength text = text.utf8Encode.size := by
  induction text with
  | nil => rfl
  | cons c text ih =>
    rw [List.utf8Encode_cons, ByteArray.size_append, List.utf8Encode_singleton,
      List.size_toByteArray, String.length_utf8EncodeChar, byteLength_cons, ih]

/-- More characters of a text take more bytes. -/
theorem byteLength_take_lt {text : List Char} {m n : Nat} (hlt : m < n) (hle : n ≤ text.length) :
    byteLength (text.take m) < byteLength (text.take n) := by
  rcases exists_take_eq_append_cons hlt hle with ⟨c, more, hmore⟩
  have hpos := c.utf8Size_pos
  rw [hmore, byteLength_append, byteLength_cons]
  omega

/-! ## Positions of offsets -/

/-- The offsets up to the end of a text have positions: the numbers of bytes before them. -/
theorem bytePosition?_eq_some_iff {text : List Char} {offset position : Nat} :
    bytePosition? text offset = some position ↔
      offset ≤ text.length ∧ position = byteLength (text.take offset) := by
  constructor
  · intro h
    have hle : offset ≤ text.length := by
      rw [← bytePosition?_isSome_iff, h]
      rfl
    rw [bytePosition?_eq_some hle, Option.some.injEq] at h
    exact ⟨hle, h.symm⟩
  · intro h
    rw [h.2]
    exact bytePosition?_eq_some h.1

/-- Positions grow with their offsets. -/
theorem bytePosition?_lt {text : List Char} {m n start stop : Nat} (hlt : m < n)
    (hstart : bytePosition? text m = some start) (hstop : bytePosition? text n = some stop) :
    start < stop := by
  rw [(bytePosition?_eq_some_iff.1 hstart).2, (bytePosition?_eq_some_iff.1 hstop).2]
  exact byteLength_take_lt hlt (bytePosition?_eq_some_iff.1 hstop).1

/-! ## Ranges of bytes -/

/-- The bytes of the first part can be dropped, and leave the second. -/
theorem dropBytes?_append (s t : List Char) : dropBytes? (s ++ t) (byteLength s) = some t := by
  induction s with
  | nil => cases t <;> simp [dropBytes?]
  | cons c s ih =>
    have hpos := c.utf8Size_pos
    rw [List.cons_append, dropBytes?, byteLength_cons, if_neg (by omega), if_pos (by omega),
      Nat.add_sub_cancel_left, ih]

/-- The bytes of the first part can be taken. -/
theorem takeBytes?_append (s t : List Char) : takeBytes? (s ++ t) (byteLength s) = some s := by
  induction s with
  | nil => cases t <;> simp [takeBytes?]
  | cons c s ih =>
    have hpos := c.utf8Size_pos
    rw [List.cons_append, takeBytes?, byteLength_cons, if_neg (by omega), if_pos (by omega),
      Nat.add_sub_cancel_left, ih]
    rfl

/-- The bytes that are dropped are those of the first characters. -/
theorem exists_of_dropBytes? {text rest : List Char} {count : Nat}
    (h : dropBytes? text count = some rest) :
    ∃ before, text = before ++ rest ∧ byteLength before = count := by
  fun_induction dropBytes? text count with
  | case1 => exact ⟨[], Option.some.inj h, rfl⟩
  | case2 => cases h
  | case3 => exact ⟨[], Option.some.inj h, rfl⟩
  | case4 c text count _ hsize ih =>
    rcases ih h with ⟨before, rfl, hbytes⟩
    refine ⟨c :: before, rfl, ?_⟩
    rw [byteLength_cons, hbytes]
    exact Nat.add_sub_cancel' hsize
  | case5 => cases h

/-- The bytes that are taken are those of the first characters. -/
theorem exists_of_takeBytes? {text part : List Char} {count : Nat}
    (h : takeBytes? text count = some part) :
    ∃ rest, text = part ++ rest ∧ byteLength part = count := by
  fun_induction takeBytes? text count generalizing part with
  | case1 =>
    cases h
    exact ⟨[], rfl, rfl⟩
  | case2 => cases h
  | case3 c text =>
    cases h
    exact ⟨c :: text, rfl, rfl⟩
  | case4 c text count _ hsize ih =>
    rcases Option.map_eq_some_iff.1 h with ⟨part, hpart, rfl⟩
    rcases ih hpart with ⟨rest, rfl, hbytes⟩
    refine ⟨rest, rfl, ?_⟩
    rw [byteLength_cons, hbytes]
    exact Nat.add_sub_cancel' hsize
  | case5 => cases h

/-- The range from the first byte of a part to behind its last byte cuts out the part. -/
theorem byteRange?_append (before part rest : List Char) :
    byteRange? (before ++ (part ++ rest)) (byteLength before) (byteLength (before ++ part)) =
      some part := by
  have hle : byteLength before ≤ byteLength (before ++ part) := by
    rw [byteLength_append]
    exact Nat.le_add_right ..
  rw [byteRange?, if_pos hle, dropBytes?_append, byteLength_append, Nat.add_sub_cancel_left]
  exact takeBytes?_append part rest

/-- A range of bytes is cut out of a text when it begins and ends at boundaries of characters. -/
theorem exists_of_byteRange? {text part : List Char} {start stop : Nat}
    (h : byteRange? text start stop = some part) :
    ∃ before rest, text = before ++ (part ++ rest) ∧ byteLength before = start ∧
      byteLength (before ++ part) = stop := by
  rw [byteRange?] at h
  split at h
  next hle =>
    rcases Option.bind_eq_some_iff.1 h with ⟨behind, hdrop, htake⟩
    rcases exists_of_dropBytes? hdrop with ⟨before, rfl, hstart⟩
    rcases exists_of_takeBytes? htake with ⟨rest, rfl, hwidth⟩
    refine ⟨before, rest, rfl, hstart, ?_⟩
    rw [byteLength_append, hstart, hwidth]
    exact Nat.add_sub_cancel' hle
  next => cases h

/-- A range of bytes is cut out of a text exactly when it begins and ends at the positions of two
offsets in this order, and then it holds the characters between the offsets. -/
theorem byteRange?_eq_some_iff {text part : List Char} {start stop : Nat} :
    byteRange? text start stop = some part ↔
      ∃ m n, m ≤ n ∧ bytePosition? text m = some start ∧ bytePosition? text n = some stop ∧
        part = (text.drop m).take (n - m) := by
  constructor
  · intro h
    rcases exists_of_byteRange? h with ⟨before, rest, rfl, rfl, rfl⟩
    refine ⟨before.length, (before ++ part).length, ?_, ?_, ?_, ?_⟩
    · exact (List.prefix_append before part).length_le
    · rw [bytePosition?_eq_some_iff, List.take_left]
      exact ⟨(List.prefix_append _ (part ++ rest)).length_le, rfl⟩
    · rw [bytePosition?_eq_some_iff, ← List.append_assoc, List.take_left]
      exact ⟨(List.prefix_append _ rest).length_le, rfl⟩
    · rw [List.length_append, Nat.add_sub_cancel_left, List.drop_left, List.take_left]
  · intro h
    rcases h with ⟨m, n, hle, hstart, hstop, rfl⟩
    have hrange := byteRange?_append (text.take m) ((text.drop m).take (n - m)) (text.drop n)
    rw [← List.append_assoc, take_append_between hle, List.take_append_drop] at hrange
    rw [(bytePosition?_eq_some_iff.1 hstart).2, (bytePosition?_eq_some_iff.1 hstop).2]
    exact hrange

end Text
end EntitySql

/-!
# Byte positions

A text is stored as UTF-8, where a character takes one to four bytes.  This
module finds the byte position of a character offset and cuts a range of bytes
out of a text, which is refused where a cut would split a character.

Main results:

- Theorem `Text.bytePosition?_isSome_iff`: an offset has a byte position exactly
  when it does not exceed the number of characters.
- Theorem `Text.bytePosition?_eq_some`: that position is the number of bytes of
  the characters before it.
-/

namespace EntitySql
namespace Text

/-- The number of bytes that a text takes in UTF-8. -/
def byteLength : List Char → Nat
  | [] => 0
  | c :: text => c.utf8Size + byteLength text

/-- The byte position of a character offset; the offset just past the last character counts too. -/
def bytePosition? : List Char → Nat → Option Nat
  | _, 0 => some 0
  | [], _ + 1 => none
  | c :: text, offset + 1 => (bytePosition? text offset).map (c.utf8Size + ·)

/-- The text without its first bytes, unless their end lies inside a character. -/
def dropBytes? : List Char → Nat → Option (List Char)
  | [], count => if count = 0 then some [] else none
  | c :: text, count =>
    if count = 0 then some (c :: text)
    else if c.utf8Size ≤ count then dropBytes? text (count - c.utf8Size)
    else none

/-- The first bytes of the text, unless their end lies inside a character. -/
def takeBytes? : List Char → Nat → Option (List Char)
  | [], count => if count = 0 then some [] else none
  | c :: text, count =>
    if count = 0 then some []
    else if c.utf8Size ≤ count then (takeBytes? text (count - c.utf8Size)).map (c :: ·)
    else none

/-- The text between two byte positions, if both are boundaries of characters in this order. -/
def byteRange? (text : List Char) (start stop : Nat) : Option (List Char) :=
  if start ≤ stop then (dropBytes? text start).bind (takeBytes? · (stop - start)) else none

/-- The empty text takes no bytes. -/
@[simp]
theorem byteLength_nil : byteLength [] = 0 :=
  rfl

/-- A character in front adds its own bytes. -/
@[simp]
theorem byteLength_cons (c : Char) (text : List Char) :
    byteLength (c :: text) = c.utf8Size + byteLength text :=
  rfl

/-- The bytes of a concatenation are the bytes of its parts. -/
@[simp]
theorem byteLength_append (s t : List Char) :
    byteLength (s ++ t) = byteLength s + byteLength t := by
  induction s with
  | nil => simp
  | cons c s ih => simp [ih, Nat.add_assoc]

/-- An offset has a byte position exactly when it does not exceed the number of characters. -/
theorem bytePosition?_isSome_iff (text : List Char) (offset : Nat) :
    (bytePosition? text offset).isSome ↔ offset ≤ text.length := by
  induction text generalizing offset with
  | nil => cases offset <;> simp [bytePosition?]
  | cons c text ih => cases offset <;> simp [bytePosition?, ih]

/-- The byte position of an offset within the text is the number of bytes before it. -/
theorem bytePosition?_eq_some {text : List Char} {offset : Nat} (h : offset ≤ text.length) :
    bytePosition? text offset = some (byteLength (text.take offset)) := by
  induction text generalizing offset with
  | nil =>
    have : offset = 0 := by simpa using h
    subst this
    rfl
  | cons c text ih =>
    cases offset with
    | zero => rfl
    | succ offset => simp [bytePosition?, ih (by simpa using h)]

end Text
end EntitySql

/-!
# JSON strings

The text of a string between its quotes.  Writing escapes the quote, the
backslash and the control characters and nothing else.  Reading accepts every
escape of the format; a code unit of the upper planes must come as a pair.

Main results:

- Definition `Json.Quoted.encode`: a text as it stands between quotes.
- Theorem `Json.Quoted.read?_length_lt`: what is left after the closing quote is
  shorter than the text.
-/

namespace EntitySql
namespace Json
namespace Quoted

/-- A character inside quotes. -/
def escape (c : Char) : List Char :=
  if c = '"' then ['\\', '"']
  else if c = '\\' then ['\\', '\\']
  else if c = '\x08' then ['\\', 'b']
  else if c = '\x0c' then ['\\', 'f']
  else if c = '\n' then ['\\', 'n']
  else if c = '\r' then ['\\', 'r']
  else if c = '\t' then ['\\', 't']
  else if c.toNat < 0x20 then
    ['\\', 'u', '0', '0', Nat.digitChar (c.toNat / 16), Nat.digitChar (c.toNat % 16)]
  else [c]

/-- A text as it stands between quotes. -/
def encode (text : List Char) : List Char :=
  text.flatMap escape

/-- The value of a hexadecimal digit. -/
def hexValue? (c : Char) : Option Nat :=
  if '0' ≤ c ∧ c ≤ '9' then some (c.toNat - '0'.toNat)
  else if 'a' ≤ c ∧ c ≤ 'f' then some (c.toNat - 'a'.toNat + 10)
  else if 'A' ≤ c ∧ c ≤ 'F' then some (c.toNat - 'A'.toNat + 10)
  else none

/-- The code unit of four hexadecimal digits. -/
def unit? (a b c d : Char) : Option Nat := do
  let a ← hexValue? a
  let b ← hexValue? b
  let c ← hexValue? c
  let d ← hexValue? d
  some (((a * 16 + b) * 16 + c) * 16 + d)

/-- The first unit of a pair. -/
def isHighUnit (unit : Nat) : Bool :=
  0xD800 ≤ unit && unit < 0xDC00

/-- The second unit of a pair. -/
def isLowUnit (unit : Nat) : Bool :=
  0xDC00 ≤ unit && unit < 0xE000

/-- The character of a pair of units. -/
def pairChar (high low : Nat) : Char :=
  Char.ofNat (0x10000 + (high - 0xD800) * 0x400 + (low - 0xDC00))

/-- The character of an escape of one letter. -/
def shortEscape? (c : Char) : Option Char :=
  if c = '"' ∨ c = '\\' ∨ c = '/' then some c
  else if c = 'b' then some '\x08'
  else if c = 'f' then some '\x0c'
  else if c = 'n' then some '\n'
  else if c = 'r' then some '\r'
  else if c = 't' then some '\t'
  else none

/-- A character in front of what the rest gives. -/
def prepend (c : Char) (found : List Char × List Char) : List Char × List Char :=
  (c :: found.1, found.2)

/-- The string up to the closing quote, and the text after it. -/
def read? : List Char → Option (List Char × List Char)
  | [] => none
  | '"' :: rest => some ([], rest)
  | '\\' :: 'u' :: a :: b :: c :: d :: rest =>
    match unit? a b c d with
    | none => none
    | some unit =>
      if isHighUnit unit then
        match rest with
        | '\\' :: 'u' :: e :: f :: g :: h :: rest =>
          match unit? e f g h with
          | none => none
          | some low =>
            if isLowUnit low then (read? rest).map (prepend (pairChar unit low)) else none
        | _ => none
      else if isLowUnit unit then none
      else (read? rest).map (prepend (Char.ofNat unit))
  | '\\' :: c :: rest =>
    match shortEscape? c with
    | some c => (read? rest).map (prepend c)
    | none => none
  | c :: rest =>
    if c = '\\' ∨ c.toNat < 0x20 then none else (read? rest).map (prepend c)

/-- Nothing is written for the empty text. -/
@[simp]
theorem encode_nil : encode [] = [] :=
  rfl

/-- Each character is written by itself. -/
@[simp]
theorem encode_cons (c : Char) (text : List Char) : encode (c :: text) = escape c ++ encode text :=
  rfl

/-- A character read in front leaves the same text as the rest. -/
theorem rest_of_map_prepend {text : List Char} {c : Char} {found : List Char × List Char}
    (h : (read? text).map (prepend c) = some found) :
    ∃ inner, read? text = some inner ∧ found.2 = inner.2 := by
  obtain ⟨inner, hinner, rfl⟩ := Option.map_eq_some_iff.1 h
  exact ⟨inner, hinner, rfl⟩

/-- What is left after the closing quote is shorter than the text. -/
theorem read?_length_lt {text : List Char} {found : List Char × List Char}
    (h : read? text = some found) : found.2.length < text.length := by
  fun_induction read? text generalizing found with
  | case2 rest =>
    cases h
    simp
  | case5 | case9 | case10 | case13 =>
    rename_i ih
    obtain ⟨inner, hinner, hrest⟩ := rest_of_map_prepend h
    have := ih hinner
    simp only [List.length_cons, hrest]
    omega
  | _ => cases h

end Quoted
end Json
end EntitySql

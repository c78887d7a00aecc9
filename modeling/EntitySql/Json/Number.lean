import EntitySql.Text.Decimal

/-!
# JSON numbers

A number is kept as it is written: its sign, the whole part, the digits after the
point if there is one, and the exponent if there is one.  An integer literal has
neither of the two, so `1` and `1.0` differ, and so do `0` and `-0`.

Main definitions:

- Definition `Json.Number.text`: the written form of a number.
- Definition `Json.Number.parse?`: the number that a text writes.
-/

namespace EntitySql
namespace Json

/-- A number literal. -/
structure Number where
  negative : Bool
  whole : Nat
  fraction : Option (List Char)
  exponent : Option Int
deriving DecidableEq, Repr

namespace Number

/-- The integer literal of a natural number. -/
def natural (n : Nat) : Number where
  negative := false
  whole := n
  fraction := none
  exponent := none

/-- An integer literal has no fraction and no exponent. -/
def isInteger (n : Number) : Bool :=
  n.fraction.isNone && n.exponent.isNone

/-- The written form of a fraction. -/
def fractionText : Option (List Char) → List Char
  | none => []
  | some digits => '.' :: digits

/-- The written form of an exponent. -/
def exponentText : Option Int → List Char
  | none => []
  | some (.ofNat n) => 'e' :: Text.digits n
  | some (.negSucc n) => 'e' :: '-' :: Text.digits (n + 1)

/-- The written form of a number. -/
def text (n : Number) : List Char :=
  (if n.negative then ['-'] else []) ++ Text.digits n.whole ++ fractionText n.fraction ++
    exponentText n.exponent

/-- The value of a string of decimal digits. -/
def valueOf (digits : List Char) : Nat :=
  Nat.ofDigitChars 10 digits 0

/-- A run of digits in front, which must not be empty, and the rest. -/
def digits? (text : List Char) : Option (List Char × List Char) :=
  match text.takeWhile Char.isDigit with
  | [] => none
  | run => some (run, text.dropWhile Char.isDigit)

/-- The digits before the point: a single zero, or a run that does not start with one. -/
def wholePart? (text : List Char) : Option (List Char × List Char) :=
  match digits? text with
  | some ('0' :: _ :: _, _) => none
  | found => found

/-- The digits after the point, if there is a point. -/
def fraction? : List Char → Option (Option (List Char) × List Char)
  | '.' :: text => (digits? text).map fun found => (some found.1, found.2)
  | text => some (none, text)

/-- The exponent, if there is one; its sign may be left out. -/
def exponent? : List Char → Option (Option Int × List Char)
  | c :: text =>
    if c = 'e' ∨ c = 'E' then
      match text with
      | '-' :: text => (digits? text).map fun found => (some (-(valueOf found.1 : Int)), found.2)
      | '+' :: text => (digits? text).map fun found => (some (valueOf found.1 : Int), found.2)
      | text => (digits? text).map fun found => (some (valueOf found.1 : Int), found.2)
    else some (none, c :: text)
  | [] => some (none, [])

/-- The number of unsigned digits, fraction and exponent that take up the whole text. -/
def unsigned? (negative : Bool) (text : List Char) : Option Number := do
  let (whole, text) ← wholePart? text
  let (fraction, text) ← fraction? text
  let (exponent, text) ← exponent? text
  if text.isEmpty then some { negative, whole := valueOf whole, fraction, exponent } else none

/-- The number that a text writes, if the whole text is one. -/
def parse? : List Char → Option Number
  | '-' :: text => unsigned? true text
  | text => unsigned? false text

end Number
end Json
end EntitySql

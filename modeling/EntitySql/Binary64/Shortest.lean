import EntitySql.Binary64.Basic
import EntitySql.Text.Decimal

/-!
# The shortest text of a binary64 number

A number is written with the fewest decimal digits that identify it among all
binary64 numbers.  For each number of digits, only the two neighbours of the
number on the grid of decimals with so many digits are candidates, for if any
point of the grid identifies the number, so does one of them.

Main definitions:

- Definition `Binary64.shortest?`: the fewest digits that identify a number.
- Definition `Binary64.text`: the text of a number with these digits.
-/

namespace EntitySql
namespace Binary64

/-- The range of fractions that round to a number, and whether its ends belong to it. -/
structure Interval where
  low : Fraction
  high : Fraction
  closed : Bool

/-- The range of fractions that round to a number: half a step to either side, and only a quarter
of one downward from a power of two. -/
def interval (x : Binary64) : Interval where
  low :=
    Fraction.scale
      ⟨4 * x.mantissa -
        if x.mantissa = Nat.pow 2 (mantissaBits - 1) ∧ leastExponent < x.exponent then 1 else 2, 1⟩
      2 (x.exponent - 2)
  high := Fraction.scale ⟨4 * x.mantissa + 2, 1⟩ 2 (x.exponent - 2)
  closed := x.mantissa % 2 == 0

/-- A fraction lies in a range. -/
def Interval.contains (range : Interval) (q : Fraction) : Bool :=
  let fromLow := compare (range.low.numerator * q.denominator) (q.numerator * range.low.denominator)
  let toHigh := compare (q.numerator * range.high.denominator) (range.high.numerator * q.denominator)
  (fromLow == .lt || range.closed && fromLow == .eq) &&
    (toHigh == .lt || range.closed && toHigh == .eq)

/-- Digits as a number, and the power of ten by which they are scaled. -/
structure Scaled where
  digits : Nat
  power : Int

/-- The position of the leading decimal digit of a positive fraction: zero for the units. -/
def leadingPosition (q : Fraction) : Int :=
  let guess : Int :=
    ((Text.digits q.numerator).length : Int) - (Text.digits q.denominator).length
  let power := Fraction.scale ⟨1, 1⟩ 10 guess
  if q.numerator * power.denominator < q.denominator * power.numerator then guess - 1 else guess

/-- Of the two neighbours with the given number of digits, the nearer one that identifies the
number; of two equally near ones the even one. -/
def neighbour? (x : Binary64) (count : Nat) : Option Scaled :=
  let power := leadingPosition x.value + 1 - count
  let onGrid := x.value.scale 10 (-power)
  let below := onGrid.numerator / onGrid.denominator
  let near := onGrid.round
  let far := if near = below then below + 1 else below
  let identifies (digits : Nat) : Bool :=
    x.interval.contains (Fraction.scale ⟨digits, 1⟩ 10 power)
  if identifies near then some ⟨near, power⟩
  else if identifies far then some ⟨far, power⟩
  else none

/-- The fewest digits that identify a positive number; seventeen always do. -/
def shortest? (x : Binary64) : Option Scaled :=
  ((List.range 17).findSome? fun count => neighbour? x (count + 1)).map fun found =>
    if found.digits % 10 = 0 then ⟨found.digits / 10, found.power + 1⟩ else found

/--
Digits with a decimal point: positional while the point stands at most sixteen
places after the first digit and fewer than five before it, else with an exponent,
whose sign is always written.
-/
def Scaled.text (x : Scaled) : String :=
  let digits := Text.digits x.digits
  let point : Int := digits.length + x.power
  let zeros (n : Int) : List Char := List.replicate n.toNat '0'
  if 0 ≤ x.power ∧ point ≤ 16 then String.ofList (digits ++ zeros x.power ++ ['.', '0'])
  else if 0 < point ∧ point ≤ 16 then
    String.ofList (digits.take point.toNat ++ '.' :: digits.drop point.toNat)
  else if -5 < point ∧ point ≤ 0 then String.ofList ('0' :: '.' :: zeros (-point) ++ digits)
  else
    let fraction := if digits.length = 1 then [] else '.' :: digits.drop 1
    String.ofList (digits.take 1 ++ fraction) ++ "e" ++ Text.explicitlySigned (point - 1)

/-- The text of a number, with the fewest digits that identify it. -/
def text (x : Binary64) : String :=
  let magnitude :=
    if x.mantissa = 0 then "0.0"
    else
      match shortest? x with
      | some found => found.text
      | none => ""
  if x.negative then "-" ++ magnitude else magnitude

end Binary64
end EntitySql

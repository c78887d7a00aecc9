/-!
# Binary64 numbers

Finite binary64 numbers as a mantissa and a power of two, with exact arithmetic
on natural numbers.  A fraction is rounded to the nearest of them, ties to even;
products and quotients are rounded once.  Scaling by a power of ten multiplies
with, or divides by, the rounded power; below the greatest power that is
tabulated the division is done in several steps, each of them rounded.

Main definitions:

- Definition `Binary64.nearest?`: the number to which a fraction is rounded.
- Definition `Binary64.scaleTen?`: a number scaled by a power of ten, as a literal is.
-/

namespace EntitySql

/-- A finite binary64 number: a sign and `mantissa * 2 ^ exponent`. -/
structure Binary64 where
  negative : Bool
  mantissa : Nat
  exponent : Int
deriving DecidableEq, Repr

namespace Binary64

/-- A nonnegative fraction, on which the roundings are exact. -/
structure Fraction where
  numerator : Nat
  denominator : Nat

/-- The least exponent of a binary64 number. -/
def leastExponent : Int := -1074

/-- The greatest exponent of a binary64 number. -/
def greatestExponent : Int := 971

/-- The mantissa of a normal number has 53 bits. -/
def mantissaBits : Nat := 53

/-- A fraction times a power of a base, which may be negative. -/
def Fraction.scale (q : Fraction) (base : Nat) (power : Int) : Fraction :=
  match power with
  | .ofNat n => ⟨q.numerator * base.pow n, q.denominator⟩
  | .negSucc n => ⟨q.numerator, q.denominator * base.pow (n + 1)⟩

/-- The quotient of a fraction rounded to the nearest natural number, ties to even. -/
def Fraction.round (q : Fraction) : Nat :=
  let whole := q.numerator / q.denominator
  let twice := 2 * (q.numerator % q.denominator)
  if twice < q.denominator then whole
  else if q.denominator < twice then whole + 1
  else whole + whole % 2

/-- The value of the magnitude as a fraction. -/
def value (x : Binary64) : Fraction :=
  Fraction.scale ⟨x.mantissa, 1⟩ 2 x.exponent

/-- The exponent at which a positive fraction has a mantissa of 53 bits, or the least one. -/
def exponentOf (q : Fraction) : Int :=
  let magnitude : Int := (Nat.log2 q.numerator : Int) - Nat.log2 q.denominator
  let one := Fraction.scale ⟨1, 1⟩ 2 magnitude
  let below := q.numerator * one.denominator < q.denominator * one.numerator
  max leastExponent (magnitude - mantissaBits + if below then 0 else 1)

/-- The nearest binary64 number, ties to even; none where the fraction is too large. -/
def nearest? (q : Fraction) : Option Binary64 :=
  if q.numerator = 0 then some ⟨false, 0, leastExponent⟩
  else
    let exponent := exponentOf q
    let mantissa := (q.scale 2 (-exponent)).round
    let x : Binary64 :=
      if mantissa = Nat.pow 2 mantissaBits then ⟨false, mantissa / 2, exponent + 1⟩
      else ⟨false, mantissa, exponent⟩
    if x.exponent ≤ greatestExponent then some x else none

/-- The product of two magnitudes, rounded. -/
def mul? (x y : Binary64) : Option Binary64 :=
  nearest? ⟨x.value.numerator * y.value.numerator, x.value.denominator * y.value.denominator⟩

/-- The quotient of two magnitudes, rounded. -/
def div? (x y : Binary64) : Option Binary64 :=
  nearest? ⟨x.value.numerator * y.value.denominator, x.value.denominator * y.value.numerator⟩

/-- The greatest power of ten that is applied in one step. -/
def greatestPower : Nat := 308

/-- The power of ten, rounded. -/
def powerOfTen? (power : Nat) : Option Binary64 :=
  nearest? ⟨Nat.pow 10 power, 1⟩

/-- A magnitude divided several times by the greatest power of ten; zero stays as it is. -/
def divGreatest? : Nat → Binary64 → Option Binary64
  | 0, x => some x
  | times + 1, x =>
    if x.mantissa = 0 then some x
    else ((powerOfTen? greatestPower).bind (div? x)).bind (divGreatest? times)

/-- A magnitude divided by a positive power of ten, in steps of at most the greatest power. -/
def divPower? (x : Binary64) (power : Nat) : Option Binary64 :=
  let times := (power - 1) / greatestPower
  (divGreatest? times x).bind fun y =>
    if y.mantissa = 0 then some y
    else (powerOfTen? (power - greatestPower * times)).bind (div? y)

/-- A magnitude scaled by a power of ten. -/
def scaleTen? (x : Binary64) : Int → Option Binary64
  | .ofNat power =>
    if power ≤ greatestPower then (powerOfTen? power).bind (mul? x)
    else if x.mantissa = 0 then some x else none
  | .negSucc power => divPower? x (power + 1)

end Binary64
end EntitySql

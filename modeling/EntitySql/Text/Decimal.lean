/-!
# Decimal numerals

Natural numbers in decimal, without sign or leading zeros, and the same with
zeros in front up to a least width.

Main results:

- Theorem `Text.ofDigitChars_digits`: reading the digits back gives the number.
- Theorem `Text.head?_digits_ne_zero`: only the numeral of zero begins with a zero.
- Theorem `Text.digits_injective`: different numbers have different digits.
-/

namespace EntitySql
namespace Text

/-- The decimal digits of a number, most significant first. -/
def digits (n : Nat) : List Char :=
  Nat.toDigits 10 n

/-- The decimal numeral of a number. -/
def decimal (n : Nat) : String :=
  String.ofList (digits n)

/-- The decimal numeral of an integer, with a minus sign in front of a negative one. -/
def signedDecimal : Int → String
  | .ofNat n => decimal n
  | .negSucc n => "-" ++ decimal (n + 1)

/-- The decimal numeral of an integer, always with a sign in front; zero is positive. -/
def explicitlySigned : Int → String
  | .ofNat n => "+" ++ decimal n
  | .negSucc n => "-" ++ decimal (n + 1)

/-- The decimal numeral of a number, with zeros in front up to the given width. -/
def decimalPadded (width n : Nat) : String :=
  String.ofList ((digits n).leftpad width '0')

/-- The hexadecimal numeral of a number in small letters. -/
def hexadecimal (n : Nat) : String :=
  String.ofList (Nat.toDigits 16 n)

/-- The characters of a numeral are its digits. -/
@[simp]
theorem toList_decimal (n : Nat) : (decimal n).toList = digits n := by
  simp [decimal]

/-- A numeral reads back as the number that was written. -/
theorem ofDigitChars_digits (n : Nat) : Nat.ofDigitChars 10 (digits n) 0 = n :=
  Nat.ofDigitChars_toDigits (by decide) (by decide)

/-- A numeral holds decimal digits only. -/
theorem isDigit_of_mem_digits {n : Nat} {c : Char} (h : c ∈ digits n) : c.isDigit = true :=
  Nat.isDigit_of_mem_toDigits (by decide) (by decide) h

/-- Every numeral has a digit. -/
theorem digits_ne_nil (n : Nat) : digits n ≠ [] :=
  Nat.toDigits_ne_nil

/-- A numeral begins with a digit. -/
theorem digits_ne_cons {c : Char} (hc : c.isDigit = false) (n : Nat) (rest : List Char) :
    digits n ≠ c :: rest := by
  intro h
  have hdigit : c.isDigit = true := isDigit_of_mem_digits (by rw [h]; exact List.mem_cons_self)
  rw [hc] at hdigit
  cases hdigit

/-- The digit of a positive number is not zero. -/
theorem digitChar_ne_zero {n : Nat} (hlt : n < 10) (hpos : 0 < n) : n.digitChar ≠ '0' := by
  revert n
  decide

/-- Only the numeral of zero begins with a zero. -/
theorem head?_digits_ne_zero {n : Nat} (hpos : 0 < n) : (digits n).head? ≠ some '0' := by
  induction n using Nat.strongRecOn with
  | ind n ih =>
    by_cases hlt : n < 10
    · rw [digits, Nat.toDigits_of_lt_base hlt, List.head?_cons, Ne, Option.some.injEq]
      exact digitChar_ne_zero hlt hpos
    · have hle : 10 ≤ n := Nat.le_of_not_lt hlt
      have hquotient : (digits (n / 10)).head? ≠ some '0' :=
        ih (n / 10) (Nat.div_lt_self hpos (by decide)) (Nat.div_pos hle (by decide))
      have hsome : (digits (n / 10)).head?.isSome = true :=
        List.isSome_head?.2 (digits_ne_nil (n / 10))
      rw [digits, Nat.toDigits_of_base_le (by decide) hle, List.head?_append]
      rw [← digits, Option.or_of_isSome hsome]
      exact hquotient

/-- Different numbers have different digits. -/
theorem digits_injective {m n : Nat} (h : digits m = digits n) : m = n := by
  rw [← ofDigitChars_digits m, h, ofDigitChars_digits]

end Text
end EntitySql

import EntitySql.Binary64.Basic
import EntitySql.Json.Number
import EntitySql.Word

/-!
# What a number literal denotes

An integer literal denotes an unsigned word or a negative integer of 64 bits.
Any other literal, minus zero included, denotes a binary64 number: its digits are
taken into a word as long as they fit, and the word is rounded and then scaled by
a power of ten.  Digits of the whole part that are left out count in that power;
those of the fraction are tried after them, and the first that does not fit ends
it.  A literal past the largest binary64 number denotes nothing.

Main results:

- Theorem `Json.Number.numeral?_eq_natural_iff`: which literals denote natural numbers.
-/

namespace EntitySql
namespace Json

/-- What a number literal denotes. -/
inductive Numeral where
  | natural (n : Nat)
  | negative (n : Nat)
  | floating (x : Binary64)
deriving DecidableEq, Repr

namespace Number

/-- Takes digits into a word until one does not fit, and counts those that are taken. -/
def takeDigits (word : Nat) : List Char → Nat × Nat
  | [] => (word, 0)
  | digit :: digits =>
    let longer := Nat.ofDigitChars 10 [digit] word
    if Word.Fits longer then (takeDigits longer digits).map id (· + 1) else (word, 0)

/-- The binary64 number that a literal denotes, unless it is too large. -/
def binary64? (n : Number) : Option Binary64 := do
  let whole := Text.digits n.whole
  let fraction := n.fraction.getD []
  let (word, wholeCount) := takeDigits 0 whole
  let (word, fractionCount) := takeDigits word fraction
  let magnitude ← Binary64.nearest? ⟨word, 1⟩
  let scaled ←
    magnitude.scaleTen? (n.exponent.getD 0 + (whole.length - wholeCount : Nat) - fractionCount)
  some { scaled with negative := n.negative }

/-- What a literal denotes; none when it is too large for a binary64 number. -/
def numeral? (n : Number) : Option Numeral :=
  if n.isInteger ∧ !n.negative ∧ Word.Fits n.whole then some (.natural n.whole)
  else if n.isInteger ∧ n.negative ∧ 0 < n.whole ∧ n.whole ≤ Word.limit / 2 then
    some (.negative n.whole)
  else n.binary64?.map .floating

/-- A natural number below 2^64 is denoted by its integer literal, and by no other literal. -/
theorem numeral?_eq_natural_iff {n : Number} {v : Nat} :
    n.numeral? = some (.natural v) ↔ n = natural v ∧ v < Word.limit := by
  constructor
  · intro h
    unfold numeral? at h
    split at h
    next hnatural =>
      obtain ⟨negative, whole, fraction, exponent⟩ := n
      simp only [isInteger, Bool.and_eq_true, Option.isNone_iff_eq_none,
        Bool.not_eq_true'] at hnatural
      obtain ⟨⟨rfl, rfl⟩, rfl, hfits⟩ := hnatural
      cases h
      exact ⟨rfl, hfits⟩
    next =>
      split at h
      next => cases h
      next =>
        rcases Option.map_eq_some_iff.1 h with ⟨x, -, hx⟩
        cases hx
  · rintro ⟨rfl, hv⟩
    exact if_pos ⟨rfl, rfl, hv⟩

/-- A natural number below 2^64 denotes itself. -/
theorem numeral?_natural {n : Nat} (h : n < Word.limit) :
    (natural n).numeral? = some (.natural n) :=
  numeral?_eq_natural_iff.2 ⟨rfl, h⟩

end Number
end Json
end EntitySql

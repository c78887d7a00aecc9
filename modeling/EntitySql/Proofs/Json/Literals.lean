import EntitySql.Json.Token
import EntitySql.Proofs.Text.Stops

/-!
# Reading literals back

A string is written with escapes and read back without them; a number is written
digit by digit and read back as the literal that it was.  A literal ends where
the text goes on with something that cannot belong to it, so reading leaves
exactly what was written behind it.

Main results:

- Theorem `Json.Quoted.read?_encode_append`: a string is read up to its closing quote.
- Theorem `Json.Number.parse?_text`: a number literal is read from its text.
-/

namespace EntitySql
namespace Json
namespace Quoted

/-! ## Strings -/

/-- A hexadecimal digit is read as the number that it stands for. -/
theorem hexValue?_digitChar {n : Nat} (h : n < 16) : hexValue? n.digitChar = some n := by
  revert n
  decide

/-- A control character is read from the code unit that is written for it. -/
theorem read?_unit_append {c : Char} (h : c.toNat < 0x20) (rest : List Char) :
    read? ('\\' :: 'u' :: '0' :: '0' :: Nat.digitChar (c.toNat / 16) ::
      Nat.digitChar (c.toNat % 16) :: rest) = (read? rest).map (prepend c) := by
  have hunit : unit? '0' '0' (Nat.digitChar (c.toNat / 16)) (Nat.digitChar (c.toNat % 16)) =
      some c.toNat := by
    have hzero : hexValue? '0' = some 0 := by decide
    have hhigh := hexValue?_digitChar (n := c.toNat / 16) (by omega)
    have hlow := hexValue?_digitChar (n := c.toNat % 16) (by omega)
    have hvalue : c.toNat / 16 * 16 + c.toNat % 16 = c.toNat := Nat.div_add_mod' ..
    simp [unit?, hzero, hhigh, hlow, hvalue]
  have hnotHigh : isHighUnit c.toNat = false := by
    simp only [isHighUnit, Bool.and_eq_false_iff, decide_eq_false_iff_not]
    omega
  have hnotLow : isLowUnit c.toNat = false := by
    simp only [isLowUnit, Bool.and_eq_false_iff, decide_eq_false_iff_not]
    omega
  simp [read?, hunit, hnotHigh, hnotLow]

/-- A character is read from its written form. -/
theorem read?_escape_append (c : Char) (rest : List Char) :
    read? (escape c ++ rest) = (read? rest).map (prepend c) := by
  unfold escape
  split
  next hc => subst hc; simp [read?, shortEscape?]
  split
  next hc => subst hc; simp [read?, shortEscape?]
  split
  next hc => subst hc; simp [read?, shortEscape?]
  split
  next hc => subst hc; simp [read?, shortEscape?]
  split
  next hc => subst hc; simp [read?, shortEscape?]
  split
  next hc => subst hc; simp [read?, shortEscape?]
  split
  next hc => subst hc; simp [read?, shortEscape?]
  split
  next hc => exact read?_unit_append hc rest
  next hslash _ _ _ _ _ hcontrol =>
    simp [read?, hslash, hcontrol]

/-- A string is read up to its closing quote, and what is behind it is left. -/
theorem read?_encode_append (text rest : List Char) :
    read? (encode text ++ '"' :: rest) = some (text, rest) := by
  induction text with
  | nil => simp [read?]
  | cons c text ih =>
    rw [encode_cons, List.append_assoc, read?_escape_append, ih]
    rfl

end Quoted

namespace Number

/-! ## Numbers -/

/-- The digits after the point are there if the point is, and they are digits. -/
def WellFormed (n : Number) : Prop :=
  ∀ digits, n.fraction = some digits → digits ≠ [] ∧ ∀ c ∈ digits, c.isDigit = true

/-- The literal of a natural number has no fraction to be ill formed. -/
theorem wellFormed_natural (n : Nat) : (natural n).WellFormed := by
  intro digits h
  cases h

/-- A run of digits is taken up to where the text stops. -/
theorem digits?_append {run rest : List Char} (hne : run ≠ [])
    (hrun : ∀ c ∈ run, c.isDigit = true) (hrest : Text.Stops Char.isDigit rest) :
    digits? (run ++ rest) = some (run, rest) := by
  unfold digits?
  rw [Text.takeWhile_append_of_stops hrun hrest, Text.dropWhile_append_of_stops hrun hrest]
  cases run with
  | nil => exact absurd rfl hne
  | cons c run => rfl

/-- A numeral is taken up to where the text stops having digits. -/
theorem digits?_digits_append (n : Nat) {rest : List Char}
    (hrest : Text.Stops Char.isDigit rest) :
    digits? (Text.digits n ++ rest) = some (Text.digits n, rest) :=
  digits?_append (Text.digits_ne_nil n) (fun _ => Text.isDigit_of_mem_digits) hrest

/-- A numeral is read as the number that was written. -/
theorem valueOf_digits (n : Nat) : valueOf (Text.digits n) = n :=
  Text.ofDigitChars_digits n

/-- A numeral has no zeros in front, so it is a whole part. -/
theorem wholePart?_digits_append (n : Nat) {rest : List Char}
    (hrest : Text.Stops Char.isDigit rest) :
    wholePart? (Text.digits n ++ rest) = some (Text.digits n, rest) := by
  unfold wholePart?
  rw [digits?_digits_append n hrest]
  split
  next c run left heq =>
    have hdigits : Text.digits n = '0' :: c :: run := (Prod.mk.inj (Option.some.inj heq)).1
    rcases Nat.eq_zero_or_pos n with rfl | hpos
    · cases hdigits
    · exact absurd (by rw [hdigits]; rfl) (Text.head?_digits_ne_zero hpos)
  next => rfl

/-- A fraction is read back, with or without a point. -/
theorem fraction?_fractionText_append {fraction : Option (List Char)} {rest : List Char}
    (h : ∀ digits, fraction = some digits → digits ≠ [] ∧ ∀ c ∈ digits, c.isDigit = true)
    (hdigit : Text.Stops Char.isDigit rest) (hpoint : Text.Stops (· == '.') rest) :
    fraction? (fractionText fraction ++ rest) = some (fraction, rest) := by
  cases fraction with
  | none =>
    cases rest with
    | nil => rfl
    | cons c rest =>
      have hc : c ≠ '.' := by simpa using hpoint c rest rfl
      simp [fractionText, fraction?, hc]
  | some digits =>
    rcases h digits rfl with ⟨hne, hdigits⟩
    simp [fractionText, fraction?, digits?_append hne hdigits hdigit]

/-- An exponent at the end of a text is read back with its sign. -/
theorem exponent?_exponentText (exponent : Option Int) :
    exponent? (exponentText exponent) = some (exponent, []) := by
  have hdigits : ∀ n, digits? (Text.digits n) = some (Text.digits n, []) := by
    intro n
    have h := digits?_digits_append n (Text.stops_nil Char.isDigit)
    rwa [List.append_nil] at h
  rcases exponent with - | (n | n)
  · rfl
  · simp only [exponentText, exponent?, true_or, if_true]
    split
    next text heq => exact absurd heq (Text.digits_ne_cons (by decide) n text)
    next text heq => exact absurd heq (Text.digits_ne_cons (by decide) n text)
    next => simp [hdigits, valueOf_digits]
  · simp [exponentText, exponent?, hdigits, valueOf_digits, Int.negSucc_eq]

/-- Before an exponent stops every run of characters without its letter. -/
theorem stops_exponentText (kind : Char → Bool) (h : kind 'e' = false) (exponent : Option Int) :
    Text.Stops kind (exponentText exponent) := by
  rcases exponent with - | (n | n)
  · exact Text.stops_nil kind
  · exact Text.stops_cons h _
  · exact Text.stops_cons h _

/-- The whole part ends at the point, at the exponent or with the text. -/
theorem stops_behind_whole (n : Number) :
    Text.Stops Char.isDigit (fractionText n.fraction ++ exponentText n.exponent) := by
  cases n.fraction with
  | none => exact stops_exponentText _ (by decide) n.exponent
  | some digits => exact Text.stops_cons (by decide) _

/-- A number without its sign is read from its digits, its fraction and its exponent. -/
theorem unsigned?_text {n : Number} (h : n.WellFormed) :
    unsigned? n.negative
      (Text.digits n.whole ++ (fractionText n.fraction ++ exponentText n.exponent)) = some n := by
  have hwhole := wholePart?_digits_append n.whole (stops_behind_whole n)
  have hfraction := fraction?_fractionText_append h
    (stops_exponentText Char.isDigit (by decide) n.exponent)
    (stops_exponentText (· == '.') (by decide) n.exponent)
  simp [unsigned?, hwhole, hfraction, exponent?_exponentText, valueOf_digits]

/-- A number literal is read from its text. -/
theorem parse?_text {n : Number} (h : n.WellFormed) : parse? n.text = some n := by
  have hunsigned := unsigned?_text h
  unfold text
  rw [List.append_assoc, List.append_assoc]
  cases hsign : n.negative with
  | true =>
    rw [hsign] at hunsigned
    exact hunsigned
  | false =>
    rw [hsign] at hunsigned
    rw [if_neg (by decide), List.nil_append]
    unfold parse?
    split
    next rest heq =>
      -- A sign in front would be the first digit of the whole part.
      cases hdigits : Text.digits n.whole with
      | nil => exact absurd hdigits (Text.digits_ne_nil n.whole)
      | cons c run =>
        rw [hdigits, List.cons_append] at heq
        rw [(List.cons.inj heq).1] at hdigits
        exact absurd hdigits (Text.digits_ne_cons (by decide) n.whole run)
    next => exact hunsigned

end Number
end Json
end EntitySql

import EntitySql.Text.Letter

/-!
# Lower-casing

Two ways to put a text into small letters.  `lowerEach` maps every character by
itself.  `lowerText` agrees with it but for the capital sigma, which becomes the
final small sigma at the end of a word.  Both use the full mapping, in which one
capital may have two small characters.  Nothing is normalised or folded.

Main results:

- Theorem `Text.lowerChar_of_isUpper`: a capital of ASCII has its small letter 32 places on.
- Theorem `Text.lowerText_eq_lowerEach`: without a capital sigma the two agree.
-/

namespace EntitySql
namespace Text

/-- The Greek capital sigma. -/
def capitalSigma : Char := 'Σ'

/-- The Greek small sigma within a word. -/
def smallSigma : Char := 'σ'

/-- The Greek small sigma at the end of a word. -/
def finalSigma : Char := 'ς'

/-- The small letter of a code point in a range of capitals. -/
def CapitalRange.small (r : CapitalRange) (code : Nat) : Nat :=
  r.target + (code - r.first)

/--
A character in small letters.  The capital I with a dot above is the only one
that becomes two characters, a small i and a combining dot.
-/
def lowerChar (c : Char) : List Char :=
  if c = 'İ' then ['i', '\u0307']
  else
    match capitals.find? (·.contains c.toNat) with
    | some r => [Char.ofNat (r.small c.toNat)]
    | none => [c]

/-- A text in small letters, character by character. -/
def lowerEach (text : List Char) : List Char :=
  text.flatMap lowerChar

/-- Going on from here, the first character that is not case-ignorable is a cased letter. -/
def meetsCased (text : List Char) : Bool :=
  match text.dropWhile caseIgnorable.contains with
  | [] => false
  | c :: _ => cased.contains c

/--
A position ends a word when a cased letter is met before it and none after it;
the text before it is given in reverse.
-/
def endsWord (before after : List Char) : Bool :=
  meetsCased before && !meetsCased after

/-- A text in small letters, given in reverse the characters that stand before it. -/
def lowerAfter (before : List Char) : List Char → List Char
  | [] => []
  | c :: after =>
    (if c = capitalSigma then
      [if endsWord before after then finalSigma else smallSigma]
    else lowerChar c) ++ lowerAfter (c :: before) after

/-- A text in small letters, with the final sigma where a word ends. -/
def lowerText (text : List Char) : List Char :=
  lowerAfter [] text

/-- A capital of ASCII has its small letter 32 places further on. -/
theorem lowerChar_of_isUpper {c : Char} (h : c.isUpper = true) :
    lowerChar c = [Char.ofNat (c.toNat + 32)] := by
  have hrange := of_decide_eq_true h
  have hlow : 0x41 ≤ c.toNat := UInt32.le_iff_toNat_le.1 hrange.1
  have hhigh : c.toNat ≤ 0x5A := UInt32.le_iff_toNat_le.1 hrange.2
  have hdotted : c ≠ 'İ' := by
    rintro rfl
    exact absurd hhigh (by decide)
  have hfind : capitals.find? (·.contains c.toNat) = some ⟨0x41, 0x5A, 1, 0x61⟩ := by
    rw [capitals, List.find?_cons_of_pos]
    simp [CapitalRange.contains, hlow, hhigh, Nat.mod_one]
  have hsmall : 0x61 + (c.toNat - 0x41) = c.toNat + 32 := by omega
  simp [lowerChar, hdotted, hfind, CapitalRange.small, hsmall]

/-- The mapping by characters starts with the image of the first one. -/
@[simp]
theorem lowerEach_cons (c : Char) (text : List Char) :
    lowerEach (c :: text) = lowerChar c ++ lowerEach text :=
  rfl

/-- Without a capital sigma, what stands before a text has no influence on it. -/
theorem lowerAfter_eq_lowerEach {text : List Char} (h : capitalSigma ∉ text)
    (before : List Char) : lowerAfter before text = lowerEach text := by
  induction text generalizing before with
  | nil => rfl
  | cons c text ih =>
    simp only [List.mem_cons, not_or] at h
    simp [lowerAfter, Ne.symm h.1, ih h.2]

/-- Without a capital sigma, both ways to lower-case agree. -/
theorem lowerText_eq_lowerEach {text : List Char} (h : capitalSigma ∉ text) :
    lowerText text = lowerEach text :=
  lowerAfter_eq_lowerEach h []

end Text
end EntitySql

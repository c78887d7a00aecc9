import EntitySql.Proofs.Text.FinalSigma

/-!
# Small letters stay small

Lower-casing leaves nothing to lower-case: no small letter of the table is a
capital of it, and neither is one of the two characters of the dotted capital I.
In particular no capital sigma is left, so the two ways to lower-case a text
agree on what either of them has made.  The case of ASCII letters makes no
difference either.  They are cased letters in both cases, so a capital sigma
among them is at the end of a word, or is not, however they are written.

Main results:

- Theorem `Text.lowerChar_of_mem_lowerChar`: what a character becomes in small
  letters stays as it is.
- Theorem `Text.lowerText_lowerText` and theorem `Text.lowerText_lowerEach`: a text
  in small letters, made in either way, stays as it is.
- Theorem `Text.lowerText_map_toLower`: the case of ASCII letters has no influence.
-/

namespace EntitySql
namespace Text

/-! ## Small letters of the table -/

namespace CapitalRange

/-- None of the small letters of a range is a capital of another one.  The small letters begin
behind the capitals, or end before them, or lie between capitals that take every second place. -/
def clears (r s : CapitalRange) : Bool :=
  s.last.blt r.target || ((r.small r.last).blt s.first ||
    (s.stride == 2 && (r.stride == 2 || r.first == r.last) && (r.target + s.first) % 2 == 1))

/-- A range holds the capitals between its ends, at its stride. -/
theorem contains_iff {r : CapitalRange} {code : Nat} :
    r.contains code = true ↔
      r.first ≤ code ∧ code ≤ r.last ∧ (code - r.first) % r.stride = 0 := by
  simp [contains, and_assoc]

/-- The three ways in which a range of small letters misses a range of capitals. -/
theorem clears_iff {r s : CapitalRange} :
    r.clears s = true ↔
      s.last < r.target ∨ r.small r.last < s.first ∨
        s.stride = 2 ∧ (r.stride = 2 ∨ r.first = r.last) ∧ (r.target + s.first) % 2 = 1 := by
  simp [clears, and_assoc]

/-- A small letter is no capital of a range that its own range misses. -/
theorem contains_small_eq_false {r s : CapitalRange} (h : r.clears s = true) {code : Nat}
    (hcode : r.contains code = true) : s.contains (r.small code) = false := by
  rw [contains_iff] at hcode
  rw [clears_iff, small] at h
  rw [← Bool.not_eq_true, contains_iff, small]
  intro hsmall
  rcases h with hbehind | hbefore | ⟨hstride, heven, hodd⟩
  · omega
  · omega
  · -- The distance from the first capital of `s` is odd, since the one within `r` is even.
    have hdistance : (code - r.first) % 2 = 0 := by
      rcases heven with htwo | hsingle
      · exact htwo ▸ hcode.2.2
      · omega
    rw [hstride] at hsmall
    omega

end CapitalRange

/-- No small letter of the table is a capital of it. -/
theorem capitals_clear : (capitals.all fun r => capitals.all r.clears) = true := by
  decide +kernel

/-- The small letters of the table are characters, and the dotted capital I is not among them. -/
theorem capitals_small : ∀ r ∈ capitals,
    (r.small r.last).isValidChar ∧ (0xDFFF < r.target ∨ r.small r.last < 0xD800) ∧
      (0x130 < r.target ∨ r.small r.last < 0x130) := by
  decide +kernel

/-- A character is its own small letter if it is not among the capitals. -/
theorem lowerChar_eq_self {c : Char} (hdotted : c ≠ 'İ')
    (h : ∀ r ∈ capitals, r.contains c.toNat = false) : lowerChar c = [c] := by
  have hfind : capitals.find? (·.contains c.toNat) = none := by
    rw [List.find?_eq_none]
    intro r hr
    rw [h r hr]
    exact Bool.false_ne_true
  rw [lowerChar, if_neg hdotted, hfind]

/-- A small letter of the table is its own small letter. -/
theorem lowerChar_small {r : CapitalRange} (hr : r ∈ capitals) {code : Nat}
    (hcode : r.contains code = true) :
    lowerChar (Char.ofNat (r.small code)) = [Char.ofNat (r.small code)] := by
  rcases capitals_small r hr with ⟨hlast, hsurrogates, hdotted⟩
  have hbounds := CapitalRange.contains_iff.1 hcode
  have hvalid : (r.small code).isValidChar := by
    simp only [CapitalRange.small, Nat.isValidChar] at *
    omega
  have hnumber : (Char.ofNat (r.small code)).toNat = r.small code :=
    congrArg Char.toNat (dif_pos hvalid)
  apply lowerChar_eq_self
  · intro heq
    rw [heq] at hnumber
    have hplace : r.small code = 0x130 := hnumber.symm
    simp only [CapitalRange.small] at *
    omega
  · intro s hs
    rw [hnumber]
    have hclears := List.all_eq_true.1 (List.all_eq_true.1 capitals_clear r hr) s hs
    exact CapitalRange.contains_small_eq_false hclears hcode

/-- What lower-casing writes apart from the table: the two characters of the dotted capital I, and
the two small sigmas. -/
theorem lowerChar_of_mem_written {d : Char} (h : d ∈ ['i', '\u0307', smallSigma, finalSigma]) :
    lowerChar d = [d] := by
  simp only [List.mem_cons, List.not_mem_nil, or_false] at h
  rcases h with rfl | rfl | rfl | rfl
  all_goals exact lowerChar_eq_self (by decide) (by decide +kernel)

/-- What a character becomes in small letters stays as it is. -/
theorem lowerChar_of_mem_lowerChar {c d : Char} (h : d ∈ lowerChar c) : lowerChar d = [d] := by
  rw [lowerChar] at h
  split at h
  next hdotted =>
    exact lowerChar_of_mem_written (List.mem_append_left [smallSigma, finalSigma] h)
  next hdotted =>
    split at h
    next r hfind =>
      have hcontains := List.find?_some hfind
      rw [List.mem_singleton.1 h]
      exact lowerChar_small (List.mem_of_find?_eq_some hfind) hcontains
    next hfind =>
      rw [List.mem_singleton.1 h, lowerChar, if_neg hdotted, hfind]

/-! ## Texts in small letters -/

/-- Every character of a text is its own small letter. -/
def Settled (text : List Char) : Prop :=
  ∀ c ∈ text, lowerChar c = [c]

/-- Small letters taken character by character are their own small letters. -/
theorem settled_lowerEach (text : List Char) : Settled (lowerEach text) := by
  intro d hd
  rcases List.mem_flatMap.1 hd with ⟨c, -, hdc⟩
  exact lowerChar_of_mem_lowerChar hdc

/-- So are those of a character within a text, the final sigma included. -/
theorem settled_lowerAt (left : List Char) (c : Char) (text : List Char) :
    Settled (lowerAt left c text) := by
  intro d hd
  rw [lowerAt] at hd
  split at hd
  next =>
    apply lowerChar_of_mem_written
    rw [List.mem_singleton.1 hd]
    split
    · decide
    · decide
  next => exact lowerChar_of_mem_lowerChar hd

/-- So are those of a text behind given characters. -/
theorem settled_lowerAfter (left text : List Char) : Settled (lowerAfter left text) := by
  induction text generalizing left with
  | nil => exact fun d hd => absurd hd List.not_mem_nil
  | cons c text ih =>
    rw [lowerAfter_cons]
    intro d hd
    rcases List.mem_append.1 hd with hfirst | hrest
    · exact settled_lowerAt left c text d hfirst
    · exact ih (c :: left) d hrest

/-- A text in small letters stays as it is. -/
theorem Settled.lowerEach_eq {text : List Char} (h : Settled text) : lowerEach text = text := by
  induction text with
  | nil => rfl
  | cons c text ih =>
    rw [lowerEach_cons, h c List.mem_cons_self, ih fun d hd => h d (List.mem_cons_of_mem c hd)]
    rfl

/-- A text that is in small letters has no capital sigma, so that none is final. -/
theorem Settled.lowerText_eq {text : List Char} (h : Settled text) : lowerText text = text := by
  have hsigma : capitalSigma ∉ text := by
    intro hmem
    have hself := h capitalSigma hmem
    rw [lowerChar_capitalSigma] at hself
    exact absurd hself (by decide)
  rw [lowerText_eq_lowerEach hsigma, h.lowerEach_eq]

/-- Lower-casing a text twice is lower-casing it once. -/
theorem lowerText_lowerText (text : List Char) : lowerText (lowerText text) = lowerText text :=
  (settled_lowerAfter [] text).lowerText_eq

/-- A text that is lower-cased character by character is in small letters. -/
theorem lowerText_lowerEach (text : List Char) : lowerText (lowerEach text) = lowerEach text :=
  (settled_lowerEach text).lowerText_eq

/-! ## The case of ASCII letters -/

/-- The small letter of an ASCII capital is 32 places on; other characters stay. -/
theorem toLower_cases (c : Char) :
    c.toLower = c ∨ c.isUpper = true ∧ c.toLower.toNat = c.toNat + 32 := by
  by_cases hupper : c.isUpper = true
  · have hrange := of_decide_eq_true hupper
    have hhigh : c.val.toNat ≤ 0x5A := UInt32.le_iff_toNat_le.1 hrange.2
    have hval : c.toLower.val = c.val + 32 := congrArg Char.val (dif_pos hrange)
    have hfits : c.val.toNat + 32 < UInt32.size :=
      Nat.lt_of_le_of_lt (Nat.add_le_add_right hhigh 32) (by decide)
    refine Or.inr ⟨hupper, ?_⟩
    rw [← Char.toNat_val, hval, UInt32.toNat_add]
    exact Nat.mod_eq_of_lt hfits
  · exact Or.inl (dif_neg fun hrange => hupper (decide_eq_true hrange))

/-- The capitals of ASCII lie between A and Z. -/
theorem bounds_of_isUpper {c : Char} (h : c.isUpper = true) : 0x41 ≤ c.toNat ∧ c.toNat ≤ 0x5A := by
  have hrange := of_decide_eq_true h
  exact ⟨UInt32.le_iff_toNat_le.1 hrange.1, UInt32.le_iff_toNat_le.1 hrange.2⟩

/-- The case of an ASCII letter has no influence on its small letter. -/
theorem lowerChar_toLower (c : Char) : lowerChar c.toLower = lowerChar c := by
  rcases toLower_cases c with hsame | ⟨hupper, hcode⟩
  · rw [hsame]
  · have hsmall : lowerChar c = [c.toLower] := by
      rw [lowerChar_of_isUpper hupper, ← hcode, Char.ofNat_toNat]
    rw [hsmall]
    exact lowerChar_of_mem_lowerChar (hsmall ▸ List.mem_singleton_self c.toLower)

/-- Nor has it any on whether the letter is cased. -/
theorem cased_toLower (c : Char) : cased.contains c.toLower = cased.contains c := by
  rcases toLower_cases c with hsame | ⟨hupper, hcode⟩
  · rw [hsame]
  · have hbounds := bounds_of_isUpper hupper
    rw [cased_of_isUpper hupper, cased, CodeSet.contains_cons_cons, if_neg (by omega),
      if_neg (by omega), CodeSet.contains_cons_cons, if_neg (by omega), if_pos (by omega)]

/-- Case ignores none of the places from the capitals to the small letters of ASCII but those that
hold the circumflex and the grave accent. -/
theorem caseIgnorable_eq_false {c : Char} (hlow : 0x41 ≤ c.toNat) (hhigh : c.toNat ≤ 0x7A)
    (hcircumflex : c.toNat ≠ 0x5E) (hgrave : c.toNat ≠ 0x60) :
    caseIgnorable.contains c = false := by
  rw [caseIgnorable]
  rw [CodeSet.contains_cons_cons, if_neg (by omega), if_neg (by omega)]
  rw [CodeSet.contains_cons_cons, if_neg (by omega), if_neg (by omega)]
  rw [CodeSet.contains_cons_cons, if_neg (by omega), if_neg (by omega)]
  rw [CodeSet.contains_cons_cons]
  by_cases hfirst : c.toNat < 0x5E
  · rw [if_pos hfirst]
  · rw [if_neg hfirst, if_neg (by omega), CodeSet.contains_cons_cons]
    by_cases hsecond : c.toNat < 0x60
    · rw [if_pos hsecond]
    · rw [if_neg hsecond, if_neg (by omega)]
      exact CodeSet.not_contains_of_lt (by omega)

/-- Nor on whether case ignores it. -/
theorem caseIgnorable_toLower (c : Char) :
    caseIgnorable.contains c.toLower = caseIgnorable.contains c := by
  rcases toLower_cases c with hsame | ⟨hupper, hcode⟩
  · rw [hsame]
  · have hbounds := bounds_of_isUpper hupper
    rw [caseIgnorable_eq_false, caseIgnorable_eq_false] <;> omega

/-- Only a capital sigma is one in the small letters of ASCII. -/
theorem toLower_eq_capitalSigma_iff {c : Char} : c.toLower = capitalSigma ↔ c = capitalSigma := by
  rcases toLower_cases c with hsame | ⟨hupper, hcode⟩
  · rw [hsame]
  · have hbounds := bounds_of_isUpper hupper
    constructor
    · intro h
      rw [h] at hcode
      exact absurd hcode (by change 0x3A3 ≠ _; omega)
    · rintro rfl
      exact absurd hupper (by decide)

/-- A cased letter is met at the first character, or behind it if case ignores it. -/
theorem meetsCased_cons (c : Char) (text : List Char) :
    meetsCased (c :: text) =
      if caseIgnorable.contains c then meetsCased text else cased.contains c := by
  by_cases hc : caseIgnorable.contains c = true
  · simp only [meetsCased, List.dropWhile_cons_of_pos hc, if_pos hc]
  · simp only [meetsCased, List.dropWhile_cons_of_neg hc, if_neg hc]

/-- The case of ASCII letters has no influence on whether a cased letter is met. -/
theorem meetsCased_map_toLower (text : List Char) :
    meetsCased (text.map Char.toLower) = meetsCased text := by
  induction text with
  | nil => rfl
  | cons c text ih =>
    rw [List.map_cons, meetsCased_cons, meetsCased_cons, ih, caseIgnorable_toLower, cased_toLower]

/-- Nor has it any on the small letters of a character within a text. -/
theorem lowerAt_map_toLower (left : List Char) (c : Char) (text : List Char) :
    lowerAt (left.map Char.toLower) c.toLower (text.map Char.toLower) = lowerAt left c text := by
  have hends : endsWord (left.map Char.toLower) (text.map Char.toLower) = endsWord left text := by
    rw [endsWord, meetsCased_map_toLower, meetsCased_map_toLower, endsWord]
  by_cases hc : c = capitalSigma
  · rw [lowerAt, lowerAt, if_pos (toLower_eq_capitalSigma_iff.2 hc), if_pos hc, hends]
  · rw [lowerAt, lowerAt, if_neg (mt toLower_eq_capitalSigma_iff.1 hc), if_neg hc,
      lowerChar_toLower]

/-- On both sides of a text, and in the text itself, the case of ASCII letters has no influence. -/
theorem lowerAfter_map_toLower (left text : List Char) :
    lowerAfter (left.map Char.toLower) (text.map Char.toLower) = lowerAfter left text := by
  induction text generalizing left with
  | nil => rfl
  | cons c text ih =>
    rw [List.map_cons, lowerAfter_cons, lowerAfter_cons, lowerAt_map_toLower, ← List.map_cons, ih]

/-- The case of ASCII letters has no influence on a text in small letters. -/
theorem lowerText_map_toLower (text : List Char) :
    lowerText (text.map Char.toLower) = lowerText text :=
  lowerAfter_map_toLower [] text

end Text
end EntitySql

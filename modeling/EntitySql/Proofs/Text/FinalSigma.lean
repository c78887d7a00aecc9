import EntitySql.Text.LowerCase

/-!
# Final sigmas

The two ways to put a text into small letters differ in one place only: a capital
sigma at the end of a word.  Both write as many characters for every character,
so the results differ as soon as there is one such sigma, and the length of the
text says where.

Main results:

- Theorem `Text.lowerAfter_eq_lowerEach_iff`: the two ways agree on a text behind
  given characters exactly when no capital sigma in it is final.
- Theorem `Text.lowerText_eq_lowerEach_iff`: the same for a whole text.
- Theorem `Text.hasFinalSigma_iff`: where a capital sigma is final, read off the text.
-/

namespace EntitySql
namespace Text

/-- A text holds a capital sigma at the end of a word, given in reverse the characters that stand
before the text. -/
def HasFinalSigmaAfter (left text : List Char) : Prop :=
  ∃ before after, text = before ++ capitalSigma :: after ∧
    endsWord (before.reverse ++ left) after = true

/-- A text holds a capital sigma at the end of a word. -/
def HasFinalSigma (text : List Char) : Prop :=
  HasFinalSigmaAfter [] text

/-- No text has no final sigma, whatever stands before it. -/
theorem not_hasFinalSigmaAfter_nil (left : List Char) : ¬ HasFinalSigmaAfter left [] := by
  intro h
  rcases h with ⟨before, after, htext, -⟩
  cases before <;> cases htext

/-- A final sigma is the first character or comes later. -/
theorem hasFinalSigmaAfter_cons_iff {left text : List Char} {c : Char} :
    HasFinalSigmaAfter left (c :: text) ↔
      (c = capitalSigma ∧ endsWord left text = true) ∨ HasFinalSigmaAfter (c :: left) text := by
  constructor
  · intro h
    rcases h with ⟨before, after, htext, hends⟩
    cases before with
    | nil =>
      rcases List.cons.inj htext with ⟨rfl, rfl⟩
      exact Or.inl ⟨rfl, hends⟩
    | cons b before =>
      rcases List.cons.inj htext with ⟨rfl, rfl⟩
      rw [List.reverse_cons, List.append_assoc] at hends
      exact Or.inr ⟨before, after, rfl, hends⟩
  · intro h
    rcases h with ⟨rfl, hends⟩ | ⟨before, after, rfl, hends⟩
    · exact ⟨[], text, rfl, hends⟩
    · refine ⟨c :: before, after, rfl, ?_⟩
      rw [List.reverse_cons, List.append_assoc]
      exact hends

/-- A character in small letters, given what stands before it in reverse and what comes after. -/
def lowerAt (left : List Char) (c : Char) (text : List Char) : List Char :=
  if c = capitalSigma then [if endsWord left text then finalSigma else smallSigma]
  else lowerChar c

/-- A text is put into small letters from its first character on. -/
theorem lowerAfter_cons (left : List Char) (c : Char) (text : List Char) :
    lowerAfter left (c :: text) = lowerAt left c text ++ lowerAfter (c :: left) text :=
  rfl

/-- By itself a capital sigma becomes the small sigma within a word. -/
theorem lowerChar_capitalSigma : lowerChar capitalSigma = [smallSigma] := by
  decide

/-- Where a character stands changes its small letters only for a final sigma. -/
theorem lowerAt_eq_lowerChar_iff {left text : List Char} {c : Char} :
    lowerAt left c text = lowerChar c ↔ ¬ (c = capitalSigma ∧ endsWord left text = true) := by
  unfold lowerAt
  by_cases hc : c = capitalSigma
  · have hdistinct : finalSigma ≠ smallSigma := by decide
    rw [if_pos hc, hc, lowerChar_capitalSigma]
    cases endsWord left text <;> simp [hdistinct]
  · simp [hc]

/-- Where a character stands has no influence on how many small letters it becomes. -/
theorem length_lowerAt (left : List Char) (c : Char) (text : List Char) :
    (lowerAt left c text).length = (lowerChar c).length := by
  unfold lowerAt
  split
  next hc => rw [hc, lowerChar_capitalSigma]; rfl
  next hc => rfl

/-- Behind given characters the two ways to lower-case agree exactly when no sigma is final. -/
theorem lowerAfter_eq_lowerEach_iff {left text : List Char} :
    lowerAfter left text = lowerEach text ↔ ¬ HasFinalSigmaAfter left text := by
  induction text generalizing left with
  | nil => exact ⟨fun _ => not_hasFinalSigmaAfter_nil left, fun _ => rfl⟩
  | cons c text ih =>
    rw [hasFinalSigmaAfter_cons_iff, not_or, ← lowerAt_eq_lowerChar_iff, ← ih, lowerAfter_cons,
      lowerEach_cons]
    constructor
    · intro h
      exact List.append_inj h (length_lowerAt left c text)
    · intro h
      rw [h.1, h.2]

/-- The two ways to lower-case a text agree exactly when no sigma in it is final. -/
theorem lowerText_eq_lowerEach_iff {text : List Char} :
    lowerText text = lowerEach text ↔ ¬ HasFinalSigma text :=
  lowerAfter_eq_lowerEach_iff

/-! ## Reading final sigmas off the text -/

/-- Going on over characters that case ignores, a cased letter is reached. -/
def ReachesCased (text : List Char) : Prop :=
  ∃ ignored c rest, text = ignored ++ c :: rest ∧
    (∀ d ∈ ignored, caseIgnorable.contains d = true) ∧
    caseIgnorable.contains c = false ∧ cased.contains c = true

/-- At the end of a text no cased letter is reached. -/
theorem not_reachesCased_nil : ¬ ReachesCased [] := by
  intro h
  rcases h with ⟨ignored, c, rest, htext, -⟩
  cases ignored <;> cases htext

/-- A cased letter is the first character, or it is reached behind one that case ignores. -/
theorem reachesCased_cons_iff {c : Char} {text : List Char} :
    ReachesCased (c :: text) ↔
      if caseIgnorable.contains c then ReachesCased text else cased.contains c = true := by
  constructor
  · intro h
    rcases h with ⟨ignored, d, rest, htext, hignored, hstop, hcased⟩
    cases ignored with
    | nil =>
      rcases List.cons.inj htext with ⟨rfl, rfl⟩
      rw [if_neg (Bool.not_eq_true _ ▸ hstop)]
      exact hcased
    | cons e ignored =>
      rcases List.cons.inj htext with ⟨rfl, rfl⟩
      rw [if_pos (hignored c List.mem_cons_self)]
      exact ⟨ignored, d, rest, rfl, fun e he => hignored e (List.mem_cons_of_mem c he),
        hstop, hcased⟩
  · intro h
    by_cases hc : caseIgnorable.contains c = true
    · rw [if_pos hc] at h
      rcases h with ⟨ignored, d, rest, rfl, hignored, hstop, hcased⟩
      exact ⟨c :: ignored, d, rest, rfl, List.forall_mem_cons.2 ⟨hc, hignored⟩, hstop, hcased⟩
    · rw [if_neg hc] at h
      exact ⟨[], c, text, rfl, List.forall_mem_nil _, Bool.not_eq_true _ ▸ hc, h⟩

/-- The scan for a cased letter finds one exactly when one is reached. -/
theorem meetsCased_iff {text : List Char} : meetsCased text = true ↔ ReachesCased text := by
  induction text with
  | nil => exact ⟨fun h => absurd h Bool.false_ne_true, fun h => absurd h not_reachesCased_nil⟩
  | cons c text ih =>
    rw [reachesCased_cons_iff, ← ih]
    by_cases hc : caseIgnorable.contains c = true
    · simp only [meetsCased, List.dropWhile_cons_of_pos hc, if_pos hc]
    · simp only [meetsCased, List.dropWhile_cons_of_neg hc, if_neg hc]

/-- A capital sigma is final where going left over characters that case ignores reaches a cased
letter, and going right does not. -/
theorem hasFinalSigma_iff {text : List Char} :
    HasFinalSigma text ↔
      ∃ before after, text = before ++ capitalSigma :: after ∧
        ReachesCased before.reverse ∧ ¬ ReachesCased after := by
  simp only [HasFinalSigma, HasFinalSigmaAfter, endsWord, List.append_nil, Bool.and_eq_true,
    Bool.not_eq_true', ← Bool.not_eq_true, meetsCased_iff]

instance : DecidablePred HasFinalSigma := fun text =>
  decidable_of_iff (¬ lowerText text = lowerEach text)
    ((not_congr lowerText_eq_lowerEach_iff).trans Classical.not_not)

end Text
end EntitySql

import EntitySql.Proofs.ParseResult.Lookup
import EntitySql.Proofs.Text.SmallLetters

/-!
# The case of a name that is looked up

A lookup puts the name it is given into small letters, and looks at nothing else
of it.  So it finds the same for names that have the same small letters: names
that differ in the case of ASCII letters, whatever stands between them, and a
name and its own small letters.  A declared name is found by its small letters
even where a capital sigma keeps it from being found by itself, because with the
capitals gone there is no sigma whose place in the word would matter.

Main results:

- Theorem `ParseResult.function_congr`: a lookup depends on the small letters alone.
- Theorem `ParseResult.answers_lowerEach`: a name answers to its small letters.
- Theorem `ParseResult.ignoresCase`: in which names the case has no influence.
-/

namespace EntitySql
namespace ParseResult

variable {T L : Type}

/-- Names with the same small letters find the same. -/
theorem function_congr {query other : String}
    (h : Text.lowerText query.toList = Text.lowerText other.toList) (r : ParseResult T L) :
    r.function query = r.function other := by
  simp only [function, answers, h]

/-- A name answers to its small letters, taken character by character. -/
theorem answers_lowerEach (name : String) :
    answers (String.ofList (Text.lowerEach name.toList)) name = true := by
  rw [answers, beq_iff_eq, String.toList_ofList, Text.lowerText_lowerEach]

/-- Names that differ only in case find the same, where the case is settled. -/
structure IgnoresCase (r : ParseResult T L) : Prop where
  /-- Names that differ only in the case of ASCII letters find the same. -/
  ascii : ∀ query other : String,
    query.toList.map Char.toLower = other.toList.map Char.toLower →
      r.function query = r.function other
  /-- A name finds the same as its small letters. -/
  lowered : ∀ query : String,
    r.function query = r.function (String.ofList (Text.lowerText query.toList))
  /-- The small letters of a declared name, taken character by character, find its definition or one
  declared before it. -/
  own : ∀ before d after, r.definitions = before ++ d :: after →
    ∃ e, r.function (String.ofList (Text.lowerEach d.name.toList)) = some e ∧
      (e = d ∨ e ∈ before)

/-- A lookup ignores the case of ASCII letters, and finds by small letters what it finds. -/
theorem ignoresCase (r : ParseResult T L) : IgnoresCase r where
  ascii query other h := by
    apply function_congr
    rw [← Text.lowerText_map_toLower, h, Text.lowerText_map_toLower]
  lowered query := by
    apply function_congr
    rw [String.toList_ofList, Text.lowerText_lowerText]
  own before d after h := exists_function_of_answers h (answers_lowerEach d.name)

-- The capital sigma stands at the end of a word, the more so as the letters before it are cased.
example :
    let d : FunctionDefinition String := ⟨"maxς", "b", ⟨0, 1⟩⟩
    let r : ParseResult String String := ⟨"t", [d]⟩
    r.function "MAXΣ" = some d ∧ r.function "maxΣ" = some d := by
  decide

end ParseResult
end EntitySql

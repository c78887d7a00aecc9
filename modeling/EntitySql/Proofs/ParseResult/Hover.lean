import EntitySql.Proofs.ParseResult.SpanCheck

/-!
# The declaration under an offset

A reader points at an offset of a query and is shown the declaration there.  The
lookup by offset looks at spans alone, which may be reversed, may overlap, and
need not fit the query.  Once the check of the spans has passed, what the lookup
finds is a declaration with a text in which the offset has its own character,
and where it finds nothing no such declaration was passed over.

Main results:

- Theorem `Span.exists_char_of_contains`: the character at an offset, seen in the
  text that a span around it cuts out.
- Theorem `ParseResult.exists_sourceText_of_contains`: a checked definition that
  contains an offset has a text.
- Theorem `ParseResult.hovers`: what the lookup by offset finds in a checked query.
-/

namespace EntitySql

/-- An offset that a cut covers has the same character in the cut and in the text. -/
theorem Span.exists_char_of_contains {s : Span} {source text : String} {offset : Nat}
    (hslice : s.slice source = some text) (hoffset : s.start ≤ offset ∧ offset < s.stop) :
    ∃ c, text.toList[offset - s.start]? = some c ∧ source.toList[offset]? = some c := by
  obtain ⟨hstart, hstop⟩ := hoffset
  rcases Span.slice_eq_some_iff.1 hslice with ⟨-, hle, -⟩
  have hwithin : offset < source.toList.length := by
    rw [String.length_toList]
    omega
  have hlength : offset - s.start < s.length := by
    rw [Span.length]
    omega
  have hsame := (Span.chars_of_slice hslice).2 (offset - s.start) hlength
  rw [Nat.add_sub_cancel' hstart, List.getElem?_eq_getElem hwithin] at hsame
  exact ⟨_, hsame, List.getElem?_eq_getElem hwithin⟩

namespace ParseResult

variable {T L : Type}

/-- In a checked query a definition that contains an offset has a text, and the query has a
character at the offset. -/
theorem exists_sourceText_of_contains {r : ParseResult T L} {query : String}
    (hchecked : (r.checkSpans query).result = .ok ()) {d : FunctionDefinition L}
    (hd : d ∈ r.definitions) {offset : Nat}
    (hoffset : d.span.start ≤ offset ∧ offset < d.span.stop) :
    offset < query.length ∧ ∃ text, d.sourceText query = some text := by
  obtain ⟨hstart, hlt⟩ := hoffset
  have hstop := (checkSpans_result_eq_ok_iff.1 hchecked d hd).2
  have hreversed := Span.isReversed_eq_false_iff.2 (Nat.le_of_lt (Nat.lt_of_le_of_lt hstart hlt))
  rcases FunctionDefinition.exists_sourceText hreversed hstop with ⟨text, htext, -⟩
  exact ⟨Nat.lt_of_lt_of_le hlt hstop, text, htext⟩

/-- What the lookup by offset finds in a query, and what it means that it finds nothing. -/
structure Hovers (r : ParseResult T L) (query : String) (offset : Nat) : Prop where
  /-- The query has a character at the offset of a definition that is found. -/
  within : ∀ d, r.functionAt offset = some d → offset < query.length
  /-- Its span is not reversed. -/
  straight : ∀ d, r.functionAt offset = some d → d.span.start ≤ d.span.stop
  /-- It has a text, with the character of the query where the offset lies in it. -/
  char : ∀ d, r.functionAt offset = some d →
    ∃ text c, d.sourceText query = some text ∧
      text.toList[offset - d.span.start]? = some c ∧ query.toList[offset]? = some c
  /-- It contains the offset, and no definition declared before it does. -/
  first : ∀ d, r.functionAt offset = some d →
    (d.span.start ≤ offset ∧ offset < d.span.stop) ∧
      ∃ before after, r.definitions = before ++ d :: after ∧
        ∀ e ∈ before, ¬(e.span.start ≤ offset ∧ offset < e.span.stop)
  /-- Nothing is found exactly when no definition that has a text contains the offset. -/
  missed : r.functionAt offset = none ↔
    ∀ d ∈ r.definitions, (d.sourceText query).isSome = true →
      ¬(d.span.start ≤ offset ∧ offset < d.span.stop)

/-- In a checked query the lookup by offset finds the first declaration whose text has the
character there. -/
theorem hovers {r : ParseResult T L} {query : String}
    (hchecked : (r.checkSpans query).result = .ok ()) (offset : Nat) : Hovers r query offset := by
  have hfound : ∀ d, r.functionAt offset = some d →
      d ∈ r.definitions ∧ d.span.start ≤ offset ∧ offset < d.span.stop := by
    intro d hd
    exact ⟨List.mem_of_find?_eq_some hd, (functionAt_eq_some_iff.1 hd).1⟩
  refine ⟨?_, ?_, ?_, fun d => functionAt_eq_some_iff.1, ?_⟩
  · intro d hd
    exact (exists_sourceText_of_contains hchecked (hfound d hd).1 (hfound d hd).2).1
  · intro d hd
    exact Nat.le_of_lt (Nat.lt_of_le_of_lt (hfound d hd).2.1 (hfound d hd).2.2)
  · intro d hd
    rcases hfound d hd with ⟨hmem, hoffset⟩
    rcases (exists_sourceText_of_contains hchecked hmem hoffset).2 with ⟨text, htext⟩
    rcases Span.exists_char_of_contains htext hoffset with ⟨c, hinside, hquery⟩
    exact ⟨text, c, htext, hinside, hquery⟩
  · rw [functionAt_eq_none_iff]
    constructor
    · intro h d hd _
      exact h d hd
    · intro h d hd hoffset
      -- With the offset in it, the definition has a text, so it is one of those passed over.
      rcases (exists_sourceText_of_contains hchecked hd hoffset).2 with ⟨text, htext⟩
      exact h d hd (by rw [htext]; rfl) hoffset

/-- Overlapping definitions and a reversed one, with characters of two bytes before the offset. -/
theorem hovers_overlapping_and_reversed :
    let reversed : FunctionDefinition String := ⟨"back", "a", ⟨6, 1⟩⟩
    let outer : FunctionDefinition String := ⟨"outer", "b", ⟨1, 6⟩⟩
    let inner : FunctionDefinition String := ⟨"inner", "c", ⟨2, 4⟩⟩
    let r : ParseResult String String := ⟨"t", [reversed, inner, outer]⟩
    (r.checkSpans "äöüßéñ").result = .ok () ∧ r.functionAt 3 = some inner ∧
      Hovers r "äöüßéñ" 3 := by
  intro reversed outer inner r
  have hchecked : (r.checkSpans "äöüßéñ").result = .ok () := by
    rw [checkSpans_result_eq_ok_iff]
    decide
  exact ⟨hchecked, by decide, hovers hchecked 3⟩

end ParseResult
end EntitySql

import Mathlib.Data.List.TakeWhile
import EntitySql.Proofs.Query.Cursor

/-!
# How an analysis ends

Every analysis ends with a result, with the refusal of a declaration without a
name, or at a malformed declaration that lacks one of its four parentheses.
Nothing else can happen: the depth of parentheses is never counted below zero,
no cut is out of range, and the builder refuses for no other reason.  Each
declaration moves the analysis forward by its length, which bounds the number of
definitions.

Main results:

- Theorem `Reading.ending_eq_error`: how the reading of a text can fail.
- Theorem `Query.length_defined_le`: how many definitions a text can declare.
- Theorem `Query.analyze_endsSafely`: how an analysis ends, and what cannot happen
  before.
-/

namespace EntitySql

/-! ## Malformed declarations -/

namespace Reading

/-- A reading fails for want of a parenthesis; a closing one is missing only where the text has an
unclosed parenthesis. -/
theorem ending_eq_error {offset : Nat} {text : List Char} {fault : Malformed}
    (h : (scan offset text).ending = .error fault) :
    fault = .parameterList ∨ fault = .functionBody ∨
      (fault = .closedParameterList ∨ fault = .closedFunctionBody) ∧ Layout.HasUnclosed text := by
  rcases exists_entries_of_scan offset text with ⟨entries, blanks, ahead, -, -, htext, -, hending⟩
  rw [h] at hending
  rcases hending with ⟨-, hfind⟩
  rcases Layout.find_eq_error hfind with hparams | hbody | ⟨hclosed, hunclosed⟩
  · exact Or.inl hparams
  · exact Or.inr (Or.inl hbody)
  · rw [htext, ← List.append_assoc]
    exact Or.inr (Or.inr ⟨hclosed, hunclosed.append_left _⟩)

end Reading

namespace Query

/-- An analysis that ends at a malformed declaration ends where the reading does. -/
theorem ending_of_analyze {query : String} {fault : Malformed}
    (h : analyze query = .error fault) : (Reading.ofQuery query).ending = .error fault := by
  cases hnamed : (Reading.ofQuery query).declarations.find? nameless with
  | some p =>
    rw [analyze_of_nameless hnamed] at h
    cases h
  | none =>
    cases hending : (Reading.ofQuery query).ending with
    | error reported =>
      rw [analyze_of_named_malformed hnamed hending] at h
      exact congrArg Except.error (Except.error.inj h)
    | ok statement =>
      rw [analyze_of_named_statement hnamed hending] at h
      cases h

/-! ## Progress -/

/-- The declarations that are made into definitions: those before the first without a name. -/
def defined (query : String) : List Placed :=
  (Reading.ofQuery query).declarations.takeWhile fun p => !nameless p

/-- A declaration that is made into a definition takes up 14 characters at least. -/
theorem length_text_of_mem_defined {query : String} {p : Placed} (h : p ∈ defined query) :
    14 ≤ p.declaration.text.length := by
  have hnamed : (!nameless p) = true := List.all_eq_true.1 List.all_takeWhile p h
  exact Declaration.length_text_of_name (by simpa [nameless] using hnamed)

/-- The declarations of a text that have at least some length fit into the text. -/
theorem mul_length_le_of_sublist {entries : List Entry} {offset least : Nat} {placed : List Placed}
    (hplaced : placed.Sublist (Entry.placedFrom offset entries))
    (hleast : ∀ p ∈ placed, least ≤ p.declaration.text.length) :
    least * placed.length ≤ (Entry.textAll entries).length := by
  induction entries generalizing offset placed with
  | nil =>
    rw [List.sublist_nil.1 hplaced]
    exact Nat.zero_le _
  | cons e rest ih =>
    rw [Entry.textAll_cons, List.length_append, Entry.length_text]
    -- An entry that is left out takes up room too, which only helps.
    cases hplaced with
    | cons _ hrest =>
      have hle := ih hrest hleast
      omega
    | cons_cons _ hrest =>
      have hle := ih hrest fun p hp => hleast p (List.mem_cons_of_mem _ hp)
      have hfirst : least ≤ e.declaration.text.length := hleast _ List.mem_cons_self
      rw [List.length_cons, Nat.mul_succ]
      omega

/-- Fourteen characters of the query are taken up by each definition. -/
theorem length_defined_le (query : String) : 14 * (defined query).length ≤ query.length := by
  obtain ⟨entries, blanks, ahead, -, -, htext, hplaced, -⟩ :=
    Reading.exists_entries_of_scan 0 query.toList
  have hsublist : (defined query).Sublist (Entry.placedFrom 0 entries) := by
    rw [← hplaced]
    exact List.takeWhile_sublist _
  have hle := mul_length_le_of_sublist hsublist fun p => length_text_of_mem_defined
  rw [← String.length_toList, htext, List.length_append]
  omega

/-- A query that is accepted has a definition for each of its declarations. -/
theorem definitions_of_accepts {query : String} {r : ParseResult Statement Lambda}
    (h : Accepts query r) : r.definitions = (defined query).map definitionOf := by
  rcases accepts_iff_ending.1 h with ⟨hnamed, statement, -, rfl⟩
  have hall : defined query = (Reading.ofQuery query).declarations := by
    rw [defined, List.takeWhile_eq_self_iff]
    intro p hp
    simpa using List.find?_eq_none.1 hnamed p hp
  rw [hall]
  rfl

/-! ## The end of an analysis -/

/-- An analysis ends in one of few ways, and nothing goes wrong on the way there. -/
structure EndsSafely (query : String) : Prop where
  /-- The end is a result, the refusal of an empty name, or one of four missing parentheses. -/
  ending :
    (∃ r log, analyze query = .ok ⟨.ok r, log⟩) ∨
      (∃ reason log, analyze query = .ok ⟨.error reason, log⟩ ∧
        reason.failure = .invalidArgument ⟨403⟩ "function name cannot be empty" "name") ∨
      ∃ fault, analyze query = .error fault ∧
        fault.message ∈
          ["parameter list", "closed parameter list", "function body", "closed function body"]
  /-- The depth of parentheses is never counted below zero. -/
  depth : analyze query ≠ .error .unopened
  /-- The run over positions has the same end, so none of its cuts is out of range. -/
  ranges :
    Cursor.analyze query = (analyze query).mapError Cursor.Stop.malformed ∧
      ∀ start stop, Cursor.analyze query ≠ .error (.outOfRange start stop)
  /-- Each declaration ends behind its first character, and before the next one begins. -/
  advance :
    (∀ p ∈ (Reading.ofQuery query).declarations, p.offset < p.span.stop) ∧
      (Reading.ofQuery query).declarations.Pairwise fun p q => p.span.stop ≤ q.offset
  /-- Each declaration that is made into a definition takes up at least fourteen characters. -/
  progress :
    (∀ p ∈ defined query, 14 ≤ p.span.length) ∧ 14 * (defined query).length ≤ query.length ∧
      ∀ r log, analyze query = .ok ⟨.ok r, log⟩ → 14 * r.length ≤ query.length
  /-- In a balanced query every parenthesis that a declaration opens is closed. -/
  closed :
    Parenthesis.Balanced query.toList →
      analyze query ≠ .error .closedParameterList ∧ analyze query ≠ .error .closedFunctionBody

/-- A malformed declaration is reported under one of four messages. -/
theorem message_mem_of_analyze {query : String} {fault : Malformed}
    (h : analyze query = .error fault) :
    fault ≠ .unopened ∧ fault.message ∈
      ["parameter list", "closed parameter list", "function body", "closed function body"] := by
  rcases Reading.ending_eq_error (ending_of_analyze h) with rfl | rfl | ⟨rfl | rfl, -⟩ <;> decide

/-- In a balanced query no list and no body is left open. -/
theorem not_closed_of_balanced {query : String} {fault : Malformed}
    (hbalanced : Parenthesis.Balanced query.toList) (h : analyze query = .error fault) :
    fault ≠ .closedParameterList ∧ fault ≠ .closedFunctionBody := by
  rcases Reading.ending_eq_error (ending_of_analyze h) with rfl | rfl | ⟨-, hunclosed⟩
  · decide
  · decide
  · exact absurd hunclosed (Layout.not_hasUnclosed_of_balanced hbalanced)

/-- Every analysis ends safely. -/
theorem analyze_endsSafely (query : String) : EndsSafely query where
  ending := by
    cases hnamed : (Reading.ofQuery query).declarations.find? nameless with
    | some p =>
      exact Or.inr (Or.inl ⟨.emptyName p.span, _, analyze_of_nameless hnamed, rfl⟩)
    | none =>
      cases hending : (Reading.ofQuery query).ending with
      | error fault =>
        have hanalyze := analyze_of_named_malformed hnamed hending
        exact Or.inr (Or.inr ⟨fault, hanalyze, (message_mem_of_analyze hanalyze).2⟩)
      | ok statement =>
        exact Or.inl ⟨_, _, analyze_of_named_statement hnamed hending⟩
  depth h := (message_mem_of_analyze h).1 rfl
  ranges := ⟨Cursor.analyze_eq query, Cursor.analyze_ne_outOfRange query⟩
  advance := by
    obtain ⟨entries, -, -, -, -, -, hplaced, -⟩ :=
      Reading.exists_entries_of_scan 0 query.toList
    rw [Reading.ofQuery, hplaced]
    refine ⟨?_, Entry.pairwise_placedFrom 0 entries⟩
    intro p _
    have := p.declaration.length_text
    simp only [Placed.span]
    omega
  progress := by
    refine ⟨?_, length_defined_le query, ?_⟩
    · intro p hp
      have := length_text_of_mem_defined hp
      simp only [Placed.span, Span.length]
      omega
    · intro r log h
      rw [ParseResult.length, definitions_of_accepts ⟨_, h, rfl⟩, List.length_map]
      exact length_defined_le query
  closed hbalanced :=
    ⟨fun h => (not_closed_of_balanced hbalanced h).1 rfl,
      fun h => (not_closed_of_balanced hbalanced h).2 rfl⟩

end Query
end EntitySql

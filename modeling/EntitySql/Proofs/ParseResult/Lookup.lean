import EntitySql.ParseResult.Basic
import EntitySql.Proofs.Text.FinalSigma

/-!
# Looking functions up by name

The name of a definition is put into small letters character by character, and
the name that is looked up with the final sigma where a word ends.  So a name
answers to itself only if both ways agree on it.  A name in capitals that ends in
a sigma, as most Greek masculine nouns do, does not, and its definition is not
found by the very name that it was declared with.

Main results:

- Theorem `ParseResult.answers_self_iff`: a name answers to itself exactly when no
  capital sigma in it is final.
- Theorem `ParseResult.exists_function_name_iff`: exactly when the lookup of the name
  of a definition ends at the definition or before.
- Theorem `ParseResult.function_own_name_eq_none`: a definition that is not found by
  its own name.
- Theorem `ParseResult.lookupReach`: which definitions a lookup finds, and which it
  cannot.
-/

namespace EntitySql
namespace ParseResult

variable {T L : Type}

/-- A name answers to itself exactly when no capital sigma in it is final. -/
theorem answers_self_iff {name : String} :
    answers name name = true ↔ ¬ Text.HasFinalSigma name.toList := by
  rw [answers, beq_iff_eq, eq_comm]
  exact Text.lowerText_eq_lowerEach_iff

/-- A function that answers is found at the first one that does, or before it. -/
theorem function_eq_some_of_answers {r : ParseResult T L} {upTo after : List (FunctionDefinition L)}
    (h : r.definitions = upTo ++ after) {query : String} {d : FunctionDefinition L}
    (hd : d ∈ upTo) (hanswers : answers query d.name = true) :
    ∃ e, r.function query = some e ∧ e ∈ upTo := by
  have hsome : (upTo.find? fun e => answers query e.name).isSome = true :=
    List.find?_isSome.2 ⟨d, hd, hanswers⟩
  rcases Option.isSome_iff_exists.1 hsome with ⟨e, he⟩
  refine ⟨e, ?_, List.mem_of_find?_eq_some he⟩
  rw [function, h, List.find?_append, he]
  rfl

/-- A lookup ends at a definition that answers, or before it. -/
theorem exists_function_of_answers {r : ParseResult T L}
    {before after : List (FunctionDefinition L)} {d : FunctionDefinition L}
    (h : r.definitions = before ++ d :: after) {query : String}
    (hanswers : answers query d.name = true) :
    ∃ e, r.function query = some e ∧ (e = d ∨ e ∈ before) := by
  have hsplit : r.definitions = (before ++ [d]) ++ after := by
    rw [h, List.append_assoc, List.singleton_append]
  have hd : d ∈ before ++ [d] := List.mem_append_right _ (List.mem_singleton_self d)
  rcases function_eq_some_of_answers hsplit hd hanswers with ⟨e, he, hmem⟩
  rw [List.mem_append, List.mem_singleton] at hmem
  exact ⟨e, he, hmem.symm⟩

/-- What is found answers to the name that was looked up. -/
theorem answers_of_function {r : ParseResult T L} {query : String} {e : FunctionDefinition L}
    (h : r.function query = some e) : answers query e.name = true := by
  have hfound := List.find?_some h
  exact hfound

/-- The lookup of the name of a definition ends at the definition or before it exactly when no
capital sigma in the name is final, or a definition before it answers to the name. -/
theorem exists_function_name_iff {r : ParseResult T L} {before after : List (FunctionDefinition L)}
    {d : FunctionDefinition L} (h : r.definitions = before ++ d :: after) :
    (∃ e, r.function d.name = some e ∧ (e = d ∨ e ∈ before)) ↔
      ¬ Text.HasFinalSigma d.name.toList ∨ ∃ e ∈ before, answers d.name e.name = true := by
  constructor
  · intro hfound
    rcases hfound with ⟨e, he, rfl | hbefore⟩
    · exact Or.inl (answers_self_iff.1 (answers_of_function he))
    · exact Or.inr ⟨e, hbefore, answers_of_function he⟩
  · intro hanswers
    rcases hanswers with hsigma | ⟨e, hbefore, he⟩
    · exact exists_function_of_answers h (answers_self_iff.2 hsigma)
    · rcases function_eq_some_of_answers h hbefore he with ⟨found, hfound, hmem⟩
      exact ⟨found, hfound, Or.inr hmem⟩

/-- A name with two capital sigmas, neither of them final, is found behind a name that does not
answer to it. -/
theorem exists_function_sigma_within :
    let other : FunctionDefinition String := ⟨"ΟΔΟΣ", "a", ⟨0, 4⟩⟩
    let d : FunctionDefinition String := ⟨"ΣΩΣΙΑ", "b", ⟨4, 9⟩⟩
    let r : ParseResult String String := ⟨"t", [other, d]⟩
    r.definitions = [other] ++ d :: [] ∧ ¬ Text.HasFinalSigma d.name.toList ∧
      ∃ e, r.function d.name = some e ∧ (e = d ∨ e ∈ [other]) := by
  intro other d r
  have hsigma : ¬ Text.HasFinalSigma d.name.toList := by decide
  have hsplit : r.definitions = [other] ++ d :: [] := rfl
  exact ⟨hsplit, hsigma, (exists_function_name_iff hsplit).2 (Or.inl hsigma)⟩

/-- A definition whose name ends in a capital sigma is not found by its own name. -/
theorem function_own_name_eq_none :
    let d : FunctionDefinition String := ⟨"ΟΔΟΣ", "b", ⟨0, 1⟩⟩
    let r : ParseResult String String := ⟨"t", [d]⟩
    d ∈ r.definitions ∧ d.name ≠ "" ∧ r.function d.name = none := by
  decide

/-! ## The reach of the lookup -/

/-- Without a final sigma in the query, a name answers when both are the same in small letters. -/
theorem answers_iff {query name : String} (h : ¬ Text.HasFinalSigma query.toList) :
    answers query name = true ↔ Text.lowerEach name.toList = Text.lowerEach query.toList := by
  rw [answers, beq_iff_eq, Text.lowerText_eq_lowerEach_iff.2 h]

/-- A query with a final sigma is answered only by names that differ from it in small letters. -/
theorem lowerEach_ne_of_answers {query name : String} (h : Text.HasFinalSigma query.toList)
    (hanswers : answers query name = true) :
    Text.lowerEach name.toList ≠ Text.lowerEach query.toList := by
  rw [answers, beq_iff_eq] at hanswers
  intro hsame
  exact Text.lowerText_eq_lowerEach_iff.1 (hanswers.symm.trans hsame) h

/-- Without a final sigma in the query, the function found is the first one whose name is the same
in small letters. -/
theorem function_eq_some_iff {r : ParseResult T L} {query : String}
    (h : ¬ Text.HasFinalSigma query.toList) {d : FunctionDefinition L} :
    r.function query = some d ↔
      ∃ before after, r.definitions = before ++ d :: after ∧
        Text.lowerEach d.name.toList = Text.lowerEach query.toList ∧
        ∀ e ∈ before, Text.lowerEach e.name.toList ≠ Text.lowerEach query.toList := by
  rw [function, List.find?_eq_some_iff_append, answers_iff h]
  constructor
  · intro hfound
    rcases hfound with ⟨hname, before, after, hsplit, hbefore⟩
    refine ⟨before, after, hsplit, hname, fun e he hsame => ?_⟩
    have hsilent := hbefore e he
    rw [(answers_iff h).2 hsame] at hsilent
    exact absurd hsilent (by decide)
  · intro hfirst
    rcases hfirst with ⟨before, after, hsplit, hname, hbefore⟩
    refine ⟨hname, before, after, hsplit, fun e he => ?_⟩
    rw [Bool.not_eq_true', ← Bool.not_eq_true, answers_iff h]
    exact hbefore e he

/-- Without a final sigma in the query, nothing is found exactly when every name differs from it in
small letters. -/
theorem function_eq_none_iff {r : ParseResult T L} {query : String}
    (h : ¬ Text.HasFinalSigma query.toList) :
    r.function query = none ↔
      ∀ d ∈ r.definitions, Text.lowerEach d.name.toList ≠ Text.lowerEach query.toList := by
  simp only [function, List.find?_eq_none, answers_iff h, ne_eq]

/-- A result that declares only one function finds it by its own name exactly when no capital sigma
in the name is final. -/
theorem function_singleton_name_iff {tree : T} {d : FunctionDefinition L} :
    function ⟨tree, [d]⟩ d.name = some d ↔ ¬ Text.HasFinalSigma d.name.toList := by
  rw [← answers_self_iff]
  constructor
  · exact answers_of_function
  · intro hanswers
    exact List.find?_cons_of_pos hanswers

/-- Looking a declared name up ends at a name that is the same in small letters exactly when no
capital sigma in it is final. -/
theorem exists_function_same_iff {r : ParseResult T L} {d : FunctionDefinition L}
    (hd : d ∈ r.definitions) :
    (∃ e, r.function d.name = some e ∧
        Text.lowerEach e.name.toList = Text.lowerEach d.name.toList) ↔
      ¬ Text.HasFinalSigma d.name.toList := by
  constructor
  · intro hfound hsigma
    rcases hfound with ⟨e, he, hsame⟩
    exact lowerEach_ne_of_answers hsigma (answers_of_function he) hsame
  · intro hsigma
    rcases function_eq_some_of_answers (List.append_nil _).symm hd (answers_self_iff.2 hsigma) with
      ⟨e, he, -⟩
    exact ⟨e, he, (answers_iff hsigma).1 (answers_of_function he)⟩

/--
Which definitions a lookup can reach.  A final sigma in the query decides it, and
where a capital sigma is final is read off the characters on both sides of it.
-/
structure LookupReach (r : ParseResult T L) (query : String) : Prop where
  sigma : ∀ text, Text.HasFinalSigma text ↔
    ∃ before after, text = before ++ 'Σ' :: after ∧
      Text.ReachesCased before.reverse ∧ ¬ Text.ReachesCased after
  found : ¬ Text.HasFinalSigma query.toList → ∀ d,
    r.function query = some d ↔
      ∃ before after, r.definitions = before ++ d :: after ∧
        Text.lowerEach d.name.toList = Text.lowerEach query.toList ∧
        ∀ e ∈ before, Text.lowerEach e.name.toList ≠ Text.lowerEach query.toList
  missed : ¬ Text.HasFinalSigma query.toList →
    (r.function query = none ↔
      ∀ d ∈ r.definitions, Text.lowerEach d.name.toList ≠ Text.lowerEach query.toList)
  /-- With a final sigma, a name that is the same in small letters is out of reach. -/
  barred : Text.HasFinalSigma query.toList → ∀ d, r.function query = some d →
    Text.lowerEach d.name.toList ≠ Text.lowerEach query.toList
  own : ∀ d : FunctionDefinition L,
    answers d.name d.name = true ↔ ¬ Text.HasFinalSigma d.name.toList
  ownAlone : ∀ d : FunctionDefinition L,
    function ⟨r.tree, [d]⟩ d.name = some d ↔ ¬ Text.HasFinalSigma d.name.toList
  ownAmong : ∀ d ∈ r.definitions,
    (∃ e, r.function d.name = some e ∧
        Text.lowerEach e.name.toList = Text.lowerEach d.name.toList) ↔
      ¬ Text.HasFinalSigma d.name.toList

/-- A lookup reaches the first name that is the same in small letters, unless a capital sigma in the
query is final. -/
theorem lookupReach (r : ParseResult T L) (query : String) : LookupReach r query where
  sigma _ := Text.hasFinalSigma_iff
  found h _ := function_eq_some_iff h
  missed h := function_eq_none_iff h
  barred h _ hfound := lowerEach_ne_of_answers h (answers_of_function hfound)
  own _ := answers_self_iff
  ownAlone _ := function_singleton_name_iff
  ownAmong _ hd := exists_function_same_iff hd

-- The first name is the query itself, but only the second one has the final sigma in it.
example :
    let capitals : FunctionDefinition String := ⟨"ΟΔΟΣ", "a", ⟨0, 4⟩⟩
    let small : FunctionDefinition String := ⟨"οδος", "b", ⟨4, 8⟩⟩
    let r : ParseResult String String := ⟨"t", [capitals, small]⟩
    r.function "ΟΔΟΣ" = some small := by
  decide

end ParseResult
end EntitySql

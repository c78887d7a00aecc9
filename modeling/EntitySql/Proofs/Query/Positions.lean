import EntitySql.Proofs.Query.Acceptance
import EntitySql.Proofs.Source.Slice

/-!
# Positions of declared functions

The definitions of an accepted query lie in its text one behind the other.  So
the check of their spans passes, an offset lies in one definition at most, which
the lookup by offset finds, and every span cuts the written declaration out of
the text.

Main results:

- Theorem `ParseResult.Ordered.functionAt_eq_some_iff`: with ordered spans the
  lookup by offset finds the only definition that contains the offset.
- Theorem `Entry.covered_span`: a span covers the written form of its declaration.
- Theorem `Query.positioned_of_accepts`: where the definitions of an accepted query
  lie, and what is found by their positions.
-/

namespace EntitySql

/-! ## Results with ordered spans -/

namespace ParseResult

variable {T L : Type}

/-- The definitions that contain an offset. -/
def containing (r : ParseResult T L) (offset : Nat) : List (FunctionDefinition L) :=
  r.definitions.filter fun d => d.span.start ≤ offset ∧ offset < d.span.stop

/-- A definition contains an offset that lies between the ends of its span. -/
theorem mem_containing_iff {r : ParseResult T L} {offset : Nat} {d : FunctionDefinition L} :
    d ∈ r.containing offset ↔
      d ∈ r.definitions ∧ d.span.start ≤ offset ∧ offset < d.span.stop := by
  rw [containing, List.mem_filter, decide_eq_true_eq]

/-- The lookup by offset gives the first definition that contains the offset. -/
theorem functionAt_eq_head? (r : ParseResult T L) (offset : Nat) :
    r.functionAt offset = (r.containing offset).head? := by
  have hsame (d : FunctionDefinition L) :
      d.span.contains offset = decide (d.span.start ≤ offset ∧ offset < d.span.stop) :=
    (Bool.decide_and ..).symm
  rw [containing, List.head?_filter, functionAt]
  simp only [hsame]

/-- Every definition ends before those behind it begin. -/
def Ordered (r : ParseResult T L) : Prop :=
  r.definitions.Pairwise fun d e => d.span.stop ≤ e.span.start

/-- With ordered spans at most one definition contains an offset. -/
theorem Ordered.length_containing_le {r : ParseResult T L} (h : r.Ordered) (offset : Nat) :
    (r.containing offset).length ≤ 1 := by
  have hordered : (r.containing offset).Pairwise fun d e => d.span.stop ≤ e.span.start :=
    List.Pairwise.filter _ h
  have hcontains : ∀ d ∈ r.containing offset, d.span.start ≤ offset ∧ offset < d.span.stop := by
    intro d hd
    exact (mem_containing_iff.1 hd).2
  -- Of two such definitions the first would end behind the offset and the second begin before it.
  cases hfirst : r.containing offset with
  | nil => exact Nat.zero_le _
  | cons d rest =>
    cases rest with
    | nil => exact Nat.le_refl _
    | cons e rest =>
      rw [hfirst] at hordered hcontains
      have hle : d.span.stop ≤ e.span.start :=
        (List.pairwise_cons.1 hordered).1 e List.mem_cons_self
      have hd := hcontains d List.mem_cons_self
      have he := hcontains e (List.mem_cons_of_mem d List.mem_cons_self)
      omega

/-- With ordered spans the lookup by offset finds exactly the definition that contains it. -/
theorem Ordered.functionAt_eq_some_iff {r : ParseResult T L} (h : r.Ordered) {offset : Nat}
    {d : FunctionDefinition L} :
    r.functionAt offset = some d ↔
      d ∈ r.definitions ∧ d.span.start ≤ offset ∧ offset < d.span.stop := by
  have hlength := h.length_containing_le offset
  rw [← mem_containing_iff, functionAt_eq_head?]
  cases hfirst : r.containing offset with
  | nil => simp
  | cons e rest =>
    rw [hfirst, List.length_cons] at hlength
    have hrest : rest = [] := List.length_eq_zero_iff.1 (by omega)
    rw [hrest, List.head?_cons, Option.some.injEq, List.mem_singleton]
    exact eq_comm

end ParseResult

/-! ## Declarations in the text -/

namespace Entry

/-- A declaration is written where it is placed. -/
theorem exists_split_of_mem_placedFrom {entries : List Entry} {offset : Nat} {p : Placed}
    (h : p ∈ placedFrom offset entries) :
    ∃ before behind, textAll entries = before ++ (p.declaration.text ++ behind) ∧
      p.offset = offset + before.length := by
  induction entries generalizing offset with
  | nil => cases h
  | cons e rest ih =>
    rcases List.mem_cons.1 h with rfl | hmem
    · exact ⟨e.blanks, textAll rest, by rw [textAll_cons, text, List.append_assoc], rfl⟩
    · rcases ih hmem with ⟨before, behind, htext, hoffset⟩
      refine ⟨e.text ++ before, behind, ?_, ?_⟩
      · rw [textAll_cons, htext, List.append_assoc]
      · rw [hoffset, List.length_append, Nat.add_assoc]

/-- The span of a declaration covers its written form. -/
theorem covered_span {entries : List Entry} {p : Placed} (h : p ∈ placedFrom 0 entries)
    (rest : List Char) : p.span.covered (textAll entries ++ rest) = p.declaration.text := by
  rcases exists_split_of_mem_placedFrom h with ⟨before, behind, htext, hoffset⟩
  have hstart : p.span.start = before.length := by
    rw [Placed.span, hoffset, Nat.zero_add]
  have hlength : p.span.length = p.declaration.text.length := by
    rw [Span.length, Placed.span]
    exact Nat.add_sub_cancel_left ..
  rw [Span.covered, hstart, hlength, htext, List.append_assoc, List.drop_left, List.append_assoc,
    List.take_left]

end Entry

namespace Query

/-- A declaration as it is written. -/
theorem ofList_text (d : Declaration) :
    String.ofList d.text =
      "FUNCTION " ++ String.ofList d.name ++ "(" ++ String.ofList d.params ++ ")" ++
        String.ofList d.gap ++ "(" ++ String.ofList d.body ++ ")" := by
  apply String.toList_inj.1
  simp [Declaration.text, Declaration.keyword]

/-! ## The definitions of an accepted query -/

/-- The definitions of a result lie in a query one behind the other, each where it is written. -/
structure Positioned (query : String) (r : ParseResult Statement Lambda) : Prop where
  /-- No span is empty, and the query reaches the end of each. -/
  bounds : ∀ d ∈ r.definitions, d.span.start < d.span.stop ∧ d.span.stop ≤ query.length
  /-- Each span ends where the next one begins, or before. -/
  ordered : r.definitions.Pairwise fun d e => d.span.stop ≤ e.span.start
  /-- The check of the spans passes. -/
  checked : (r.checkSpans query).result = .ok ()
  /-- At most one definition contains an offset. -/
  unique : ∀ offset,
    (r.definitions.filter fun d => d.span.start ≤ offset ∧ offset < d.span.stop).length ≤ 1
  /-- The lookup by offset finds the definition that contains it. -/
  found : ∀ offset d,
    r.functionAt offset = some d ↔
      d ∈ r.definitions ∧ d.span.start ≤ offset ∧ offset < d.span.stop
  /-- The lookup by offset finds nothing where no definition contains it. -/
  missing : ∀ offset,
    r.functionAt offset = none ↔
      ∀ d ∈ r.definitions, ¬(d.span.start ≤ offset ∧ offset < d.span.stop)
  /-- Each span cuts a declaration out of the query, which begins with the name and the parameters
  and ends with the body. -/
  source : ∀ d ∈ r.definitions, ∃ gap,
    d.sourceText query =
      some ("FUNCTION " ++ d.name ++ "(" ++ d.lambda.params ++ ")" ++ gap ++
        "(" ++ d.lambda.body ++ ")")

/-- The definitions of an accepted query are positioned in it. -/
theorem positioned_of_accepts {query : String} {r : ParseResult Statement Lambda}
    (h : Accepts query r) : Positioned query r := by
  rcases Decomposition.exists_of_accepts h with ⟨d, hd, rfl⟩
  have htext : query.toList = Entry.textAll d.entries ++ (d.blanks ++ d.statement) := hd.text.symm
  rw [d.result_eq]
  have hbounds : ∀ e ∈ (resultOf (Entry.placedFrom 0 d.entries) d.statement).definitions,
      e.span.start < e.span.stop ∧ e.span.stop ≤ query.length := by
    intro e he
    rcases List.mem_map.1 he with ⟨p, hp, rfl⟩
    have hstop := (Entry.bounds_of_mem_placedFrom hp).2
    have hpos := p.declaration.length_text
    rw [← String.length_toList, htext, List.length_append]
    simp only [definitionOf, Placed.span] at hstop ⊢
    omega
  have hordered : (resultOf (Entry.placedFrom 0 d.entries) d.statement).Ordered := by
    apply List.pairwise_map.2
    exact Entry.pairwise_placedFrom 0 d.entries
  refine ⟨hbounds, hordered, ?_, hordered.length_containing_le, ?_, ?_, ?_⟩
  · rw [ParseResult.checkSpans_result_eq_ok_iff]
    intro e he
    have := hbounds e he
    omega
  · intro offset e
    exact hordered.functionAt_eq_some_iff
  · intro offset
    exact ParseResult.functionAt_eq_none_iff
  · intro e he
    have hfits := hbounds e he
    rcases List.mem_map.1 he with ⟨p, hp, rfl⟩
    refine ⟨String.ofList p.declaration.gap, ?_⟩
    rw [FunctionDefinition.sourceText, Span.slice_of_le (Nat.le_of_lt hfits.1) hfits.2, htext]
    exact congrArg some ((congrArg _ (Entry.covered_span hp _)).trans (ofList_text p.declaration))

/-- Two functions, the first with a name beyond ASCII and a nested body. -/
theorem positioned_nested_body :
    let query := "FUNCTION ß(s) AS (f(s)) FUNCTION g() AS (1) S"
    let r : ParseResult Statement Lambda :=
      { tree := ⟨"S"⟩
        definitions := [⟨"ß", ⟨"s", "f(s)"⟩, ⟨0, 23⟩⟩, ⟨"g", ⟨"", "1"⟩, ⟨24, 43⟩⟩] }
    Accepts query r ∧ Positioned query r := by
  intro query r
  let first : Entry := ⟨[], ⟨['ß'], ['s'], [' ', 'A', 'S', ' '], ['f', '(', 's', ')']⟩⟩
  let second : Entry := ⟨[' '], ⟨['g'], [], [' ', 'A', 'S', ' '], ['1']⟩⟩
  let d : Decomposition := ⟨[first, second], [' '], ['S']⟩
  have hd : d.Decomposes query := by
    refine ⟨⟨by decide, by decide, ?_, by decide⟩, by decide, by decide⟩
    intro c rest h
    rw [(List.cons.inj h).1.symm]
    decide
  have hresult : d.result = r := by decide
  have h : Accepts query r := hresult ▸ Decomposition.accepts_result hd
  exact ⟨h, positioned_of_accepts h⟩

end Query
end EntitySql

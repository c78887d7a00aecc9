import EntitySql.Proofs.Query.Composition
import EntitySql.Proofs.Query.Positions

/-!
# Analysing the parts of a query

The span of a definition cuts its declaration out of the query, and a declaration
is read by its own characters alone.  So the text of every definition of an
accepted query is itself an accepted query, which declares the same function and
has no statement; and the statement of an accepted query is one that declares
nothing.

Main results:

- Theorem `Decomposition.slice_span`: a span cuts out the declaration that is placed there.
- Theorem `Decomposition.decomposes_declaration`: a declaration alone is a query.
- Theorem `Query.reanalyses_of_accepts`: what the parts of an accepted query are
  analysed as.
-/

namespace EntitySql

/-- A declaration that is placed is the one of an entry. -/
theorem Entry.exists_mem_of_mem_placedFrom {entries : List Entry} {offset : Nat} {p : Placed}
    (h : p ∈ placedFrom offset entries) : ∃ e ∈ entries, e.declaration = p.declaration := by
  induction entries generalizing offset with
  | nil => cases h
  | cons e rest ih =>
    rcases List.mem_cons.1 h with rfl | hmem
    · exact ⟨e, List.mem_cons_self, rfl⟩
    · rcases ih hmem with ⟨f, hf, hdeclaration⟩
      exact ⟨f, List.mem_cons_of_mem e hf, hdeclaration⟩

namespace Decomposition

/-- A span cuts out of a query the declaration that is placed there. -/
theorem slice_span {d : Decomposition} {query : String} (h : d.Decomposes query) {p : Placed}
    (hp : p ∈ Entry.placedFrom 0 d.entries) :
    p.span.slice query = some (String.ofList p.declaration.text) := by
  have htext : query.toList = Entry.textAll d.entries ++ (d.blanks ++ d.statement) := h.text.symm
  have horder : p.span.start ≤ p.span.stop := Nat.le_add_right ..
  have hstop : p.span.stop ≤ query.length := by
    have hentries := (Entry.bounds_of_mem_placedFrom hp).2
    rw [← String.length_toList, htext, List.length_append]
    omega
  rw [Span.slice_of_le horder hstop, htext, Entry.covered_span hp]

/-- A declaration alone is a query. -/
theorem decomposes_declaration {d : Declaration} (h : d.WellFormed) (hname : d.name ≠ []) :
    (Decomposition.mk [⟨[], d⟩] [] []).Decomposes (String.ofList d.text) where
  wellFormed :=
    { entries := List.forall_mem_singleton.2 ⟨nofun, h⟩
      blanks := nofun
      statement := Query.isStatement_nil }
  named := List.forall_mem_singleton.2 hname
  text := by
    rw [String.toList_ofList]
    simp [Decomposition.text, Entry.text]

/-- A statement alone is a query. -/
theorem decomposes_statement {statement : List Char} (h : IsStatement statement) :
    (Decomposition.mk [] [] statement).Decomposes (String.ofList statement) where
  wellFormed := ⟨nofun, nofun, h⟩
  named := nofun
  text := by
    rw [String.toList_ofList]
    rfl

end Decomposition

namespace Query

/-- The text of a declaration is accepted with its definition, moved to the beginning. -/
theorem accepts_declaration {p : Placed} (h : p.declaration.WellFormed)
    (hname : p.declaration.name ≠ []) :
    Accepts (String.ofList p.declaration.text)
      ⟨⟨""⟩, [{ definitionOf p with span := ⟨0, (definitionOf p).span.length⟩ }]⟩ := by
  have haccepts := Decomposition.accepts_result (Decomposition.decomposes_declaration h hname)
  have hlength : (definitionOf p).span.length = 0 + p.declaration.text.length := by
    rw [Nat.zero_add]
    exact Nat.add_sub_cancel_left ..
  rw [hlength]
  exact haccepts

/-- The parts of a query are analysed alone as they are in the query. -/
structure Reanalyses (query : String) (r : ParseResult Statement Lambda) : Prop where
  /-- Every definition has a text, which declares the same function at its beginning and has no
  statement. -/
  definitions : ∀ d ∈ r.definitions, ∃ text, d.sourceText query = some text ∧
    Accepts text ⟨⟨""⟩, [{ d with span := ⟨0, d.span.length⟩ }]⟩
  /-- The statement declares nothing and is its own statement. -/
  statement : Accepts r.tree.text ⟨r.tree, []⟩

/-- The declarations and the statement of an accepted query are accepted as what they are. -/
theorem reanalyses_of_accepts {query : String} {r : ParseResult Statement Lambda}
    (h : Accepts query r) : Reanalyses query r := by
  rcases Decomposition.exists_of_accepts h with ⟨d, hd, rfl⟩
  constructor
  · intro e he
    rw [d.result_eq] at he
    rcases List.mem_map.1 he with ⟨p, hp, rfl⟩
    rcases Entry.exists_mem_of_mem_placedFrom hp with ⟨entry, hentry, hdeclaration⟩
    have hwellFormed := (hd.wellFormed.entries entry hentry).declaration
    have hname := hd.named entry hentry
    rw [hdeclaration] at hwellFormed hname
    exact ⟨_, Decomposition.slice_span hd hp, accepts_declaration hwellFormed hname⟩
  · exact Decomposition.accepts_result (Decomposition.decomposes_statement hd.wellFormed.statement)

/-- A function with a name beyond ASCII, and one whose body looks like a declaration. -/
theorem reanalyses_declaration_within_body :
    let query := "FUNCTION ü(a(b)) IS (x) FUNCTION g() (FUNCTION h() (1)) S"
    let first : FunctionDefinition Lambda := ⟨"ü", ⟨"a(b)", "x"⟩, ⟨0, 23⟩⟩
    let second : FunctionDefinition Lambda := ⟨"g", ⟨"", "FUNCTION h() (1)"⟩, ⟨24, 55⟩⟩
    let r : ParseResult Statement Lambda := ⟨⟨"S"⟩, [first, second]⟩
    Accepts query r ∧ Reanalyses query r ∧
      Accepts "FUNCTION g() (FUNCTION h() (1))"
        ⟨⟨""⟩, [⟨"g", ⟨"", "FUNCTION h() (1)"⟩, ⟨0, 31⟩⟩]⟩ := by
  intro query first second r
  let d : Decomposition :=
    ⟨[⟨[], ⟨"ü".toList, "a(b)".toList, " IS ".toList, "x".toList⟩⟩,
      ⟨[' '], ⟨"g".toList, [], [' '], "FUNCTION h() (1)".toList⟩⟩], [' '], ['S']⟩
  have hd : d.Decomposes query := by
    refine ⟨⟨by decide, by decide, ?_, by decide⟩, by decide, by decide⟩
    intro c rest h
    rw [(List.cons.inj h).1.symm]
    decide
  have hresult : d.result = r := by decide
  have h : Accepts query r := hresult ▸ Decomposition.accepts_result hd
  have hparts := reanalyses_of_accepts h
  refine ⟨h, hparts, ?_⟩
  rcases hparts.definitions second (by decide) with ⟨text, htext, haccepts⟩
  have hsource : second.sourceText query = some "FUNCTION g() (FUNCTION h() (1))" := by decide
  rw [hsource] at htext
  cases htext
  exact haccepts

end Query
end EntitySql

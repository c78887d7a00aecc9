import EntitySql.Proofs.Query.Decomposition
import EntitySql.Query.Analysis

/-!
# Accepted queries

The analysis accepts a query when every declaration is made into a definition
and the reading ends with a statement.  A definition is made from every
declaration that has a name, whatever else it holds: its lambda is there and its
span is not reversed.  So the accepted queries are the texts with a
decomposition in which every declaration has a name, and the result is read off
the decomposition.

Main results:

- Theorem `Query.defineAll_of_named` and `Query.defineAll_of_nameless`: the first
  declaration without a name decides whether all definitions are made.
- Theorem `Query.accepts_iff_ending`: acceptance in terms of the reading.
- Theorem `Query.accepts_iff_decomposition`: acceptance in terms of the written
  form of a query, which determines its decomposition.
-/

namespace EntitySql
namespace Query

/-! ## Making the definitions -/

/-- The definition that is made from a declaration. -/
def definitionOf (p : Placed) : FunctionDefinition Lambda where
  name := String.ofList p.declaration.name
  lambda := lambdaOf p.declaration
  span := p.span

/-- A declaration without a name. -/
def nameless (p : Placed) : Bool :=
  p.declaration.name.isEmpty

/-- The definitions are added behind those that a builder holds. -/
def addAll (b : QueryBuilder) (placed : List Placed) : QueryBuilder :=
  { b with definitions := b.definitions ++ placed.map definitionOf }

/-- A declaration ends behind its beginning. -/
theorem span_not_isReversed (p : Placed) : p.span.isReversed = false := by
  have hle : p.offset ≤ p.offset + p.declaration.text.length := Nat.le_add_right ..
  exact Span.isReversed_eq_false_iff.2 hle

/-- A declaration with a name is made into a definition, in strict mode as well. -/
theorem define_of_named {p : Placed} (h : nameless p = false) (b : QueryBuilder) :
    define b p = pure (b.push (definitionOf p)) := by
  have hname : String.ofList p.declaration.name ≠ "" := by
    simpa [nameless] using h
  simp [define, Builder.define, FunctionDefinition.make, hname, span_not_isReversed,
    definitionOf, bind, Outcome.andThen, pure, Outcome.accept]

/-- A declaration without a name is refused, whatever else it holds. -/
theorem define_of_nameless {p : Placed} (h : nameless p = true) (b : QueryBuilder) :
    define b p = .reject (.emptyName p.span) := by
  have hname : p.declaration.name = [] := by
    simpa [nameless] using h
  simp [define, Builder.define, FunctionDefinition.make, hname, bind, Outcome.andThen,
    Outcome.reject]

/-- When every declaration has a name, all definitions are made. -/
theorem defineAll_of_named {placed : List Placed} (h : placed.find? nameless = none)
    (b : QueryBuilder) : defineAll b placed = pure (addAll b placed) := by
  induction placed generalizing b with
  | nil => simp [addAll]
  | cons p rest ih =>
    rw [List.find?_cons] at h
    split at h
    · cases h
    · rename_i hp
      rw [defineAll, define_of_named (by simpa using hp)]
      rw [Outcome.bind_of_ok rfl, ih h]
      simp [addAll, Builder.push, pure, Outcome.accept]

/-- The first declaration without a name is the reason of a refusal. -/
theorem defineAll_of_nameless {placed : List Placed} {p : Placed}
    (h : placed.find? nameless = some p) (b : QueryBuilder) :
    defineAll b placed = .reject (.emptyName p.span) := by
  induction placed generalizing b with
  | nil => cases h
  | cons q rest ih =>
    rw [List.find?_cons] at h
    split at h
    · rename_i hq
      cases h
      rw [defineAll, define_of_nameless hq, Outcome.bind_of_error rfl]
      rfl
    · rename_i hq
      -- The definitions that are made before it leave no records, so only the refusal is logged.
      rw [defineAll, define_of_named (by simpa using hq), Outcome.bind_of_ok rfl, ih h]
      rfl

/-! ## The outcome of an analysis -/

/-- A declaration without a name ends the analysis with a refusal, whatever comes after it. -/
theorem analyze_of_nameless {query : String} {p : Placed}
    (h : (Reading.ofQuery query).declarations.find? nameless = some p) :
    analyze query = .ok (.reject (.emptyName p.span)) := by
  simp [analyze, ofReading, defineAll_of_nameless h, Outcome.reject]

/-- When all declarations have names, a malformed one behind them ends the analysis. -/
theorem analyze_of_named_malformed {query : String} {fault : Malformed}
    (hnamed : (Reading.ofQuery query).declarations.find? nameless = none)
    (hending : (Reading.ofQuery query).ending = .error fault) :
    analyze query = .error fault :=
  analyze_of_malformed hending (congrArg Outcome.result (defineAll_of_named hnamed _))

/-- The result of a reading that ends with a statement. -/
def resultOf (placed : List Placed) (statement : List Char) : ParseResult Statement Lambda where
  tree := ⟨String.ofList statement⟩
  definitions := placed.map definitionOf

/-- When all declarations have names and a statement follows, the result has them all. -/
theorem analyze_of_named_statement {query : String} {statement : List Char}
    (hnamed : (Reading.ofQuery query).declarations.find? nameless = none)
    (hending : (Reading.ofQuery query).ending = .ok statement) :
    analyze query =
      .ok (.accept (resultOf (Reading.ofQuery query).declarations statement)
        [ParseResult.createdTrace (Reading.ofQuery query).declarations.length]) := by
  simp [analyze, ofReading, defineAll_of_named hnamed, hending, pure, Outcome.accept, bind,
    Outcome.andThen, finish, Builder.setTree, addAll, Builder.empty, Builder.build,
    ParseResult.ofParts, resultOf]

/-- A query is accepted with a result. -/
def Accepts (query : String) (r : ParseResult Statement Lambda) : Prop :=
  ∃ outcome, analyze query = .ok outcome ∧ outcome.result = .ok r

/-- A query is accepted when its reading ends with a statement and every declaration has a name. -/
theorem accepts_iff_ending {query : String} {r : ParseResult Statement Lambda} :
    Accepts query r ↔
      (Reading.ofQuery query).declarations.find? nameless = none ∧
        ∃ statement, (Reading.ofQuery query).ending = .ok statement ∧
          r = resultOf (Reading.ofQuery query).declarations statement := by
  constructor
  · intro h
    rcases h with ⟨outcome, houtcome, hr⟩
    cases hnamed : (Reading.ofQuery query).declarations.find? nameless with
    | some p =>
      rw [analyze_of_nameless hnamed, Except.ok.injEq] at houtcome
      subst houtcome
      cases hr
    | none =>
      cases hending : (Reading.ofQuery query).ending with
      | error fault =>
        rw [analyze_of_named_malformed hnamed hending] at houtcome
        cases houtcome
      | ok statement =>
        rw [analyze_of_named_statement hnamed hending, Except.ok.injEq] at houtcome
        subst houtcome
        rw [Outcome.accept_result, Except.ok.injEq] at hr
        exact ⟨rfl, statement, rfl, hr.symm⟩
  · intro h
    rcases h with ⟨hnamed, statement, hending, rfl⟩
    exact ⟨_, analyze_of_named_statement hnamed hending, rfl⟩

end Query

/-! ## Acceptance in terms of the written form -/

namespace Entry

/-- Each declaration is placed behind all that is written before it. -/
theorem placedFrom_eq_mapIdx (offset : Nat) (entries : List Entry) :
    placedFrom offset entries =
      entries.mapIdx fun i e =>
        ⟨e.declaration, offset + (textAll (entries.take i) ++ e.blanks).length⟩ := by
  induction entries generalizing offset with
  | nil => rfl
  | cons e rest ih =>
    rw [placedFrom, ih, List.mapIdx_cons]
    simp only [List.take_zero, textAll_nil, List.nil_append, List.take_succ_cons, textAll_cons,
      List.length_append, Nat.add_assoc]

/-- No placed declaration is nameless exactly when every entry has a name. -/
theorem find?_nameless_placedFrom_eq_none_iff {offset : Nat} {entries : List Entry} :
    (placedFrom offset entries).find? Query.nameless = none ↔
      ∀ e ∈ entries, e.declaration.name ≠ [] := by
  induction entries generalizing offset with
  | nil => simp [placedFrom]
  | cons e rest ih =>
    simp only [List.find?_eq_none] at ih ⊢
    rw [placedFrom, List.forall_mem_cons, List.forall_mem_cons, ih]
    simp [Query.nameless]

end Entry

namespace Decomposition

/-- The definitions that a decomposition declares.  The span of each begins behind everything that
is written before its declaration and ends behind the declaration. -/
def definitions (d : Decomposition) : List (FunctionDefinition Lambda) :=
  d.entries.mapIdx fun i e =>
    let start := (Entry.textAll (d.entries.take i) ++ e.blanks).length
    { name := String.ofList e.declaration.name
      lambda := ⟨String.ofList e.declaration.params, String.ofList e.declaration.body⟩
      span := ⟨start, start + e.declaration.text.length⟩ }

/-- The result that a decomposition stands for. -/
def result (d : Decomposition) : ParseResult Statement Lambda where
  tree := ⟨String.ofList d.statement⟩
  definitions := d.definitions

/-- A decomposition of a query into blanks, declarations with names, and a statement. -/
structure Decomposes (d : Decomposition) (query : String) : Prop where
  wellFormed : d.WellFormed
  named : ∀ e ∈ d.entries, e.declaration.name ≠ []
  text : d.text = query.toList

/-- The result of a decomposition is that of the declarations where they are placed. -/
theorem result_eq (d : Decomposition) :
    d.result = Query.resultOf (Entry.placedFrom 0 d.entries) d.statement := by
  rw [result, Query.resultOf, ParseResult.mk.injEq, Entry.placedFrom_eq_mapIdx]
  refine ⟨rfl, List.ext_getElem? fun i => ?_⟩
  rw [List.getElem?_map, List.getElem?_mapIdx, definitions, List.getElem?_mapIdx, Option.map_map]
  simp only [Nat.zero_add]
  rfl

/-- A query is accepted with the result of its decomposition. -/
theorem accepts_result {d : Decomposition} {query : String} (h : d.Decomposes query) :
    Query.Accepts query d.result := by
  have hscan : Reading.ofQuery query = ⟨Entry.placedFrom 0 d.entries, .ok d.statement⟩ := by
    rw [Reading.ofQuery, ← h.text]
    exact scan_text h.wellFormed 0
  rw [Query.accepts_iff_ending, hscan]
  refine ⟨?_, d.statement, rfl, d.result_eq⟩
  exact Entry.find?_nameless_placedFrom_eq_none_iff.2 h.named

/-- A query that is accepted has a decomposition. -/
theorem exists_of_accepts {query : String} {r : ParseResult Statement Lambda}
    (h : Query.Accepts query r) : ∃ d : Decomposition, d.Decomposes query ∧ d.result = r := by
  rcases Query.accepts_iff_ending.1 h with ⟨hnamed, statement, hending, rfl⟩
  rcases exists_of_scan hending with ⟨d, hd, htext, rfl, hplaced⟩
  rw [Reading.ofQuery, hplaced] at hnamed ⊢
  refine ⟨d, ⟨hd, ?_, htext⟩, d.result_eq⟩
  exact Entry.find?_nameless_placedFrom_eq_none_iff.1 hnamed

end Decomposition

namespace Query

/-- A query is accepted with a result exactly when it is written as blanks, declarations and a
statement that stand for this result, and then it is written so in one way only. -/
theorem accepts_iff_decomposition (query : String) :
    (∀ r, Accepts query r ↔ ∃ d : Decomposition, d.Decomposes query ∧ d.result = r) ∧
      Subsingleton {d : Decomposition // d.Decomposes query} := by
  refine ⟨?_, ⟨?_⟩⟩
  · intro r
    constructor
    · exact Decomposition.exists_of_accepts
    · intro h
      rcases h with ⟨d, hd, rfl⟩
      exact Decomposition.accepts_result hd
  · intro d e
    have htext : d.1.text = e.1.text := d.2.text.trans e.2.text.symm
    apply Subtype.ext
    exact Decomposition.text_injective d.2.wellFormed e.2.wellFormed htext

end Query
end EntitySql

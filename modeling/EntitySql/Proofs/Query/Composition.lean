import EntitySql.Proofs.Query.Acceptance

/-!
# Composition of queries

An accepted query without a statement consists of declarations and blanks.  Put
in front of another query it is read first, and then the other query is read as
if it stood alone, but with its offsets counted from the seam.  So the analysis
of both together ends as the analysis of the second one does: with the functions
of the first one in front, with the same refusal, or at the same fault.

Main results:

- Theorem `Reading.scan_add`: what is read from a text further on is what is read
  from it, moved.
- Theorem `Query.verdict_eq`: how an analysis ends is told by the reading.
- Theorem `Query.verdict_append`: how the analysis of a composed query ends.
-/

namespace EntitySql

/-! ## Moving to the right -/

/-- A span further on in a text. -/
def Span.shift (n : Nat) (s : Span) : Span :=
  ⟨n + s.start, n + s.stop⟩

/-- A definition whose declaration stands further on in a text. -/
def FunctionDefinition.shift {L : Type} (n : Nat) (d : FunctionDefinition L) :
    FunctionDefinition L :=
  { d with span := d.span.shift n }

namespace ParseResult

variable {T L : Type}

/-- A result of a query that stands further on in a text. -/
def shift (n : Nat) (r : ParseResult T L) : ParseResult T L :=
  { r with definitions := r.definitions.map (FunctionDefinition.shift n) }

/-- The functions of one result in front of another result, whose query stands further on. -/
def followedBy (r : ParseResult T L) (n : Nat) (later : ParseResult T L) : ParseResult T L :=
  { later with definitions := r.definitions ++ (later.shift n).definitions }

end ParseResult

/-- A declaration that stands further on in a text. -/
def Placed.shift (n : Nat) (p : Placed) : Placed :=
  { p with offset := n + p.offset }

/-- A declaration that is moved has its span moved. -/
theorem Placed.span_shift (n : Nat) (p : Placed) : (p.shift n).span = p.span.shift n := by
  rw [Placed.span, Placed.shift, Nat.add_assoc]
  rfl

/-- A declaration that is moved gives its definition moved. -/
theorem Query.definitionOf_shift (n : Nat) (p : Placed) :
    definitionOf (p.shift n) = (definitionOf p).shift n := by
  rw [definitionOf, Placed.span_shift]
  rfl

namespace Reading

/-- What is read from a text that stands further on. -/
def shift (n : Nat) (r : Reading) : Reading :=
  { r with declarations := r.declarations.map (Placed.shift n) }

/-- Reading a text further on gives the same declarations, moved, and the same ending. -/
theorem scan_add (n offset : Nat) (text : List Char) :
    scan (n + offset) text = (scan offset text).shift n := by
  -- Follows the reading: a fault, a declaration with the rest of the text, or the statement.
  induction offset, text using scan.induct with
  | case1 offset text ahead hahead fault hfind =>
    rw [scan_of_malformed hahead hfind, scan_of_malformed hahead hfind]
    rfl
  | case2 offset text start ahead hahead layout hfind ih =>
    rw [scan_of_find hahead hfind, scan_of_find hahead hfind]
    simp only
    rw [Nat.add_assoc n offset, Nat.add_assoc n]
    exact congrArg (prepend ⟨layout.declaration ahead, n + start⟩) ih
  | case3 offset text ahead hahead =>
    rw [Bool.not_eq_true] at hahead
    rw [scan_of_not_isAhead hahead, scan_of_not_isAhead hahead]
    rfl

/-- A query that holds entries and blanks in front of a text is read as the entries and then as the
text. -/
theorem scan_entries_blanks_append {entries : List Entry} {blanks : List Char}
    (hentries : ∀ e ∈ entries, e.WellFormed) (hblanks : Blank blanks) (text : List Char) :
    scan 0 (Entry.textAll entries ++ blanks ++ text) =
      prependAll (Entry.placedFrom 0 entries)
        ((scan 0 text).shift (Entry.textAll entries ++ blanks).length) := by
  rw [List.append_assoc, scan_entries_append hentries, scan_blanks_append hblanks, ← scan_add,
    List.length_append, Nat.zero_add, Nat.add_zero]

end Reading

namespace Query

/-! ## How an analysis ends -/

/-- How an analysis ends for its caller: with a fault, a refusal that is reported, or a result. -/
abbrev Verdict := Except Malformed (Except Failure (ParseResult Statement Lambda))

/-- How the analysis of a query ends, apart from what it logs. -/
def verdict (query : String) : Verdict :=
  (analyze query).map fun outcome => outcome.result.mapError Rejection.failure

/-- How the analysis ends for a reading: the first declaration without a name is refused, and with
names everywhere the ending of the reading decides. -/
def verdictOf (r : Reading) : Verdict :=
  match r.declarations.find? nameless, r.ending with
  | some p, _ => .ok (.error (Rejection.emptyName p.span).failure)
  | none, .error fault => .error fault
  | none, .ok statement => .ok (.ok (resultOf r.declarations statement))

/-- How an analysis ends is told by the reading. -/
theorem verdict_eq (query : String) : verdict query = verdictOf (Reading.ofQuery query) := by
  unfold verdict verdictOf
  cases hnamed : (Reading.ofQuery query).declarations.find? nameless with
  | some p =>
    rw [analyze_of_nameless hnamed]
    rfl
  | none =>
    cases hending : (Reading.ofQuery query).ending with
    | error fault =>
      rw [analyze_of_named_malformed hnamed hending]
      rfl
    | ok statement =>
      rw [analyze_of_named_statement hnamed hending]
      rfl

/-- An analysis ends with a result exactly when it accepts the query with it. -/
theorem verdict_eq_result_iff {query : String} {r : ParseResult Statement Lambda} :
    verdict query = .ok (.ok r) ↔ Accepts query r := by
  unfold verdict
  constructor
  · intro h
    cases hquery : analyze query with
    | error fault =>
      rw [hquery] at h
      cases h
    | ok outcome =>
      rw [hquery] at h
      have hends : outcome.result.mapError Rejection.failure = .ok r := Except.ok.inj h
      cases hresult : outcome.result with
      | error reason =>
        rw [hresult] at hends
        cases hends
      | ok found =>
        rw [hresult] at hends
        cases hends
        exact ⟨outcome, hquery, hresult⟩
  · intro haccepts
    rcases haccepts with ⟨outcome, hquery, hresult⟩
    rw [hquery]
    exact congrArg (fun result => (.ok (result.mapError Rejection.failure) : Verdict)) hresult

/-- The first nameless declaration stays the first one when all are moved. -/
theorem find?_nameless_shift (n : Nat) (placed : List Placed) :
    (placed.map (Placed.shift n)).find? nameless = (placed.find? nameless).map (Placed.shift n) :=
  List.find?_map

/-- The definitions of a moved text stand behind those of the text before it. -/
theorem resultOf_append_shift (placed more : List Placed) (n : Nat) (statement last : List Char) :
    resultOf (placed ++ more.map (Placed.shift n)) last =
      (resultOf placed statement).followedBy n (resultOf more last) := by
  have hmoved : (more.map (Placed.shift n)).map definitionOf =
      (more.map definitionOf).map (FunctionDefinition.shift n) := by
    rw [List.map_map, List.map_map]
    exact List.map_congr_left fun p _ => definitionOf_shift n p
  rw [resultOf, List.map_append, hmoved]
  rfl

/-- Declarations with names in front of others leave the refusal and the fault as they are, and add
their definitions to a result. -/
theorem verdictOf_prependAll {placed : List Placed} (h : placed.find? nameless = none) (n : Nat)
    (r : Reading) (statement : List Char) :
    verdictOf (Reading.prependAll placed (r.shift n)) =
      (verdictOf r).map (Except.map ((resultOf placed statement).followedBy n)) := by
  unfold verdictOf
  simp only [Reading.prependAll, Reading.shift, List.find?_append, h, Option.none_or,
    find?_nameless_shift]
  cases r.declarations.find? nameless with
  | some p => rfl
  | none =>
    cases r.ending with
    | error fault => rfl
    | ok last =>
      have hresult := resultOf_append_shift placed r.declarations n statement last
      exact congrArg (fun result => (.ok (.ok result) : Verdict)) hresult

/-! ## Composed queries -/

/-- In front of another query an accepted one without a statement is read first. -/
theorem ofQuery_append {d : Decomposition} {query : String} (h : d.Decomposes query)
    (hstatement : d.statement = []) (more : String) :
    Reading.ofQuery (query ++ more) =
      Reading.prependAll (Entry.placedFrom 0 d.entries)
        ((Reading.ofQuery more).shift query.length) := by
  have htext : query.toList = Entry.textAll d.entries ++ d.blanks := by
    rw [← h.text, Decomposition.text, hstatement, List.append_nil]
  rw [Reading.ofQuery, String.toList_append, ← String.length_toList, htext]
  exact Reading.scan_entries_blanks_append h.wellFormed.entries h.wellFormed.blanks more.toList

/-- Behind declarations alone a query has its own verdict, with all positions moved. -/
theorem verdict_append_of_decomposes {d : Decomposition} {query : String} (h : d.Decomposes query)
    (hstatement : d.statement = []) (more : String) :
    verdict (query ++ more) =
      (verdict more).map (Except.map (d.result.followedBy query.length)) := by
  have hnamed : (Entry.placedFrom 0 d.entries).find? nameless = none :=
    Entry.find?_nameless_placedFrom_eq_none_iff.2 h.named
  rw [verdict_eq, verdict_eq, ofQuery_append h hstatement, d.result_eq]
  exact verdictOf_prependAll hnamed query.length (Reading.ofQuery more) d.statement

/-- The empty text is a statement. -/
theorem isStatement_nil : IsStatement [] where
  head := nofun
  keyword := by decide

/-- Blanks alone are a query without declarations and statement. -/
theorem decomposes_blanks {blanks : String} (h : Blank blanks.toList) :
    (Decomposition.mk [] blanks.toList []).Decomposes blanks where
  wellFormed := ⟨nofun, h, isStatement_nil⟩
  named := nofun
  text := List.append_nil _

/-- Behind declarations and blanks a query is analysed as if it stood alone: the analysis ends with
the same fault, with the same refusal, or with the same statement and the functions of both, those
of the second query moved behind the first.  Blanks alone only move the functions. -/
theorem verdict_append (more : String) :
    (∀ query r, Accepts query r → r.tree.text = "" →
      verdict (query ++ more) = (verdict more).map (Except.map (r.followedBy query.length))) ∧
    ∀ blanks : String, Blank blanks.toList →
      verdict (blanks ++ more) =
        (verdict more).map (Except.map (ParseResult.shift blanks.length)) := by
  constructor
  · intro query r haccepts hstatement
    rcases Decomposition.exists_of_accepts haccepts with ⟨d, hd, rfl⟩
    exact verdict_append_of_decomposes hd (String.ofList_eq_empty_iff.1 hstatement) more
  · intro blanks hblanks
    exact verdict_append_of_decomposes (decomposes_blanks hblanks) rfl more

/-- A function with a name beyond ASCII and blanks behind it, in front of a second function. -/
theorem verdict_append_two_functions :
    let query := "FUNCTION ß(s) AS (f(s)) "
    let more := "FUNCTION g() AS (1) S"
    let r : ParseResult Statement Lambda := ⟨⟨""⟩, [⟨"ß", ⟨"s", "f(s)"⟩, ⟨0, 23⟩⟩]⟩
    Accepts query r ∧ r.tree.text = "" ∧
      verdict (query ++ more) =
        .ok (.ok ⟨⟨"S"⟩, [⟨"ß", ⟨"s", "f(s)"⟩, ⟨0, 23⟩⟩, ⟨"g", ⟨"", "1"⟩, ⟨24, 43⟩⟩]⟩) := by
  intro query more r
  let first : Decomposition :=
    ⟨[⟨[], ⟨['ß'], ['s'], [' ', 'A', 'S', ' '], ['f', '(', 's', ')']⟩⟩], [' '], []⟩
  let second : Decomposition := ⟨[⟨[], ⟨['g'], [], [' ', 'A', 'S', ' '], ['1']⟩⟩], [' '], ['S']⟩
  have hfirst : first.Decomposes query :=
    ⟨⟨by decide, by decide, isStatement_nil⟩, by decide, by decide⟩
  have hsecond : second.Decomposes more := by
    refine ⟨⟨by decide, by decide, ?_, by decide⟩, by decide, by decide⟩
    intro c rest h
    rw [(List.cons.inj h).1.symm]
    decide
  have haccepts : Accepts query r := by
    have hresult : first.result = r := by decide
    exact hresult ▸ Decomposition.accepts_result hfirst
  have hmore : verdict more = .ok (.ok second.result) :=
    verdict_eq_result_iff.2 (Decomposition.accepts_result hsecond)
  have hboth : r.followedBy query.length second.result =
      ⟨⟨"S"⟩, [⟨"ß", ⟨"s", "f(s)"⟩, ⟨0, 23⟩⟩, ⟨"g", ⟨"", "1"⟩, ⟨24, 43⟩⟩]⟩ := by
    decide
  refine ⟨haccepts, rfl, ?_⟩
  rw [(verdict_append more).1 query r haccepts rfl, hmore, ← hboth]
  rfl

end Query
end EntitySql

import EntitySql.ParseResult.Builder
import EntitySql.Query.Reading

/-!
# Analysing a query

The analysis of a query reads its declarations and its statement and builds a
parse result from them: the statement is the command tree, and each declaration
becomes a function definition whose lambda is the text of its parameters and
body.  It ends with a parse result, with a rejection from the builder, or at a
malformed declaration; the first in the order of the text decides.

Main results:

- Theorem `Query.analyze_of_malformed`: when all definitions are made, a malformed
  declaration after them ends the analysis.
-/

namespace EntitySql

/-- A statement as the command tree of a query. -/
structure Statement where
  text : String
deriving DecidableEq, Repr

instance : Dump Statement where
  dump s := Dump.record "MockTree" [("statement", dump s.text)]

/-- The text of the parameters and the body of a function. -/
structure Lambda where
  params : String
  body : String
deriving DecidableEq, Repr

instance : Dump Lambda where
  dump l := Dump.record "MockLambda" [("params", dump l.params), ("body", dump l.body)]

namespace Query

/-- A builder of parse results of the analysis. -/
abbrev QueryBuilder := Builder Statement Lambda

/-- The lambda of a declaration. -/
def lambdaOf (d : Declaration) : Lambda where
  params := String.ofList d.params
  body := String.ofList d.body

/-- Adds the definition of a declaration. -/
def define (b : QueryBuilder) (p : Placed) : Outcome QueryBuilder :=
  b.define (String.ofList p.declaration.name) (some (lambdaOf p.declaration)) p.span

/-- Adds the definitions of declarations in their order. -/
def defineAll (b : QueryBuilder) : List Placed → Outcome QueryBuilder
  | [] => pure b
  | p :: rest => do
    let b ← define b p
    defineAll b rest

/-- Sets the statement and seals the builder. -/
def finish (b : QueryBuilder) (statement : List Char) : Outcome (ParseResult Statement Lambda) := do
  let b ← b.setTree ⟨String.ofList statement⟩
  b.build

/-- Builds the result of a reading. -/
def ofReading (r : Reading) : Except Malformed (Outcome (ParseResult Statement Lambda)) :=
  let defined := defineAll Builder.empty r.declarations
  match defined.result, r.ending with
  | .ok _, .error fault => .error fault
  | .ok _, .ok statement => .ok (defined >>= fun b => finish b statement)
  | .error r, _ => .ok ⟨.error r, defined.log⟩

/-- Analyses a query. -/
def analyze (query : String) : Except Malformed (Outcome (ParseResult Statement Lambda)) :=
  ofReading (Reading.ofQuery query)

/-- Without declarations the builder stays as it is. -/
@[simp]
theorem defineAll_nil (b : QueryBuilder) : defineAll b [] = pure b :=
  rfl

/-- When all definitions are made, a malformed declaration after them ends the analysis. -/
theorem analyze_of_malformed {query : String} {fault : Malformed} {b : QueryBuilder}
    (hending : (Reading.ofQuery query).ending = .error fault)
    (hdefined : (defineAll Builder.empty (Reading.ofQuery query).declarations).result = .ok b) :
    analyze query = .error fault := by
  simp [analyze, ofReading, hending, hdefined]

end Query
end EntitySql

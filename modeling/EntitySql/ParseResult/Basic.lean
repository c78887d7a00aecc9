import EntitySql.Function.Definition
import EntitySql.Text.LowerCase

/-!
# Parse results

A parse result binds the command tree of a query to the inline functions that
the query declares, in the order of their declaration.  Functions are looked up
by name without regard to case, the first declaration winning, and by an offset
in the query text.

Main results:

- Theorem `ParseResult.functionAt_eq_some_iff`: the definition at an offset is the
  first one that contains it.
- Theorem `ParseResult.checkSpans_result_eq_ok_iff`: the check passes exactly when
  the text reaches both ends of every span.
-/

namespace EntitySql

/-- A command tree with the function definitions of its query. -/
structure ParseResult (T L : Type) where
  tree : T
  definitions : List (FunctionDefinition L)
deriving DecidableEq, Repr

namespace ParseResult

variable {T L : Type}

/-- The trace of a result that is created. -/
def createdTrace (count : Nat) : LogRecord where
  level := .trace
  text := "parse result created with " ++ Text.decimal count ++ " inline function(s)"

/-- Creates a result from parts that are all there. -/
def ofParts (tree : T) (definitions : List (FunctionDefinition L)) : Outcome (ParseResult T L) :=
  .accept ⟨tree, definitions⟩ [createdTrace definitions.length]

/-- Creates a result; the tree is looked at first, then the definitions. -/
def create (tree : Option T) (definitions : Option (List (FunctionDefinition L))) :
    Outcome (ParseResult T L) :=
  match tree, definitions with
  | none, _ => .reject .missingTree
  | some _, none => .reject .missingDefinitions
  | some tree, some definitions => ofParts tree definitions

/-- The number of functions. -/
def length (r : ParseResult T L) : Nat :=
  r.definitions.length

/-- A result is empty when its query declares no functions. -/
def isEmpty (r : ParseResult T L) : Bool :=
  r.definitions.isEmpty

/-- The names of the functions, in the order of their declaration. -/
def names (r : ParseResult T L) : List String :=
  r.definitions.map FunctionDefinition.name

/-! ## Looking functions up -/

/-- A name answers to a query when its characters in small letters are the query in small letters,
where only the query has its sigmas at the end of words. -/
def answers (query name : String) : Bool :=
  Text.lowerEach name.toList == Text.lowerText query.toList

/-- The first function that answers to a name. -/
def function (r : ParseResult T L) (query : String) : Option (FunctionDefinition L) :=
  r.definitions.find? fun d => answers query d.name

/-- The first function whose declaration contains an offset. -/
def functionAt (r : ParseResult T L) (offset : Nat) : Option (FunctionDefinition L) :=
  r.definitions.find? fun d => d.span.contains offset

/-! ## Checking spans -/

/-- The first definition with an end past a length. -/
def firstPast (r : ParseResult T L) (length : Nat) : Option (FunctionDefinition L) :=
  r.definitions.find? fun d => length < d.span.reach

/-- Checks that a text reaches both ends of every span; the first one past its end is refused. -/
def checkSpans (r : ParseResult T L) (query : String) : Outcome Unit :=
  match r.firstPast query.length with
  | some d => .reject (.spanPastEnd d.name d.span query.length)
  | none => .accept () []

instance [Dump T] [Dump L] : Dump (ParseResult T L) where
  dump r :=
    Dump.record "ParseResult"
      [("command_tree", dump r.tree), ("function_definitions", dump r.definitions)]

instance [Json.Encode T] [Json.Encode L] : Json.Encode (ParseResult T L) where
  encode r :=
    .object
      [("commandTree", Json.encode r.tree), ("functionDefinitions", Json.encode r.definitions)]

/-! ## Basic laws -/

/-- A result is created exactly from a tree and a sequence, which it holds unchanged. -/
theorem create_result_eq_ok_iff {tree : Option T}
    {definitions : Option (List (FunctionDefinition L))} {r : ParseResult T L} :
    (create tree definitions).result = .ok r ↔
      tree = some r.tree ∧ definitions = some r.definitions := by
  obtain ⟨rtree, rdefinitions⟩ := r
  cases tree <;> cases definitions <;> simp [create, ofParts]

/-- The definition at an offset is the first one that contains it. -/
theorem functionAt_eq_some_iff {r : ParseResult T L} {offset : Nat} {d : FunctionDefinition L} :
    r.functionAt offset = some d ↔
      (d.span.start ≤ offset ∧ offset < d.span.stop) ∧
        ∃ before after, r.definitions = before ++ d :: after ∧
          ∀ e ∈ before, ¬(e.span.start ≤ offset ∧ offset < e.span.stop) := by
  simp only [functionAt, List.find?_eq_some_iff_append, Bool.not_eq_true', Span.contains_iff,
    Span.contains_eq_false_iff]

/-- There is no definition at an offset exactly when none contains it. -/
theorem functionAt_eq_none_iff {r : ParseResult T L} {offset : Nat} :
    r.functionAt offset = none ↔
      ∀ d ∈ r.definitions, ¬(d.span.start ≤ offset ∧ offset < d.span.stop) := by
  simp only [functionAt, List.find?_eq_none, Span.contains_iff]

/-- No definition is past a length exactly when the length reaches both ends of every span. -/
theorem firstPast_eq_none_iff {r : ParseResult T L} {length : Nat} :
    r.firstPast length = none ↔
      ∀ d ∈ r.definitions, d.span.start ≤ length ∧ d.span.stop ≤ length := by
  simp [firstPast, List.find?_eq_none, Span.reach_le_iff]

/-- The check passes exactly when the text reaches both ends of every span. -/
theorem checkSpans_result_eq_ok_iff {r : ParseResult T L} {query : String} :
    (r.checkSpans query).result = .ok () ↔
      ∀ d ∈ r.definitions, d.span.start ≤ query.length ∧ d.span.stop ≤ query.length := by
  rw [← firstPast_eq_none_iff]
  unfold checkSpans
  split
  next h => simp [h]
  next h => simp [h]

end ParseResult
end EntitySql

import EntitySql.ParseResult.Basic

/-!
# Building a parse result

During a parse pass the command tree and the function definitions become known
one by one.  A builder collects them, the definitions in the order in which they
are added, and is sealed into a parse result at the end.  It takes one command
tree; a call that is refused has no effect.

Main results:

- Theorem `Builder.setTree_result_eq_ok_iff`: a tree is taken exactly when there is none yet.
- Theorem `Builder.define_result_eq_ok_iff`: a definition is added at the end exactly
  when it is made in the mode of the builder.
- Theorem `Builder.build_result_eq_ok_iff`: a builder is sealed exactly when it has a tree.
-/

namespace EntitySql

/-- What a parse pass has produced so far. -/
structure Builder (T L : Type) where
  mode : ValidationMode
  tree : Option T
  definitions : List (FunctionDefinition L)
deriving DecidableEq, Repr

namespace Builder

variable {T L : Type}

/-- A builder that has collected nothing and checks spans strictly. -/
def empty : Builder T L := ⟨default, none, []⟩

/-- Sets the mode in which later definitions are made. -/
def withMode (b : Builder T L) (mode : ValidationMode) : Builder T L :=
  { b with mode }

/-- Sets the command tree, which is done once. -/
def setTree (b : Builder T L) (tree : T) : Outcome (Builder T L) :=
  match b.tree with
  | some _ => .reject .secondTree
  | none => .accept { b with tree := some tree } []

/-- Adds a definition that is already made. -/
def push (b : Builder T L) (d : FunctionDefinition L) : Builder T L :=
  { b with definitions := b.definitions ++ [d] }

/-- Makes a definition and adds it. -/
def define (b : Builder T L) (name : String) (lambda : Option L) (span : Span) :
    Outcome (Builder T L) := do
  let d ← FunctionDefinition.make b.mode name lambda span
  return b.push d

/-- Seals what was collected into a parse result. -/
def build (b : Builder T L) : Outcome (ParseResult T L) :=
  match b.tree with
  | some tree => ParseResult.ofParts tree b.definitions
  | none => .reject (.unfinished b.definitions.length)

instance [Dump T] [Dump L] : Dump (Builder T L) where
  dump b :=
    Dump.record "ParseResultBuilder"
      [("mode", dump b.mode), ("command_tree", dump b.tree),
        ("function_definitions", dump b.definitions)]

/-! ## Basic laws -/

/-- A tree is taken exactly when there is none yet. -/
theorem setTree_result_eq_ok_iff {b c : Builder T L} {tree : T} :
    (b.setTree tree).result = .ok c ↔ b.tree = none ∧ c = { b with tree := some tree } := by
  cases h : b.tree <;> simp [setTree, h, eq_comm]

/-- A definition is added at the end exactly when it is made in the mode of the builder. -/
theorem define_result_eq_ok_iff {b c : Builder T L} {name : String} {lambda : Option L}
    {span : Span} :
    (b.define name lambda span).result = .ok c ↔
      ∃ d, (FunctionDefinition.make b.mode name lambda span).result = .ok d ∧ c = b.push d := by
  simp only [define, Outcome.result_bind_eq_ok_iff, pure, Outcome.accept_result, Except.ok.injEq]
  simp only [eq_comm]

/-- A builder is sealed exactly when it has a tree, and the result holds what was collected. -/
theorem build_result_eq_ok_iff {b : Builder T L} {r : ParseResult T L} :
    b.build.result = .ok r ↔ b.tree = some r.tree ∧ b.definitions = r.definitions := by
  obtain ⟨rtree, rdefinitions⟩ := r
  cases h : b.tree <;> simp [build, h, ParseResult.ofParts]

end Builder
end EntitySql

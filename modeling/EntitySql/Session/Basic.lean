import EntitySql.ParseResult.Builder

/-!
# Sessions

A session is the work of a caller with the library: a builder that may be in
use, a pool of definitions that the caller holds and rearranges, and the results
created so far.  Command trees and lambdas are plain strings.  Every step gives
an answer and leaves log records; a step that names a builder, a definition or a
result that does not exist is void and changes nothing.

Main results:

- Theorem `Session.run_append`: running two sequences of steps is running the
  first, then the second.
- Theorem `Session.length_replies_run`: every step is answered.
-/

namespace EntitySql

/-- A definition whose lambda is a string. -/
abbrev TextDefinition := FunctionDefinition String

/-- A result whose tree and lambdas are strings. -/
abbrev TextResult := ParseResult String String

/-- What a caller holds. -/
structure Session where
  builder : Option (Builder String String)
  pool : List TextDefinition
  results : List TextResult
deriving DecidableEq, Repr

namespace Session

/-- A caller who holds nothing yet. -/
def fresh : Session := ⟨none, [], []⟩

/-- The steps of a session; definitions and results are named by their index. -/
inductive Step where
  /-- Begins with an empty builder. -/
  | newBuilder
  /-- Sets the mode of the builder. -/
  | setMode (mode : ValidationMode)
  /-- Asks for the mode of the builder. -/
  | mode
  /-- Sets the command tree. -/
  | setTree (tree : String)
  /-- Makes a definition in the builder. -/
  | define (name : String) (lambda : Option String) (span : Span)
  /-- Adds a definition of the pool to the builder. -/
  | push (index : Nat)
  /-- Seals the builder, which is used up in any case. -/
  | build
  /-- Makes a definition in the pool. -/
  | make (mode : ValidationMode) (name : String) (lambda : Option String) (span : Span)
  /-- Copies a definition of the pool to its end. -/
  | copy (index : Nat)
  /-- Exchanges two definitions of the pool. -/
  | swap (first second : Nat)
  /-- Removes a definition from the pool. -/
  | remove (index : Nat)
  /-- Reverses the pool. -/
  | reverse
  /-- Keeps the first definitions of the pool. -/
  | truncate (count : Nat)
  /-- Compares two definitions of the pool. -/
  | sameInPool (first second : Nat)
  /-- Creates a result from a tree and, if asked for, the pool. -/
  | create (tree : Option String) (usePool : Bool)
  /-- Copies a result to the end of the results. -/
  | copyResult (index : Nat)
  /-- Shows a result. -/
  | showResult (index : Nat)
  /-- Compares the definitions of two results. -/
  | sameDefinitions (first second : Nat)
  /-- Compares the definitions of a result with the pool. -/
  | samePool (index : Nat)
  /-- Looks a function up by name. -/
  | function (index : Nat) (name : String)
  /-- Looks a function up by offset. -/
  | functionAt (index : Nat) (offset : Nat)
  /-- Checks the spans of a result. -/
  | check (index : Nat) (text : String)
  /-- Looks a function up by name and describes it in a text. -/
  | describe (index : Nat) (name : String) (text : String)
  /-- Copies the definitions of a result into the pool. -/
  | take (index : Nat)
deriving DecidableEq, Repr

/-- What a step answers. -/
inductive Answer where
  /-- The step is done and has nothing to say. -/
  | done
  | mode (mode : ValidationMode)
  | result (result : TextResult)
  | removed (definition : TextDefinition)
  | hit (found : Option TextDefinition)
  | description (found : Option TextDefinition) (text : String)
  | verdict (value : Bool)
  | rejected (reason : Rejection)
  /-- The step names something that does not exist. -/
  | void
deriving DecidableEq, Repr

/-- A step leads to a session, an answer and log records. -/
structure Reply where
  session : Session
  answer : Answer
  log : List LogRecord

/-- A step that only changes the session. -/
def Reply.silent (session : Session) : Reply := ⟨session, .done, []⟩

/-- A step that only answers. -/
def Reply.query (session : Session) (answer : Answer) : Reply := ⟨session, answer, []⟩

/-- A call that may be refused: the session stays, or goes on from the result. -/
def Reply.ofOutcome {α : Type} (session : Session) (outcome : Outcome α) (answer : α → Answer)
    (next : α → Session) : Reply :=
  match outcome.result with
  | .ok a => ⟨next a, answer a, outcome.log⟩
  | .error r => ⟨session, .rejected r, outcome.log⟩

/-- A step that needs something, and is void if it does not exist. -/
def needing {α : Type} (session : Session) (needed : Option α) (step : α → Reply) : Reply :=
  match needed with
  | some a => step a
  | none => .query session .void

/-- A list with two of its items exchanged. -/
def exchange {α : Type} (items : List α) (first second : Nat) : List α :=
  match items[first]?, items[second]? with
  | some a, some b => (items.set first b).set second a
  | _, _ => items

/-- The session with another builder. -/
def withBuilder (s : Session) (b : Builder String String) : Session :=
  { s with builder := some b }

/-- The session with another pool. -/
def withPool (s : Session) (pool : List TextDefinition) : Session :=
  { s with pool }

/-- The session with one more result. -/
def addResult (s : Session) (r : TextResult) : Session :=
  { s with results := s.results ++ [r] }

/-- The session without a builder. -/
def dropBuilder (s : Session) : Session :=
  { s with builder := none }

/-- One step. -/
def step (s : Session) : Step → Reply
  | .newBuilder => .silent (s.withBuilder Builder.empty)
  | .setMode mode => s.needing s.builder fun b => .silent (s.withBuilder (b.withMode mode))
  | .mode => s.needing s.builder fun b => .query s (.mode b.mode)
  | .setTree tree =>
    s.needing s.builder fun b => .ofOutcome s (b.setTree tree) (fun _ => .done) s.withBuilder
  | .define name lambda span =>
    s.needing s.builder fun b =>
      .ofOutcome s (b.define name lambda span) (fun _ => .done) s.withBuilder
  | .push index =>
    s.needing s.builder fun b =>
      s.needing s.pool[index]? fun d => .silent (s.withBuilder (b.push d))
  | .build =>
    s.needing s.builder fun b => .ofOutcome s.dropBuilder b.build .result s.dropBuilder.addResult
  | .make mode name lambda span =>
    .ofOutcome s (FunctionDefinition.make mode name lambda span) (fun _ => .done) fun d =>
      s.withPool (s.pool ++ [d])
  | .copy index => s.needing s.pool[index]? fun d => .silent (s.withPool (s.pool ++ [d]))
  | .swap first second =>
    s.needing s.pool[first]? fun _ =>
      s.needing s.pool[second]? fun _ => .silent (s.withPool (exchange s.pool first second))
  | .remove index =>
    s.needing s.pool[index]? fun d => ⟨s.withPool (s.pool.eraseIdx index), .removed d, []⟩
  | .reverse => .silent (s.withPool s.pool.reverse)
  | .truncate count => .silent (s.withPool (s.pool.take count))
  | .sameInPool first second =>
    s.needing s.pool[first]? fun d =>
      s.needing s.pool[second]? fun e => .query s (.verdict (d == e))
  | .create tree usePool =>
    .ofOutcome s (ParseResult.create tree (if usePool then some s.pool else none)) .result
      s.addResult
  | .copyResult index => s.needing s.results[index]? fun r => .silent (s.addResult r)
  | .showResult index => s.needing s.results[index]? fun r => .query s (.result r)
  | .sameDefinitions first second =>
    s.needing s.results[first]? fun q =>
      s.needing s.results[second]? fun r =>
        .query s (.verdict (q.definitions == r.definitions))
  | .samePool index =>
    s.needing s.results[index]? fun r => .query s (.verdict (r.definitions == s.pool))
  | .function index name =>
    s.needing s.results[index]? fun r => .query s (.hit (r.function name))
  | .functionAt index offset =>
    s.needing s.results[index]? fun r => .query s (.hit (r.functionAt offset))
  | .check index text =>
    s.needing s.results[index]? fun r =>
      .ofOutcome s (r.checkSpans text) (fun _ => .done) fun _ => s
  | .describe index name text =>
    s.needing s.results[index]? fun r => .query s (.description (r.function name) text)
  | .take index =>
    s.needing s.results[index]? fun r => .silent (s.withPool (s.pool ++ r.definitions))

/-- The replies to a sequence of steps. -/
def run (s : Session) : List Step → List Reply
  | [] => []
  | first :: rest =>
    let reply := s.step first
    reply :: reply.session.run rest

/-- The session after a sequence of steps. -/
def after (s : Session) (steps : List Step) : Session :=
  steps.foldl (fun s t => (s.step t).session) s

/-! ## Basic laws -/

/-- The first step leads to the session from which the others go on. -/
@[simp]
theorem after_cons (s : Session) (first : Step) (rest : List Step) :
    s.after (first :: rest) = (s.step first).session.after rest :=
  rfl

/-- Running two sequences of steps is running the first, then the second. -/
theorem run_append (s : Session) (steps more : List Step) :
    s.run (steps ++ more) = s.run steps ++ (s.after steps).run more := by
  induction steps generalizing s with
  | nil => rfl
  | cons first rest ih => simp [run, ih]

/-- Every step is answered. -/
@[simp]
theorem length_replies_run (s : Session) (steps : List Step) :
    (s.run steps).length = steps.length := by
  induction steps generalizing s with
  | nil => rfl
  | cons first rest ih => simp [run, ih]

end Session
end EntitySql

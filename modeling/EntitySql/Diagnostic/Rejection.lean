import EntitySql.Diagnostic.Failure
import EntitySql.Diagnostic.LogRecord

/-!
# Rejections

The reasons for which the library refuses its arguments.  Each carries what its
texts mention, is reported as a failure of the calling program, and is logged at
debug level.

Main results:

- Theorem `Rejection.failure_isInternal`: every rejection is an internal failure.
- Theorem `Rejection.code_isInternalError`: every rejection has an internal code.
-/

namespace EntitySql

/-- The reasons for which arguments are refused. -/
inductive Rejection where
  /-- A function definition has an empty name. -/
  | emptyName (span : Span)
  /-- A function definition has no lambda. -/
  | missingLambda (name : String)
  /-- The span of a function definition ends before it starts. -/
  | reversedSpan (name : String) (span : Span)
  /-- A parse result is created without a command tree. -/
  | missingTree
  /-- A builder is sealed before it was given a command tree. -/
  | unfinished (collected : Nat)
  /-- A parse result is created without a sequence of definitions. -/
  | missingDefinitions
  /-- A builder is given a second command tree. -/
  | secondTree
  /-- The span of a function definition goes past the end of a text. -/
  | spanPastEnd (name : String) (span : Span) (length : Nat)
deriving DecidableEq, Repr

namespace Rejection

/-- The code under which a rejection is reported. -/
def code : Rejection → ErrorCode
  | .missingTree | .unfinished _ => ⟨401⟩
  | .missingDefinitions => ⟨402⟩
  | .emptyName _ => ⟨403⟩
  | .missingLambda _ => ⟨404⟩
  | .reversedSpan _ _ => ⟨405⟩
  | .spanPastEnd _ _ _ => ⟨406⟩
  | .secondTree => ⟨407⟩

/-- The argument that is refused. -/
def argument : Rejection → String
  | .missingTree | .unfinished _ | .secondTree => "command_tree"
  | .missingDefinitions | .spanPastEnd _ _ _ => "function_definitions"
  | .emptyName _ => "name"
  | .missingLambda _ => "lambda"
  | .reversedSpan _ _ => "end_position"

/-- A function name in quotes. -/
def quoted (name : String) : String :=
  "'" ++ name ++ "'"

/-- The message to the caller. -/
def message : Rejection → String
  | .emptyName _ => "function name cannot be empty"
  | .missingLambda name => "function " ++ quoted name ++ " has no lambda"
  | .reversedSpan name span =>
    "function " ++ quoted name ++ " ends at " ++ Text.decimal span.stop ++
      " before it starts at " ++ Text.decimal span.start
  | .missingTree | .unfinished _ => "command tree is missing"
  | .missingDefinitions => "function definition sequence is missing"
  | .secondTree => "command tree was already set"
  | .spanPastEnd name span length =>
    "function " ++ quoted name ++ " spans " ++ span.render ++ " but the query has " ++
      Text.decimal length ++ " characters"

/-- The failure that is reported. -/
def failure (r : Rejection) : Failure :=
  .invalidArgument r.code r.message r.argument

/-- The text that is logged. -/
def logText : Rejection → String
  | .emptyName span =>
    "rejected function definition at " ++ Text.decimal span.start ++ ".." ++
      Text.decimal span.stop ++ ": empty name"
  | .missingLambda name => "rejected function definition " ++ quoted name ++ ": missing lambda"
  | .reversedSpan name span =>
    "rejected function definition " ++ quoted name ++ ": reversed span " ++ span.render
  | .missingTree => "rejected parse result: missing command tree"
  | .unfinished collected =>
    "rejected parse result: missing command tree (" ++ Text.decimal collected ++
      " function(s) collected)"
  | .missingDefinitions => "rejected parse result: missing function definitions"
  | .secondTree => "rejected second command tree for the same parse pass"
  | .spanPastEnd name span length =>
    "function " ++ quoted name ++ " span " ++ span.render ++ " exceeds query length " ++
      Text.decimal length

/-- The record that is logged. -/
def record (r : Rejection) : LogRecord where
  level := .debug
  text := r.logText

/-- The failure of a rejection has its code. -/
@[simp]
theorem failure_code (r : Rejection) : r.failure.code = r.code :=
  rfl

/-- Every rejection is an internal failure. -/
theorem failure_isInternal (r : Rejection) : r.failure.isInternal = true :=
  Failure.isInternal_iff.2 ⟨r.code, r.message, r.argument, rfl⟩

/-- Every rejection has an internal code. -/
theorem code_isInternalError (r : Rejection) : r.code.isInternalError = true := by
  cases r <;> rfl

end Rejection
end EntitySql

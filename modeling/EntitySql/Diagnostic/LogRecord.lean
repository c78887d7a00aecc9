/-!
# Log records

A call leaves records in a log: a trace of what was created, a debug record of
what was refused, a warning of what was let through.

Main definitions:

- Structure `LogRecord`: a level and a text.
-/

namespace EntitySql

/-- The levels in use. -/
inductive LogLevel where
  | trace
  | debug
  | warn
deriving DecidableEq, Repr

/-- The name of a level. -/
def LogLevel.name : LogLevel → String
  | .trace => "TRACE"
  | .debug => "DEBUG"
  | .warn => "WARN"

/-- A text that was logged at a level. -/
structure LogRecord where
  level : LogLevel
  text : String
deriving DecidableEq, Repr

end EntitySql

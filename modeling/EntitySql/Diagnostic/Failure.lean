import EntitySql.Diagnostic.Basic

/-!
# Failures

A failure is what a call reports when it does not succeed.  Either the caller
passed an invalid argument, which is a defect of the calling program, or there
is a problem in the query text, which its author has to know about.

Main results:

- Theorem `Failure.isInternal_iff`: the internal failures are the invalid arguments.
- Definition `Failure.toDiagnostic`: a failure as a message to a reader.
-/

namespace EntitySql

/-- What a call reports when it does not succeed. -/
inductive Failure where
  | invalidArgument (code : ErrorCode) (message : String) (argument : String)
  | query (code : ErrorCode) (message : String) (location : Option SourceLocation)
deriving DecidableEq, Repr

namespace Failure

/-- The two kinds of failures. -/
inductive Kind where
  | invalidArgument
  | query
deriving DecidableEq, Repr

/-- The name of a kind in developer text. -/
def Kind.name : Kind → String
  | .invalidArgument => "InvalidArgument"
  | .query => "Query"

instance : Dump Kind where
  dump := Kind.name

/-- A problem in the query text at no particular place. -/
def unlocated (code : ErrorCode) (message : String) : Failure :=
  .query code message none

/-- A problem at a place in the query text. -/
def located (code : ErrorCode) (message : String) (location : SourceLocation) : Failure :=
  .query code message (some location)

/-- The code of a failure. -/
def code : Failure → ErrorCode
  | .invalidArgument code _ _ => code
  | .query code _ _ => code

/-- The message of a failure. -/
def message : Failure → String
  | .invalidArgument _ message _ => message
  | .query _ message _ => message

/-- The kind of a failure. -/
def kind : Failure → Kind
  | .invalidArgument _ _ _ => .invalidArgument
  | .query _ _ _ => .query

/-- A failure is internal when the calling program is to blame. -/
def isInternal (f : Failure) : Bool :=
  f.kind == .invalidArgument

/-- The place of a failure in the query text. -/
def location : Failure → Option SourceLocation
  | .invalidArgument _ _ _ => none
  | .query _ _ location => location

/-- The written form of a failure. -/
def render (f : Failure) : String :=
  f.code.render ++ ": " ++ f.message

/--
The diagnostic of a failure.  An invalid argument is named after the message and
explained by the help of its code; a query problem keeps its place.
-/
def toDiagnostic : Failure → Diagnostic
  | .invalidArgument code message argument =>
    { Diagnostic.error code (message ++ " (argument `" ++ argument ++ "`)") with
      help := code.help }
  | .query code message location =>
    { Diagnostic.error code message with location := location }

instance : Dump Failure where
  dump
    | .invalidArgument code message argument =>
      Dump.record Kind.invalidArgument.name
        [("code", dump code), ("message", dump message), ("argument", dump argument)]
    | .query code message location =>
      Dump.record Kind.query.name
        [("code", dump code), ("message", dump message), ("location", dump location)]

/-- The internal failures are the invalid arguments. -/
theorem isInternal_iff {f : Failure} :
    f.isInternal = true ↔ ∃ code message argument, f = .invalidArgument code message argument := by
  cases f with
  | invalidArgument code message argument => simp [isInternal, kind]
  | query code message location => simp [isInternal, kind]

end Failure
end EntitySql

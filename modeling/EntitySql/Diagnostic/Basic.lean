import EntitySql.Diagnostic.ErrorCode
import EntitySql.Source.Location
import EntitySql.Text.Terminal

/-!
# Diagnostics

A diagnostic is a message to a reader: its severity, code and text, and
optionally a place in the query and a word of help.  It is rendered on one line,
or for a terminal with a line of help and perhaps in colours.

Main definitions:

- Definition `Diagnostic.render`: a diagnostic on one line.
- Definition `Diagnostic.terminalText`: a diagnostic for a terminal.
- Definition `Diagnostic.ofMembers`: a diagnostic from the members of an object.
-/

namespace EntitySql

/-- How bad a problem is. -/
inductive Severity where
  | error
  | warning
deriving DecidableEq, Repr

namespace Severity

/-- The written form of a severity. -/
def render : Severity → String
  | .error => "error"
  | .warning => "warning"

/-- The name of a severity in developer text and JSON. -/
def name : Severity → String
  | .error => "Error"
  | .warning => "Warning"

/-- The severities with their names. -/
def named : List (String × Severity) :=
  [error, warning].map fun severity => (severity.name, severity)

/-- The terminal style of a severity. -/
def style : Severity → Terminal.Style
  | .error => .boldRed
  | .warning => .boldYellow

instance : Dump Severity where
  dump := name

instance : Json.Encode Severity where
  encode severity := Json.encode severity.name

instance : Json.Decode Severity where
  decode := Json.readVariant named

end Severity

/-- A message to a reader. -/
structure Diagnostic where
  severity : Severity
  code : ErrorCode
  message : String
  location : Option SourceLocation
  help : Option String
deriving DecidableEq, Repr

namespace Diagnostic

/-- A diagnostic without details. -/
def plain (severity : Severity) (code : ErrorCode) (message : String) : Diagnostic :=
  ⟨severity, code, message, none, none⟩

/-- An error without details. -/
def error (code : ErrorCode) (message : String) : Diagnostic :=
  plain .error code message

/-- A warning without details. -/
def warning (code : ErrorCode) (message : String) : Diagnostic :=
  plain .warning code message

/-- The diagnostic at a place, which replaces any earlier one. -/
def withLocation (d : Diagnostic) (location : SourceLocation) : Diagnostic :=
  { d with location := some location }

/-- The diagnostic with a word of help, which replaces any earlier one. -/
def withHelp (d : Diagnostic) (help : String) : Diagnostic :=
  { d with help := some help }

/-- The place of a diagnostic as a phrase. -/
def placeText (location : SourceLocation) : String :=
  "at " ++ location.render

/-- The diagnostic on one line, without its help. -/
def render (d : Diagnostic) : String :=
  d.severity.render ++ ": " ++ d.code.render ++ " - " ++ d.message ++
    match d.location with
    | some location => " " ++ placeText location
    | none => ""

/-- The place in a terminal text. -/
def terminalPlace (colouring : Bool) : Option SourceLocation → String
  | some location => " " ++ Terminal.paint colouring .dimmed (placeText location)
  | none => ""

/-- The help in a terminal text. -/
def terminalHelp (colouring : Bool) : Option String → String
  | some help => "\n  " ++ Terminal.paint colouring .cyan "help" ++ ": " ++ help
  | none => ""

/-- The diagnostic for a terminal, with or without colours. -/
def terminalText (colouring : Bool) (d : Diagnostic) : String :=
  Terminal.paint colouring d.severity.style d.severity.render ++
    "[" ++ d.code.render ++ "]: " ++ d.message ++
    terminalPlace colouring d.location ++ terminalHelp colouring d.help

instance : Dump Diagnostic where
  dump d :=
    Dump.record "Diagnostic"
      [("severity", dump d.severity), ("code", dump d.code), ("message", dump d.message),
        ("location", dump d.location), ("help", dump d.help)]

/-! ## JSON -/

instance : Json.Encode Diagnostic where
  encode d :=
    .object
      [("severity", Json.encode d.severity), ("code", Json.encode d.code),
        ("message", Json.encode d.message), ("location", Json.encode d.location),
        ("help", Json.encode d.help)]

/-- Reads a diagnostic from the members of an object; the details may be missing. -/
def ofMembers (members : List (String × Json)) : Except Json.DecodeError Diagnostic := do
  let code ← Json.readMember members "code" Json.decode
  let help ← Json.readMember members "help" (Json.readOptional Json.readString)
  let location ← Json.readMember members "location" (Json.readOptional Json.decode)
  let message ← Json.readMember members "message" Json.readString
  let severity ← Json.readMember members "severity" Json.decode
  let severity ← Json.required "severity" severity
  let code ← Json.required "code" code
  let message ← Json.required "message" message
  return ⟨severity, code, message, location.join, help.join⟩

/-- Reads a diagnostic from an array of its fields. -/
def ofItems (items : List Json) : Except Json.DecodeError Diagnostic := do
  let expected := Json.recordItems "Diagnostic" 5
  let severity ← Json.readElement items 0 expected Json.decode
  let code ← Json.readElement items 1 expected Json.decode
  let message ← Json.readElement items 2 expected Json.readString
  let location ← Json.readElement items 3 expected (Json.readOptional Json.decode)
  let help ← Json.readElement items 4 expected (Json.readOptional Json.readString)
  Json.noMore items 5
  return ⟨severity, code, message, location, help⟩

instance : Json.Decode Diagnostic where
  decode := Json.readRecord "Diagnostic" ofMembers ofItems

end Diagnostic
end EntitySql

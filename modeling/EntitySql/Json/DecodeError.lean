import EntitySql.Binary64.Shortest
import EntitySql.Json.Basic
import EntitySql.Json.Numeral
import EntitySql.Text.Dump

/-!
# Why a typed value cannot be read

The shape of a JSON value as error messages name it, and the reasons why a typed
value cannot be read from it.

Main definitions:

- Definition `Json.shape`: the shape under which a value is reported.
- Definition `Json.DecodeError.message`: the text of a report.
-/

namespace EntitySql
namespace Json

/-- What was found in place of a value that was expected. -/
inductive Shape where
  | null
  | bool (value : Bool)
  | integer (value : Int)
  | floating (value : Binary64)
  | string (value : String)
  | array
  | object
deriving DecidableEq

/-- The name of a shape in an error message. -/
def Shape.describe : Shape → String
  | .null => "null"
  | .bool b => "boolean `" ++ (if b then "true" else "false") ++ "`"
  | .integer i => "integer `" ++ Text.signedDecimal i ++ "`"
  | .floating x => "floating point `" ++ x.text ++ "`"
  | .string s => "string " ++ Dump.quote s
  | .array => "sequence"
  | .object => "map"

/-- The shape of what a number literal denotes. -/
def Numeral.shape : Numeral → Shape
  | .natural n => .integer n
  | .negative n => .integer (-n)
  | .floating x => .floating x

/-- The reasons why a typed value cannot be read. -/
inductive DecodeError where
  | invalidType (found : Shape) (expected : String)
  | invalidValue (found : Shape) (expected : String)
  | invalidLength (length : Nat) (expected : String)
  | unknownVariant (name : String) (variants : List String)
  | missingField (name : String)
  | numberTooLarge
deriving DecidableEq

/-- Names in backquotes, as a choice. -/
def choice : List String → String
  | [] => "there are no variants"
  | [only] => "`" ++ only ++ "`"
  | [first, second] => "`" ++ first ++ "` or `" ++ second ++ "`"
  | names => "one of " ++ Dump.commaSeparated (names.map fun name => "`" ++ name ++ "`")

/-- The message of an error. -/
def DecodeError.message : DecodeError → String
  | .invalidType found expected =>
    "invalid type: " ++ found.describe ++ ", expected " ++ expected
  | .invalidValue found expected =>
    "invalid value: " ++ found.describe ++ ", expected " ++ expected
  | .invalidLength length expected =>
    "invalid length " ++ Text.decimal length ++ ", expected " ++ expected
  | .unknownVariant name variants =>
    "unknown variant `" ++ name ++ "`, expected " ++ choice variants
  | .missingField name => "missing field `" ++ name ++ "`"
  | .numberTooLarge => "number out of range"

/-- The shape of a value; a number has one only if it is not too large. -/
def shape : Json → Except DecodeError Shape
  | .null => .ok .null
  | .bool b => .ok (.bool b)
  | .number n =>
    match n.numeral? with
    | some numeral => .ok numeral.shape
    | none => .error .numberTooLarge
  | .string s => .ok (.string s)
  | .array _ => .ok .array
  | .object _ => .ok .object

end Json
end EntitySql

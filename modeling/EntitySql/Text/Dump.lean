import EntitySql.Text.Decimal
import EntitySql.Text.Unprintable

/-!
# Developer text

The text under which values appear in debugging output: records with their
field names, tagged values in parentheses, lists in brackets, and strings in
quotes, with every character escaped that a terminal would not show.

Main definitions:

- Class `Dump`: the types whose values have a developer text.
- Definition `Dump.escape`: the image of a character inside quotes.
- Definition `Dump.record`: the text of a record with its fields.
-/

namespace EntitySql

/-- Types whose values have a developer text. -/
class Dump (α : Type) where
  /-- The developer text of a value. -/
  dump : α → String

export Dump (dump)

namespace Dump

/--
The image of a character inside quotes: the quote, the backslash and four
controls have short escapes, visible characters stand for themselves, and all
others are given by their code point.
-/
def escape (c : Char) : String :=
  if c = '"' then "\\\""
  else if c = '\\' then "\\\\"
  else if c = '\n' then "\\n"
  else if c = '\r' then "\\r"
  else if c = '\t' then "\\t"
  else if c = '\x00' then "\\0"
  else if Text.isVisible c then String.singleton c
  else "\\u\x7b" ++ Text.hexadecimal c.toNat ++ "\x7d"

/-- A string in quotes. -/
def quote (s : String) : String :=
  "\"" ++ String.join (s.toList.map escape) ++ "\""

/-- The parts of a sequence with a comma between them. -/
def commaSeparated (parts : List String) : String :=
  String.intercalate ", " parts

/-- A list of developer texts in brackets. -/
def brackets (items : List String) : String :=
  "[" ++ commaSeparated items ++ "]"

/-- A tagged value, as in `Some(1)`. -/
def tagged (tag : String) (content : String) : String :=
  tag ++ "(" ++ content ++ ")"

/-- A record with its fields in order. -/
def record (name : String) (fields : List (String × String)) : String :=
  name ++ " \x7b " ++ commaSeparated (fields.map fun field => field.1 ++ ": " ++ field.2) ++ " \x7d"

instance : Dump Nat where
  dump := Text.decimal

instance : Dump String where
  dump := quote

instance {α : Type} [Dump α] : Dump (Option α) where
  dump
    | none => "None"
    | some a => tagged "Some" (Dump.dump a)

instance {α : Type} [Dump α] : Dump (List α) where
  dump items := brackets (items.map Dump.dump)

end Dump
end EntitySql

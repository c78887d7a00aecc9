import EntitySql.Json.Number
import EntitySql.Json.Quoted

/-!
# JSON values

A JSON value keeps the members of an object in the order in which they are
written, repeated names included; looking a name up finds the last of them.
The compact text of a value is the concatenation of its tokens.

Main results:

- Definition `Json.lookup`: the member that is found under a name.
- Theorem `Json.text_eq`: the text of a value is the text of its tokens.
-/

namespace EntitySql

/-- A JSON value. -/
inductive Json where
  | null
  | bool (value : Bool)
  | number (value : Json.Number)
  | string (value : String)
  | array (items : List Json)
  | object (members : List (String × Json))
deriving Inhabited

namespace Json

/-- The lexical units of the format. -/
inductive Token where
  | openArray
  | closeArray
  | openObject
  | closeObject
  | comma
  | colon
  | null
  | bool (value : Bool)
  | number (value : Number)
  | string (value : String)
deriving DecidableEq

/-- The written form of a token. -/
def Token.text : Token → List Char
  | .openArray => ['[']
  | .closeArray => [']']
  | .openObject => ['\x7b']
  | .closeObject => ['\x7d']
  | .comma => [',']
  | .colon => [':']
  | .null => ['n', 'u', 'l', 'l']
  | .bool true => ['t', 'r', 'u', 'e']
  | .bool false => ['f', 'a', 'l', 's', 'e']
  | .number n => n.text
  | .string s => '"' :: Quoted.encode s.toList ++ ['"']

mutual

/-- The tokens of a value. -/
def tokens : Json → List Token
  | .null => [.null]
  | .bool b => [.bool b]
  | .number n => [.number n]
  | .string s => [.string s]
  | .array items => .openArray :: itemTokens items ++ [.closeArray]
  | .object members => .openObject :: memberTokens members ++ [.closeObject]

/-- The tokens of the items of an array, with a comma between them. -/
def itemTokens : List Json → List Token
  | [] => []
  | [item] => tokens item
  | item :: next :: items => tokens item ++ .comma :: itemTokens (next :: items)

/-- The tokens of the members of an object, with a comma between them. -/
def memberTokens : List (String × Json) → List Token
  | [] => []
  | [(key, value)] => .string key :: .colon :: tokens value
  | (key, value) :: next :: members =>
    .string key :: .colon :: tokens value ++ .comma :: memberTokens (next :: members)

end

/-- The compact text of a value, with no blanks between the tokens. -/
def text (value : Json) : String :=
  String.ofList (value.tokens.flatMap Token.text)

/-- The value of the last member with a name. -/
def lookup (members : List (String × Json)) (key : String) : Option Json :=
  members.reverse.lookup key

/-- Types whose values have a JSON form. -/
class Encode (α : Type) where
  /-- The JSON form of a value. -/
  encode : α → Json

export Encode (encode)

instance : Encode Nat where
  encode n := .number (.natural n)

instance : Encode String where
  encode := .string

instance {α : Type} [Encode α] : Encode (Option α) where
  encode
    | none => .null
    | some a => encode a

instance {α : Type} [Encode α] : Encode (List α) where
  encode items := .array (items.map encode)

/-- The text of a value is the text of its tokens. -/
theorem text_eq (value : Json) : value.text.toList = value.tokens.flatMap Token.text := by
  simp [text]

end Json
end EntitySql

import EntitySql.Json.Basic

/-!
# Reading tokens

The text of a JSON document is cut into tokens, with blanks between them left
out.  Names and numbers are read as the longest run of characters that may
occur in them.

Main definitions:

- Definition `Json.Token.ofWord?`: the token of a name or a number.
- Definition `Json.Token.scan?`: the tokens of a text.
-/

namespace EntitySql
namespace Json
namespace Token

/-- The characters that may stand between tokens. -/
def isSpace (c : Char) : Bool :=
  c == ' ' || c == '\t' || c == '\n' || c == '\r'

/-- The token of a single character. -/
def punctuation? (c : Char) : Option Token :=
  if c = '[' then some .openArray
  else if c = ']' then some .closeArray
  else if c = '\x7b' then some .openObject
  else if c = '\x7d' then some .closeObject
  else if c = ',' then some .comma
  else if c = ':' then some .colon
  else none

/-- The characters of which names and numbers consist. -/
def isWordChar (c : Char) : Bool :=
  c.isAlphanum || c == '+' || c == '-' || c == '.'

/-- The token of a name or a number. -/
def ofWord? (word : List Char) : Option Token :=
  if word = Token.null.text then some .null
  else if word = (Token.bool true).text then some (.bool true)
  else if word = (Token.bool false).text then some (.bool false)
  else (Number.parse? word).map .number

/-- The tokens of a text, if it is made of them. -/
def scan? : List Char → Option (List Token)
  | [] => some []
  | c :: rest =>
    if isSpace c then scan? rest
    else if c = '"' then
      match _h : Quoted.read? rest with
      | some (content, rest) => (scan? rest).map (.string (String.ofList content) :: ·)
      | none => none
    else
      match punctuation? c with
      | some token => (scan? rest).map (token :: ·)
      | none =>
        if isWordChar c then
          match ofWord? (c :: rest.takeWhile isWordChar) with
          | some token => (scan? (rest.dropWhile isWordChar)).map (token :: ·)
          | none => none
        else none
termination_by text => text.length
decreasing_by
  · simp
  · have := Quoted.read?_length_lt _h
    simp only [List.length_cons] at this ⊢
    omega
  · simp
  · have := (List.dropWhile_sublist (l := rest) isWordChar).length_le
    simp only [List.length_cons]
    omega

/-- The empty text has no tokens. -/
@[simp]
theorem scan?_nil : scan? [] = some [] := by
  simp [scan?]

end Token
end Json
end EntitySql

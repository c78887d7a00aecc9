import EntitySql.Query.Parenthesis
import EntitySql.Source.Span

/-!
# Function declarations

A declaration is written as the keyword, the name, the parameters in
parentheses, some text such as `AS`, and the body in parentheses.  It is read
by finding its four parentheses: the first opening one ends the name, its match
ends the parameters, the next opening one begins the body, and its match ends
the declaration.

Main results:

- Theorem `Declaration.length_text`: the length of a written declaration.
- Theorem `Layout.length_pos`: a declaration that is found takes up some text.
-/

namespace EntitySql

/-- The parts of a declaration. -/
structure Declaration where
  name : List Char
  params : List Char
  gap : List Char
  body : List Char
deriving DecidableEq, Repr

namespace Declaration

/-- The word that introduces a declaration, with the blank after it. -/
def keyword : List Char :=
  ['F', 'U', 'N', 'C', 'T', 'I', 'O', 'N', ' ']

/-- A text begins with a declaration. -/
def isAhead (text : List Char) : Bool :=
  keyword.isPrefixOf text

/-- The written form of a declaration. -/
def text (d : Declaration) : List Char :=
  keyword ++ d.name ++ '(' :: d.params ++ ')' :: d.gap ++ '(' :: d.body ++ [')']

/-- The length of a written declaration. -/
theorem length_text (d : Declaration) :
    d.text.length =
      keyword.length + d.name.length + d.params.length + d.gap.length + d.body.length + 4 := by
  simp [text]
  omega

end Declaration

/-- The ways in which a declaration can be malformed. -/
inductive Malformed where
  /-- No parenthesis opens after the name. -/
  | parameterList
  /-- The parenthesis of the parameters is not closed. -/
  | closedParameterList
  /-- No parenthesis opens after the parameters. -/
  | functionBody
  /-- The parenthesis of the body is not closed. -/
  | closedFunctionBody
  /-- A parenthesis closes that was never opened. -/
  | unopened
deriving DecidableEq, Repr

/-- The message about a malformed declaration: what was expected, or the fault of the depth count,
which falls below zero when a parenthesis closes that was never opened. -/
def Malformed.message : Malformed → String
  | .parameterList => "parameter list"
  | .closedParameterList => "closed parameter list"
  | .functionBody => "function body"
  | .closedFunctionBody => "closed function body"
  | .unopened => Word.Overflow.subtraction.message

/-- Where the four parentheses of a declaration stand, counted from its first character. -/
structure Layout where
  paramsOpen : Nat
  paramsClose : Nat
  bodyOpen : Nat
  bodyClose : Nat
deriving DecidableEq, Repr

namespace Layout

/-- The index of the first opening parenthesis at or after an index. -/
def openingFrom? (text : List Char) (index : Nat) : Option Nat :=
  ((text.drop index).findIdx? (· == '(')).map (index + ·)

/-- An opening parenthesis that must be there. -/
def opening (text : List Char) (index : Nat) (fault : Malformed) : Except Malformed Nat :=
  match openingFrom? text index with
  | some found => .ok found
  | none => .error fault

/-- The match of an opening parenthesis, which must be there. -/
def closing (text : List Char) (index : Nat) (fault : Malformed) : Except Malformed Nat :=
  match Parenthesis.matching text index with
  | .ok found => .ok found
  | .error .unclosed => .error fault
  | .error .unopened => .error .unopened

/-- Finds the parentheses of the declaration with which a text begins. -/
def find (text : List Char) : Except Malformed Layout := do
  let paramsOpen ← opening text Declaration.keyword.length .parameterList
  let paramsClose ← closing text paramsOpen .closedParameterList
  let bodyOpen ← opening text paramsClose .functionBody
  let bodyClose ← closing text bodyOpen .closedFunctionBody
  return { paramsOpen, paramsClose, bodyOpen, bodyClose }

/-- The length of the declaration. -/
def length (layout : Layout) : Nat :=
  layout.bodyClose + 1

/-- The characters of a text from one index to just before another. -/
def between (text : List Char) (start stop : Nat) : List Char :=
  (text.drop start).take (stop - start)

/-- The parts of the declaration with which a text begins. -/
def declaration (layout : Layout) (text : List Char) : Declaration where
  name := between text Declaration.keyword.length layout.paramsOpen
  params := between text (layout.paramsOpen + 1) layout.paramsClose
  gap := between text (layout.paramsClose + 1) layout.bodyOpen
  body := between text (layout.bodyOpen + 1) layout.bodyClose

/-- A declaration that is found takes up some text. -/
theorem length_pos (layout : Layout) : 0 < layout.length :=
  Nat.succ_pos _

end Layout
end EntitySql

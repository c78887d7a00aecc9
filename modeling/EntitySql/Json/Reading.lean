import EntitySql.Json.Token

/-!
# Reading values

A sequence of tokens is read as one value by a machine that keeps the arrays and
objects that are still open.  Each token leads from one state to the next or is
refused; commas stand between items only.

Main results:

- Theorem `Json.Progress.run_append`: reading two parts is reading the first,
  then the second.
- Theorem `Json.parse?_eq_some_iff`: a text is read as a value exactly when its
  tokens lead from a due value to this complete value.
-/

namespace EntitySql
namespace Json

/-- An array or object that is still open; its parts so far are in reverse. -/
inductive Frame where
  | array (items : List Json)
  | member (members : List (String × Json)) (key : String)

/-- What the machine has read and what may follow. -/
inductive Progress where
  /-- A value is due. -/
  | due (stack : List Frame)
  /-- A first item or the end of the array is due. -/
  | firstItem (stack : List Frame)
  /-- A first name or the end of the object is due. -/
  | firstName (stack : List Frame)
  /-- The name of another member is due. -/
  | name (members : List (String × Json)) (stack : List Frame)
  /-- The colon after a name is due. -/
  | colon (members : List (String × Json)) (key : String) (stack : List Frame)
  /-- A value is complete. -/
  | complete (value : Json) (stack : List Frame)

namespace Progress

/-- The first token of a value. -/
def start? (stack : List Frame) : Token → Option Progress
  | .null => some (complete .null stack)
  | .bool b => some (complete (.bool b) stack)
  | .number n => some (complete (.number n) stack)
  | .string s => some (complete (.string s) stack)
  | .openArray => some (firstItem stack)
  | .openObject => some (firstName stack)
  | _ => none

/-- A token after a complete value goes on with the container around it, or closes it. -/
def continue? (value : Json) : List Frame → Token → Option Progress
  | .array items :: stack, .comma => some (due (.array (value :: items) :: stack))
  | .array items :: stack, .closeArray =>
    some (complete (.array (value :: items).reverse) stack)
  | .member members key :: stack, .comma => some (name ((key, value) :: members) stack)
  | .member members key :: stack, .closeObject =>
    some (complete (.object ((key, value) :: members).reverse) stack)
  | _, _ => none

/-- One token. -/
def step? : Progress → Token → Option Progress
  | due stack, token => start? stack token
  | firstItem stack, .closeArray => some (complete (.array []) stack)
  | firstItem stack, token => start? (.array [] :: stack) token
  | firstName stack, .closeObject => some (complete (.object []) stack)
  | firstName stack, .string key => some (colon [] key stack)
  | firstName _, _ => none
  | name members stack, .string key => some (colon members key stack)
  | name _ _, _ => none
  | colon members key stack, .colon => some (due (.member members key :: stack))
  | colon _ _ _, _ => none
  | complete v stack, token => continue? v stack token

/-- All tokens of a sequence. -/
def run? : Progress → List Token → Option Progress
  | progress, [] => some progress
  | progress, token :: tokens =>
    match progress.step? token with
    | some next => next.run? tokens
    | none => none

/-- The value, if one is complete and nothing is open. -/
def result? : Progress → Option Json
  | complete value [] => some value
  | _ => none

/-- Reading two parts is reading the first, then the second. -/
theorem run_append (progress : Progress) (s t : List Token) :
    progress.run? (s ++ t) = (progress.run? s).bind (·.run? t) := by
  induction s generalizing progress with
  | nil => rfl
  | cons token s ih =>
    simp only [List.cons_append, run?]
    cases progress.step? token <;> simp [ih]

/-- A state gives a value only if this value is complete and nothing is open. -/
theorem result?_eq_some_iff {progress : Progress} {v : Json} :
    progress.result? = some v ↔ progress = complete v [] := by
  constructor
  · intro h
    unfold result? at h
    split at h
    · cases h
      rfl
    · cases h
  · rintro rfl
    rfl

end Progress

/-- The value of a sequence of tokens. -/
def ofTokens? (tokens : List Token) : Option Json :=
  ((Progress.due []).run? tokens).bind Progress.result?

/-- The value that a text writes. -/
def parse? (text : String) : Option Json :=
  (Token.scan? text.toList).bind ofTokens?

/-- A text is read as a value exactly when its tokens lead from a due value to this value. -/
theorem parse?_eq_some_iff {text : String} {v : Json} :
    parse? text = some v ↔
      ∃ tokens, Token.scan? text.toList = some tokens ∧
        (Progress.due []).run? tokens = some (.complete v []) := by
  simp only [parse?, ofTokens?, Option.bind_eq_some_iff, Progress.result?_eq_some_iff]
  constructor
  · rintro ⟨tokens, hscan, progress, hrun, rfl⟩
    exact ⟨tokens, hscan, hrun⟩
  · rintro ⟨tokens, hscan, hrun⟩
    exact ⟨tokens, hscan, _, hrun, rfl⟩

end Json
end EntitySql

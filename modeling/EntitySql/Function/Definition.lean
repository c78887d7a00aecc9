import EntitySql.Diagnostic.Outcome

/-!
# Function definitions

An inline function that a query declares: its name, its lambda, and the span of
the declaration in the query text.  A definition is made only from a name that
is not empty and a lambda that is there.  A reversed span is refused in strict
mode and let through with a warning in lenient mode.

Main results:

- Theorem `FunctionDefinition.make_result_eq_ok_iff`: exactly when a definition is made,
  and that it holds the arguments unchanged.
- Theorem `FunctionDefinition.make_result_eq_error_iff`: the first fault in the order of
  name, lambda and span decides why a definition is refused.
- Theorems `FunctionDefinition.make_log_of_ok` and `FunctionDefinition.make_log_of_error`:
  what is logged in either case.
-/

namespace EntitySql

/-- How strictly the spans of definitions are checked. -/
inductive ValidationMode where
  | strict
  | lenient
deriving DecidableEq, Repr

namespace ValidationMode

/-- Spans are checked unless the caller asks for less. -/
instance : Inhabited ValidationMode := ⟨strict⟩

/-- Reversed spans are refused. -/
def rejectsReversed : ValidationMode → Bool
  | .strict => true
  | .lenient => false

/-- The name of a mode in developer text and JSON. -/
def name : ValidationMode → String
  | .strict => "Strict"
  | .lenient => "Lenient"

/-- The modes with their names. -/
def named : List (String × ValidationMode) :=
  [strict, lenient].map fun mode => (mode.name, mode)

instance : Dump ValidationMode where
  dump := name

instance : Json.Encode ValidationMode where
  encode mode := Json.encode mode.name

instance : Json.Decode ValidationMode where
  decode := Json.readVariant named

end ValidationMode

/-- An inline function declared in a query text. -/
structure FunctionDefinition (L : Type) where
  name : String
  lambda : L
  span : Span
deriving DecidableEq, Repr

namespace FunctionDefinition

variable {L : Type}

/-- The warning about a reversed span that is let through. -/
def reversedWarning (name : String) (span : Span) : LogRecord where
  level := .warn
  text := "function definition " ++ Rejection.quoted name ++ " has reversed span " ++ span.render

/-- Makes a definition: the name is looked at first, then the lambda, then the span. -/
def make (mode : ValidationMode) (name : String) (lambda : Option L) (span : Span) :
    Outcome (FunctionDefinition L) :=
  if name = "" then .reject (.emptyName span)
  else
    match lambda with
    | none => .reject (.missingLambda name)
    | some lambda =>
      if span.isReversed then
        if mode.rejectsReversed then .reject (.reversedSpan name span)
        else .accept ⟨name, lambda, span⟩ [reversedWarning name span]
      else .accept ⟨name, lambda, span⟩ []

/-- The text of a declaration, if its span fits the query. -/
def sourceText (d : FunctionDefinition L) (query : String) : Option String :=
  d.span.slice query

/-- The place of a declaration in the query. -/
def location (d : FunctionDefinition L) (query : String) : SourceLocation :=
  .ofSpan d.span query

/-- The written form of a definition is its name and span. -/
def render (d : FunctionDefinition L) : String :=
  d.name ++ " " ++ d.span.render

instance [Dump L] : Dump (FunctionDefinition L) where
  dump d :=
    Dump.record "FunctionDefinition"
      [("name", dump d.name), ("lambda", dump d.lambda), ("span", dump d.span)]

instance [Json.Encode L] : Json.Encode (FunctionDefinition L) where
  encode d :=
    .object
      [("name", Json.encode d.name), ("lambda", Json.encode d.lambda),
        ("startPosition", Json.encode d.span.start), ("endPosition", Json.encode d.span.stop)]

/-! ## When a definition is made -/

/-- What a definition may be made from: a name, a lambda, and a span that the mode lets through. -/
def Acceptable (mode : ValidationMode) (name : String) (lambda : Option L) (span : Span) : Prop :=
  name ≠ "" ∧ lambda.isSome = true ∧ (span.isReversed = true → mode = .lenient)

/-- A definition is made exactly from acceptable arguments, and it holds them unchanged. -/
theorem make_result_eq_ok_iff {mode : ValidationMode} {name : String} {lambda : Option L}
    {span : Span} {d : FunctionDefinition L} :
    (make mode name lambda span).result = .ok d ↔
      Acceptable mode name lambda span ∧ d.name = name ∧ lambda = some d.lambda ∧
        d.span = span := by
  obtain ⟨dname, dlambda, dspan⟩ := d
  unfold make Acceptable
  cases lambda <;> cases mode <;> cases hspan : span.isReversed <;> by_cases hname : name = "" <;>
    simp [hname, ValidationMode.rejectsReversed, eq_comm]

/-- The first fault decides why a definition is refused. -/
theorem make_result_eq_error_iff {mode : ValidationMode} {name : String} {lambda : Option L}
    {span : Span} {r : Rejection} :
    (make mode name lambda span).result = .error r ↔
      name = "" ∧ r = .emptyName span ∨
      name ≠ "" ∧ lambda = none ∧ r = .missingLambda name ∨
      name ≠ "" ∧ lambda.isSome = true ∧ span.isReversed = true ∧ mode = .strict ∧
        r = .reversedSpan name span := by
  unfold make
  cases lambda <;> cases mode <;> cases hspan : span.isReversed <;> by_cases hname : name = "" <;>
    simp [hname, ValidationMode.rejectsReversed, eq_comm]

/-- A definition that is made leaves a warning exactly when its span is reversed. -/
theorem make_log_of_ok {mode : ValidationMode} {name : String} {lambda : Option L} {span : Span}
    {d : FunctionDefinition L} (h : (make mode name lambda span).result = .ok d) :
    (make mode name lambda span).log =
      if span.isReversed then [reversedWarning name span] else [] := by
  have hacc := (make_result_eq_ok_iff.1 h).1
  obtain ⟨hname, hlambda, hmode⟩ := hacc
  obtain ⟨l, rfl⟩ := Option.isSome_iff_exists.1 hlambda
  cases hspan : span.isReversed with
  | false => simp [make, hname, hspan]
  | true => simp [make, hname, hspan, hmode hspan, ValidationMode.rejectsReversed]

/-- A definition that is refused leaves exactly the record of the reason. -/
theorem make_log_of_error {mode : ValidationMode} {name : String} {lambda : Option L}
    {span : Span} {r : Rejection} (h : (make mode name lambda span).result = .error r) :
    (make mode name lambda span).log = [r.record] := by
  unfold make at h ⊢
  cases lambda <;> cases mode <;> cases hspan : span.isReversed <;> by_cases hname : name = "" <;>
    simp_all [ValidationMode.rejectsReversed]

end FunctionDefinition
end EntitySql

/-!
# Terminal styles

A styled text is enclosed in two control sequences, one that switches a style
on and one that resets the terminal.  `strip` removes all such sequences.

Main results:

- Definition `Terminal.strip`: a text without its control sequences.
- Theorem `Terminal.strip_eq_self`: a text without the escape character loses nothing.
-/

namespace EntitySql
namespace Terminal

/-- The styles in use. -/
inductive Style where
  | boldRed
  | boldYellow
  | dimmed
  | cyan
deriving DecidableEq, Repr

/-- The parameters that select a style. -/
def Style.parameters : Style → String
  | .boldRed => "1;31"
  | .boldYellow => "1;33"
  | .dimmed => "2"
  | .cyan => "36"

/-- The character that introduces a control sequence. -/
def escapeChar : Char := '\x1b'

/-- The control sequence with the given parameters. -/
def sequence (parameters : String) : String :=
  String.singleton escapeChar ++ "[" ++ parameters ++ "m"

/-- A text in a style, if colouring is on. -/
def paint (colouring : Bool) (style : Style) (text : String) : String :=
  if colouring then sequence style.parameters ++ text ++ sequence "0" else text

/-- Parameters consist of digits and semicolons. -/
def isParameter (c : Char) : Bool :=
  c.isDigit || c == ';'

/-- What follows a control sequence of this kind, given the text after the escape character. -/
def afterSequence? : List Char → Option (List Char)
  | '[' :: text =>
    match text.dropWhile isParameter with
    | 'm' :: rest => some rest
    | _ => none
  | _ => none

/-- A sequence is shorter with its escape character and bracket taken off. -/
theorem length_lt_of_afterSequence? {text rest : List Char} (h : afterSequence? text = some rest) :
    rest.length < text.length := by
  unfold afterSequence? at h
  split at h
  next tail =>
    split at h
    next found heq =>
      cases h
      have hle := (List.dropWhile_sublist (l := tail) isParameter).length_le
      rw [heq] at hle
      simp only [List.length_cons] at hle ⊢
      omega
    next => cases h
  next => cases h

/-- A text without its control sequences; the escape character of an unfinished one stays. -/
def stripChars : List Char → List Char
  | [] => []
  | c :: text =>
    if c = escapeChar then
      match _h : afterSequence? text with
      | some rest => stripChars rest
      | none => c :: stripChars text
    else c :: stripChars text
termination_by text => text.length
decreasing_by
  · have := length_lt_of_afterSequence? _h
    simp only [List.length_cons]
    omega
  · simp
  · simp

/-- A text without its control sequences. -/
def strip (text : String) : String :=
  String.ofList (stripChars text.toList)

/-- Without colouring a text stays as it is. -/
@[simp]
theorem paint_off (style : Style) (text : String) : paint false style text = text :=
  rfl

/-- A text without the escape character has no control sequences to lose. -/
theorem stripChars_eq_self {text : List Char} (h : escapeChar ∉ text) : stripChars text = text := by
  induction text with
  | nil => simp [stripChars]
  | cons c text ih =>
    simp only [List.mem_cons, not_or] at h
    rw [stripChars, if_neg (Ne.symm h.1), ih h.2]

/-- A text without the escape character loses nothing. -/
theorem strip_eq_self {text : String} (h : escapeChar ∉ text.toList) : strip text = text := by
  rw [strip, stripChars_eq_self h, String.ofList_toList]

end Terminal
end EntitySql

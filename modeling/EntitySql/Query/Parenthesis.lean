/-!
# Parentheses

The match of an opening parenthesis is found by counting: the depth grows with
every opening and shrinks with every closing parenthesis, and the match is where
it returns to zero.  A closing parenthesis at depth zero has no partner at all.

A text is balanced when it holds as many opening as closing parentheses and no
beginning of it holds more closing ones.

Main results:

- Definition `Parenthesis.matching`: the partner of a parenthesis, by counting.
- Definition `Parenthesis.Balanced`: the texts in which every parenthesis has one.
- Theorems `Parenthesis.openings_append` and `Parenthesis.closings_append`: the
  counts add up.
-/

namespace EntitySql
namespace Parenthesis

/-- Why no match is found. -/
inductive Unmatched where
  /-- The text ends before the depth returns to zero. -/
  | unclosed
  /-- A parenthesis closes that was never opened. -/
  | unopened
deriving DecidableEq, Repr

/-- The number of characters before the parenthesis that closes the given depth. -/
def close (depth : Nat) : List Char → Except Unmatched Nat
  | [] => .error .unclosed
  | c :: text =>
    if c = '(' then (close (depth + 1) text).map (· + 1)
    else if c = ')' then
      match depth with
      | 0 => .error .unopened
      | 1 => .ok 0
      | depth + 2 => (close (depth + 1) text).map (· + 1)
    else (close depth text).map (· + 1)

/-- The index of the parenthesis that closes the one at the given index. -/
def matching (text : List Char) (opening : Nat) : Except Unmatched Nat :=
  (close 0 (text.drop opening)).map (opening + ·)

/-- The number of opening parentheses. -/
def openings (text : List Char) : Nat :=
  text.count '('

/-- The number of closing parentheses. -/
def closings (text : List Char) : Nat :=
  text.count ')'

/-- As many parentheses open as close, and at no point have more closed than opened. -/
structure Balanced (text : List Char) : Prop where
  closings_le : ∀ start, start <+: text → closings start ≤ openings start
  total : closings text = openings text

/-- Openings add up. -/
@[simp]
theorem openings_append (s t : List Char) : openings (s ++ t) = openings s + openings t :=
  List.count_append

/-- Closings add up. -/
@[simp]
theorem closings_append (s t : List Char) : closings (s ++ t) = closings s + closings t :=
  List.count_append

/-- The empty text is balanced. -/
theorem balanced_nil : Balanced [] where
  closings_le start h := by
    rw [List.prefix_nil.1 h]
    exact Nat.le_refl _
  total := rfl

end Parenthesis
end EntitySql

/-!
# Sets of code points

A property of characters is stored as the ascending list of the code points at
which membership changes: the set starts outside, and every listed point
switches.  A list of even length describes a bounded set.

Main results:

- Theorem `CodeSet.contains_cons_cons`: a pair of points in front adds the
  half-open range between them.
- Theorem `CodeSet.not_contains_of_lt`: nothing lies before the first point.
-/

namespace EntitySql

/-- A set of code points, given by the ascending points where membership changes. -/
structure CodeSet where
  changes : List Nat

namespace CodeSet

/-- Whether a code point lies between an odd and the following even change. -/
def inside : List Nat → Nat → Bool
  | [], _ => false
  | [first], code => first ≤ code
  | first :: past :: rest, code =>
    if code < first then false else if code < past then true else inside rest code

/-- Whether the code point of a character belongs to the set. -/
def contains (s : CodeSet) (c : Char) : Bool :=
  inside s.changes c.toNat

/-- Two changes in front describe the range between them, and the rest lies past it. -/
theorem contains_cons_cons (first past : Nat) (rest : List Nat) (c : Char) :
    (CodeSet.mk (first :: past :: rest)).contains c =
      if c.toNat < first then false
      else if c.toNat < past then true
      else (CodeSet.mk rest).contains c :=
  rfl

/-- No code point before the first change belongs to the set. -/
theorem not_contains_of_lt {first : Nat} {rest : List Nat} {c : Char} (h : c.toNat < first) :
    (CodeSet.mk (first :: rest)).contains c = false := by
  cases rest with
  | nil => simp [contains, inside]; omega
  | cons past rest => simp [contains, inside, h]

end CodeSet
end EntitySql

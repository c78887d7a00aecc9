/-!
# Words

Offsets and lengths are stored as unsigned words of 64 bits.  The library
computes with natural numbers; this module says which of them a word can hold,
and adds with a check where a sum is stored.

Main results:

- Theorem `Word.add?_eq_ok_iff`: a sum is stored exactly when a word can hold it.
-/

namespace EntitySql
namespace Word

/-- The number of values of a word. -/
def limit : Nat := UInt64.size

/-- A word can hold the number. -/
def Fits (n : Nat) : Prop := n < limit

instance (n : Nat) : Decidable (Fits n) :=
  inferInstanceAs (Decidable (n < limit))

/-- An arithmetic fault: a result that does not fit a word. -/
inductive Overflow where
  | addition
  | subtraction
deriving DecidableEq, Repr

/-- The message of a fault. -/
def Overflow.message : Overflow → String
  | .addition => "attempt to add with overflow"
  | .subtraction => "attempt to subtract with overflow"

/-- The sum of two numbers, if a word can hold it. -/
def add? (m n : Nat) : Except Overflow Nat :=
  if Fits (m + n) then .ok (m + n) else .error .addition

/-- A sum is stored exactly when a word can hold it. -/
theorem add?_eq_ok_iff {m n sum : Nat} : add? m n = .ok sum ↔ Fits (m + n) ∧ sum = m + n := by
  unfold add?
  split
  next h => simp [h, eq_comm]
  next h => simp [h]

end Word
end EntitySql

import EntitySql.Diagnostic.Rejection

/-!
# Outcomes

The outcome of a call is its result, or the reason why it was refused, together
with the records it logged.  Calls are put one after the other: the first
rejection ends the sequence, and what was logged before it stays.

Main results:

- Theorems `Outcome.bind_of_ok` and `Outcome.bind_of_error`: what a sequence gives and
  logs, in the order of its calls.
- Theorem `Outcome.result_bind_eq_ok_iff`: a sequence succeeds exactly when all its calls do.
-/

namespace EntitySql

/-- A result or a rejection, and the records logged on the way. -/
structure Outcome (α : Type) where
  result : Except Rejection α
  log : List LogRecord

namespace Outcome

variable {α β : Type}

/-- A result that leaves some records. -/
def accept (a : α) (log : List LogRecord) : Outcome α := ⟨.ok a, log⟩

/-- A refusal, which leaves the record of its reason. -/
def reject (r : Rejection) : Outcome α := ⟨.error r, [r.record]⟩

/-- A call that goes on from the result of another. -/
def andThen (x : Outcome α) (next : α → Outcome β) : Outcome β :=
  match x.result with
  | .ok a => ⟨(next a).result, x.log ++ (next a).log⟩
  | .error r => ⟨.error r, x.log⟩

instance : Monad Outcome where
  pure a := accept a []
  bind := andThen

/-- A refusal has no result. -/
@[simp]
theorem reject_result (r : Rejection) : (reject r : Outcome α).result = .error r :=
  rfl

/-- A refusal logs exactly its own record. -/
@[simp]
theorem reject_log (r : Rejection) : (reject r : Outcome α).log = [r.record] :=
  rfl

/-- An accepted value is the result. -/
@[simp]
theorem accept_result (a : α) (log : List LogRecord) : (accept a log).result = .ok a :=
  rfl

/-- An accepted value leaves the given records. -/
@[simp]
theorem accept_log (a : α) (log : List LogRecord) : (accept a log).log = log :=
  rfl

/-- After a refusal nothing more happens. -/
theorem bind_of_error {x : Outcome α} {r : Rejection} (h : x.result = .error r)
    (next : α → Outcome β) : x >>= next = ⟨.error r, x.log⟩ := by
  simp [bind, andThen, h]

/-- After a success the next call goes on. -/
theorem bind_of_ok {x : Outcome α} {a : α} (h : x.result = .ok a) (next : α → Outcome β) :
    x >>= next = ⟨(next a).result, x.log ++ (next a).log⟩ := by
  simp [bind, andThen, h]

/-- A sequence succeeds exactly when all its calls do. -/
theorem result_bind_eq_ok_iff {x : Outcome α} {next : α → Outcome β} {b : β} :
    (x >>= next).result = .ok b ↔ ∃ a, x.result = .ok a ∧ (next a).result = .ok b := by
  cases h : x.result with
  | error r => simp [bind_of_error h]
  | ok a => simp [bind_of_ok h]

end Outcome
end EntitySql

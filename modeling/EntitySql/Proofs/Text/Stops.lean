/-!
# Where a run of characters ends

A run of characters of one kind ends where the text goes on with a character of
another kind, or with nothing.  Taking the run and dropping it take the text
apart there.

Main results:

- Theorem `Text.takeWhile_append_of_stops` and theorem `Text.dropWhile_append_of_stops`:
  a run is taken, and the text behind it is left.
- Theorem `Text.append_inj_of_stops`: a text is a run and what stops it in one way only.
-/

namespace EntitySql
namespace Text

/-- A text does not go on with a character of some kind. -/
def Stops (kind : Char → Bool) (text : List Char) : Prop :=
  ∀ c rest, text = c :: rest → kind c = false

/-- The end of a text stops every run. -/
theorem stops_nil (kind : Char → Bool) : Stops kind [] := by
  intro c rest h
  cases h

/-- A character of another kind stops a run. -/
theorem stops_cons {kind : Char → Bool} {c : Char} (h : kind c = false) (rest : List Char) :
    Stops kind (c :: rest) := by
  intro d more heq
  cases heq
  exact h

/-- Where the text stops there is nothing more to take. -/
theorem takeWhile_eq_nil_of_stops {kind : Char → Bool} {text : List Char} (h : Stops kind text) :
    text.takeWhile kind = [] := by
  cases text with
  | nil => rfl
  | cons c rest => simp [h c rest rfl]

/-- Where the text stops there is nothing more to drop. -/
theorem dropWhile_eq_self_of_stops {kind : Char → Bool} {text : List Char} (h : Stops kind text) :
    text.dropWhile kind = text := by
  cases text with
  | nil => rfl
  | cons c rest => simp [h c rest rfl]

/-- A run is taken up to where the text stops. -/
theorem takeWhile_append_of_stops {kind : Char → Bool} {run rest : List Char}
    (hrun : ∀ c ∈ run, kind c = true) (hrest : Stops kind rest) :
    (run ++ rest).takeWhile kind = run := by
  rw [List.takeWhile_append_of_pos hrun, takeWhile_eq_nil_of_stops hrest, List.append_nil]

/-- Behind a run the text is left where it stops. -/
theorem dropWhile_append_of_stops {kind : Char → Bool} {run rest : List Char}
    (hrun : ∀ c ∈ run, kind c = true) (hrest : Stops kind rest) :
    (run ++ rest).dropWhile kind = rest := by
  rw [List.dropWhile_append_of_pos hrun, dropWhile_eq_self_of_stops hrest]

/-- A text is a run and what stops it in one way only. -/
theorem append_inj_of_stops {kind : Char → Bool} {run run' rest rest' : List Char}
    (hrun : ∀ c ∈ run, kind c = true) (hrun' : ∀ c ∈ run', kind c = true)
    (hrest : Stops kind rest) (hrest' : Stops kind rest') (h : run ++ rest = run' ++ rest') :
    run = run' ∧ rest = rest' := by
  have hsame : run = run' := by
    rw [← takeWhile_append_of_stops hrun hrest, h, takeWhile_append_of_stops hrun' hrest']
  subst hsame
  exact ⟨rfl, List.append_cancel_left h⟩

end Text
end EntitySql

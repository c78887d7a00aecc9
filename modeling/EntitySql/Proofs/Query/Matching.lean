import EntitySql.Query.Parenthesis

/-!
# Matching parentheses

The count that looks for a match runs over the text behind an opening
parenthesis.  It goes on as long as the depth stays positive, and it stops at
the first closing parenthesis that brings the depth from one to zero.  What lies
before that parenthesis is balanced, and nothing shorter or longer is.

Main results:

- Theorem `Parenthesis.balanced_iff_close`: balance is decided by counting.
- Theorem `Parenthesis.close_eq_ok_iff`: where the count stops, at any depth.
- Theorem `Parenthesis.close_eq_unclosed_iff`: the count runs to the end exactly
  when the depth stays positive.
- Theorem `Parenthesis.matching_eq_ok_iff`: the match of an opening parenthesis
  is the closing one behind a balanced text.
- Theorem `Parenthesis.matching_ne_unopened`: behind an opening parenthesis the
  depth is never counted below zero.
-/

namespace EntitySql
namespace Parenthesis

/-! ## Depth along a text -/

/-- A text that is read at a depth never brings it down to zero. -/
def StaysOpen (depth : Nat) (text : List Char) : Prop :=
  ∀ start, start <+: text → closings start < depth + openings start

/-- A text that is read at a depth keeps it positive and ends at depth one. -/
structure EndsAtOne (depth : Nat) (text : List Char) : Prop where
  staysOpen : StaysOpen depth text
  total : depth + openings text = closings text + 1

/-- An opening parenthesis in front is one more. -/
@[simp]
theorem openings_cons_opening (text : List Char) :
    openings ('(' :: text) = openings text + 1 := by
  simp [openings]

/-- Any other character in front opens nothing. -/
theorem openings_cons_of_ne {c : Char} (h : c ≠ '(') (text : List Char) :
    openings (c :: text) = openings text := by
  simp [openings, h]

/-- A closing parenthesis in front is one more. -/
@[simp]
theorem closings_cons_closing (text : List Char) :
    closings (')' :: text) = closings text + 1 := by
  simp [closings]

/-- Any other character in front closes nothing. -/
theorem closings_cons_of_ne {c : Char} (h : c ≠ ')') (text : List Char) :
    closings (c :: text) = closings text := by
  simp [closings, h]

/-- Without text the depth stays positive if it is. -/
theorem staysOpen_nil_iff {depth : Nat} : StaysOpen depth [] ↔ 0 < depth := by
  constructor
  · intro h
    simpa [openings, closings] using h [] List.prefix_rfl
  · intro h start hstart
    rw [List.prefix_nil.1 hstart]
    simpa [openings, closings] using h

/-- A depth that stays positive is positive to begin with. -/
theorem StaysOpen.depth_pos {depth : Nat} {text : List Char} (h : StaysOpen depth text) :
    0 < depth := by
  simpa [openings, closings] using h [] List.nil_prefix

/-- A character is counted in every beginning but the empty one. -/
theorem staysOpen_cons_iff {depth : Nat} {c : Char} {text : List Char} :
    StaysOpen depth (c :: text) ↔
      0 < depth ∧
        ∀ start, start <+: text → closings (c :: start) < depth + openings (c :: start) := by
  constructor
  · intro h
    refine ⟨h.depth_pos, ?_⟩
    intro start hstart
    exact h (c :: start) ((List.prefix_cons_inj c).2 hstart)
  · intro h start hstart
    rcases h with ⟨hdepth, h⟩
    rcases List.prefix_cons_iff.1 hstart with rfl | ⟨more, rfl, hmore⟩
    · simpa [openings, closings] using hdepth
    · exact h more hmore

/-- An opening parenthesis makes the text be read one deeper. -/
theorem staysOpen_opening_iff {depth : Nat} {text : List Char} :
    StaysOpen depth ('(' :: text) ↔ 0 < depth ∧ StaysOpen (depth + 1) text := by
  rw [staysOpen_cons_iff]
  refine and_congr_right fun _ => forall₂_congr fun start _ => ?_
  rw [openings_cons_opening, closings_cons_of_ne (by decide)]
  omega

/-- A closing parenthesis makes the text be read one less deep. -/
theorem staysOpen_closing_iff {depth : Nat} {text : List Char} :
    StaysOpen (depth + 1) (')' :: text) ↔ StaysOpen depth text := by
  rw [staysOpen_cons_iff]
  constructor
  · intro h start hstart
    rcases h with ⟨-, h⟩
    have := h start hstart
    rw [closings_cons_closing, openings_cons_of_ne (by decide)] at this
    omega
  · intro h
    refine ⟨Nat.succ_pos depth, ?_⟩
    intro start hstart
    have := h start hstart
    rw [closings_cons_closing, openings_cons_of_ne (by decide)]
    omega

/-- Any other character leaves the depth as it is. -/
theorem staysOpen_other_iff {depth : Nat} {c : Char} {text : List Char} (hopening : c ≠ '(')
    (hclosing : c ≠ ')') : StaysOpen depth (c :: text) ↔ StaysOpen depth text := by
  rw [staysOpen_cons_iff]
  simp only [openings_cons_of_ne hopening, closings_cons_of_ne hclosing]
  exact ⟨fun h => h.2, fun h => ⟨h.depth_pos, h⟩⟩

/-- The balanced texts are those that keep depth one positive and end at it again. -/
theorem balanced_iff_endsAtOne {text : List Char} : Balanced text ↔ EndsAtOne 1 text := by
  constructor
  · intro h
    refine ⟨?_, ?_⟩
    · intro start hstart
      have := h.closings_le start hstart
      omega
    · have := h.total
      omega
  · intro h
    refine ⟨?_, ?_⟩
    · intro start hstart
      have := h.staysOpen start hstart
      omega
    · have := h.total
      omega

/-- Without text the depth ends where it begins. -/
theorem endsAtOne_nil_iff {depth : Nat} : EndsAtOne depth [] ↔ depth = 1 := by
  constructor
  · intro h
    simpa [openings, closings] using h.total
  · intro h
    subst h
    exact balanced_iff_endsAtOne.1 balanced_nil

/-- Behind an opening parenthesis the end is the same, from one deeper. -/
theorem endsAtOne_opening_iff {depth : Nat} {text : List Char} :
    EndsAtOne depth ('(' :: text) ↔ 0 < depth ∧ EndsAtOne (depth + 1) text := by
  constructor
  · intro h
    rcases h with ⟨hopen, htotal⟩
    rw [staysOpen_opening_iff] at hopen
    rw [openings_cons_opening, closings_cons_of_ne (by decide)] at htotal
    exact ⟨hopen.1, hopen.2, by omega⟩
  · intro h
    rcases h with ⟨hdepth, hopen, htotal⟩
    refine ⟨staysOpen_opening_iff.2 ⟨hdepth, hopen⟩, ?_⟩
    rw [openings_cons_opening, closings_cons_of_ne (by decide)]
    omega

/-- Behind a closing parenthesis the end is the same, from one less deep. -/
theorem endsAtOne_closing_iff {depth : Nat} {text : List Char} :
    EndsAtOne (depth + 1) (')' :: text) ↔ EndsAtOne depth text := by
  constructor
  · intro h
    rcases h with ⟨hopen, htotal⟩
    rw [closings_cons_closing, openings_cons_of_ne (by decide)] at htotal
    exact ⟨staysOpen_closing_iff.1 hopen, by omega⟩
  · intro h
    rcases h with ⟨hopen, htotal⟩
    refine ⟨staysOpen_closing_iff.2 hopen, ?_⟩
    rw [closings_cons_closing, openings_cons_of_ne (by decide)]
    omega

/-- Behind any other character the end is the same. -/
theorem endsAtOne_other_iff {depth : Nat} {c : Char} {text : List Char} (hopening : c ≠ '(')
    (hclosing : c ≠ ')') : EndsAtOne depth (c :: text) ↔ EndsAtOne depth text := by
  constructor
  · intro h
    rcases h with ⟨hopen, htotal⟩
    rw [openings_cons_of_ne hopening, closings_cons_of_ne hclosing] at htotal
    exact ⟨(staysOpen_other_iff hopening hclosing).1 hopen, htotal⟩
  · intro h
    rcases h with ⟨hopen, htotal⟩
    refine ⟨(staysOpen_other_iff hopening hclosing).2 hopen, ?_⟩
    rw [openings_cons_of_ne hopening, closings_cons_of_ne hclosing]
    exact htotal

/-! ## The count -/

/-- An opening parenthesis has to be closed as well. -/
theorem close_opening (depth : Nat) (text : List Char) :
    close depth ('(' :: text) = (close (depth + 1) text).map (· + 1) := by
  simp [close]

/-- At depth one a closing parenthesis is the one that is looked for. -/
theorem close_closing_one (text : List Char) : close 1 (')' :: text) = .ok 0 := by
  simp [close]

/-- At a greater depth a closing parenthesis leaves others to be closed. -/
theorem close_closing (depth : Nat) (text : List Char) :
    close (depth + 2) (')' :: text) = (close (depth + 1) text).map (· + 1) := by
  simp [close]

theorem close_other {c : Char} (hopening : c ≠ '(') (hclosing : c ≠ ')') (depth : Nat)
    (text : List Char) : close depth (c :: text) = (close depth text).map (· + 1) := by
  simp [close, hopening, hclosing]

/-- A search that goes on behind a character finds what the search of the rest finds. -/
theorem map_succ_eq_ok_iff {x : Except Unmatched Nat} {n : Nat} :
    x.map (· + 1) = .ok n ↔ ∃ m, x = .ok m ∧ n = m + 1 := by
  cases x with
  | error fault => simp [Except.map]
  | ok m => simp [Except.map, eq_comm]

/-- It fails as the search of the rest does. -/
theorem map_succ_eq_error_iff {x : Except Unmatched Nat} {fault : Unmatched} :
    x.map (· + 1) = .error fault ↔ x = .error fault := by
  cases x <;> simp [Except.map]

/-- Behind a text that ends at depth one, a closing parenthesis is the one that is found. -/
theorem close_of_endsAtOne {depth : Nat} {inner : List Char} (h : EndsAtOne depth inner)
    (rest : List Char) : close depth (inner ++ ')' :: rest) = .ok inner.length := by
  induction inner generalizing depth with
  | nil =>
    rw [endsAtOne_nil_iff] at h
    subst h
    exact close_closing_one rest
  | cons c inner ih =>
    rw [List.cons_append, List.length_cons]
    by_cases hopening : c = '('
    · subst hopening
      rw [close_opening, ih (endsAtOne_opening_iff.1 h).2]
      rfl
    · by_cases hclosing : c = ')'
      · subst hclosing
        obtain ⟨level, rfl⟩ : ∃ level, depth = level + 1 :=
          Nat.exists_eq_add_one.2 h.staysOpen.depth_pos
        have hinner : EndsAtOne level inner := endsAtOne_closing_iff.1 h
        -- The text behind the parenthesis keeps its depth positive, so this was not the last level.
        obtain ⟨outer, rfl⟩ : ∃ outer, level = outer + 1 :=
          Nat.exists_eq_add_one.2 hinner.staysOpen.depth_pos
        rw [close_closing, ih hinner]
        rfl
      · rw [close_other hopening hclosing, ih ((endsAtOne_other_iff hopening hclosing).1 h)]
        rfl

/-- Before the parenthesis that is found stands a text that ends at depth one. -/
theorem endsAtOne_of_close {depth n : Nat} {text : List Char} (hdepth : 0 < depth)
    (h : close depth text = .ok n) :
    ∃ inner rest, text = inner ++ ')' :: rest ∧ inner.length = n ∧ EndsAtOne depth inner := by
  induction text generalizing depth n with
  | nil => simp [close] at h
  | cons c text ih =>
    by_cases hopening : c = '('
    · subst hopening
      rw [close_opening, map_succ_eq_ok_iff] at h
      rcases h with ⟨m, hm, rfl⟩
      rcases ih (Nat.succ_pos depth) hm with ⟨inner, rest, rfl, rfl, hinner⟩
      exact ⟨'(' :: inner, rest, rfl, rfl, endsAtOne_opening_iff.2 ⟨hdepth, hinner⟩⟩
    · by_cases hclosing : c = ')'
      · subst hclosing
        match depth, hdepth with
        | 1, _ =>
          rw [close_closing_one, Except.ok.injEq] at h
          subst h
          exact ⟨[], text, rfl, rfl, endsAtOne_nil_iff.2 rfl⟩
        | level + 2, _ =>
          rw [close_closing, map_succ_eq_ok_iff] at h
          rcases h with ⟨m, hm, rfl⟩
          rcases ih (Nat.succ_pos level) hm with ⟨inner, rest, rfl, rfl, hinner⟩
          exact ⟨')' :: inner, rest, rfl, rfl, endsAtOne_closing_iff.2 hinner⟩
      · rw [close_other hopening hclosing, map_succ_eq_ok_iff] at h
        rcases h with ⟨m, hm, rfl⟩
        rcases ih hdepth hm with ⟨inner, rest, rfl, rfl, hinner⟩
        exact ⟨c :: inner, rest, rfl, rfl, (endsAtOne_other_iff hopening hclosing).2 hinner⟩

/-- The count stops exactly at a closing parenthesis behind a text that ends at depth one. -/
theorem close_eq_ok_iff {depth n : Nat} {text : List Char} (hdepth : 0 < depth) :
    close depth text = .ok n ↔
      ∃ inner rest, text = inner ++ ')' :: rest ∧ inner.length = n ∧ EndsAtOne depth inner := by
  constructor
  · exact endsAtOne_of_close hdepth
  · intro h
    rcases h with ⟨inner, rest, rfl, rfl, hinner⟩
    exact close_of_endsAtOne hinner rest

/-- A text is balanced exactly when a closing parenthesis put behind it is the one that closes the
first level. -/
theorem balanced_iff_close {text : List Char} :
    Balanced text ↔ (close 1 (text ++ [')'])).toOption = some text.length := by
  rw [balanced_iff_endsAtOne]
  constructor
  · intro h
    rw [close_of_endsAtOne h []]
    rfl
  · intro h
    cases hclose : close 1 (text ++ [')']) with
    | error fault =>
      rw [hclose] at h
      cases h
    | ok n =>
      rw [hclose] at h
      have hn : n = text.length := Option.some.inj h
      rcases endsAtOne_of_close Nat.one_pos hclose with ⟨inner, rest, htext, hlength, hinner⟩
      have heq : text = inner := List.append_inj_left htext (by rw [hlength, hn])
      rw [heq]
      exact hinner

instance : DecidablePred Balanced := fun _ => decidable_of_iff _ balanced_iff_close.symm

example : Balanced ['f', '(', 's', ')'] ∧ ¬Balanced [')', '('] := by decide

/-- From a positive depth no parenthesis closes that was never opened. -/
theorem close_ne_unopened {depth : Nat} {text : List Char} (hdepth : 0 < depth) :
    close depth text ≠ .error .unopened := by
  induction text generalizing depth with
  | nil => simp [close]
  | cons c text ih =>
    by_cases hopening : c = '('
    · subst hopening
      rw [close_opening, ne_eq, map_succ_eq_error_iff]
      exact ih (Nat.succ_pos depth)
    · by_cases hclosing : c = ')'
      · subst hclosing
        match depth, hdepth with
        | 1, _ => simp [close_closing_one]
        | level + 2, _ =>
          rw [close_closing, ne_eq, map_succ_eq_error_iff]
          exact ih (Nat.succ_pos level)
      · rw [close_other hopening hclosing, ne_eq, map_succ_eq_error_iff]
        exact ih hdepth

/-- The count runs to the end exactly when the depth stays positive. -/
theorem close_eq_unclosed_iff {depth : Nat} {text : List Char} (hdepth : 0 < depth) :
    close depth text = .error .unclosed ↔ StaysOpen depth text := by
  induction text generalizing depth with
  | nil => simp [close, staysOpen_nil_iff, hdepth]
  | cons c text ih =>
    by_cases hopening : c = '('
    · subst hopening
      rw [close_opening, map_succ_eq_error_iff, ih (Nat.succ_pos depth), staysOpen_opening_iff]
      simp [hdepth]
    · by_cases hclosing : c = ')'
      · subst hclosing
        match depth, hdepth with
        | 1, _ =>
          rw [close_closing_one, staysOpen_closing_iff]
          constructor
          · intro h
            cases h
          · intro h
            exact absurd h.depth_pos (Nat.lt_irrefl 0)
        | level + 2, _ =>
          rw [close_closing, map_succ_eq_error_iff, ih (Nat.succ_pos level),
            staysOpen_closing_iff]
      · rw [close_other hopening hclosing, map_succ_eq_error_iff, ih hdepth,
          staysOpen_other_iff hopening hclosing]

/-! ## The match of an opening parenthesis -/

/-- The match of an opening parenthesis is searched for behind it, at depth one. -/
theorem matching_of_drop {text behind : List Char} {opening : Nat}
    (h : text.drop opening = '(' :: behind) :
    matching text opening = (close 1 behind).map (opening + 1 + ·) := by
  rw [matching, h, close_opening]
  cases close 1 behind with
  | error fault => rfl
  | ok n => simp [Except.map, Nat.add_assoc, Nat.add_comm 1 n]

/-- The match of an opening parenthesis is the closing one behind a balanced text. -/
theorem matching_eq_ok_iff {text behind : List Char} {opening found : Nat}
    (h : text.drop opening = '(' :: behind) :
    matching text opening = .ok found ↔
      ∃ inner rest, behind = inner ++ ')' :: rest ∧ Balanced inner ∧
        found = opening + 1 + inner.length := by
  have hclose : matching text opening = .ok found ↔
      ∃ n, close 1 behind = .ok n ∧ found = opening + 1 + n := by
    rw [matching_of_drop h]
    cases close 1 behind with
    | error fault => simp [Except.map]
    | ok n => simp [Except.map, eq_comm]
  rw [hclose]
  constructor
  · intro h
    rcases h with ⟨n, hn, rfl⟩
    rcases (close_eq_ok_iff Nat.one_pos).1 hn with ⟨inner, rest, rfl, rfl, hinner⟩
    exact ⟨inner, rest, rfl, balanced_iff_endsAtOne.2 hinner, rfl⟩
  · intro h
    rcases h with ⟨inner, rest, rfl, hinner, rfl⟩
    have hends : EndsAtOne 1 inner := balanced_iff_endsAtOne.1 hinner
    exact ⟨inner.length, (close_eq_ok_iff Nat.one_pos).2 ⟨inner, rest, rfl, rfl, hends⟩, rfl⟩

/-- An opening parenthesis has no match exactly when the depth behind it stays positive. -/
theorem matching_eq_unclosed_iff {text behind : List Char} {opening : Nat}
    (h : text.drop opening = '(' :: behind) :
    matching text opening = .error .unclosed ↔ StaysOpen 1 behind := by
  rw [matching_of_drop h, ← close_eq_unclosed_iff Nat.one_pos]
  cases close 1 behind <;> simp [Except.map]

/-- From an opening parenthesis on, the depth is never counted below zero. -/
theorem matching_ne_unopened {text behind : List Char} {opening : Nat}
    (h : text.drop opening = '(' :: behind) : matching text opening ≠ .error .unopened := by
  have hclose : close 1 behind ≠ .error .unopened := close_ne_unopened Nat.one_pos
  rw [matching_of_drop h]
  cases hbehind : close 1 behind with
  | error fault => simpa [Except.map, hbehind] using hclose
  | ok n => simp [Except.map]

/-- In a balanced text every opening parenthesis has a match. -/
theorem not_staysOpen_of_balanced {before behind : List Char}
    (h : Balanced (before ++ '(' :: behind)) : ¬ StaysOpen 1 behind := by
  intro hopen
  have hbefore := h.closings_le before (List.prefix_append _ _)
  have hbehind := hopen behind List.prefix_rfl
  have htotal := h.total
  rw [closings_append, openings_append, openings_cons_opening,
    closings_cons_of_ne (by decide)] at htotal
  omega

end Parenthesis
end EntitySql

import EntitySql.Proofs.Text.Stops
import EntitySql.Text.Terminal

/-!
# Stripping control sequences

A text may hold control sequences and beginnings of such.  Stripping takes out
every sequence and leaves every other character, also those of an unfinished
sequence.  A beginning is completed only by what stands right behind it, so two
texts are stripped apart when the second one does not go on with a character that
a sequence may hold.

Main results:

- Theorem `Terminal.afterSequence?_eq_some_iff`: exactly when an escape character begins
  a control sequence.
- Theorem `Terminal.stripped_iff`: stripping takes out the sequences and nothing else.
- Theorem `Terminal.stripChars_append`: where a text may be cut before it is stripped.
- Theorem `Terminal.stripChars_paint_append`: a painted text is stripped to the text.
-/

namespace EntitySql
namespace Terminal

/-! ## Control sequences -/

/-- A control sequence: parameters between the escape character with a bracket and a letter m. -/
def IsSequence (chars : List Char) : Prop :=
  ∃ parameters, (∀ c ∈ parameters, isParameter c = true) ∧
    chars = escapeChar :: '[' :: (parameters ++ ['m'])

/-- The characters that a control sequence may hold behind its escape character. -/
def continues (c : Char) : Bool :=
  c == '[' || c == 'm' || isParameter c

/-- Behind its first character a control sequence holds nothing but what may continue it. -/
theorem IsSequence.continues_of_mem {c : Char} {chars : List Char} (h : IsSequence (c :: chars)) :
    ∀ d ∈ chars, continues d = true := by
  rcases h with ⟨parameters, hparameters, heq⟩
  rw [List.cons.injEq] at heq
  rcases heq with ⟨-, rfl⟩
  intro d hd
  rw [List.mem_cons, List.mem_append, List.mem_singleton] at hd
  rcases hd with rfl | hd | rfl
  · rfl
  · simp [continues, hparameters d hd]
  · rfl

/-- An escape character begins a control sequence exactly when the rest of it follows. -/
theorem afterSequence?_eq_some_iff {text rest : List Char} :
    afterSequence? text = some rest ↔
      ∃ chars, IsSequence (escapeChar :: chars) ∧ text = chars ++ rest := by
  constructor
  · intro h
    unfold afterSequence? at h
    split at h
    next behind =>
      split at h
      next found hfound =>
        cases h
        refine ⟨'[' :: (behind.takeWhile isParameter ++ ['m']), ?_, ?_⟩
        · exact ⟨behind.takeWhile isParameter, List.all_eq_true.1 List.all_takeWhile, rfl⟩
        · rw [List.cons_append, List.append_assoc, List.singleton_append, ← hfound,
            List.takeWhile_append_dropWhile]
      next => cases h
    next => cases h
  · rintro ⟨chars, ⟨parameters, hparameters, heq⟩, rfl⟩
    rw [List.cons.injEq] at heq
    rcases heq with ⟨-, rfl⟩
    -- The letter m is no parameter, so the first one behind the parameters ends the sequence.
    have hdrop : (parameters ++ 'm' :: rest).dropWhile isParameter = 'm' :: rest :=
      Text.dropWhile_append_of_stops hparameters (Text.stops_cons rfl rest)
    simp [afterSequence?, hdrop]

/-- A text begins with a control sequence. -/
def BeginsSequence (text : List Char) : Prop :=
  ∃ chars, IsSequence chars ∧ chars <+: text

/-- A control sequence begins with the escape character, and the rest of it follows. -/
theorem beginsSequence_cons_iff {c : Char} {text : List Char} :
    BeginsSequence (c :: text) ↔ c = escapeChar ∧ ∃ rest, afterSequence? text = some rest := by
  constructor
  · rintro ⟨chars, ⟨parameters, hparameters, rfl⟩, rest, heq⟩
    rw [List.cons_append, List.cons.injEq] at heq
    rcases heq with ⟨rfl, rfl⟩
    exact ⟨rfl, rest, afterSequence?_eq_some_iff.2 ⟨_, ⟨parameters, hparameters, rfl⟩, rfl⟩⟩
  · rintro ⟨rfl, rest, hrest⟩
    rcases afterSequence?_eq_some_iff.1 hrest with ⟨chars, hchars, rfl⟩
    exact ⟨escapeChar :: chars, hchars, List.prefix_append _ rest⟩

/-- No other character begins a control sequence. -/
theorem not_beginsSequence_of_ne {c : Char} (hc : c ≠ escapeChar) (text : List Char) :
    ¬ BeginsSequence (c :: text) := by
  intro h
  exact hc (beginsSequence_cons_iff.1 h).1

/-- No control sequence reaches beyond a place where the text goes on with a character that it may
not hold. -/
theorem beginsSequence_of_append {c : Char} {text more : List Char}
    (hmore : Text.Stops continues more) (h : BeginsSequence ((c :: text) ++ more)) :
    BeginsSequence (c :: text) := by
  rcases h with ⟨chars, hchars, hprefix⟩
  rcases List.prefix_or_prefix_of_prefix hprefix (List.prefix_append (c :: text) more) with
    hinside | ⟨beyond, rfl⟩
  · exact ⟨chars, hchars, hinside⟩
  · cases beyond with
    | nil =>
      rw [List.append_nil] at hchars
      exact ⟨c :: text, hchars, List.prefix_rfl⟩
    | cons d beyond =>
      -- The sequence would hold the first character behind the text, at which it must stop.
      rw [List.prefix_append_right_inj] at hprefix
      rcases hprefix with ⟨rest, rfl⟩
      have hstops : continues d = false := hmore d (beyond ++ rest) rfl
      have hcontinues : continues d = true :=
        hchars.continues_of_mem d (List.mem_append_right text List.mem_cons_self)
      rw [hstops] at hcontinues
      cases hcontinues

/-! ## What stripping takes out -/

/-- A text is stripped to another: every control sequence is taken out, and every character with
which no control sequence begins is left. -/
inductive Stripped : List Char → List Char → Prop where
  | nil : Stripped [] []
  | sequence {chars text bare : List Char} (hchars : IsSequence chars)
      (htext : Stripped text bare) : Stripped (chars ++ text) bare
  | char {c : Char} {text bare : List Char} (hc : ¬ BeginsSequence (c :: text))
      (htext : Stripped text bare) : Stripped (c :: text) (c :: bare)

/-- A control sequence in front is taken out. -/
theorem stripChars_sequence_append {chars : List Char} (h : IsSequence chars) (text : List Char) :
    stripChars (chars ++ text) = stripChars text := by
  obtain ⟨parameters, hparameters, rfl⟩ := h
  have hafter : afterSequence? ('[' :: (parameters ++ ['m']) ++ text) = some text :=
    afterSequence?_eq_some_iff.2 ⟨_, ⟨parameters, hparameters, rfl⟩, rfl⟩
  rw [List.cons_append, stripChars, if_pos rfl]
  split
  next rest hrest =>
    rw [hafter, Option.some.injEq] at hrest
    rw [hrest]
  next hnone =>
    rw [hafter] at hnone
    cases hnone

/-- A character that begins no control sequence stays. -/
theorem stripChars_cons {c : Char} {text : List Char} (h : ¬ BeginsSequence (c :: text)) :
    stripChars (c :: text) = c :: stripChars text := by
  rw [stripChars]
  split
  next hc =>
    split
    next rest hrest => exact absurd (beginsSequence_cons_iff.2 ⟨hc, rest, hrest⟩) h
    next => rfl
  next => rfl

/-- A text is stripped to what the function gives. -/
theorem stripped_stripChars (text : List Char) : Stripped text (stripChars text) := by
  fun_induction stripChars text with
  | case1 => exact .nil
  | case2 text rest hrest ih =>
    rcases afterSequence?_eq_some_iff.1 hrest with ⟨chars, hchars, rfl⟩
    exact .sequence hchars ih
  | case3 text hnone ih =>
    refine .char ?_ ih
    intro h
    rcases beginsSequence_cons_iff.1 h with ⟨-, rest, hrest⟩
    rw [hrest] at hnone
    cases hnone
  | case4 c text hc ih => exact .char (not_beginsSequence_of_ne hc text) ih

/-- Stripping takes out every control sequence and nothing else. -/
theorem stripped_iff {text bare : List Char} : Stripped text bare ↔ stripChars text = bare := by
  constructor
  · intro h
    induction h with
    | nil => simp [stripChars]
    | sequence hchars htext ih => rw [stripChars_sequence_append hchars, ih]
    | char hc htext ih => rw [stripChars_cons hc, ih]
  · rintro rfl
    exact stripped_stripChars text

/-! ## Stripping a concatenation -/

/-- Two texts are stripped apart when no control sequence can go on from the first to the second. -/
theorem stripChars_append (text : List Char) {more : List Char}
    (hmore : Text.Stops continues more) :
    stripChars (text ++ more) = stripChars text ++ stripChars more := by
  have htext := stripped_stripChars text
  generalize stripChars text = bare at htext ⊢
  rw [← stripped_iff]
  induction htext with
  | nil => exact stripped_stripChars more
  | sequence hchars htext ih =>
    rw [List.append_assoc]
    exact .sequence hchars ih
  | char hc htext ih => exact .char (fun h => hc (beginsSequence_of_append hmore h)) ih

/-- A text without the escape character is left in front of whatever is stripped. -/
theorem stripChars_append_of_not_mem {text : List Char} (h : escapeChar ∉ text)
    (more : List Char) : stripChars (text ++ more) = text ++ stripChars more := by
  induction text with
  | nil => rfl
  | cons c text ih =>
    rw [List.mem_cons, not_or] at h
    have hc : c ≠ escapeChar := Ne.symm h.1
    rw [List.cons_append, stripChars_cons (not_beginsSequence_of_ne hc _), ih h.2,
      List.cons_append]

/-! ## Painted texts -/

/-- Styles are selected by parameters. -/
theorem Style.all_isParameter (style : Style) :
    style.parameters.toList.all isParameter = true := by
  cases style <;> rfl

/-- What is written around parameters is a control sequence. -/
theorem isSequence_sequence {parameters : String}
    (h : parameters.toList.all isParameter = true) :
    IsSequence (sequence parameters).toList := by
  refine ⟨parameters.toList, List.all_eq_true.1 h, ?_⟩
  simp [sequence]

/-- A painted text is stripped to the text, with or without colouring. -/
theorem stripChars_paint_append (colouring : Bool) (style : Style) {text : String}
    (h : escapeChar ∉ text.toList) (more : List Char) :
    stripChars ((paint colouring style text).toList ++ more) =
      text.toList ++ stripChars more := by
  cases colouring with
  | false => exact stripChars_append_of_not_mem h more
  | true =>
    have hon : IsSequence (sequence style.parameters).toList :=
      isSequence_sequence style.all_isParameter
    have hoff : IsSequence (sequence "0").toList := isSequence_sequence rfl
    simp only [paint, if_true, String.toList_append, List.append_assoc]
    rw [stripChars_sequence_append hon, stripChars_append_of_not_mem h,
      stripChars_sequence_append hoff]

end Terminal
end EntitySql

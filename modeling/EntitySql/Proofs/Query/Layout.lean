import EntitySql.Proofs.Query.Matching
import EntitySql.Query.Declaration

/-!
# Finding a declaration

A declaration is well formed when its name and its gap hold no opening
parenthesis and its parameters and its body are balanced.  Such a declaration
is found in front of any text, with its own parts; and what is found in front
of a text is a well-formed declaration, whose written form is there.

Main results:

- Theorem `Layout.find_text_append`: a well-formed declaration is found where it
  is written.
- Theorem `Layout.exists_text_of_find`: whatever is found is written there.
- Theorem `Layout.find_eq_error`: what is missing when nothing is found.
-/

namespace EntitySql

/-! ## Going forward in a text -/

namespace Layout

/-- Dropping in two steps is dropping both parts at once. -/
theorem drop_add_of_drop {text before behind : List Char} {index : Nat}
    (h : text.drop index = before ++ behind) : text.drop (index + before.length) = behind := by
  rw [← List.drop_drop, h]
  exact List.drop_left

/-- One more character is dropped from the text that begins with it. -/
theorem drop_succ_of_drop {text behind : List Char} {c : Char} {index : Nat}
    (h : text.drop index = c :: behind) : text.drop (index + 1) = behind := by
  rw [← List.drop_drop, h]
  rfl

end Layout

/-! ## Well-formed declarations -/

namespace Declaration

/-- The parts of a declaration do not interfere with the parentheses between them. -/
structure WellFormed (d : Declaration) : Prop where
  name : '(' ∉ d.name
  params : Parenthesis.Balanced d.params
  gap : '(' ∉ d.gap
  body : Parenthesis.Balanced d.body

instance (d : Declaration) : Decidable d.WellFormed :=
  decidable_of_iff
    ('(' ∉ d.name ∧ Parenthesis.Balanced d.params ∧ '(' ∉ d.gap ∧ Parenthesis.Balanced d.body)
    ⟨fun h => ⟨h.1, h.2.1, h.2.2.1, h.2.2.2⟩, fun h => ⟨h.name, h.params, h.gap, h.body⟩⟩

/-- Where the parentheses of a written declaration stand. -/
def layout (d : Declaration) : Layout where
  paramsOpen := keyword.length + d.name.length
  paramsClose := keyword.length + d.name.length + 1 + d.params.length
  bodyOpen := keyword.length + d.name.length + 1 + d.params.length + 1 + d.gap.length
  bodyClose :=
    keyword.length + d.name.length + 1 + d.params.length + 1 + d.gap.length + 1 + d.body.length

/-- The layout of a declaration ends where its text does. -/
@[simp]
theorem length_layout (d : Declaration) : d.layout.length = d.text.length := by
  rw [length_text]
  simp only [layout, Layout.length]
  omega

/-- A declaration in front of a text, with its parts one by one. -/
theorem text_append (d : Declaration) (rest : List Char) :
    d.text ++ rest =
      keyword ++
        (d.name ++ '(' :: (d.params ++ ')' :: (d.gap ++ '(' :: (d.body ++ ')' :: rest)))) := by
  simp [text]

/-- A text that begins with a declaration has the keyword ahead. -/
theorem isAhead_text_append (d : Declaration) (rest : List Char) :
    isAhead (d.text ++ rest) = true := by
  rw [isAhead, List.isPrefixOf_iff_prefix, text_append]
  exact List.prefix_append _ _

/-- A text with a declaration ahead begins with the keyword. -/
theorem exists_of_isAhead {text : List Char} (h : isAhead text = true) :
    ∃ rest, text = keyword ++ rest := by
  rcases List.isPrefixOf_iff_prefix.1 h with ⟨rest, hrest⟩
  exact ⟨rest, hrest.symm⟩

/-- With a name a declaration takes up 14 characters at least. -/
theorem length_text_of_name {d : Declaration} (h : d.name ≠ []) : 14 ≤ d.text.length := by
  have hname := List.length_pos_iff.2 h
  have hkeyword : keyword.length = 9 := rfl
  rw [length_text]
  omega

/-- Behind the keyword stands the name, and then what belongs to it. -/
theorem drop_keyword (d : Declaration) (rest : List Char) :
    (d.text ++ rest).drop keyword.length =
      d.name ++ '(' :: (d.params ++ ')' :: (d.gap ++ '(' :: (d.body ++ ')' :: rest))) := by
  rw [text_append]
  exact List.drop_left

/-- The parameter list begins where the layout says. -/
theorem drop_paramsOpen (d : Declaration) (rest : List Char) :
    (d.text ++ rest).drop d.layout.paramsOpen =
      '(' :: (d.params ++ ')' :: (d.gap ++ '(' :: (d.body ++ ')' :: rest))) :=
  Layout.drop_add_of_drop (d.drop_keyword rest)

/-- It ends where the layout says. -/
theorem drop_paramsClose (d : Declaration) (rest : List Char) :
    (d.text ++ rest).drop d.layout.paramsClose =
      ')' :: (d.gap ++ '(' :: (d.body ++ ')' :: rest)) :=
  Layout.drop_add_of_drop (Layout.drop_succ_of_drop (d.drop_paramsOpen rest))

/-- The body begins where the layout says. -/
theorem drop_bodyOpen (d : Declaration) (rest : List Char) :
    (d.text ++ rest).drop d.layout.bodyOpen = '(' :: (d.body ++ ')' :: rest) :=
  Layout.drop_add_of_drop (Layout.drop_succ_of_drop (d.drop_paramsClose rest))

end Declaration

namespace Layout

/-! ## The searches -/

/-- The first opening parenthesis of a text is the one with none before it. -/
theorem findIdx?_opening_eq_some_iff {text : List Char} {found : Nat} :
    text.findIdx? (· == '(') = some found ↔
      ∃ before rest, text = before ++ '(' :: rest ∧ '(' ∉ before ∧ before.length = found := by
  constructor
  · intro h
    rcases List.findIdx?_eq_some_iff_getElem.1 h with ⟨hlt, hfound, hbefore⟩
    refine ⟨text.take found, text.drop (found + 1), ?_, ?_, ?_⟩
    · have hopening : text[found] = '(' := by simpa using hfound
      rw [← hopening, List.getElem_cons_drop, List.take_append_drop]
    · intro hmem
      rcases List.mem_take_iff_getElem.1 hmem with ⟨i, hi, hopening⟩
      exact hbefore i (by omega) (by simp [hopening])
    · rw [List.length_take]
      omega
  · intro h
    rcases h with ⟨before, rest, rfl, hbefore, rfl⟩
    rw [List.findIdx?_append, List.findIdx?_eq_none_iff.2]
    · simp [List.findIdx?_cons]
    · intro c hc
      have : c ≠ '(' := fun h => hbefore (h ▸ hc)
      simpa using this

/-- An opening parenthesis is found exactly when it is the first one from the index on. -/
theorem opening_eq_ok_iff {text : List Char} {index found : Nat} {fault : Malformed} :
    opening text index fault = .ok found ↔
      ∃ before rest, text.drop index = before ++ '(' :: rest ∧ '(' ∉ before ∧
        found = index + before.length := by
  have hopening : opening text index fault = .ok found ↔
      ∃ n, (text.drop index).findIdx? (· == '(') = some n ∧ found = index + n := by
    rw [opening, openingFrom?]
    cases (text.drop index).findIdx? (· == '(') with
    | none => simp
    | some n => simp [eq_comm]
  rw [hopening]
  constructor
  · intro h
    rcases h with ⟨n, hn, rfl⟩
    rcases findIdx?_opening_eq_some_iff.1 hn with ⟨before, rest, hdrop, hbefore, rfl⟩
    exact ⟨before, rest, hdrop, hbefore, rfl⟩
  · intro h
    rcases h with ⟨before, rest, hdrop, hbefore, rfl⟩
    exact ⟨before.length, findIdx?_opening_eq_some_iff.2 ⟨before, rest, hdrop, hbefore, rfl⟩, rfl⟩

/-- If there is none, the given fault is reported. -/
theorem opening_eq_error {text : List Char} {index : Nat} {fault reported : Malformed}
    (h : opening text index fault = .error reported) : reported = fault := by
  rw [opening] at h
  split at h
  · cases h
  · cases h
    rfl

/-- A closing parenthesis is found exactly when it is the match of the opening one. -/
theorem closing_eq_ok_iff {text : List Char} {index found : Nat} {fault : Malformed} :
    closing text index fault = .ok found ↔ Parenthesis.matching text index = .ok found := by
  rw [closing]
  split <;> rename_i h <;> simp [h]

/-- Behind an opening parenthesis, the search fails only because more is opened than closed. -/
theorem closing_eq_error {text behind : List Char} {index : Nat} {fault reported : Malformed}
    (hopening : text.drop index = '(' :: behind) (h : closing text index fault = .error reported) :
    reported = fault ∧ Parenthesis.StaysOpen 1 behind := by
  rw [closing] at h
  split at h <;> rename_i hmatching
  · cases h
  · cases h
    exact ⟨rfl, (Parenthesis.matching_eq_unclosed_iff hopening).1 hmatching⟩
  · exact absurd hmatching (Parenthesis.matching_ne_unopened hopening)

/-- A sequence succeeds exactly when both of its parts do. -/
theorem bind_eq_ok_iff {α β : Type} {x : Except Malformed α} {next : α → Except Malformed β}
    {b : β} : x >>= next = .ok b ↔ ∃ a, x = .ok a ∧ next a = .ok b := by
  cases x with
  | error fault => simp [bind, Except.bind]
  | ok a => simp [bind, Except.bind]

/-- A sequence fails in its first part, or else in its second. -/
theorem bind_eq_error_iff {α β : Type} {x : Except Malformed α} {next : α → Except Malformed β}
    {fault : Malformed} :
    x >>= next = .error fault ↔ x = .error fault ∨ ∃ a, x = .ok a ∧ next a = .error fault := by
  cases x with
  | error reported => simp [bind, Except.bind]
  | ok a => simp [bind, Except.bind]

/-- A layout is found exactly when its four parentheses are, each from the one before it on. -/
theorem find_eq_ok_iff {text : List Char} {layout : Layout} :
    find text = .ok layout ↔
      opening text Declaration.keyword.length .parameterList = .ok layout.paramsOpen ∧
        closing text layout.paramsOpen .closedParameterList = .ok layout.paramsClose ∧
        opening text layout.paramsClose .functionBody = .ok layout.bodyOpen ∧
        closing text layout.bodyOpen .closedFunctionBody = .ok layout.bodyClose := by
  rcases layout with ⟨paramsOpen, paramsClose, bodyOpen, bodyClose⟩
  constructor
  · intro h
    rw [find] at h
    rcases bind_eq_ok_iff.1 h with ⟨i, hi, h⟩
    rcases bind_eq_ok_iff.1 h with ⟨j, hj, h⟩
    rcases bind_eq_ok_iff.1 h with ⟨k, hk, h⟩
    rcases bind_eq_ok_iff.1 h with ⟨l, hl, h⟩
    cases h
    exact ⟨hi, hj, hk, hl⟩
  · intro h
    rcases h with ⟨hi, hj, hk, hl⟩
    simp only [find, hi, hj, hk, hl, bind, Except.bind]
    rfl

/-! ## What is found is what is written -/

/-- The text between two indices is the part that begins at the first and has this length. -/
theorem between_of_drop {text part rest : List Char} {start : Nat}
    (h : text.drop start = part ++ rest) : between text start (start + part.length) = part := by
  rw [between, h, Nat.add_sub_cancel_left, List.take_left]

/-- A well-formed declaration is found where it is written. -/
theorem find_text_append {d : Declaration} (h : d.WellFormed) (rest : List Char) :
    find (d.text ++ rest) = .ok d.layout := by
  rw [find_eq_ok_iff, opening_eq_ok_iff, closing_eq_ok_iff, opening_eq_ok_iff, closing_eq_ok_iff,
    Parenthesis.matching_eq_ok_iff (d.drop_paramsOpen rest),
    Parenthesis.matching_eq_ok_iff (d.drop_bodyOpen rest), d.drop_paramsClose]
  refine ⟨?_, ?_, ?_, ?_⟩
  · exact ⟨d.name, _, d.drop_keyword rest, h.name, rfl⟩
  · exact ⟨d.params, _, rfl, h.params, rfl⟩
  · refine ⟨')' :: d.gap, _, rfl, ?_, ?_⟩
    · simp [h.gap]
    · simp only [Declaration.layout, List.length_cons]
      omega
  · exact ⟨d.body, _, rfl, h.body, rfl⟩

/-- The layout of a written declaration cuts out its own parts. -/
theorem declaration_layout (d : Declaration) (rest : List Char) :
    d.layout.declaration (d.text ++ rest) = d := by
  have hname := between_of_drop (d.drop_keyword rest)
  have hparams := between_of_drop (drop_succ_of_drop (d.drop_paramsOpen rest))
  have hgap := between_of_drop (drop_succ_of_drop (d.drop_paramsClose rest))
  have hbody := between_of_drop (drop_succ_of_drop (d.drop_bodyOpen rest))
  exact (Declaration.mk.injEq ..).mpr ⟨hname, hparams, hgap, hbody⟩

/-- Whatever is found in front of a text is a well-formed declaration that is written there. -/
theorem exists_text_of_find {text : List Char} {layout : Layout}
    (hahead : Declaration.isAhead text = true) (hfind : find text = .ok layout) :
    ∃ (d : Declaration) (rest : List Char),
      d.WellFormed ∧ text = d.text ++ rest ∧ layout = d.layout := by
  rcases layout with ⟨paramsOpen, paramsClose, bodyOpen, bodyClose⟩
  rw [find_eq_ok_iff, opening_eq_ok_iff, closing_eq_ok_iff, opening_eq_ok_iff,
    closing_eq_ok_iff] at hfind
  obtain ⟨⟨name, afterName, hdropName, hname, hparamsOpen⟩, hparamsClose,
    ⟨before, afterGap, hdropGap, hbefore, hbodyOpen⟩, hbodyClose⟩ := hfind
  dsimp only at hparamsOpen hparamsClose hdropGap hbodyOpen hbodyClose
  subst hparamsOpen
  -- The parameters: from the first opening parenthesis to its match.
  have hopens := drop_add_of_drop hdropName
  obtain ⟨params, afterParams, rfl, hparams, rfl⟩ :=
    (Parenthesis.matching_eq_ok_iff hopens).1 hparamsClose
  have hcloses := drop_add_of_drop (drop_succ_of_drop hopens)
  -- The gap: the search for the body begins at the parenthesis that closes the parameters.
  have hbegins : ')' :: afterParams = before ++ '(' :: afterGap := hcloses.symm.trans hdropGap
  obtain ⟨gap, rfl⟩ : ∃ gap, before = ')' :: gap := by
    cases before with
    | nil => simp at hbegins
    | cons c gap => exact ⟨gap, by rw [(List.cons.inj hbegins).1]⟩
  obtain rfl : afterParams = gap ++ '(' :: afterGap := (List.cons.inj hbegins).2
  have hgap : '(' ∉ gap := fun h => hbefore (List.mem_cons_of_mem _ h)
  subst hbodyOpen
  -- The body: from the next opening parenthesis to its match.
  obtain ⟨body, rest, rfl, hbody, rfl⟩ :=
    (Parenthesis.matching_eq_ok_iff (drop_add_of_drop hdropGap)).1 hbodyClose
  refine ⟨⟨name, params, gap, body⟩, rest, ⟨hname, hparams, hgap, hbody⟩, ?_, ?_⟩
  · rcases Declaration.exists_of_isAhead hahead with ⟨behind, rfl⟩
    rw [List.drop_left] at hdropName
    rw [hdropName, Declaration.text_append]
  · simp only [Declaration.layout, List.length_cons, Layout.mk.injEq, true_and]
    omega

/-! ## What is not found -/

/-- At the index that is found stands an opening parenthesis. -/
theorem drop_of_opening {text : List Char} {index found : Nat} {fault : Malformed}
    (h : opening text index fault = .ok found) : ∃ behind, text.drop found = '(' :: behind := by
  rcases opening_eq_ok_iff.1 h with ⟨before, behind, hdrop, -, rfl⟩
  exact ⟨behind, drop_add_of_drop hdrop⟩

/-- An opening parenthesis is unclosed when the depth stays positive to the end of the text. -/
def HasUnclosed (text : List Char) : Prop :=
  ∃ before behind, text = before ++ '(' :: behind ∧ Parenthesis.StaysOpen 1 behind

/-- An opening parenthesis behind which more stays open is unclosed. -/
theorem hasUnclosed_of_drop {text behind : List Char} {index : Nat}
    (hdrop : text.drop index = '(' :: behind) (hopen : Parenthesis.StaysOpen 1 behind) :
    HasUnclosed text :=
  ⟨text.take index, behind, by rw [← hdrop, List.take_append_drop], hopen⟩

/-- An unclosed parenthesis stays unclosed behind any text. -/
theorem HasUnclosed.append_left {text : List Char} (h : HasUnclosed text) (more : List Char) :
    HasUnclosed (more ++ text) := by
  rcases h with ⟨before, behind, rfl, hopen⟩
  exact ⟨more ++ before, behind, (List.append_assoc ..).symm, hopen⟩

/-- In a balanced text no parenthesis is unclosed. -/
theorem not_hasUnclosed_of_balanced {text : List Char} (h : Parenthesis.Balanced text) :
    ¬ HasUnclosed text := by
  intro hunclosed
  rcases hunclosed with ⟨before, behind, rfl, hopen⟩
  exact Parenthesis.not_staysOpen_of_balanced h hopen

/-- A declaration is not found when one of its four parentheses is missing; the two closing ones
are missing only where a parenthesis is unclosed. -/
theorem find_eq_error {text : List Char} {fault : Malformed} (h : find text = .error fault) :
    fault = .parameterList ∨ fault = .functionBody ∨
      (fault = .closedParameterList ∨ fault = .closedFunctionBody) ∧ HasUnclosed text := by
  rw [find] at h
  rcases bind_eq_error_iff.1 h with hopen | ⟨paramsOpen, hopen, h⟩
  · exact Or.inl (opening_eq_error hopen)
  rcases drop_of_opening hopen with ⟨behindParams, hparams⟩
  rcases bind_eq_error_iff.1 h with hclose | ⟨paramsClose, -, h⟩
  · rcases closing_eq_error hparams hclose with ⟨rfl, hstays⟩
    exact Or.inr (Or.inr ⟨Or.inl rfl, hasUnclosed_of_drop hparams hstays⟩)
  rcases bind_eq_error_iff.1 h with hopen | ⟨bodyOpen, hopen, h⟩
  · exact Or.inr (Or.inl (opening_eq_error hopen))
  rcases drop_of_opening hopen with ⟨behindBody, hbody⟩
  rcases bind_eq_error_iff.1 h with hclose | ⟨bodyClose, -, h⟩
  · rcases closing_eq_error hbody hclose with ⟨rfl, hstays⟩
    exact Or.inr (Or.inr ⟨Or.inr rfl, hasUnclosed_of_drop hbody hstays⟩)
  · cases h

end Layout
end EntitySql

import EntitySql.Proofs.Query.Acceptance

/-!
# Analysing by positions

The reading of a query goes from one remaining text to the next.  A program that
holds the whole text runs over positions instead: it looks for parentheses from
a position on, cuts ranges out of the text, hands each definition to the builder
at once, and goes on behind the declaration.  Here every cut is checked, so that
a range that ends before it starts or past the end of the text would stop the
run.  The run and the analysis have the same outcome; so no cut is ever out of
range.

Main results:

- Theorem `Cursor.layoutAt_eq`: searches from a position on are searches in the
  remaining text.
- Theorem `Cursor.loop_eq`: from any position, the run continues the builder as
  the reading of the remaining text does.
- Theorem `Cursor.analyze_eq`: the run stops only where the analysis does.
- Theorem `Cursor.analyze_ne_outOfRange`: no cut is out of range.
-/

namespace EntitySql
namespace Cursor

open Query

/-! ## The run -/

/-- Why a run stops without an outcome. -/
inductive Stop where
  | malformed (fault : Malformed)
  /-- A range ends before it starts or past the end of the text. -/
  | outOfRange (start stop : Nat)
deriving DecidableEq, Repr

/-- Cuts a range out of a text. -/
def cut (text : List Char) (start stop : Nat) : Except Stop (List Char) :=
  if start ≤ stop ∧ stop ≤ text.length then .ok (Layout.between text start stop)
  else .error (.outOfRange start stop)

/-- The position of the next character that is not blank. -/
def skip (text : List Char) (position : Nat) : Nat :=
  position + ((text.drop position).takeWhile Text.isBlank).length

/-- Finds the parentheses of the declaration at a position, counted from the first character of the
whole text. -/
def layoutAt (text : List Char) (position : Nat) : Except Malformed Layout := do
  let paramsOpen ← Layout.opening text (position + Declaration.keyword.length) .parameterList
  let paramsClose ← Layout.closing text paramsOpen .closedParameterList
  let bodyOpen ← Layout.opening text paramsClose .functionBody
  let bodyClose ← Layout.closing text bodyOpen .closedFunctionBody
  return { paramsOpen, paramsClose, bodyOpen, bodyClose }

/-- Cuts out the name and the lambda of the declaration at a position. -/
def cutDefinition (text : List Char) (position : Nat) (layout : Layout) :
    Except Stop (String × Lambda) := do
  let params ← cut text (layout.paramsOpen + 1) layout.paramsClose
  let body ← cut text (layout.bodyOpen + 1) layout.bodyClose
  let name ← cut text (position + Declaration.keyword.length) layout.paramsOpen
  return (String.ofList name, ⟨String.ofList params, String.ofList body⟩)

/-- A closing parenthesis is not found before the place where the search begins. -/
theorem le_of_closing {text : List Char} {index found : Nat} {fault : Malformed}
    (h : Layout.closing text index fault = .ok found) : index ≤ found := by
  rw [Layout.closing_eq_ok_iff, Parenthesis.matching] at h
  cases hclose : Parenthesis.close 0 (text.drop index) with
  | error fault => simp [hclose, Except.map] at h
  | ok n =>
    simp only [hclose, Except.map, Except.ok.injEq] at h
    omega

/-- Nor is an opening one. -/
theorem le_of_opening {text : List Char} {index found : Nat} {fault : Malformed}
    (h : Layout.opening text index fault = .ok found) : index ≤ found := by
  rcases Layout.opening_eq_ok_iff.1 h with ⟨before, -, -, -, rfl⟩
  exact Nat.le_add_right ..

/-- A declaration ends behind the position where it begins. -/
theorem lt_length_of_layoutAt {text : List Char} {position : Nat} {layout : Layout}
    (h : layoutAt text position = .ok layout) : position < layout.length := by
  rw [layoutAt] at h
  rcases Layout.bind_eq_ok_iff.1 h with ⟨paramsOpen, hi, h⟩
  rcases Layout.bind_eq_ok_iff.1 h with ⟨paramsClose, hj, h⟩
  rcases Layout.bind_eq_ok_iff.1 h with ⟨bodyOpen, hk, h⟩
  rcases Layout.bind_eq_ok_iff.1 h with ⟨bodyClose, hl, h⟩
  cases h
  have := le_of_opening hi
  have := le_of_closing hj
  have := le_of_opening hk
  have := le_of_closing hl
  simp only [Layout.length]
  omega

/-- A keyword ahead takes up some of the text. -/
theorem lt_length_of_isAhead {text : List Char} {position : Nat}
    (h : Declaration.isAhead (text.drop position) = true) : position < text.length := by
  rcases Declaration.exists_of_isAhead h with ⟨rest, hrest⟩
  have hlength := congrArg List.length hrest
  simp only [List.length_drop, List.length_append, Declaration.keyword, List.length_cons]
    at hlength
  omega

/-- Runs over the declarations from a position on, hands them to a builder, and finishes with the
statement behind them. -/
def loop (text : List Char) (b : QueryBuilder) (position : Nat) :
    Except Stop (Outcome (ParseResult Statement Lambda)) :=
  if _hahead : Declaration.isAhead (text.drop position) then
    match _hlayout : layoutAt text position with
    | .error fault => .error (.malformed fault)
    | .ok layout =>
      match cutDefinition text position layout with
      | .error stop => .error stop
      | .ok (name, lambda) =>
        let defined := b.define name (some lambda) ⟨position, layout.length⟩
        match defined.result with
        | .error r => .ok ⟨.error r, defined.log⟩
        | .ok c =>
          (loop text c (skip text layout.length)).map fun outcome => defined >>= fun _ => outcome
  else (cut text position text.length).map fun statement => finish b statement
termination_by text.length - position
decreasing_by
  have := lt_length_of_isAhead _hahead
  have := lt_length_of_layoutAt _hlayout
  simp only [skip]
  omega

/-- Analyses a query by positions. -/
def analyze (query : String) : Except Stop (Outcome (ParseResult Statement Lambda)) :=
  loop query.toList Builder.empty (skip query.toList 0)

/-! ## Searches and cuts in the remaining text -/

/-- Searching from a position is searching the text behind it, with the index moved. -/
theorem opening_add (text : List Char) (position index : Nat) (fault : Malformed) :
    Layout.opening text (position + index) fault =
      (Layout.opening (text.drop position) index fault).map (position + ·) := by
  rw [Layout.opening, Layout.opening, Layout.openingFrom?, Layout.openingFrom?, List.drop_drop]
  cases (text.drop (position + index)).findIdx? (· == '(') with
  | none => rfl
  | some n => simp [Except.map, Nat.add_assoc]

/-- The same holds of the search for the closing parenthesis. -/
theorem closing_add (text : List Char) (position index : Nat) (fault : Malformed) :
    Layout.closing text (position + index) fault =
      (Layout.closing (text.drop position) index fault).map (position + ·) := by
  rw [Layout.closing, Layout.closing, Parenthesis.matching, Parenthesis.matching, List.drop_drop]
  cases Parenthesis.close 0 (text.drop (position + index)) with
  | error unmatched => cases unmatched <;> rfl
  | ok n => simp [Except.map, Nat.add_assoc]

/-- A layout in a text that begins at a position. -/
def shift (position : Nat) (layout : Layout) : Layout where
  paramsOpen := position + layout.paramsOpen
  paramsClose := position + layout.paramsClose
  bodyOpen := position + layout.bodyOpen
  bodyClose := position + layout.bodyClose

/-- The search for a declaration at a position is one in the remaining text. -/
theorem layoutAt_eq (text : List Char) (position : Nat) :
    layoutAt text position = (Layout.find (text.drop position)).map (shift position) := by
  rw [layoutAt, Layout.find, opening_add]
  cases Layout.opening (text.drop position) Declaration.keyword.length .parameterList with
  | error fault => rfl
  | ok paramsOpen =>
    simp only [Except.map, bind, Except.bind, closing_add text position paramsOpen]
    cases Layout.closing (text.drop position) paramsOpen .closedParameterList with
    | error fault => rfl
    | ok paramsClose =>
      simp only [opening_add text position paramsClose]
      cases Layout.opening (text.drop position) paramsClose .functionBody with
      | error fault => rfl
      | ok bodyOpen =>
        simp only [Except.map, closing_add text position bodyOpen]
        cases Layout.closing (text.drop position) bodyOpen .closedFunctionBody <;> rfl

/-- A cut from a position on is a part of the text behind it, and it does not fail. -/
theorem cut_add {text : List Char} {position : Nat} (hposition : position ≤ text.length)
    {start stop : Nat} (horder : start ≤ stop) (hstop : stop ≤ (text.drop position).length) :
    cut text (position + start) (position + stop) =
      .ok (Layout.between (text.drop position) start stop) := by
  rw [List.length_drop] at hstop
  have hrange : position + start ≤ position + stop ∧ position + stop ≤ text.length := by omega
  have hwidth : position + stop - (position + start) = stop - start := by omega
  rw [cut, if_pos hrange, Layout.between, Layout.between, List.drop_drop, hwidth]

/-- The text behind a position can be cut out. -/
theorem cut_rest {text : List Char} {position : Nat} (hposition : position ≤ text.length) :
    cut text position text.length = .ok (text.drop position) := by
  rw [cut, if_pos ⟨hposition, Nat.le_refl _⟩, Layout.between, ← List.length_drop, List.take_length]

/-- The four parentheses of a declaration stand in this order behind the keyword. -/
theorem layout_ordered (d : Declaration) :
    Declaration.keyword.length ≤ d.layout.paramsOpen ∧
      d.layout.paramsOpen < d.layout.paramsClose ∧ d.layout.paramsClose < d.layout.bodyOpen ∧
        d.layout.bodyOpen < d.layout.bodyClose ∧ d.layout.bodyClose < d.text.length := by
  rw [Declaration.length_text]
  simp only [Declaration.layout]
  omega

/-- The parts of a declaration in the remaining text are cut out of it. -/
theorem cutDefinition_shift {text rest : List Char} {position : Nat} {d : Declaration}
    (hposition : position ≤ text.length) (hdrop : text.drop position = d.text ++ rest) :
    cutDefinition text position (shift position d.layout) =
      .ok (String.ofList d.name, lambdaOf d) := by
  have hparts := Layout.declaration_layout d rest
  rw [← hdrop, Layout.declaration, Declaration.mk.injEq] at hparts
  rcases hparts with ⟨hname, hparams, -, hbody⟩
  rcases layout_ordered d with ⟨hkeyword, hparamsOrder, hgapOrder, hbodyOrder, hend⟩
  have hlength : d.text.length ≤ (text.drop position).length := by
    rw [hdrop, List.length_append]
    exact Nat.le_add_right ..
  have hcutParams := cut_add hposition (Nat.succ_le_of_lt hparamsOrder) (by omega)
  have hcutBody := cut_add hposition (Nat.succ_le_of_lt hbodyOrder) (by omega)
  have hcutName := cut_add hposition hkeyword (by omega)
  rw [Nat.succ_eq_add_one, hparams, ← Nat.add_assoc] at hcutParams
  rw [Nat.succ_eq_add_one, hbody, ← Nat.add_assoc] at hcutBody
  rw [hname] at hcutName
  simp only [cutDefinition, shift, hcutParams, hcutBody, hcutName, bind, Except.bind]
  rfl

/-! ## The run and the reading -/

/-- Continues a builder with what is read, as the analysis does from the empty builder. -/
def continueWith (b : QueryBuilder) (r : Reading) :
    Except Malformed (Outcome (ParseResult Statement Lambda)) :=
  match (defineAll b r.declarations).result, r.ending with
  | .ok _, .error fault => .error fault
  | .ok _, .ok statement => .ok (defineAll b r.declarations >>= fun c => finish c statement)
  | .error reason, _ => .ok ⟨.error reason, (defineAll b r.declarations).log⟩

/-- A reading is carried on from an empty builder. -/
theorem ofReading_eq_continueWith (r : Reading) : ofReading r = continueWith Builder.empty r :=
  rfl

/-- A sequence of calls does not depend on how it is bracketed. -/
theorem andThen_assoc {α β γ : Type} (x : Outcome α) (f : α → Outcome β) (g : β → Outcome γ) :
    x >>= f >>= g = x >>= fun a => f a >>= g := by
  cases hx : x.result with
  | error r => simp [Outcome.bind_of_error, hx]
  | ok a =>
    cases hf : (f a).result with
    | error r => simp [Outcome.bind_of_ok hx, Outcome.bind_of_error, hf]
    | ok b => simp [bind, Outcome.andThen, hx, hf]

/-- After a success only what is done with its value counts. -/
theorem bind_eq_of_ok {α β : Type} {x : Outcome α} {a : α} (h : x.result = .ok a)
    (next : α → Outcome β) : x >>= next = x >>= fun _ => next a := by
  rw [Outcome.bind_of_ok h, Outcome.bind_of_ok h]

/-- Without declarations the builder is sealed with the statement. -/
theorem continueWith_nil (b : QueryBuilder) (statement : List Char) :
    continueWith b ⟨[], .ok statement⟩ = .ok (finish b statement) :=
  rfl

/-- A refused definition ends the analysis, whatever is read after it. -/
theorem continueWith_prepend_of_error {b : QueryBuilder} {p : Placed} {reason : Rejection}
    (h : (define b p).result = .error reason) (r : Reading) :
    continueWith b (Reading.prepend p r) = .ok ⟨.error reason, (define b p).log⟩ := by
  simp only [continueWith, Reading.prepend, defineAll, Outcome.bind_of_error h]

/-- After a definition the analysis continues with the next builder. -/
theorem continueWith_prepend_of_ok {b c : QueryBuilder} {p : Placed}
    (h : (define b p).result = .ok c) (r : Reading) :
    continueWith b (Reading.prepend p r) =
      (continueWith c r).map fun outcome => define b p >>= fun _ => outcome := by
  have hresult : (defineAll b (p :: r.declarations)).result =
      (defineAll c r.declarations).result := by
    rw [defineAll, Outcome.bind_of_ok h]
  simp only [continueWith, Reading.prepend, hresult]
  cases hrest : (defineAll c r.declarations).result with
  | error reason =>
    simp only [Except.map, defineAll, Outcome.bind_of_ok h]
  | ok last =>
    cases r.ending with
    | error fault => rfl
    | ok statement =>
      simp only [Except.map, Except.ok.injEq, defineAll]
      rw [andThen_assoc, bind_eq_of_ok h]

/-- Where no keyword is ahead, the loop ends with the rest as the statement. -/
theorem loop_of_not_isAhead {text : List Char} {b : QueryBuilder} {position : Nat}
    (hahead : Declaration.isAhead (text.drop position) = false)
    (hposition : position ≤ text.length) :
    loop text b position = .ok (finish b (text.drop position)) := by
  rw [loop, dif_neg (by simp [hahead]), cut_rest hposition]
  rfl

/-- At a malformed declaration the loop stops. -/
theorem loop_of_malformed {text : List Char} {b : QueryBuilder} {position : Nat} {fault : Malformed}
    (hahead : Declaration.isAhead (text.drop position) = true)
    (hlayout : layoutAt text position = .error fault) :
    loop text b position = .error (.malformed fault) := by
  rw [loop, dif_pos hahead]
  split
  · rename_i reported hreported
    rw [hlayout, Except.error.injEq] at hreported
    rw [hreported]
  · rename_i layout hfound
    rw [hlayout] at hfound
    cases hfound

/-- Where a well-formed declaration is ahead, its layout is found. -/
theorem layoutAt_of_drop {text rest : List Char} {position : Nat} {d : Declaration}
    (hd : d.WellFormed) (hdrop : text.drop position = d.text ++ rest) :
    layoutAt text position = .ok (shift position d.layout) := by
  rw [layoutAt_eq, hdrop, Layout.find_text_append hd]
  rfl

/-- The layout of a declaration ends where its text does. -/
theorem length_shift (position : Nat) (d : Declaration) :
    (shift position d.layout).length = position + d.text.length := by
  rw [← d.length_layout]
  rfl

/-- A declaration that is written at a position is handed to the builder. -/
theorem loop_of_drop {text rest : List Char} {b : QueryBuilder} {position : Nat} {d : Declaration}
    (hposition : position ≤ text.length) (hd : d.WellFormed)
    (hdrop : text.drop position = d.text ++ rest) :
    loop text b position =
      match (define b ⟨d, position⟩).result with
      | .error reason => .ok ⟨.error reason, (define b ⟨d, position⟩).log⟩
      | .ok c =>
        (loop text c (skip text (position + d.text.length))).map fun outcome =>
          define b ⟨d, position⟩ >>= fun _ => outcome := by
  have hahead : Declaration.isAhead (text.drop position) = true := by
    rw [hdrop]
    exact d.isAhead_text_append rest
  have hlayout := layoutAt_of_drop hd hdrop
  rw [loop, dif_pos hahead]
  split
  · rename_i fault hfault
    rw [hlayout] at hfault
    cases hfault
  · rename_i found hfound
    rw [hlayout, Except.ok.injEq] at hfound
    subst hfound
    rw [cutDefinition_shift hposition hdrop, length_shift]
    rfl

/-- Leaving blanks out does not go past the end of the text. -/
theorem skip_le {text : List Char} {position : Nat} (h : position ≤ text.length) :
    skip text position ≤ text.length := by
  have hle := (List.takeWhile_sublist (l := text.drop position) Text.isBlank).length_le
  rw [List.length_drop] at hle
  simp only [skip]
  omega

/-- Behind the blanks that are left out stands the text without them. -/
theorem drop_skip (text : List Char) (position : Nat) :
    text.drop (skip text position) = (text.drop position).dropWhile Text.isBlank :=
  Layout.drop_add_of_drop List.takeWhile_append_dropWhile.symm

/-- What becomes of a value and what becomes of an error do not interfere. -/
theorem mapError_map {α β : Type} (x : Except Malformed α) (f : α → β) :
    (x.map f).mapError Stop.malformed = (x.mapError Stop.malformed).map f := by
  cases x <;> rfl

/-- From any position on, the run continues a builder as the reading of the remaining text does. -/
theorem loop_eq {text : List Char} {position : Nat} (hposition : position ≤ text.length)
    (b : QueryBuilder) :
    loop text b (skip text position) =
      (continueWith b (Reading.scan position (text.drop position))).mapError Stop.malformed := by
  -- Each declaration moves the position forward, so the remaining text gets shorter.
  induction hremaining : text.length - position using Nat.strongRecOn generalizing position b with
  | ind n ih =>
    have hskip := skip_le hposition
    have hdrop := drop_skip text position
    cases hahead : Declaration.isAhead ((text.drop position).dropWhile Text.isBlank) with
    | false =>
      rw [loop_of_not_isAhead (by rw [hdrop, hahead]) hskip, Reading.scan_of_not_isAhead hahead,
        hdrop, continueWith_nil]
      rfl
    | true =>
      cases hfind : Layout.find ((text.drop position).dropWhile Text.isBlank) with
      | error fault =>
        have hlayout : layoutAt text (skip text position) = .error fault := by
          rw [layoutAt_eq, hdrop, hfind]
          rfl
        rw [loop_of_malformed (by rw [hdrop, hahead]) hlayout,
          Reading.scan_of_malformed hahead hfind]
        rfl
      | ok layout =>
        rcases Layout.exists_text_of_find hahead hfind with ⟨d, rest, hd, hrest, rfl⟩
        rw [hrest] at hdrop
        have hnext : text.drop (skip text position + d.text.length) = rest :=
          Layout.drop_add_of_drop hdrop
        have hscan : Reading.scan position (text.drop position) =
            Reading.prepend ⟨d, skip text position⟩
              (Reading.scan (skip text position + d.text.length) rest) := by
          rw [← List.takeWhile_append_dropWhile (p := Text.isBlank) (l := text.drop position),
            hrest, Reading.scan_blanks_append (blank_takeWhile _),
            Reading.scan_declaration_append hd]
          rfl
        have hwithin : skip text position + d.text.length ≤ text.length := by
          have hremains := congrArg List.length hdrop
          rw [List.length_drop, List.length_append] at hremains
          omega
        have hshorter : text.length - (skip text position + d.text.length) < n := by
          have hpos := d.length_text
          have hle : position ≤ skip text position := Nat.le_add_right ..
          omega
        have hgoOn := fun c => ih _ hshorter hwithin c rfl
        rw [hnext] at hgoOn
        rw [loop_of_drop hskip hd hdrop, hscan]
        cases hdefined : (define b ⟨d, skip text position⟩).result with
        | error reason =>
          rw [continueWith_prepend_of_error hdefined]
          rfl
        | ok c =>
          rw [continueWith_prepend_of_ok hdefined, mapError_map, ← hgoOn c]

/-- Analysing by positions has the outcome of the analysis, and stops only where it does. -/
theorem analyze_eq (query : String) :
    analyze query = (Query.analyze query).mapError Stop.malformed := by
  rw [Query.analyze, ofReading_eq_continueWith]
  exact loop_eq (Nat.zero_le _) Builder.empty

/-- No range that is cut on the way ends before it starts or past the end of the text. -/
theorem analyze_ne_outOfRange (query : String) (start stop : Nat) :
    analyze query ≠ .error (.outOfRange start stop) := by
  rw [analyze_eq]
  intro h
  cases hanalyze : Query.analyze query with
  | error fault =>
    rw [hanalyze] at h
    cases Except.error.inj h
  | ok outcome =>
    rw [hanalyze] at h
    cases h

end Cursor
end EntitySql

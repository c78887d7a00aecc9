import Mathlib.Data.List.Forall2
import EntitySql.Json.Numeral
import EntitySql.Proofs.Json.Text
import EntitySql.Session.Basic

/-!
# The JSON text of a parse result

The text of a result is an object with the tree and an array with one object for
each definition.  All that a definition holds stands in its object, and nothing
in the strings can be taken for a part of the format, so the text is read back as
just this object and tells two results apart whenever they differ.

Main results:

- Theorem `ParseResult.encode_shows`: the objects of the definitions, in their order.
- Theorem `ParseResult.text_tells_all`: what is read from the text of a result, and
  which results have the same text.
-/

namespace EntitySql
namespace Json

/-- A literal writes a number: it is the number without a sign, a fraction or an exponent, and
denotes the number if a word can hold it. -/
structure Number.Writes (literal : Number) (n : Nat) : Prop where
  written : literal = .natural n
  denotes : Word.Fits n → literal.numeral? = some (.natural n)

/-- The literal of a natural number writes this number. -/
theorem Number.writes_natural (n : Nat) : (natural n).Writes n where
  written := rfl
  denotes := numeral?_natural

/-- A literal writes one number at most. -/
theorem Number.Writes.unique {literal : Number} {m n : Nat} (hm : literal.Writes m)
    (hn : literal.Writes n) : m = n := by
  have hnatural : natural m = natural n := hm.written.symm.trans hn.written
  exact congrArg Number.whole hnatural

end Json

namespace FunctionDefinition

/-- A value shows a definition: it is an object with these four members and no others. -/
def ShownBy (d : TextDefinition) (value : Json) : Prop :=
  ∃ start stop : Json.Number,
    value =
      .object
        [("name", .string d.name), ("lambda", .string d.lambda),
          ("startPosition", .number start), ("endPosition", .number stop)] ∧
      start.Writes d.span.start ∧ stop.Writes d.span.stop

/-- The JSON form of a definition shows it. -/
theorem shownBy_encode (d : TextDefinition) : d.ShownBy (Json.encode d) :=
  ⟨.natural d.span.start, .natural d.span.stop, rfl, Json.Number.writes_natural _,
    Json.Number.writes_natural _⟩

/-- The numbers in the JSON form of a definition are well formed. -/
theorem wellFormed_encode (d : TextDefinition) : (Json.encode d).WellFormed := by
  refine .object ?_
  simp

/-- A value shows one definition at most. -/
theorem eq_of_shownBy {d e : TextDefinition} {value : Json} (hd : d.ShownBy value)
    (he : e.ShownBy value) : d = e := by
  rcases hd with ⟨start, stop, hvalue, hstart, hstop⟩
  rcases he with ⟨start', stop', rfl, hstart', hstop'⟩
  simp only [Json.object.injEq, List.cons.injEq, Prod.mk.injEq, true_and, Json.string.injEq,
    Json.number.injEq, and_true] at hvalue
  rcases hvalue with ⟨hname, hlambda, rfl, rfl⟩
  have hspan : d.span = e.span := by
    rw [Span.mk.injEq]
    exact ⟨hstart.unique hstart', hstop.unique hstop'⟩
  rw [FunctionDefinition.mk.injEq]
  exact ⟨hname.symm, hlambda.symm, hspan⟩

end FunctionDefinition

namespace ParseResult

/-- A value shows a result: it is an object with the tree and the definitions and nothing else, and
the definitions are shown in their order. -/
def ShownBy (r : TextResult) (value : Json) : Prop :=
  ∃ items,
    value = .object [("commandTree", .string r.tree), ("functionDefinitions", .array items)] ∧
      List.Forall₂ FunctionDefinition.ShownBy r.definitions items

/-- The JSON form of a result shows it. -/
theorem shownBy_encode (r : TextResult) : r.ShownBy (Json.encode r) := by
  refine ⟨r.definitions.map Json.encode, rfl, ?_⟩
  rw [List.forall₂_map_right_iff, List.forall₂_same]
  exact fun d _ => d.shownBy_encode

/-- The numbers in the JSON form of a result are well formed. -/
theorem wellFormed_encode (r : TextResult) : (Json.encode r).WellFormed := by
  refine .object ?_
  simp [Json.wellFormed_encode_list FunctionDefinition.wellFormed_encode]

/-- A value shows one result at most. -/
theorem eq_of_shownBy {q r : TextResult} {value : Json} (hq : q.ShownBy value)
    (hr : r.ShownBy value) : q = r := by
  rcases hq with ⟨items, rfl, hq⟩
  rcases hr with ⟨items', hvalue, hr⟩
  simp only [Json.object.injEq, List.cons.injEq, Prod.mk.injEq, true_and, Json.string.injEq,
    Json.array.injEq, and_true] at hvalue
  rcases hvalue with ⟨htree, rfl⟩
  have hunique : Relator.LeftUnique FunctionDefinition.ShownBy := by
    intro d e item hd he
    exact FunctionDefinition.eq_of_shownBy hd he
  have hdefinitions : q.definitions = r.definitions := List.left_unique_forall₂' hunique hq hr
  rw [ParseResult.mk.injEq]
  exact ⟨htree, hdefinitions⟩

/-- The text of a result is read as an object that shows the result, so results have the same text
exactly when they have the same tree and the same definitions in the same order. -/
theorem text_tells_all (r : TextResult) :
    (∃ value, Json.parse? (Json.encode r).text = some value ∧ r.ShownBy value) ∧
      ∀ q : TextResult, (Json.encode q).text = (Json.encode r).text ↔
        q.tree = r.tree ∧ q.definitions = r.definitions := by
  refine ⟨⟨Json.encode r, Json.parse?_text r.wellFormed_encode, r.shownBy_encode⟩, ?_⟩
  intro q
  constructor
  · intro htext
    have hvalue : Json.encode q = Json.encode r :=
      Json.text_injective q.wellFormed_encode r.wellFormed_encode htext
    have hsame : q = r := eq_of_shownBy q.shownBy_encode (hvalue ▸ r.shownBy_encode)
    rw [hsame]
    exact ⟨rfl, rfl⟩
  · rintro ⟨htree, hdefinitions⟩
    have hsame : q = r := by
      rw [ParseResult.mk.injEq]
      exact ⟨htree, hdefinitions⟩
    rw [hsame]

end ParseResult
end EntitySql

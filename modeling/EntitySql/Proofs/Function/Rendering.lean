import EntitySql.Function.Definition
import EntitySql.Proofs.Text.Stops

/-!
# The written form of a definition

A definition is written as its name and its span.  The name is not quoted and may
end in what looks like a span itself, so a reader cannot tell from the left where
the name ends.  From the right there is no doubt: the text ends in a span, each of
its numbers goes back as far as there are digits, and all before it is the name.

Main results:

- Theorem `Text.append_digits_inj`: a text that ends in a number has one end only.
- Theorem `Span.append_render_inj`: a text that ends in a span has one end only.
- Theorem `FunctionDefinition.render_eq_iff`: which definitions are written alike.
-/

namespace EntitySql

/-- A text that ends in a number, behind a character that is no digit, ends in this number only. -/
theorem Text.append_digits_inj {s t : List Char} {c : Char} (hc : c.isDigit = false) {m n : Nat}
    (h : s ++ c :: digits m = t ++ c :: digits n) : s = t ∧ m = n := by
  have hdigit : ∀ n, ∀ d ∈ (digits n).reverse, d.isDigit = true := by
    intro n d hd
    exact isDigit_of_mem_digits (List.mem_reverse.1 hd)
  -- Read from the right, the digits are a run that the character in front of them stops.
  have hreverse : (digits m).reverse ++ c :: s.reverse = (digits n).reverse ++ c :: t.reverse := by
    simpa using congrArg List.reverse h
  have hinj := append_inj_of_stops (hdigit m) (hdigit n) (stops_cons hc s.reverse)
    (stops_cons hc t.reverse) hreverse
  rcases hinj with ⟨hnumber, hfront⟩
  rw [List.cons.injEq] at hfront
  exact ⟨List.reverse_inj.1 hfront.2, digits_injective (List.reverse_inj.1 hnumber)⟩

namespace Span

/-- A text that ends in a written span, with each number behind a character that is no digit. -/
theorem append_render (before : List Char) (s : Span) :
    before ++ s.render.toList =
      before ++ '[' :: Text.digits s.start ++ [','] ++ ' ' :: Text.digits s.stop ++ [')'] := by
  simp [render]

/-- A text that ends in a written span ends in this span only. -/
theorem append_render_inj {before before' : List Char} {s t : Span}
    (h : before ++ s.render.toList = before' ++ t.render.toList) : before = before' ∧ s = t := by
  rw [append_render, append_render] at h
  have hopen := List.append_cancel_right h
  rcases Text.append_digits_inj rfl hopen with ⟨hcomma, hstop⟩
  have hfront := List.append_cancel_right hcomma
  rcases Text.append_digits_inj rfl hfront with ⟨hbefore, hstart⟩
  rw [Span.mk.injEq]
  exact ⟨hbefore, hstart, hstop⟩

end Span

namespace FunctionDefinition

variable {L M : Type}

/-- The written form of a definition is its name, a space and its span. -/
theorem toList_render (d : FunctionDefinition L) :
    d.render.toList = d.name.toList ++ [' '] ++ d.span.render.toList := by
  rw [render, String.toList_append, String.toList_append]
  rfl

/-- Definitions are written alike exactly when they have the same name and the same span. -/
theorem render_eq_iff (d : FunctionDefinition L) (e : FunctionDefinition M) :
    d.render = e.render ↔ d.name = e.name ∧ d.span = e.span := by
  constructor
  · intro h
    have hchars : d.render.toList = e.render.toList := congrArg String.toList h
    rw [toList_render, toList_render] at hchars
    rcases Span.append_render_inj hchars with ⟨hfront, hspan⟩
    have hname : d.name.toList = e.name.toList := List.append_cancel_right hfront
    exact ⟨String.toList_inj.1 hname, hspan⟩
  · rintro ⟨hname, hspan⟩
    rw [render, render, hname, hspan]

-- A name that ends in a span of its own is told from the span behind it.
example :
    (⟨"f [1, 2)", "b", ⟨3, 4⟩⟩ : FunctionDefinition String).render = "f [1, 2) [3, 4)" := by
  rfl

end FunctionDefinition
end EntitySql

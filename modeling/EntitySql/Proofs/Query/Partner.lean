import EntitySql.Proofs.Query.Layout

/-!
# Partners of parentheses

The partner of an opening parenthesis is the closing one behind it with a balanced
text between the two.  Said so, it depends on the text alone and not on the way in
which the count looks for it.  The count finds it wherever there is one; where there
is none, more parentheses are open than closed all the way to the end.

Main results:

- Theorem `Parenthesis.partner_iff`: the partner in terms of the text behind the
  opening parenthesis.
- Theorem `Parenthesis.staysOpen_iff_prefixes`: the depth stays positive when every
  beginning of the text opens more than it closes.
- Theorem `Parenthesis.findsPartner`: what the count finds, and what it means that it
  finds nothing.
-/

namespace EntitySql
namespace Parenthesis

/-- An index holds the partner of an opening parenthesis. -/
structure Partner (text : List Char) (opening index : Nat) : Prop where
  behind : opening < index
  closes : text[index]? = some ')'
  balanced : Balanced (Layout.between text (opening + 1) index)

/-- The text from an index on begins with the character at the index. -/
theorem drop_of_getElem? {text : List Char} {index : Nat} {c : Char}
    (h : text[index]? = some c) : text.drop index = c :: text.drop (index + 1) := by
  rcases List.getElem?_eq_some_iff.1 h with ⟨hlt, rfl⟩
  exact List.drop_eq_getElem_cons hlt

/-- The partner is the closing parenthesis behind a balanced text. -/
theorem partner_iff {text behind : List Char} {opening index : Nat}
    (h : text.drop opening = '(' :: behind) :
    Partner text opening index ↔
      ∃ inner rest, behind = inner ++ ')' :: rest ∧ Balanced inner ∧
        index = opening + 1 + inner.length := by
  have hbehind : text.drop (opening + 1) = behind := Layout.drop_succ_of_drop h
  constructor
  · rintro ⟨hlt, hcloses, hbalanced⟩
    obtain ⟨n, rfl⟩ := Nat.exists_eq_add_of_le (Nat.succ_le_of_lt hlt)
    have hn : behind.drop n = ')' :: behind.drop (n + 1) := by
      apply drop_of_getElem?
      rw [← hbehind, List.getElem?_drop]
      exact hcloses
    have hle : n ≤ behind.length := by
      have hlength := congrArg List.length hn
      rw [List.length_drop, List.length_cons] at hlength
      omega
    refine ⟨behind.take n, behind.drop (n + 1), ?_, ?_, ?_⟩
    · rw [← hn, List.take_append_drop]
    · rw [Layout.between, hbehind] at hbalanced
      simpa using hbalanced
    · rw [List.length_take, Nat.min_eq_left hle]
  · rintro ⟨inner, rest, rfl, hinner, rfl⟩
    refine ⟨by omega, ?_, ?_⟩
    · rw [← List.getElem?_drop, hbehind]
      simp
    · rw [Layout.between_of_drop hbehind]
      exact hinner

/-- The depth stays positive when every beginning with the opening parenthesis opens more than it
closes. -/
theorem staysOpen_iff_prefixes {behind : List Char} :
    StaysOpen 1 behind ↔
      ∀ start, start <+: '(' :: behind → start ≠ [] → closings start < openings start := by
  constructor
  · intro h start hstart hne
    rcases List.prefix_cons_iff.1 hstart with rfl | ⟨more, rfl, hmore⟩
    · exact absurd rfl hne
    · have := h more hmore
      rw [closings_cons_of_ne (by decide), openings_cons_opening]
      omega
  · intro h more hmore
    have := h ('(' :: more) ((List.prefix_cons_inj '(').2 hmore) (List.cons_ne_nil _ _)
    rw [closings_cons_of_ne (by decide), openings_cons_opening] at this
    omega

/-- What the search for the partner of an opening parenthesis comes to. -/
structure FindsPartner (text : List Char) (opening : Nat) : Prop where
  /-- The depth is never counted below zero. -/
  depth : matching text opening ≠ .error .unopened
  /-- Exactly the partner is found. -/
  found : ∀ index, matching text opening = .ok index ↔ Partner text opening index
  /-- There is one partner at most. -/
  unique : ∀ index other, Partner text opening index → Partner text opening other →
    index = other
  /-- The text ends before the partner exactly when every beginning of it, from the opening
  parenthesis on, opens more than it closes. -/
  missing : matching text opening = .error .unclosed ↔
    ∀ start, start <+: text.drop opening → start ≠ [] → closings start < openings start

/-- The count finds the partner of every opening parenthesis that has one. -/
theorem findsPartner {text : List Char} {opening : Nat} (h : text[opening]? = some '(') :
    FindsPartner text opening := by
  have hdrop : text.drop opening = '(' :: text.drop (opening + 1) := drop_of_getElem? h
  have hfound : ∀ index, matching text opening = .ok index ↔ Partner text opening index := by
    intro index
    rw [matching_eq_ok_iff hdrop, partner_iff hdrop]
  refine ⟨matching_ne_unopened hdrop, hfound, ?_, ?_⟩
  · intro index other hindex hother
    have hsame : Except.ok index = Except.ok other :=
      ((hfound index).2 hindex).symm.trans ((hfound other).2 hother)
    exact Except.ok.inj hsame
  · rw [matching_eq_unclosed_iff hdrop, staysOpen_iff_prefixes, hdrop]

/-- A parenthesis around a nested pair, and behind it one that stays open with a pair in it. -/
theorem findsPartner_nested_and_open :
    let text := ['f', '(', 'a', '(', 'é', ')', ')', '(', '(', ')']
    (text[1]? = some '(' ∧ FindsPartner text 1 ∧ matching text 1 = .ok 6) ∧
      text[7]? = some '(' ∧ FindsPartner text 7 ∧ matching text 7 = .error .unclosed := by
  intro text
  have hnested : text[1]? = some '(' := rfl
  have hopen : text[7]? = some '(' := rfl
  exact ⟨⟨hnested, findsPartner hnested, rfl⟩, hopen, findsPartner hopen, rfl⟩

end Parenthesis
end EntitySql

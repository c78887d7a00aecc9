import EntitySql.Proofs.Session.Effects

/-!
# Isolation of results

A result is a copy of what the caller had when it was created.  What the caller
does afterwards, with the pool, with the builder or with other results, reaches
neither its tree nor its definitions, so whatever is asked about it is answered
as before.  A step that is refused has changed nothing, except that sealing a
builder uses it up, and a query never changes anything.

Main results:

- Theorem `Session.results_prefix_after`: results are only added, at the end.
- Theorem `Session.told_congr`: what is asked about results is answered from these
  results alone.
- Theorem `Session.isolated`: results, refusals and queries in any session.
-/

namespace EntitySql
namespace Session

/-! ## Results that stay -/

/-- A step adds results at the end, or none. -/
theorem results_prefix_step (s : Session) (t : Step) :
    s.results <+: (s.step t).session.results := by
  rw [session_step]
  exact List.prefix_append ..

/-- Any steps add results at the end, or none. -/
theorem results_prefix_after (s : Session) (steps : List Step) :
    s.results <+: (s.after steps).results := by
  induction steps generalizing s with
  | nil => exact List.prefix_rfl
  | cons first rest ih => exact (results_prefix_step s first).trans (ih (s.step first).session)

/-- A result is found at its place after any steps. -/
theorem getElem?_results_after (s : Session) (steps : List Step) {index : Nat}
    (h : index < s.results.length) : (s.after steps).results[index]? = s.results[index]? := by
  rcases results_prefix_after s steps with ⟨added, hadded⟩
  rw [← hadded, List.getElem?_append_left h]

/-! ## Answers that stay -/

/-- The results that a step asks about, if it asks about nothing else. -/
def Step.consulted? : Step → Option (List Nat)
  | .showResult index => some [index]
  | .sameDefinitions first second => some [first, second]
  | .function index _ => some [index]
  | .functionAt index _ => some [index]
  | .check index _ => some [index]
  | .describe index _ _ => some [index]
  | _ => none

/-- What the caller is told by a step. -/
def Reply.told (r : Reply) : Answer × List LogRecord :=
  (r.answer, r.log)

/-- What is told about something depends on what exists, not on the session. -/
theorem told_needing {α : Type} (s : Session) (needed : Option α) (next : α → Reply) :
    (s.needing needed next).told = (needed.map fun a => (next a).told).getD (.void, []) := by
  cases needed <;> rfl

/-- A call tells what it answers, or why it is refused, with its records. -/
theorem told_ofOutcome {α : Type} (s : Session) (outcome : Outcome α) (answer : α → Answer)
    (next : α → Session) :
    (Reply.ofOutcome s outcome answer next).told =
      (match outcome.result with
        | .ok a => answer a
        | .error reason => .rejected reason, outcome.log) := by
  unfold Reply.ofOutcome
  cases outcome.result <;> rfl

/-- Sessions that agree on the results that a step asks about tell the same. -/
theorem told_congr {s later : Session} {t : Step} {indices : List Nat}
    (ht : t.consulted? = some indices)
    (h : ∀ index ∈ indices, later.results[index]? = s.results[index]?) :
    (later.step t).told = (s.step t).told := by
  cases t with
  | showResult index =>
    cases ht
    simp only [step, told_needing, h index List.mem_cons_self]
    rfl
  | sameDefinitions first second =>
    cases ht
    simp only [step, told_needing, h first (by simp), h second (by simp)]
    rfl
  | function index name =>
    cases ht
    simp only [step, told_needing, h index List.mem_cons_self]
    rfl
  | functionAt index offset =>
    cases ht
    simp only [step, told_needing, h index List.mem_cons_self]
    rfl
  | check index text =>
    cases ht
    simp only [step, told_needing, told_ofOutcome, h index List.mem_cons_self]
  | describe index name text =>
    cases ht
    simp only [step, told_needing, h index List.mem_cons_self]
    rfl
  | _ => cases ht

/-! ## Results that are created -/

/-- A step that may add a result adds the one that it answers with. -/
theorem results_of_adds {s : Session} {t : Step} {r : TextResult}
    (ht : (t.creates || t.copiesResult) = true) (h : (s.step t).answer = .result r) :
    (s.step t).session.results = s.results ++ [r] := by
  obtain ⟨hadds, hsession⟩ := adds_step s ht
  rw [h] at hadds
  rw [hsession]
  generalize s.created t = added at hadds ⊢
  cases hadds with
  | created => rfl

/-- A call that is only done gives no result. -/
theorem not_result_ofOutcome_done {α : Type} (s : Session) (outcome : Outcome α)
    (next : α → Session) {r : TextResult} :
    (Reply.ofOutcome s outcome (fun _ => .done) next).answer ≠ .result r := by
  unfold Reply.ofOutcome
  cases outcome.result <;> nofun

/-- The result that a construction gives is the one that is added. -/
theorem results_of_created {s : Session} {t : Step} {r : TextResult} (ht : t.isQuery = false)
    (h : (s.step t).answer = .result r) : (s.step t).session.results = s.results ++ [r] := by
  cases hrearranges : t.rearranges with
  | true =>
    rcases answer_of_rearranges h hrearranges with hdone | hvoid | ⟨d, hremoved⟩
    · cases hdone
    · cases hvoid
    · cases hremoved
  | false =>
    cases t with
    | create tree usePool => exact results_of_adds rfl h
    | build => exact results_of_adds rfl h
    | setTree tree =>
      rcases exists_of_answer_needing h nofun with ⟨b, -, hset⟩
      exact absurd hset (not_result_ofOutcome_done _ _ _)
    | define name lambda span =>
      rcases exists_of_answer_needing h nofun with ⟨b, -, hdefined⟩
      exact absurd hdefined (not_result_ofOutcome_done _ _ _)
    | make mode name lambda span => exact absurd h (not_result_ofOutcome_done _ _ _)
    | _ => cases congrArg₂ or ht hrearranges

/-! ## The whole session -/

/-- What later steps leave alone, and what a step leaves alone that is refused or only asks. -/
structure Isolated (s : Session) : Prop where
  /-- The result that is given when it is created is the one that is stored, behind the others. -/
  created : ∀ t r, t.isQuery = false → (s.step t).answer = .result r →
    (s.step t).session.results = s.results ++ [r]
  /-- Results are only added, and only at the end. -/
  grows : ∀ steps, s.results <+: (s.after steps).results
  /-- A stored result keeps its place, its tree, its definitions and their order. -/
  kept : ∀ steps (index : Nat) r, s.results[index]? = some r →
    (s.after steps).results[index]? = some r
  /-- What is asked about stored results is answered, and logged, as before. -/
  answered : ∀ steps t indices, t.consulted? = some indices →
    (∀ index ∈ indices, index < s.results.length) →
      ((s.after steps).step t).told = (s.step t).told
  /-- The JSON text of a stored result is as before. -/
  encoded : ∀ steps (index : Nat), index < s.results.length →
    ((s.after steps).results[index]?).map (fun r => (Json.encode r).text) =
      (s.results[index]?).map fun r => (Json.encode r).text
  /-- A step that is refused leaves the pool, the results and the builder as they were, except that
  the builder is gone if it was to be sealed. -/
  refused : ∀ t reason, (s.step t).answer = .rejected reason →
    (s.step t).session.pool = s.pool ∧ (s.step t).session.results = s.results ∧
      (s.step t).session.builder = if t = .build then none else s.builder
  /-- Sealing uses the builder up, whatever comes of it. -/
  consumed : (s.step .build).session.builder = none
  /-- A query leaves everything as it was. -/
  unchanged : ∀ t, t.isQuery = true → (s.step t).session = s

/-- In every session results are isolated from what is done after their creation. -/
theorem isolated (s : Session) : Isolated s where
  created := by
    intro t r ht h
    exact results_of_created ht h
  grows := results_prefix_after s
  kept := by
    intro steps index r hr
    have hindex : index < s.results.length := (List.getElem?_eq_some_iff.1 hr).1
    rw [getElem?_results_after s steps hindex, hr]
  answered := by
    intro steps t indices ht hindices
    exact told_congr ht fun index hindex => getElem?_results_after s steps (hindices index hindex)
  encoded := by
    intro steps index hindex
    rw [getElem?_results_after s steps hindex]
  refused := by
    intro t reason h
    rw [session_of_rejected h]
    by_cases ht : t = .build
    · rw [if_pos ht, if_pos ht]
      exact ⟨rfl, rfl, rfl⟩
    · rw [if_neg ht, if_neg ht]
      exact ⟨rfl, rfl, rfl⟩
  consumed := by
    rw [session_step]
    rfl
  unchanged := by
    intro t ht
    exact session_of_isQuery s ht

end Session
end EntitySql

import EntitySql.Proofs.ParseResult.Calls
import EntitySql.Session.Basic

/-!
# Effects of a step

A step of a session acts on three things: the builder, the pool and the results.
For each of them this module says what it is after a step, whatever the step
answers.  The builder is changed by calls in place, so what it is after a step
is what the call has left, be it refused or not.  The pool is rearranged, and
grows by what is made or copied.  Results are added at the end and never touched.

Main results:

- Theorem `Session.session_of_isQuery`: a query leaves the session as it was.
- Theorem `Session.adds_step`: how a step that may add a result ends, and what it adds.
- Theorem `Session.session_step`: the session after a step, part by part.
- Theorem `Session.nextBuilder_cases`: where the builder after a step comes from.
- Theorem `Session.session_of_rejected`: a step that is refused leaves the session
  as it was, but for the builder that is used up by sealing it.
-/

namespace EntitySql
namespace Session

/-! ## Replies -/

/-- A step that needs something changes nothing if what it goes on with changes nothing. -/
theorem session_needing_eq_self {α : Type} {s : Session} {needed : Option α} {next : α → Reply}
    (h : ∀ a, (next a).session = s) : (s.needing needed next).session = s := by
  cases needed with
  | none => rfl
  | some a => exact h a

/-- A step that needs something only for its answer changes nothing. -/
theorem session_needing_query {α : Type} (s : Session) (needed : Option α) (answer : α → Answer) :
    (s.needing needed fun a => .query s (answer a)).session = s :=
  session_needing_eq_self fun _ => rfl

/-- A step that needs something is void, or answers as what it goes on with. -/
theorem exists_of_answer_needing {α : Type} {s : Session} {needed : Option α} {next : α → Reply}
    {answer : Answer} (h : (s.needing needed next).answer = answer) (hvoid : answer ≠ .void) :
    ∃ a, needed = some a ∧ (next a).answer = answer := by
  cases needed with
  | none => exact absurd h.symm hvoid
  | some a => exact ⟨a, rfl, h⟩

/-- A call that is refused leaves the session as it was. -/
theorem session_ofOutcome_of_rejected {α : Type} {s : Session} {outcome : Outcome α}
    {answer : α → Answer} {next : α → Session} {reason : Rejection}
    (h : (Reply.ofOutcome s outcome answer next).answer = .rejected reason)
    (hanswer : ∀ a, answer a ≠ .rejected reason) :
    (Reply.ofOutcome s outcome answer next).session = s := by
  unfold Reply.ofOutcome at h ⊢
  cases hresult : outcome.result with
  | ok a =>
    rw [hresult] at h
    exact absurd h (hanswer a)
  | error refused => rfl

/-- A step that goes on with the builder in use does to it what a call does. -/
theorem session_needing_call (s : Session) (c : Builder.Call String String)
    {next : Builder String String → Reply}
    (h : ∀ b, s.builder = some b → (next b).session = s.withBuilder (c.next b)) :
    (s.needing s.builder next).session = { s with builder := s.builder.map c.next } := by
  obtain ⟨builder, pool, results⟩ := s
  cases builder with
  | none => rfl
  | some b => exact h b rfl

/-- A call on the builder leaves it as the call in place does, also when it is refused. -/
theorem session_ofOutcome_call (s : Session) {b : Builder String String}
    (hbuilder : s.builder = some b) (c : Builder.Call String String)
    (answer : Builder String String → Answer) :
    (Reply.ofOutcome s (c.outcome b) answer s.withBuilder).session =
      s.withBuilder (c.next b) := by
  rw [Builder.Call.next_eq_of_outcome, Reply.ofOutcome]
  cases (c.outcome b).result with
  | ok changed => rfl
  | error reason => exact congrArg (fun builder => { s with builder }) hbuilder

/-! ## Queries -/

/-- The steps that only ask. -/
def Step.isQuery : Step → Bool
  | .mode | .sameInPool _ _ | .showResult _ | .sameDefinitions _ _ | .samePool _
  | .function _ _ | .functionAt _ _ | .check _ _ | .describe _ _ _ => true
  | _ => false

/-- A query leaves the session as it was. -/
theorem session_of_isQuery (s : Session) {t : Step} (h : t.isQuery = true) :
    (s.step t).session = s := by
  cases t with
  | mode => exact session_needing_query s _ _
  | sameInPool first second =>
    exact session_needing_eq_self fun _ => session_needing_query s _ _
  | showResult index => exact session_needing_query s _ _
  | sameDefinitions first second =>
    exact session_needing_eq_self fun _ => session_needing_query s _ _
  | samePool index => exact session_needing_query s _ _
  | function index name => exact session_needing_query s _ _
  | functionAt index offset => exact session_needing_query s _ _
  | check index text =>
    refine session_needing_eq_self fun r => ?_
    -- The check may be refused, and goes on from the same session if it is not.
    unfold Reply.ofOutcome
    cases (r.checkSpans text).result <;> rfl
  | describe index name text => exact session_needing_query s _ _
  | _ => cases h

/-! ## The parts of a session after a step -/

/-- The builder after a step. -/
def nextBuilder (s : Session) : Step → Option (Builder String String)
  | .newBuilder => some Builder.empty
  | .setMode mode => s.builder.map (Builder.Call.withMode mode).next
  | .setTree tree => s.builder.map (Builder.Call.setTree tree).next
  | .define name lambda span => s.builder.map (Builder.Call.define name lambda span).next
  | .push index =>
    match s.pool[index]? with
    | some d => s.builder.map (Builder.Call.push d).next
    | none => s.builder
  | .build => none
  | _ => s.builder

/-- The call that a step makes on the builder. -/
def call? (s : Session) : Step → Option (Builder.Call String String)
  | .setMode mode => some (.withMode mode)
  | .setTree tree => some (.setTree tree)
  | .define name lambda span => some (.define name lambda span)
  | .push index => s.pool[index]?.map .push
  | _ => none

/-- A builder that is in use after a step is a new one, or it was in use before, or a call has left
it. -/
theorem nextBuilder_cases {s : Session} {t : Step} {b : Builder String String}
    (hb : s.nextBuilder t = some b) :
    b = Builder.empty ∨ s.builder = some b ∨
      ∃ found c, s.builder = some found ∧ s.call? t = some c ∧ c.next found = b := by
  have hcall : ∀ c, s.call? t = some c → s.builder.map c.next = some b →
      ∃ found c, s.builder = some found ∧ s.call? t = some c ∧ c.next found = b := by
    intro c hc hnext
    rcases Option.map_eq_some_iff.1 hnext with ⟨found, hfound, hleft⟩
    exact ⟨found, c, hfound, hc, hleft⟩
  cases t with
  | newBuilder => exact Or.inl (Option.some.inj hb).symm
  | setMode mode => exact Or.inr (Or.inr (hcall _ rfl hb))
  | setTree tree => exact Or.inr (Or.inr (hcall _ rfl hb))
  | define name lambda span => exact Or.inr (Or.inr (hcall _ rfl hb))
  | push index =>
    cases hd : s.pool[index]? with
    | none =>
      rw [nextBuilder, hd] at hb
      exact Or.inr (Or.inl hb)
    | some d =>
      rw [nextBuilder, hd] at hb
      exact Or.inr (Or.inr (hcall _ (congrArg (Option.map _) hd) hb))
  | build => cases hb
  | _ => exact Or.inr (Or.inl hb)

/-- The pool after a step. -/
def nextPool (s : Session) : Step → List TextDefinition
  | .make mode name lambda span =>
    s.pool ++ (FunctionDefinition.make mode name lambda span).result.toOption.toList
  | .copy index => s.pool ++ s.pool[index]?.toList
  | .swap first second => exchange s.pool first second
  | .remove index => s.pool.eraseIdx index
  | .reverse => s.pool.reverse
  | .truncate count => s.pool.take count
  | .take index => s.pool ++ s.results[index]?.toList.flatMap ParseResult.definitions
  | _ => s.pool

/-- The results that a step adds. -/
def created (s : Session) : Step → List TextResult
  | .build => (s.builder.bind fun b => b.build.result.toOption).toList
  | .create tree usePool =>
    (ParseResult.create tree (if usePool then some s.pool else none)).result.toOption.toList
  | .copyResult index => s.results[index]?.toList
  | _ => []

/-! ## Steps that may add a result -/

/-- The steps that create a result, which is not a copy. -/
def Step.creates : Step → Bool
  | .build | .create _ _ => true
  | _ => false

/-- The steps that copy a result. -/
def Step.copiesResult : Step → Bool
  | .copyResult _ => true
  | _ => false

/-- How a step that may add a result ends, and what it adds. -/
inductive Adds (t : Step) : Answer → List TextResult → Prop where
  /-- A result that is created is the answer. -/
  | created (r : TextResult) (creates : t.creates = true) : Adds t (.result r) [r]
  /-- A result that is copied is not shown. -/
  | copied (r : TextResult) (copies : t.copiesResult = true) : Adds t .done [r]
  /-- A step that is refused adds nothing. -/
  | refused (reason : Rejection) : Adds t (.rejected reason) []
  /-- A step that lacks what it needs adds nothing. -/
  | void : Adds t .void []

/-- A call for a result gives it, and then it is added, or is refused. -/
theorem adds_ofOutcome (s : Session) {t : Step} (ht : t.creates = true)
    (outcome : Outcome TextResult) :
    Adds t (Reply.ofOutcome s outcome .result s.addResult).answer
        outcome.result.toOption.toList ∧
      (Reply.ofOutcome s outcome .result s.addResult).session =
        { s with results := s.results ++ outcome.result.toOption.toList } := by
  unfold Reply.ofOutcome
  cases outcome.result with
  | ok r => exact ⟨.created r ht, rfl⟩
  | error reason =>
    exact ⟨.refused reason, congrArg (fun results => { s with results }) (List.append_nil _).symm⟩

/-- A step that may add a result answers as it should, and the results grow by what it adds. -/
theorem adds_step (s : Session) {t : Step} (ht : (t.creates || t.copiesResult) = true) :
    Adds t (s.step t).answer (s.created t) ∧
      (s.step t).session = ⟨s.nextBuilder t, s.nextPool t, s.results ++ s.created t⟩ := by
  cases t with
  | build =>
    obtain ⟨builder, pool, results⟩ := s
    cases builder with
    | none => exact ⟨.void, congrArg (Session.mk none pool) (List.append_nil results).symm⟩
    | some b => exact adds_ofOutcome ⟨none, pool, results⟩ rfl b.build
  | create tree usePool => exact adds_ofOutcome s rfl _
  | copyResult index =>
    simp only [step, created, needing]
    cases s.results[index]? with
    | none =>
      exact ⟨.void, congrArg (fun results => { s with results }) (List.append_nil _).symm⟩
    | some r => exact ⟨.copied r rfl, rfl⟩
  | _ => cases ht

/-- Any other step adds no result. -/
theorem created_eq_nil (s : Session) {t : Step} (ht : (t.creates || t.copiesResult) = false) :
    s.created t = [] := by
  cases t with
  | build => cases ht
  | create tree usePool => cases ht
  | copyResult index => cases ht
  | _ => rfl

/-! ## The session after a step -/

/-- A query changes no part of a session. -/
theorem parts_of_isQuery (s : Session) {t : Step} (h : t.isQuery = true) :
    s.nextBuilder t = s.builder ∧ s.nextPool t = s.pool ∧ s.created t = [] := by
  cases t <;> first | exact ⟨rfl, rfl, rfl⟩ | cases h

/-- The session after a step, part by part. -/
theorem session_step (s : Session) (t : Step) :
    (s.step t).session = ⟨s.nextBuilder t, s.nextPool t, s.results ++ s.created t⟩ := by
  cases hquery : t.isQuery with
  | true =>
    rcases parts_of_isQuery s hquery with ⟨hbuilder, hpool, hcreated⟩
    rw [session_of_isQuery s hquery, hbuilder, hpool, hcreated, List.append_nil]
  | false =>
    obtain ⟨builder, pool, results⟩ := s
    cases t with
    | newBuilder => simp [step, Reply.silent, nextBuilder, nextPool, created, withBuilder]
    | setMode mode =>
      simp only [nextBuilder, nextPool, created, List.append_nil]
      exact session_needing_call _ (.withMode mode) fun b _ => rfl
    | setTree tree =>
      simp only [nextBuilder, nextPool, created, List.append_nil]
      exact session_needing_call _ (.setTree tree) fun b hb =>
        session_ofOutcome_call _ hb (.setTree tree) _
    | define name lambda span =>
      simp only [nextBuilder, nextPool, created, List.append_nil]
      exact session_needing_call _ (.define name lambda span) fun b hb =>
        session_ofOutcome_call _ hb (.define name lambda span) _
    | push index =>
      simp only [nextBuilder, nextPool, created, List.append_nil]
      cases hd : pool[index]? with
      | some d =>
        refine session_needing_call _ (.push d) fun b _ => ?_
        rw [hd]
        rfl
      | none => cases builder <;> simp [step, needing, hd, Reply.query]
    | build => exact (adds_step _ rfl).2
    | make mode name lambda span =>
      cases hmake : (FunctionDefinition.make mode name lambda span).result <;>
        simp [step, Reply.ofOutcome, hmake, nextBuilder, nextPool, created, Except.toOption,
          withPool]
    | copy index =>
      cases hd : pool[index]? <;>
        simp [step, needing, hd, Reply.silent, Reply.query, nextBuilder, nextPool, created,
          withPool]
    | swap first second =>
      cases hfirst : pool[first]? <;> cases hsecond : pool[second]? <;>
        simp [step, needing, hfirst, hsecond, exchange, Reply.silent, Reply.query, nextBuilder,
          nextPool, created, withPool]
    | remove index =>
      cases hd : pool[index]? with
      | some d => simp [step, needing, hd, nextBuilder, nextPool, created, withPool]
      | none =>
        have hall : pool.eraseIdx index = pool :=
          List.eraseIdx_of_length_le (List.getElem?_eq_none_iff.1 hd)
        simp [step, needing, hd, hall, Reply.query, nextBuilder, nextPool, created]
    | reverse => simp [step, Reply.silent, nextBuilder, nextPool, created, withPool]
    | truncate count => simp [step, Reply.silent, nextBuilder, nextPool, created, withPool]
    | create tree usePool => exact (adds_step _ rfl).2
    | copyResult index => exact (adds_step _ rfl).2
    | take index =>
      cases hr : results[index]? <;>
        simp [step, needing, hr, Reply.silent, Reply.query, nextBuilder, nextPool, created,
          withPool]
    | _ => cases hquery

/-! ## Refusals -/

/-- The steps that rearrange what is held, which are neither refused nor give a result. -/
def Step.rearranges : Step → Bool
  | .newBuilder | .setMode _ | .push _ | .copy _ | .swap _ _ | .remove _ | .reverse | .truncate _
  | .copyResult _ | .take _ => true
  | _ => false

/-- A step that rearranges is done, or void, or answers with what was removed. -/
theorem answer_of_rearranges {s : Session} {t : Step} {answer : Answer}
    (h : (s.step t).answer = answer) (ht : t.rearranges = true) :
    answer = .done ∨ answer = .void ∨ ∃ d, answer = .removed d := by
  by_cases hvoid : answer = .void
  · exact Or.inr (Or.inl hvoid)
  cases t with
  | newBuilder => exact Or.inl h.symm
  | setMode mode =>
    rcases exists_of_answer_needing h hvoid with ⟨b, -, rfl⟩
    exact Or.inl rfl
  | push index =>
    rcases exists_of_answer_needing h hvoid with ⟨b, -, hpush⟩
    rcases exists_of_answer_needing hpush hvoid with ⟨d, -, rfl⟩
    exact Or.inl rfl
  | copy index =>
    rcases exists_of_answer_needing h hvoid with ⟨d, -, rfl⟩
    exact Or.inl rfl
  | swap first second =>
    rcases exists_of_answer_needing h hvoid with ⟨d, -, hsecond⟩
    rcases exists_of_answer_needing hsecond hvoid with ⟨e, -, rfl⟩
    exact Or.inl rfl
  | remove index =>
    rcases exists_of_answer_needing h hvoid with ⟨d, -, rfl⟩
    exact Or.inr (Or.inr ⟨d, rfl⟩)
  | reverse => exact Or.inl h.symm
  | truncate count => exact Or.inl h.symm
  | copyResult index =>
    rcases exists_of_answer_needing h hvoid with ⟨r, -, rfl⟩
    exact Or.inl rfl
  | take index =>
    rcases exists_of_answer_needing h hvoid with ⟨r, -, rfl⟩
    exact Or.inl rfl
  | _ => cases ht

/-- A step that is refused leaves the session as it was, but for the builder that is used up by
sealing it. -/
theorem session_of_rejected {s : Session} {t : Step} {reason : Rejection}
    (h : (s.step t).answer = .rejected reason) :
    (s.step t).session = if t = .build then s.dropBuilder else s := by
  cases hquery : t.isQuery with
  | true =>
    have hbuild : t ≠ .build := by
      rintro rfl
      cases hquery
    rw [if_neg hbuild, session_of_isQuery s hquery]
  | false =>
    cases hrearranges : t.rearranges with
    | true =>
      rcases answer_of_rearranges h hrearranges with hdone | hvoid | ⟨d, hremoved⟩
      · cases hdone
      · cases hvoid
      · cases hremoved
    | false =>
      cases t with
      | setTree tree =>
        rcases exists_of_answer_needing h nofun with ⟨b, hb, hrejected⟩
        rw [if_neg nofun, step, hb]
        exact session_ofOutcome_of_rejected hrejected fun _ => nofun
      | define name lambda span =>
        rcases exists_of_answer_needing h nofun with ⟨b, hb, hrejected⟩
        rw [if_neg nofun, step, hb]
        exact session_ofOutcome_of_rejected hrejected fun _ => nofun
      | build =>
        rcases exists_of_answer_needing h nofun with ⟨b, hb, hrejected⟩
        rw [if_pos rfl, step, hb]
        exact session_ofOutcome_of_rejected hrejected fun _ => nofun
      | make mode name lambda span =>
        rw [if_neg nofun]
        exact session_ofOutcome_of_rejected h fun _ => nofun
      | create tree usePool =>
        rw [if_neg nofun]
        exact session_ofOutcome_of_rejected h fun _ => nofun
      | _ => cases congrArg₂ or hquery hrearranges

end Session
end EntitySql

import EntitySql.Proofs.Query.Acceptance
import EntitySql.Proofs.Session.Provenance

/-!
# What is logged

A call that is refused logs the reason, a call that creates a result logs its
size, and a definition that is made with a reversed span leaves a warning.
Nothing else is logged, and nothing is logged twice.  So what happened in a step
can be read off the step and its answer, the records of a session follow from
that, and counting them by level counts refusals, creations and reversed spans.

Main results:

- Theorem `Builder.define_logsAs`, `Builder.build_logsAs` and others: what each call logs.
- Theorem `Session.log_step`: a step logs what happened in it and nothing else.
- Theorem `Session.recordsAt_run`: the records of a session, counted by level.
- Theorem `Session.logAccounts` and theorem `Query.logged`: sessions and analyses.
- Theorem `log_accounts`: both together.
-/

namespace EntitySql

/-! ## Calls -/

/-- A call that is refused logs the reason only, and one that succeeds logs the given records. -/
def Outcome.LogsAs {α : Type} (x : Outcome α) (succeeded : α → List LogRecord) : Prop :=
  x.log = match x.result with
    | .ok a => succeeded a
    | .error reason => [reason.record]

namespace FunctionDefinition

/-- The warning about a span, if it is reversed. -/
def warnings (name : String) (span : Span) : List LogRecord :=
  if span.isReversed then [reversedWarning name span] else []

/-- A definition that is made leaves the warnings about its span. -/
theorem make_logsAs {L : Type} (mode : ValidationMode) (name : String) (lambda : Option L)
    (span : Span) : (make mode name lambda span).LogsAs fun _ => warnings name span := by
  unfold Outcome.LogsAs
  cases hresult : (make mode name lambda span).result with
  | ok d => exact make_log_of_ok hresult
  | error reason => exact make_log_of_error hresult

end FunctionDefinition

namespace Builder

variable {T L : Type}

/-- Setting a tree leaves no record if it succeeds. -/
theorem setTree_logsAs (b : Builder T L) (tree : T) : (b.setTree tree).LogsAs fun _ => [] := by
  unfold setTree
  cases b.tree <;> rfl

/-- A definition that is made in the builder is logged as one that is made elsewhere. -/
theorem define_logsAs (b : Builder T L) (name : String) (lambda : Option L) (span : Span) :
    (b.define name lambda span).LogsAs fun _ => FunctionDefinition.warnings name span := by
  have hmake := FunctionDefinition.make_logsAs b.mode name lambda span
  unfold Outcome.LogsAs at hmake ⊢
  rw [define]
  cases hresult : (FunctionDefinition.make b.mode name lambda span).result with
  | ok d =>
    rw [hresult] at hmake
    rw [Outcome.bind_of_ok hresult, hmake]
    exact List.append_nil _
  | error reason =>
    rw [hresult] at hmake
    rw [Outcome.bind_of_error hresult, hmake]

/-- Sealing a builder leaves the size of the result. -/
theorem build_logsAs (b : Builder T L) :
    b.build.LogsAs fun r => [ParseResult.createdTrace r.length] := by
  unfold build
  cases b.tree <;> rfl

end Builder

namespace ParseResult

variable {T L : Type}

/-- Creating a result leaves its size. -/
theorem create_logsAs (tree : Option T) (definitions : Option (List (FunctionDefinition L))) :
    (create tree definitions).LogsAs fun r => [createdTrace r.length] := by
  cases tree <;> cases definitions <;> rfl

/-- Checking spans leaves no record if they pass. -/
theorem checkSpans_logsAs (r : ParseResult T L) (query : String) :
    (r.checkSpans query).LogsAs fun _ => [] := by
  unfold checkSpans
  cases r.firstPast query.length <;> rfl

end ParseResult

namespace Session

/-! ## Steps -/

/-- What may happen in a step that is logged. -/
inductive Event where
  | refused (reason : Rejection)
  | created (r : TextResult)
  | reversed (name : String) (span : Span)

/-- The record of an event. -/
def Event.record : Event → LogRecord
  | .refused reason => reason.record
  | .created r => ParseResult.createdTrace r.length
  | .reversed name span => FunctionDefinition.reversedWarning name span

/-- The name and the span of the definition that a step is to make. -/
def Step.making? : Step → Option (String × Span)
  | .define name _ span => some (name, span)
  | .make _ name _ span => some (name, span)
  | _ => none

/-- What has happened in a step, given its answer. -/
def Step.event? (t : Step) : Answer → Option Event
  | .rejected reason => some (.refused reason)
  | .result r => if t.creates then some (.created r) else none
  | .done =>
    match t.making? with
    | some (name, span) => if span.isReversed then some (.reversed name span) else none
    | none => none
  | _ => none

/-- A reply to a step logs what has happened in it. -/
def Recorded (t : Step) (r : Reply) : Prop :=
  r.log = (t.event? r.answer).toList.map Event.record

/-- A step that is void for want of something has nothing to record. -/
theorem recorded_needing {α : Type} {s : Session} {t : Step} {needed : Option α}
    {next : α → Reply} (h : ∀ a, Recorded t (next a)) : Recorded t (s.needing needed next) := by
  cases needed with
  | none => rfl
  | some a => exact h a

/-- A step that makes a call records what the call logs. -/
theorem recorded_ofOutcome {α : Type} {s : Session} {t : Step} {outcome : Outcome α}
    {succeeded : α → List LogRecord} (hlog : outcome.LogsAs succeeded) {answer : α → Answer}
    (hanswer : ∀ a, succeeded a = (t.event? (answer a)).toList.map Event.record)
    (next : α → Session) : Recorded t (Reply.ofOutcome s outcome answer next) := by
  unfold Outcome.LogsAs at hlog
  unfold Recorded Reply.ofOutcome
  cases hresult : outcome.result with
  | ok a =>
    rw [hresult] at hlog
    exact hlog.trans (hanswer a)
  | error reason =>
    rw [hresult] at hlog
    exact hlog

/-- A step that makes a definition has nothing to log but the warning about its span. -/
theorem warnings_eq {t : Step} {name : String} {span : Span} (h : t.making? = some (name, span)) :
    FunctionDefinition.warnings name span = (t.event? .done).toList.map Event.record := by
  unfold FunctionDefinition.warnings Step.event?
  simp only [h]
  cases span.isReversed <;> rfl

/-- A step logs what happened in it and nothing else. -/
theorem log_step (s : Session) (t : Step) : Recorded t (s.step t) := by
  cases t with
  | newBuilder => rfl
  | setMode mode => exact recorded_needing fun _ => rfl
  | mode => exact recorded_needing fun _ => rfl
  | setTree tree =>
    exact recorded_needing fun b =>
      recorded_ofOutcome (b.setTree_logsAs tree) (fun _ => rfl) _
  | define name lambda span =>
    exact recorded_needing fun b =>
      recorded_ofOutcome (b.define_logsAs name lambda span) (fun _ => warnings_eq rfl) _
  | push index => exact recorded_needing fun _ => recorded_needing fun _ => rfl
  | build =>
    exact recorded_needing fun b => recorded_ofOutcome b.build_logsAs (fun _ => rfl) _
  | make mode name lambda span =>
    exact recorded_ofOutcome (FunctionDefinition.make_logsAs mode name lambda span)
      (fun _ => warnings_eq rfl) _
  | copy index => exact recorded_needing fun _ => rfl
  | swap first second => exact recorded_needing fun _ => recorded_needing fun _ => rfl
  | remove index => exact recorded_needing fun _ => rfl
  | reverse => rfl
  | truncate count => rfl
  | sameInPool first second => exact recorded_needing fun _ => recorded_needing fun _ => rfl
  | create tree usePool =>
    exact recorded_ofOutcome (ParseResult.create_logsAs tree _) (fun _ => rfl) _
  | copyResult index => exact recorded_needing fun _ => rfl
  | showResult index => exact recorded_needing fun _ => rfl
  | sameDefinitions first second => exact recorded_needing fun _ => recorded_needing fun _ => rfl
  | samePool index => exact recorded_needing fun _ => rfl
  | function index name => exact recorded_needing fun _ => rfl
  | functionAt index offset => exact recorded_needing fun _ => rfl
  | check index text =>
    exact recorded_needing fun r =>
      recorded_ofOutcome (r.checkSpans_logsAs text) (fun _ => rfl) _
  | describe index name text => exact recorded_needing fun _ => rfl
  | take index => exact recorded_needing fun _ => rfl

/-! ## Reversed spans -/

/-- A call that is not refused has succeeded with what it answers. -/
theorem exists_of_answer_ofOutcome {α : Type} {s : Session} {outcome : Outcome α}
    {answer : α → Answer} {next : α → Session} {a : Answer}
    (h : (Reply.ofOutcome s outcome answer next).answer = a)
    (ha : ∀ reason, a ≠ .rejected reason) : ∃ x, outcome.result = .ok x ∧ answer x = a := by
  unfold Reply.ofOutcome at h
  cases hresult : outcome.result with
  | ok x =>
    rw [hresult] at h
    exact ⟨x, rfl, h⟩
  | error reason =>
    rw [hresult] at h
    exact absurd h.symm (ha reason)

/-- A step that is done has made the definition that it was to make. -/
theorem exists_made_of_done {s : Session} {t : Step} {c : Construction}
    (hc : s.construction? t = some c) (h : (s.step t).answer = .done) :
    ∃ d, c.outcome.result = .ok d := by
  cases t with
  | make mode name lambda span =>
    cases hc
    rcases exists_of_answer_ofOutcome h nofun with ⟨d, hd, -⟩
    exact ⟨d, hd⟩
  | define name lambda span =>
    rcases exists_of_answer_needing h nofun with ⟨b, hb, hdone⟩
    rcases exists_of_answer_ofOutcome hdone nofun with ⟨next, hnext, -⟩
    rcases Builder.define_result_eq_ok_iff.1 hnext with ⟨d, hd, -⟩
    rw [construction?, hb] at hc
    cases hc
    exact ⟨d, hd⟩
  | _ => cases hc

/-- A definition whose span is reversed is made in lenient mode only. -/
theorem lenient_of_reversed {s : Session} {t : Step} {c : Construction}
    (hc : s.construction? t = some c) (hspan : c.span.isReversed = true)
    (h : (s.step t).answer = .done) : c.mode = .lenient := by
  rcases exists_made_of_done hc h with ⟨d, hd⟩
  exact (FunctionDefinition.make_result_eq_ok_iff.1 hd).1.2.2 hspan

/-- A construction has the name and the span that its step is to make. -/
theorem making?_of_construction? {s : Session} {t : Step} {c : Construction}
    (hc : s.construction? t = some c) : t.making? = some (c.name, c.span) := by
  cases t with
  | make mode name lambda span =>
    cases hc
    rfl
  | define name lambda span =>
    rcases Option.map_eq_some_iff.1 hc with ⟨b, -, rfl⟩
    rfl
  | _ => cases hc

/-- A step that is done has run the construction that it was to run. -/
theorem exists_construction_of_making? {s : Session} {t : Step} {name : String} {span : Span}
    (ht : t.making? = some (name, span)) (h : (s.step t).answer = .done) :
    ∃ c, s.construction? t = some c ∧ c.span = span := by
  cases t with
  | make mode made lambda covered =>
    cases ht
    exact ⟨⟨mode, name, lambda, span⟩, rfl, rfl⟩
  | define made lambda covered =>
    cases ht
    rcases exists_of_answer_needing h nofun with ⟨b, hb, -⟩
    exact ⟨⟨b.mode, name, lambda, span⟩, congrArg (Option.map _) hb, rfl⟩
  | _ => cases ht

/-- An event is a refusal, a result that is created, or a reversed span that is let through. -/
theorem cases_of_event? {t : Step} {a : Answer} {e : Event} (h : t.event? a = some e) :
    (∃ reason, a = .rejected reason) ∨ (t.creates = true ∧ ∃ r, a = .result r) ∨
      (a = .done ∧ ∃ name span, t.making? = some (name, span) ∧ span.isReversed = true) := by
  unfold Step.event? at h
  cases a with
  | rejected reason => exact Or.inl ⟨reason, rfl⟩
  | result r =>
    cases hcreates : t.creates with
    | true => exact Or.inr (Or.inl ⟨rfl, r, rfl⟩)
    | false => simp [hcreates] at h
  | done =>
    cases hmaking : t.making? with
    | none => simp [hmaking] at h
    | some made =>
      obtain ⟨name, span⟩ := made
      cases hspan : span.isReversed with
      | true => exact Or.inr (Or.inr ⟨rfl, name, span, rfl, hspan⟩)
      | false => simp [hmaking, hspan] at h
  | _ => cases h

/-! ## Counting the records of a session -/

/-- A refusal. -/
def Answer.isRejected : Answer → Bool
  | .rejected _ => true
  | _ => false

/-- A result, be it created or shown. -/
def Answer.isResult : Answer → Bool
  | .result _ => true
  | _ => false

/-- The step has been carried out. -/
def Answer.isDone : Answer → Bool
  | .done => true
  | _ => false

/-- The steps that are to make a definition whose span is reversed. -/
def Step.makesReversed (t : Step) : Bool :=
  t.making?.any fun made => made.2.isReversed

/-- What is logged at a level: refusals, results that are created, reversed spans that are let
through. -/
def Step.logs (t : Step) (a : Answer) : LogLevel → Bool
  | .debug => a.isRejected
  | .trace => t.creates && a.isResult
  | .warn => t.makesReversed && a.isDone

/-- The number of records at a level. -/
def recordsAt (level : LogLevel) (replies : List Reply) : Nat :=
  (replies.flatMap Reply.log).countP fun record => record.level == level

/-- The steps of a session with their replies. -/
def history (s : Session) (steps : List Step) : List (Step × Reply) :=
  steps.zip (s.run steps)

/-- The history begins with the first step and its reply. -/
theorem history_cons (s : Session) (t : Step) (rest : List Step) :
    s.history (t :: rest) = (t, s.step t) :: (s.step t).session.history rest :=
  rfl

/-- The history has every step. -/
theorem length_history (s : Session) (steps : List Step) :
    (s.history steps).length = steps.length := by
  rw [history, List.length_zip, length_replies_run, Nat.min_self]

/-- The level of an event is that of its kind. -/
theorem any_event? (t : Step) (a : Answer) (level : LogLevel) :
    ((t.event? a).any fun e => e.record.level == level) = t.logs a level := by
  unfold Step.event? Step.logs Step.makesReversed
  cases a with
  | done =>
    rcases t.making? with - | ⟨name, span⟩
    · cases level <;> simp [Answer.isRejected, Answer.isResult]
    · cases hspan : span.isReversed <;> cases level <;>
        simp [hspan, Answer.isRejected, Answer.isResult, Answer.isDone, Event.record,
          FunctionDefinition.reversedWarning]
  | result r =>
    cases t.creates <;> cases level <;>
      simp [Answer.isRejected, Answer.isResult, Answer.isDone, Event.record,
        ParseResult.createdTrace]
  | rejected reason =>
    cases level <;>
      simp [Answer.isRejected, Answer.isResult, Answer.isDone, Event.record, Rejection.record]
  | _ => cases level <;> simp [Answer.isRejected, Answer.isResult, Answer.isDone]

/-- A step leaves one record at a level, or none. -/
theorem countP_level_log (s : Session) (t : Step) (level : LogLevel) :
    ((s.step t).log.countP fun record => record.level == level) =
      if t.logs (s.step t).answer level then 1 else 0 := by
  rw [log_step s t, ← any_event?]
  cases t.event? (s.step t).answer with
  | none => rfl
  | some e => simp [List.countP_cons]

/-- The records of a session at a level count the steps in which something of this level
happened. -/
theorem recordsAt_run (level : LogLevel) (s : Session) (steps : List Step) :
    recordsAt level (s.run steps) =
      (s.history steps).countP fun h => h.1.logs h.2.answer level := by
  induction steps generalizing s with
  | nil => rfl
  | cons t rest ih =>
    have hrest := ih (s.step t).session
    unfold recordsAt at hrest ⊢
    rw [run, List.flatMap_cons, List.countP_append, hrest, countP_level_log, history_cons,
      List.countP_cons, Nat.add_comm]

/-- A step adds a result if it creates one or copies one. -/
theorem length_created (s : Session) (t : Step) :
    (s.created t).length =
      (if t.logs (s.step t).answer .trace then 1 else 0) +
        if t.copiesResult && (s.step t).answer.isDone then 1 else 0 := by
  cases hadds : t.creates || t.copiesResult with
  | true =>
    have hstep := (adds_step s hadds).1
    generalize (s.step t).answer = answer at hstep ⊢
    generalize s.created t = added at hstep ⊢
    cases hstep with
    | created r creates => simp [Step.logs, creates, Answer.isResult, Answer.isDone]
    | copied r copies => simp [Step.logs, copies, Answer.isResult, Answer.isDone]
    | refused reason => simp [Step.logs, Answer.isResult, Answer.isDone]
    | void => simp [Step.logs, Answer.isResult, Answer.isDone]
  | false =>
    rcases Bool.or_eq_false_iff.1 hadds with ⟨hcreates, hcopies⟩
    simp [created_eq_nil s hadds, Step.logs, hcreates, hcopies]

/-- The results of a session are those that it creates, which are logged, and copies of results. -/
theorem length_results_after (s : Session) (steps : List Step) :
    (s.after steps).results.length =
      s.results.length + recordsAt .trace (s.run steps) +
        (s.history steps).countP fun h => h.1.copiesResult && h.2.answer.isDone := by
  rw [recordsAt_run]
  induction steps generalizing s with
  | nil => rfl
  | cons t rest ih =>
    have hstep : (s.step t).session.results.length = s.results.length + (s.created t).length := by
      rw [session_step, List.length_append]
    rw [after_cons, ih, hstep, length_created, history_cons, List.countP_cons, List.countP_cons]
    dsimp only
    omega

/-! ## Sessions and analyses -/

/-- The log of a session says which steps are refused, create a result or let a reversed span
through, and says nothing else. -/
structure LogAccounts (s : Session) : Prop where
  /-- A step that is refused leaves one debug record, with the reason. -/
  refused : ∀ t reason, (s.step t).answer = .rejected reason →
    (s.step t).log = [⟨.debug, reason.logText⟩]
  /-- A step that creates a result leaves one trace record, with its number of definitions. -/
  created : ∀ t r, t.creates = true → (s.step t).answer = .result r →
    (s.step t).log =
      [⟨.trace, "parse result created with " ++ Text.decimal r.length ++ " inline function(s)"⟩]
  /-- A step that makes a definition with a reversed span does so in lenient mode and leaves one
  warning. -/
  reversed : ∀ t (c : Construction), s.construction? t = some c → c.span.stop < c.span.start →
    (s.step t).answer = .done →
      c.mode = .lenient ∧
        (s.step t).log =
          [⟨.warn, "function definition " ++ ("'" ++ c.name ++ "'") ++ " has reversed span " ++
            ("[" ++ Text.decimal c.span.start ++ ", " ++ Text.decimal c.span.stop ++ ")")⟩]
  /-- Any other step leaves no record. -/
  silent : ∀ t, (∀ reason, (s.step t).answer ≠ .rejected reason) →
    (t.creates = true → ∀ r, (s.step t).answer ≠ .result r) →
    (∀ c : Construction, s.construction? t = some c → c.span.stop < c.span.start →
      (s.step t).answer ≠ .done) →
    (s.step t).log = []
  /-- Every step has its reply, so none is missing when records are counted. -/
  answered : ∀ steps, (s.history steps).length = steps.length
  /-- In a session the debug records count the refusals. -/
  debug : ∀ steps, recordsAt .debug (s.run steps) =
    (s.history steps).countP fun h => h.2.answer.isRejected
  /-- The trace records count the results that are created, which are those that are stored but for
  the copies. -/
  trace : ∀ steps,
    recordsAt .trace (s.run steps) =
      ((s.history steps).countP fun h => h.1.creates && h.2.answer.isResult) ∧
    (s.after steps).results.length =
      s.results.length + recordsAt .trace (s.run steps) +
        (s.history steps).countP fun h => h.1.copiesResult && h.2.answer.isDone
  /-- The warnings count the reversed spans that are let through. -/
  warn : ∀ steps, recordsAt .warn (s.run steps) =
    (s.history steps).countP fun h => h.1.makesReversed && h.2.answer.isDone

/-- In every session the log accounts for refusals, results and reversed spans. -/
theorem logAccounts (s : Session) : LogAccounts s where
  refused := by
    intro t reason h
    rw [log_step s t, h]
    rfl
  created := by
    intro t r ht h
    rw [log_step s t, h, Step.event?, if_pos ht]
    rfl
  reversed := by
    intro t c hc hspan h
    have hreversed := Span.isReversed_iff.2 hspan
    refine ⟨lenient_of_reversed hc hreversed h, ?_⟩
    rw [log_step s t, h, ← warnings_eq (making?_of_construction? hc)]
    rw [FunctionDefinition.warnings, if_pos hreversed]
    rfl
  silent := by
    intro t hrefused hcreated hreversed
    rw [log_step s t]
    cases hevent : t.event? (s.step t).answer with
    | none => rfl
    | some e =>
      rcases cases_of_event? hevent with ⟨reason, h⟩ | ⟨ht, r, h⟩ | ⟨h, name, span, ht, hspan⟩
      · exact absurd h (hrefused reason)
      · exact absurd h (hcreated ht r)
      · rcases exists_construction_of_making? ht h with ⟨c, hc, rfl⟩
        exact absurd h (hreversed c hc (Span.isReversed_iff.1 hspan))
  answered := length_history s
  debug := recordsAt_run .debug s
  trace steps := ⟨recordsAt_run .trace s steps, length_results_after s steps⟩
  warn := recordsAt_run .warn s

end Session

namespace Query

/-- An analysis logs one record, which says how it ends. -/
structure Logged (query : String) : Prop where
  /-- A result leaves one trace record, with its number of definitions. -/
  accepted : ∀ r log, analyze query = .ok ⟨.ok r, log⟩ →
    log =
      [⟨.trace, "parse result created with " ++ Text.decimal r.length ++ " inline function(s)"⟩]
  /-- A refusal leaves one debug record, with the reason. -/
  refused : ∀ reason log, analyze query = .ok ⟨.error reason, log⟩ →
    log = [⟨.debug, reason.logText⟩]

/-- The declarations that are made into definitions leave no records, so only the end is logged. -/
theorem logsAs_of_analyze {query : String} {outcome : Outcome (ParseResult Statement Lambda)}
    (h : analyze query = .ok outcome) :
    outcome.LogsAs fun r => [ParseResult.createdTrace r.length] := by
  cases hnamed : (Reading.ofQuery query).declarations.find? nameless with
  | some p =>
    rw [analyze_of_nameless hnamed] at h
    cases h
    rfl
  | none =>
    cases hending : (Reading.ofQuery query).ending with
    | error fault =>
      rw [analyze_of_named_malformed hnamed hending] at h
      cases h
    | ok statement =>
      rw [analyze_of_named_statement hnamed hending] at h
      cases h
      simp [Outcome.LogsAs, ParseResult.length, resultOf]

/-- Every analysis that ends with a result or a refusal logs this and nothing else. -/
theorem logged (query : String) : Logged query where
  accepted _ _ h := logsAs_of_analyze h
  refused _ _ h := logsAs_of_analyze h

end Query

/-- The log accounts for every refusal, every result and every reversed span, in sessions and in the
analysis of queries. -/
theorem log_accounts (s : Session) (query : String) : s.LogAccounts ∧ Query.Logged query :=
  ⟨s.logAccounts, Query.logged query⟩

end EntitySql

import EntitySql.Proofs.ParseResult.SpanCheck
import EntitySql.Proofs.Query.Acceptance
import EntitySql.Proofs.Session.Effects

/-!
# Who is to blame for a failure

A failure has a kind, and its code lies in a range; each of them says whether the
calling program or the query is to blame, and nothing in their types keeps the two
from saying different things.  The library reports failures from a handful of
calls, two of which pass on what others refuse, and each call has its own codes.
All that is reported blames the calling program, by kind and by code, and is
explained by the catalogue.

Main results:

- Theorem `Rejection.blamesCaller`: every rejection blames the calling program.
- Theorem `Failure.Reports.code_mem`: the codes under which each call reports.
- Theorem `Failure.blamesCaller_of_reports`: whatever a call reports blames the calling
  program, under a code of this call.
- Theorem `Session.exists_reports_of_rejected`: what a step of a session is refused for
  was reported by one of the calls.
-/

namespace EntitySql

/-! ## Why calls are refused -/

namespace ParseResult

variable {T L : Type}

/-- A result is refused for want of a tree, or else for want of definitions. -/
theorem create_result_eq_error_iff {tree : Option T}
    {definitions : Option (List (FunctionDefinition L))} {reason : Rejection} :
    (create tree definitions).result = .error reason ↔
      tree = none ∧ reason = .missingTree ∨
      tree.isSome = true ∧ definitions = none ∧ reason = .missingDefinitions := by
  cases tree <;> cases definitions <;> simp [create, ofParts, eq_comm]

end ParseResult

namespace Builder

variable {T L : Type}

/-- A tree is refused exactly when there is one already. -/
theorem setTree_result_eq_error_iff {b : Builder T L} {tree : T} {reason : Rejection} :
    (b.setTree tree).result = .error reason ↔ b.tree.isSome = true ∧ reason = .secondTree := by
  cases h : b.tree <;> simp [setTree, h, eq_comm]

/-- A definition is refused in a builder exactly when it is refused in its mode. -/
theorem define_result_eq_error_iff {b : Builder T L} {name : String} {lambda : Option L}
    {span : Span} {reason : Rejection} :
    (b.define name lambda span).result = .error reason ↔
      (FunctionDefinition.make b.mode name lambda span).result = .error reason := by
  rw [Call.define_result]
  cases (FunctionDefinition.make b.mode name lambda span).result <;> simp [Except.map]

/-- A builder cannot be sealed exactly when it has no tree. -/
theorem build_result_eq_error_iff {b : Builder T L} {reason : Rejection} :
    b.build.result = .error reason ↔
      b.tree = none ∧ reason = .unfinished b.definitions.length := by
  cases h : b.tree <;> simp [build, h, ParseResult.ofParts, eq_comm]

end Builder

namespace Query

/-- An analysis is refused exactly at the first declaration without a name. -/
theorem analyze_result_eq_error_iff {query : String} {reason : Rejection} :
    (∃ outcome, analyze query = .ok outcome ∧ outcome.result = .error reason) ↔
      ∃ p, (Reading.ofQuery query).declarations.find? nameless = some p ∧
        reason = .emptyName p.span := by
  cases hnamed : (Reading.ofQuery query).declarations.find? nameless with
  | some p => simp [analyze_of_nameless hnamed, eq_comm]
  | none =>
    cases hending : (Reading.ofQuery query).ending with
    | error fault => simp [analyze_of_named_malformed hnamed hending]
    | ok statement => simp [analyze_of_named_statement hnamed hending]

end Query

/-! ## What is reported -/

namespace Failure

/-- The calls that may be refused. -/
inductive Call where
  /-- Makes a definition. -/
  | make
  /-- Creates a parse result. -/
  | create
  /-- Gives a builder its command tree. -/
  | setTree
  /-- Makes a definition in a builder. -/
  | define
  /-- Seals a builder. -/
  | build
  /-- Checks the spans of a parse result. -/
  | checkSpans
  /-- Analyses a query. -/
  | analyze
deriving DecidableEq, Repr

/-- The codes under which a call reports. -/
def Call.codes : Call → List ErrorCode
  | .make | .define => [⟨403⟩, ⟨404⟩, ⟨405⟩]
  | .create => [⟨401⟩, ⟨402⟩]
  | .setTree => [⟨407⟩]
  | .build => [⟨401⟩]
  | .checkSpans => [⟨406⟩]
  | .analyze => [⟨403⟩]

/-- A call reports a failure, for some arguments and in some state. -/
inductive Reports : Call → Failure → Prop where
  | make {L : Type} {mode : ValidationMode} {name : String} {lambda : Option L} {span : Span}
      {reason : Rejection}
      (h : (FunctionDefinition.make mode name lambda span).result = .error reason) :
      Reports .make reason.failure
  | create {T L : Type} {tree : Option T} {definitions : Option (List (FunctionDefinition L))}
      {reason : Rejection} (h : (ParseResult.create tree definitions).result = .error reason) :
      Reports .create reason.failure
  | setTree {T L : Type} {b : Builder T L} {tree : T} {reason : Rejection}
      (h : (b.setTree tree).result = .error reason) : Reports .setTree reason.failure
  | define {T L : Type} {b : Builder T L} {name : String} {lambda : Option L} {span : Span}
      {reason : Rejection} (h : (b.define name lambda span).result = .error reason) :
      Reports .define reason.failure
  | build {T L : Type} {b : Builder T L} {reason : Rejection}
      (h : b.build.result = .error reason) : Reports .build reason.failure
  | checkSpans {T L : Type} {r : ParseResult T L} {query : String} {reason : Rejection}
      (h : (r.checkSpans query).result = .error reason) : Reports .checkSpans reason.failure
  | analyze {query : String} {outcome : Outcome (ParseResult Statement Lambda)}
      {reason : Rejection} (houtcome : Query.analyze query = .ok outcome)
      (h : outcome.result = .error reason) : Reports .analyze reason.failure

/-- What is reported is a rejection, by whatever call. -/
theorem Reports.exists_reason {call : Call} {f : Failure} (h : Reports call f) :
    ∃ reason : Rejection, f = reason.failure := by
  cases h <;> exact ⟨_, rfl⟩

/-- A definition is refused under one of three codes. -/
theorem code_mem_of_make {L : Type} {mode : ValidationMode} {name : String} {lambda : Option L}
    {span : Span} {reason : Rejection}
    (h : (FunctionDefinition.make mode name lambda span).result = .error reason) :
    reason.code ∈ Call.make.codes := by
  rcases FunctionDefinition.make_result_eq_error_iff.1 h with
    ⟨-, rfl⟩ | ⟨-, -, rfl⟩ | ⟨-, -, -, -, rfl⟩ <;> simp [Rejection.code, Call.codes]

/-- Each call reports under its own codes. -/
theorem Reports.code_mem {call : Call} {f : Failure} (h : Reports call f) :
    f.code ∈ call.codes := by
  cases h with
  | make h => exact code_mem_of_make h
  | create h =>
    rcases ParseResult.create_result_eq_error_iff.1 h with ⟨-, rfl⟩ | ⟨-, -, rfl⟩ <;>
      simp [Rejection.code, Call.codes]
  | setTree h =>
    rcases Builder.setTree_result_eq_error_iff.1 h with ⟨-, rfl⟩
    exact List.mem_singleton.2 rfl
  | define h => exact code_mem_of_make (Builder.define_result_eq_error_iff.1 h)
  | build h =>
    rcases Builder.build_result_eq_error_iff.1 h with ⟨-, rfl⟩
    exact List.mem_singleton.2 rfl
  | checkSpans h =>
    rcases ParseResult.checkSpans_result_eq_error_iff.1 h with ⟨d, -, rfl⟩
    exact List.mem_singleton.2 rfl
  | analyze houtcome h =>
    rcases Query.analyze_result_eq_error_iff.1 ⟨_, houtcome, h⟩ with ⟨p, -, rfl⟩
    exact List.mem_singleton.2 rfl

end Failure

/-! ## Who is blamed -/

/-- The help of a code is that of its entry in the catalogue. -/
theorem ErrorCode.help_of_lookup_catalogue {code : ErrorCode} {entry : Entry}
    (h : catalogue.lookup code = some entry) : code.help = entry.help := by
  rw [help, ErrorCode.entry, entry?, h]
  rfl

/-- A failure blames the calling program, consistently in all that it says. -/
structure Failure.BlamesCaller (f : Failure) : Prop where
  /-- Its kind is that of an invalid argument. -/
  kind : f.kind = .invalidArgument
  /-- So it is internal, and so is its code. -/
  internal : f.isInternal = true ∧ f.code.isInternalError = true
  /-- The code is not one of an error in a query. -/
  not_query : f.code.isQueryError = false
  /-- There is no place in the query to point at. -/
  location : f.location = none
  /-- The catalogue has an entry for the code, and the diagnostic is an error under this code at no
  place, which names the argument behind the message and has just the help of the entry. -/
  diagnostic : ∃ argument entry,
    f = .invalidArgument f.code f.message argument ∧
      ErrorCode.catalogue.lookup f.code = some entry ∧
      f.toDiagnostic =
        { severity := .error
          code := f.code
          message := f.message ++ " (argument `" ++ argument ++ "`)"
          location := none
          help := entry.help }

namespace Rejection

/-- The catalogue has an entry for the code of every rejection. -/
theorem exists_entry (r : Rejection) : ∃ entry, ErrorCode.catalogue.lookup r.code = some entry := by
  cases r <;> exact ⟨_, rfl⟩

/-- Every rejection blames the calling program. -/
theorem blamesCaller (r : Rejection) : r.failure.BlamesCaller where
  kind := rfl
  internal := ⟨r.failure_isInternal, r.code_isInternalError⟩
  not_query := ErrorCode.not_isQueryError_of_isInternalError r.code_isInternalError
  location := rfl
  diagnostic := by
    obtain ⟨entry, hentry⟩ := r.exists_entry
    refine ⟨r.argument, entry, rfl, hentry, ?_⟩
    rw [← ErrorCode.help_of_lookup_catalogue hentry]
    rfl

end Rejection

namespace Failure

/-- Whatever a call reports blames the calling program, under a code of this call. -/
theorem blamesCaller_of_reports {call : Call} {f : Failure} (h : Reports call f) :
    BlamesCaller f ∧ f.code ∈ call.codes := by
  refine ⟨?_, h.code_mem⟩
  obtain ⟨reason, rfl⟩ := h.exists_reason
  exact reason.blamesCaller

/-- A span that ends within the bytes of a text but past its characters. -/
theorem blamesCaller_past_characters :
    let r : ParseResult String String := ⟨"t", [⟨"f", "b", ⟨0, 3⟩⟩]⟩
    let reason : Rejection := .spanPastEnd "f" ⟨0, 3⟩ 2
    (r.checkSpans "äö").result = .error reason ∧ Reports .checkSpans reason.failure ∧
      BlamesCaller reason.failure ∧ reason.failure.code ∈ Call.checkSpans.codes := by
  intro r reason
  have hchecked : (r.checkSpans "äö").result = .error reason := rfl
  have hreports : Reports .checkSpans reason.failure := .checkSpans hchecked
  exact ⟨hchecked, hreports, blamesCaller_of_reports hreports⟩

end Failure

/-! ## Sessions -/

namespace Session

/-- If a reply tells of a refusal, then one of the calls has reported it. -/
def Explained (r : Reply) : Prop :=
  ∀ reason, r.answer = .rejected reason → ∃ call, Failure.Reports call reason.failure

/-- A step that is void for want of something tells of no refusal. -/
theorem explained_needing {α : Type} {s : Session} {needed : Option α} {next : α → Reply}
    (h : ∀ a, Explained (next a)) : Explained (s.needing needed next) := by
  cases needed with
  | none => exact nofun
  | some a => exact h a

/-- A step that passes on the outcome of a call tells of no refusal but that of the call. -/
theorem explained_ofOutcome {α : Type} {s : Session} {outcome : Outcome α} {answer : α → Answer}
    (hanswer : ∀ a reason, answer a ≠ .rejected reason) {call : Failure.Call}
    (hcall : ∀ reason, outcome.result = .error reason → Failure.Reports call reason.failure)
    (next : α → Session) : Explained (Reply.ofOutcome s outcome answer next) := by
  intro reason h
  unfold Reply.ofOutcome at h
  cases hresult : outcome.result with
  | ok a =>
    rw [hresult] at h
    exact absurd h (hanswer a reason)
  | error refused =>
    rw [hresult] at h
    cases h
    exact ⟨call, hcall _ hresult⟩

/-- The refusal of a step is that of the call that the step makes. -/
theorem explained_step (s : Session) (t : Step) : Explained (s.step t) := by
  cases t with
  | setTree tree =>
    exact explained_needing fun b => explained_ofOutcome nofun (fun _ => .setTree) _
  | define name lambda span =>
    exact explained_needing fun b => explained_ofOutcome nofun (fun _ => .define) _
  | build => exact explained_needing fun b => explained_ofOutcome nofun (fun _ => .build) _
  | make mode name lambda span => exact explained_ofOutcome nofun (fun _ => .make) _
  | create tree usePool => exact explained_ofOutcome nofun (fun _ => .create) _
  | check index text =>
    exact explained_needing fun r => explained_ofOutcome nofun (fun _ => .checkSpans) _
  | newBuilder | reverse | truncate count => exact nofun
  | push index | swap first second | sameInPool first second | sameDefinitions first second =>
    exact explained_needing fun _ => explained_needing fun _ => nofun
  | _ => exact explained_needing fun _ => nofun

/-- What a step of a session is refused for was reported by one of the calls. -/
theorem exists_reports_of_rejected {s : Session} {steps : List Step} {reply : Reply}
    (hreply : reply ∈ s.run steps) {reason : Rejection} (h : reply.answer = .rejected reason) :
    ∃ call, Failure.Reports call reason.failure := by
  induction steps generalizing s with
  | nil => cases hreply
  | cons first rest ih =>
    rcases List.mem_cons.1 hreply with rfl | hrest
    · exact explained_step s first reason h
    · exact ih hrest

end Session
end EntitySql

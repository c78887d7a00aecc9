import Mathlib.Data.List.Induction
import EntitySql.ParseResult.Builder

/-!
# Calls on a builder

A caller works with a builder by a sequence of calls, which change it in place,
and seals it at the end.  A call may be refused; the caller goes on with the
builder as the refused call has left it.  What such a sequence builds can be
said without a builder: the tree is that of the first call that sets one, and
the definitions are those that are pushed and those that are acceptable in the
mode that was set last before.

Main results:

- Theorem `Builder.Call.perform_eq`: a call in place has the outcome of the call,
  and a refused one leaves the builder as it was.
- Theorem `Builder.Call.next_eq`: what one call changes.
- Theorem `Builder.Call.run_eq`: what a sequence of calls collects.
- Theorem `Builder.Call.builds_as_called`: refusals, their deletion, and the result
  that is built in the end.
-/

namespace EntitySql
namespace Builder

variable {T L : Type}

/-- The calls that change a builder. -/
inductive Call (T L : Type) where
  | withMode (mode : ValidationMode)
  | setTree (tree : T)
  | define (name : String) (lambda : Option L) (span : Span)
  | push (d : FunctionDefinition L)

namespace Call

/-! ## Calls in place -/

/-- The outcome of a call. -/
def outcome (b : Builder T L) : Call T L → Outcome (Builder T L)
  | .withMode mode => pure (b.withMode mode)
  | .setTree tree => b.setTree tree
  | .define name lambda span => b.define name lambda span
  | .push d => pure (b.push d)

/-- A call that changes a builder in place.  A refusal keeps what was written before it. -/
def perform : Call T L → EStateM Rejection (Builder T L) Unit
  | .withMode mode => modify fun b => { b with mode }
  | .setTree tree => do
    let b ← get
    if b.tree.isSome then
      throw .secondTree
    modify fun b => { b with tree := some tree }
  | .define name lambda span => do
    let b ← get
    match (FunctionDefinition.make b.mode name lambda span).result with
    | .error reason => throw reason
    | .ok d => modify fun b => { b with definitions := b.definitions ++ [d] }
  | .push d => modify fun b => { b with definitions := b.definitions ++ [d] }

/-- Making a definition in a builder is making it in the mode of the builder and adding it. -/
theorem define_result (b : Builder T L) (name : String) (lambda : Option L) (span : Span) :
    (b.define name lambda span).result =
      ((FunctionDefinition.make b.mode name lambda span).result).map b.push := by
  rw [Builder.define]
  cases hmake : (FunctionDefinition.make b.mode name lambda span).result with
  | error reason => simp [Outcome.bind_of_error hmake, Except.map]
  | ok d => simp [Outcome.bind_of_ok hmake, Except.map, pure]

/-- A call in place has the outcome of the call; a refused one leaves the builder as it was. -/
theorem perform_eq (b : Builder T L) (c : Call T L) :
    c.perform b =
      match (c.outcome b).result with
      | .ok next => .ok () next
      | .error reason => .error reason b := by
  cases c with
  | withMode mode => rfl
  | setTree tree =>
    rcases b with ⟨mode, first, definitions⟩
    cases first <;> rfl
  | define name lambda span =>
    rw [outcome, define_result]
    have hget : (get : EStateM Rejection (Builder T L) (Builder T L)) b = .ok b b := rfl
    simp only [perform, bind, EStateM.bind, hget]
    cases (FunctionDefinition.make b.mode name lambda span).result <;> rfl
  | push d => rfl

/-- A refused call leaves the builder as it was. -/
theorem eq_of_perform_eq_error {b left : Builder T L} {c : Call T L} {reason : Rejection}
    (h : c.perform b = .error reason left) : left = b := by
  rw [perform_eq] at h
  cases hresult : (c.outcome b).result with
  | ok next =>
    rw [hresult] at h
    exact absurd h (by simp)
  | error refused =>
    rw [hresult] at h
    injection h with _ hleft
    exact hleft.symm

/-- The builder after a call, be it refused or not. -/
def next (b : Builder T L) (c : Call T L) : Builder T L :=
  match c.perform b with
  | .ok _ b => b
  | .error _ b => b

/-- Why a call is refused, if it is. -/
def refusal? (b : Builder T L) (c : Call T L) : Option Rejection :=
  match c.perform b with
  | .ok _ _ => none
  | .error reason _ => some reason

/-- The builder after a sequence of calls on a fresh one. -/
def run (calls : List (Call T L)) : Builder T L :=
  calls.foldl next Builder.empty

/-! ## What calls ask for -/

/-- The mode that a call sets. -/
def mode? : Call T L → Option ValidationMode
  | .withMode mode => some mode
  | _ => none

/-- The tree that a call sets. -/
def tree? : Call T L → Option T
  | .setTree tree => some tree
  | _ => none

/-- The mode in effect after a sequence of calls: the last one that was set. -/
def modeAfter (calls : List (Call T L)) : ValidationMode :=
  ((calls.filterMap mode?).getLast?).getD .strict

/-- The first tree of a sequence of calls. -/
def firstTree (calls : List (Call T L)) : Option T :=
  (calls.filterMap tree?).head?

/-- The definitions that a call adds in a mode. -/
def added (mode : ValidationMode) : Call T L → List (FunctionDefinition L)
  | .define name (some lambda) span =>
    if name ≠ "" ∧ ¬ (span.stop < span.start ∧ mode = .strict) then [⟨name, lambda, span⟩] else []
  | .push d => [d]
  | _ => []

/-- The definitions that a sequence of calls adds, each in the mode in effect at its call. -/
def collected (calls : List (Call T L)) : List (FunctionDefinition L) :=
  (calls.mapIdx fun i c => added (modeAfter (calls.take i)) c).flatten

/-- The code under which a call is refused in a mode, when a tree is set or not. -/
def refusalCode? (mode : ValidationMode) (treeSet : Bool) : Call T L → Option ErrorCode
  | .setTree _ => if treeSet then some ⟨407⟩ else none
  | .define name lambda span =>
    if name = "" then some ⟨403⟩
    else if lambda.isNone then some ⟨404⟩
    else if span.stop < span.start ∧ mode = .strict then some ⟨405⟩
    else none
  | _ => none

/-- The calls of a sequence on a builder that are not refused. -/
def succeedingFrom (b : Builder T L) : List (Call T L) → List (Call T L)
  | [] => []
  | c :: rest =>
    if (c.refusal? b).isSome then succeedingFrom (c.next b) rest
    else c :: succeedingFrom (c.next b) rest

/-- A sequence of calls without those that are refused. -/
def succeeding (calls : List (Call T L)) : List (Call T L) :=
  succeedingFrom Builder.empty calls

/-! ## One call -/

/-- A call leaves the builder that it gives, or the one it found if it is refused. -/
theorem next_eq_of_outcome (b : Builder T L) (c : Call T L) :
    c.next b = ((c.outcome b).result.toOption).getD b := by
  rw [next, perform_eq]
  cases (c.outcome b).result <;> rfl

/-- The reason of a refusal is that of the call. -/
theorem refusal?_eq_some_iff {b : Builder T L} {c : Call T L} {reason : Rejection} :
    c.refusal? b = some reason ↔ (c.outcome b).result = .error reason := by
  rw [refusal?, perform_eq]
  cases (c.outcome b).result <;> simp

/-- A call that is refused has no effect. -/
theorem next_of_refusal {b : Builder T L} {c : Call T L} {reason : Rejection}
    (h : c.refusal? b = some reason) : c.next b = b := by
  rw [next_eq_of_outcome, refusal?_eq_some_iff.1 h]
  rfl

/-- A definition is made exactly when it is added, and then it is the one that is added. -/
theorem toList_make (mode : ValidationMode) (name : String) (lambda : Option L) (span : Span) :
    (FunctionDefinition.make mode name lambda span).result.toOption.toList =
      added mode (.define name lambda span : Call T L) := by
  unfold FunctionDefinition.make added
  by_cases hname : name = ""
  · cases lambda <;> simp [hname, Except.toOption]
  · cases lambda with
    | none => simp [hname, Except.toOption]
    | some lambda =>
      by_cases hspan : span.stop < span.start
      · cases mode <;>
          simp [hname, hspan, Span.isReversed, ValidationMode.rejectsReversed, Except.toOption]
      · simp [hname, hspan, Span.isReversed, Except.toOption]

/-- One call sets its mode, sets its tree if there is none yet, and adds its definitions. -/
theorem next_eq (b : Builder T L) (c : Call T L) :
    c.next b =
      { mode := c.mode?.getD b.mode
        tree := b.tree.or c.tree?
        definitions := b.definitions ++ c.added b.mode } := by
  rw [next_eq_of_outcome]
  cases c with
  | withMode mode =>
    simp [outcome, pure, Except.toOption, Builder.withMode, mode?, tree?, added]
  | setTree tree =>
    cases htree : b.tree with
    | none =>
      have htaken : (b.setTree tree).result = .ok { b with tree := some tree } :=
        Builder.setTree_result_eq_ok_iff.2 ⟨htree, rfl⟩
      simp [outcome, htaken, Except.toOption, mode?, tree?, added]
    | some first =>
      obtain ⟨mode, found, definitions⟩ := b
      cases htree
      simp [outcome, Builder.setTree, Except.toOption, mode?, tree?, added]
  | define name lambda span =>
    rw [outcome, define_result, ← toList_make]
    cases (FunctionDefinition.make b.mode name lambda span).result <;>
      simp [Except.map, Except.toOption, Builder.push, mode?, tree?]
  | push d =>
    simp [outcome, pure, Except.toOption, Builder.push, mode?, tree?, added]

/-- The mode and the tree of a builder decide under which code a call on it is refused. -/
theorem code_refusal? (b : Builder T L) (c : Call T L) :
    (c.refusal? b).map Rejection.code = refusalCode? b.mode b.tree.isSome c := by
  rw [refusal?, perform_eq]
  cases c with
  | withMode mode => rfl
  | setTree tree =>
    cases htree : b.tree <;> simp [outcome, Builder.setTree, htree, refusalCode?, Rejection.code]
  | define name lambda span =>
    rw [outcome, define_result]
    unfold FunctionDefinition.make refusalCode?
    by_cases hname : name = ""
    · simp [hname, Except.map, Rejection.code]
    · cases lambda with
      | none => simp [hname, Except.map, Rejection.code]
      | some lambda =>
        by_cases hspan : span.stop < span.start
        · cases hmode : b.mode <;>
            simp [hname, hspan, Span.isReversed, ValidationMode.rejectsReversed, Except.map,
              Rejection.code]
        · simp [hname, hspan, Span.isReversed, Except.map]
  | push d => rfl

/-! ## Sequences of calls -/

/-- One more call is made on the builder that the calls before it have left. -/
theorem run_concat (calls : List (Call T L)) (c : Call T L) :
    run (calls ++ [c]) = c.next (run calls) := by
  simp [run]

/-- The mode is that of the last call that sets one. -/
theorem modeAfter_concat (calls : List (Call T L)) (c : Call T L) :
    modeAfter (calls ++ [c]) = c.mode?.getD (modeAfter calls) := by
  unfold modeAfter
  cases h : c.mode? <;> simp [h]

/-- The tree is that of the first call that brings one. -/
theorem firstTree_concat (calls : List (Call T L)) (c : Call T L) :
    firstTree (calls ++ [c]) = (firstTree calls).or c.tree? := by
  unfold firstTree
  rw [List.filterMap_append, List.head?_append]
  cases h : c.tree? <;> simp [h]

/-- One more call adds at the end what it adds in the mode that is in effect. -/
theorem collected_concat (calls : List (Call T L)) (c : Call T L) :
    collected (calls ++ [c]) = collected calls ++ c.added (modeAfter calls) := by
  -- The mode at an earlier call does not depend on the calls after it.
  have hbefore : (calls.mapIdx fun i d => added (modeAfter ((calls ++ [c]).take i)) d) =
      calls.mapIdx fun i d => added (modeAfter (calls.take i)) d := by
    apply List.ext_getElem
    · simp
    · intro i h _
      have hi : i ≤ calls.length := by simp at h; omega
      simp [List.take_append_of_le_length hi]
  unfold collected
  rw [List.mapIdx_append, hbefore]
  simp

/-- A sequence of calls leaves the mode set last, the tree set first and all that was added. -/
theorem run_eq (calls : List (Call T L)) :
    run calls =
      { mode := modeAfter calls, tree := firstTree calls, definitions := collected calls } := by
  induction calls using List.reverseRecOn with
  | nil => rfl
  | append_singleton calls c ih =>
    rw [run_concat, next_eq, ih, modeAfter_concat, firstTree_concat, collected_concat]

/-- The calls that are not refused have the effect of all of them. -/
theorem foldl_succeedingFrom (calls : List (Call T L)) (b : Builder T L) :
    (succeedingFrom b calls).foldl next b = calls.foldl next b := by
  induction calls generalizing b with
  | nil => rfl
  | cons c rest ih =>
    rw [succeedingFrom, List.foldl_cons, ← ih (c.next b)]
    cases h : c.refusal? b with
    | none => simp
    | some reason => simp [next_of_refusal h]

/-- There is a first tree exactly when some call brings a tree. -/
theorem isSome_firstTree_iff {calls : List (Call T L)} :
    (firstTree calls).isSome = true ↔ ∃ tree, setTree tree ∈ calls := by
  unfold firstTree
  rw [List.isSome_head?, ← List.length_pos_iff, List.length_pos_iff_exists_mem]
  constructor
  · intro h
    rcases h with ⟨tree, htree⟩
    rcases List.mem_filterMap.1 htree with ⟨c, hc, hset⟩
    cases c with
    | setTree first => exact ⟨first, hc⟩
    | withMode mode => exact absurd hset (by simp [tree?])
    | define name lambda span => exact absurd hset (by simp [tree?])
    | push d => exact absurd hset (by simp [tree?])
  · intro h
    rcases h with ⟨tree, hmem⟩
    exact ⟨tree, List.mem_filterMap.2 ⟨setTree tree, hmem, rfl⟩⟩

/-- A builder is sealed as a result is created from its parts, but for what is logged. -/
theorem build_mapError (b : Builder T L) :
    b.build.result.mapError Rejection.failure =
      (ParseResult.create b.tree (some b.definitions)).result.mapError Rejection.failure := by
  unfold Builder.build ParseResult.create
  cases b.tree <;> rfl

/-- A sequence of calls on a fresh builder, of which some are refused, and the result that is
built from what they leave. -/
structure BuildsAsCalled (calls : List (Call T L)) : Prop where
  /-- The calls before a call decide whether it is refused and under which code. -/
  refused : ∀ c : Call T L, (c.refusal? (run calls)).map Rejection.code =
    refusalCode? (modeAfter calls) (firstTree calls).isSome c
  /-- A call that is refused leaves the builder exactly as it was. -/
  unchanged : ∀ (c : Call T L) (reason : Rejection) (b : Builder T L),
    c.perform (run calls) = .error reason b → b = run calls
  /-- Without the refused calls the builder and what is built from it are the same. -/
  deleted : run (succeeding calls) = run calls ∧
    (run (succeeding calls)).build = (run calls).build
  /-- A result is built exactly if some call sets a tree. -/
  succeeds : (∃ r, (run calls).build.result = .ok r) ↔ ∃ tree, setTree tree ∈ calls
  /-- If no call sets a tree, the missing tree is reported. -/
  fails : (∀ tree, setTree tree ∉ calls) →
    ∃ reason, (run calls).build.result = .error reason ∧ reason.code = ⟨401⟩
  /-- The result holds the first tree and all definitions that were added, in their order. -/
  built : ∀ r, (run calls).build.result = .ok r ↔
    firstTree calls = some r.tree ∧ collected calls = r.definitions
  /-- Building is creating a result from the first tree and these definitions. -/
  created : (run calls).build.result.mapError Rejection.failure =
    (ParseResult.create (firstTree calls) (some (collected calls))).result.mapError
      Rejection.failure

/-- What a sequence of calls builds is told by the calls alone. -/
theorem builds_as_called (calls : List (Call T L)) : BuildsAsCalled calls := by
  have hdeleted : run (succeeding calls) = run calls :=
    foldl_succeedingFrom calls Builder.empty
  have hbuilt : ∀ r, (run calls).build.result = .ok r ↔
      firstTree calls = some r.tree ∧ collected calls = r.definitions := by
    intro r
    rw [Builder.build_result_eq_ok_iff, run_eq]
  refine ⟨?_, ?_, ⟨hdeleted, by rw [hdeleted]⟩, ?_, ?_, hbuilt, ?_⟩
  · intro c
    rw [code_refusal?, run_eq]
  · intro c reason b h
    exact eq_of_perform_eq_error h
  · rw [← isSome_firstTree_iff]
    constructor
    · intro h
      rcases h with ⟨r, hr⟩
      rw [((hbuilt r).1 hr).1, Option.isSome_some]
    · intro h
      rcases Option.isSome_iff_exists.1 h with ⟨tree, htree⟩
      exact ⟨⟨tree, collected calls⟩, (hbuilt _).2 ⟨htree, rfl⟩⟩
  · intro h
    have hnone : firstTree calls = none := by
      cases htree : firstTree calls with
      | none => rfl
      | some tree =>
        rcases isSome_firstTree_iff.1 (by rw [htree, Option.isSome_some]) with ⟨set, hset⟩
        exact absurd hset (h set)
    refine ⟨.unfinished (collected calls).length, ?_, rfl⟩
    rw [run_eq, Builder.build, hnone]
    rfl
  · rw [build_mapError, run_eq]

end Call
end Builder
end EntitySql

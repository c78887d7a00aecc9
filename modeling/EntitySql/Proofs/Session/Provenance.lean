import EntitySql.Proofs.Session.Effects

/-!
# Where held definitions come from

Definitions travel between the builder, the pool and the results, and most of
the steps that move them check nothing.  But a definition comes into being only
where one is made, so each that is held anywhere goes back to a step that made
it, with the arguments that it still holds and in the mode of that step.

Main results:

- Theorem `Session.mem_held_step`: what one step adds to the definitions held.
- Theorem `Session.exists_makes_of_mem_held`: every definition that is held was made
  by a step before.
- Theorem `Session.lawfully_held`: names, spans and the origin of reversed spans.
-/

namespace EntitySql
namespace Session

/-! ## Definitions that are held, and definitions that are made -/

/-- All definitions that a caller holds, in the builder, in the pool and in the results. -/
def held (s : Session) : List TextDefinition :=
  s.builder.toList.flatMap Builder.definitions ++ s.pool ++
    s.results.flatMap ParseResult.definitions

/-- A definition is held in the builder, in the pool or in a result. -/
theorem mem_held_iff {s : Session} {d : TextDefinition} :
    d ∈ s.held ↔
      (∃ b, s.builder = some b ∧ d ∈ b.definitions) ∨ d ∈ s.pool ∨
        ∃ r ∈ s.results, d ∈ r.definitions := by
  simp [held, List.mem_flatMap]

/-- The arguments from which a definition is to be made, and the mode in effect. -/
structure Construction where
  mode : ValidationMode
  name : String
  lambda : Option String
  span : Span
deriving DecidableEq, Repr

/-- The outcome of a construction. -/
def Construction.outcome (c : Construction) : Outcome TextDefinition :=
  FunctionDefinition.make c.mode c.name c.lambda c.span

/-- The construction that a step runs.  In the builder it runs in the mode set last. -/
def construction? (s : Session) : Step → Option Construction
  | .make mode name lambda span => some ⟨mode, name, lambda, span⟩
  | .define name lambda span => s.builder.map fun b => ⟨b.mode, name, lambda, span⟩
  | _ => none

/-- A step makes a definition. -/
def Makes (s : Session) (t : Step) (d : TextDefinition) : Prop :=
  ∃ c, s.construction? t = some c ∧ c.outcome.result = .ok d

/-- The mode that a step selects, for the builder or for a definition of the pool. -/
def Step.mode? : Step → Option ValidationMode
  | .setMode selected => some selected
  | .make selected _ _ _ => some selected
  | _ => none

/-! ## One step -/

/-- A call adds what it gives, and nothing if it is refused. -/
theorem mem_toList_toOption_iff {α : Type} {x : Except Rejection α} {a : α} :
    a ∈ x.toOption.toList ↔ x = .ok a := by
  cases x <;> simp [Except.toOption, eq_comm]

/-- A call on a builder keeps the definitions and adds its own. -/
theorem mem_definitions_next_iff {b : Builder String String} {c : Builder.Call String String}
    {d : TextDefinition} :
    d ∈ (c.next b).definitions ↔ d ∈ b.definitions ∨ d ∈ c.added b.mode := by
  rw [Builder.Call.next_eq, List.mem_append]

/-- What a call adds to the builder is a definition of the pool, or one that the step makes. -/
theorem mem_held_or_makes_of_added {s : Session} {t : Step} {b : Builder String String}
    {c : Builder.Call String String} {d : TextDefinition} (hb : s.builder = some b)
    (hcall : s.call? t = some c) (hd : d ∈ c.added b.mode) : d ∈ s.held ∨ s.Makes t d := by
  cases t with
  | setMode selected =>
    cases hcall
    cases hd
  | setTree tree =>
    cases hcall
    cases hd
  | define name lambda span =>
    cases hcall
    rw [← Builder.Call.toList_make, mem_toList_toOption_iff] at hd
    exact Or.inr ⟨_, congrArg (Option.map _) hb, hd⟩
  | push index =>
    rcases Option.map_eq_some_iff.1 hcall with ⟨pushed, hpushed, rfl⟩
    cases List.mem_singleton.1 hd
    exact Or.inl (mem_held_iff.2 (Or.inr (Or.inl (List.mem_of_getElem? hpushed))))
  | _ => cases hcall

/-- A definition in the builder after a step was held before, or the step makes it. -/
theorem mem_nextBuilder {s : Session} {t : Step} {b : Builder String String} {d : TextDefinition}
    (hb : s.nextBuilder t = some b) (hd : d ∈ b.definitions) : d ∈ s.held ∨ s.Makes t d := by
  rcases nextBuilder_cases hb with rfl | hsame | ⟨found, c, hfound, hcall, rfl⟩
  · cases hd
  · exact Or.inl (mem_held_iff.2 (Or.inl ⟨b, hsame, hd⟩))
  · rcases mem_definitions_next_iff.1 hd with hold | hnew
    · exact Or.inl (mem_held_iff.2 (Or.inl ⟨found, hfound, hold⟩))
    · exact mem_held_or_makes_of_added hfound hcall hnew

/-- Exchanging two items of a list brings no other items in. -/
theorem mem_of_mem_exchange {α : Type} {items : List α} {first second : Nat} {a : α}
    (h : a ∈ exchange items first second) : a ∈ items := by
  unfold exchange at h
  split at h
  · rename_i x y hx hy
    rcases List.mem_or_eq_of_mem_set h with hset | rfl
    · rcases List.mem_or_eq_of_mem_set hset with hmem | rfl
      · exact hmem
      · exact List.mem_of_getElem? hy
    · exact List.mem_of_getElem? hx
  · exact h

/-- So is one in the pool after a step. -/
theorem mem_nextPool {s : Session} {t : Step} {d : TextDefinition} (hd : d ∈ s.nextPool t) :
    d ∈ s.held ∨ s.Makes t d := by
  have hkept : d ∈ s.pool → d ∈ s.held := fun h => mem_held_iff.2 (Or.inr (Or.inl h))
  cases t with
  | make selected name lambda span =>
    rcases List.mem_append.1 hd with hold | hnew
    · exact Or.inl (hkept hold)
    · exact Or.inr ⟨_, rfl, mem_toList_toOption_iff.1 hnew⟩
  | copy index =>
    rcases List.mem_append.1 hd with hold | hnew
    · exact Or.inl (hkept hold)
    · exact Or.inl (hkept (List.mem_of_getElem? (Option.mem_toList.1 hnew)))
  | swap first second => exact Or.inl (hkept (mem_of_mem_exchange hd))
  | remove index => exact Or.inl (hkept (List.mem_of_mem_eraseIdx hd))
  | reverse => exact Or.inl (hkept (List.mem_reverse.1 hd))
  | truncate count => exact Or.inl (hkept (List.mem_of_mem_take hd))
  | take index =>
    rcases List.mem_append.1 hd with hold | hnew
    · exact Or.inl (hkept hold)
    · rcases List.mem_flatMap.1 hnew with ⟨r, hr, hmem⟩
      have hresult : r ∈ s.results := List.mem_of_getElem? (Option.mem_toList.1 hr)
      exact Or.inl (mem_held_iff.2 (Or.inr (Or.inr ⟨r, hresult, hmem⟩)))
  | _ => exact Or.inl (hkept hd)

/-- A result that is added has no definitions but those held before. -/
theorem mem_of_mem_created {s : Session} {t : Step} {r : TextResult} {d : TextDefinition}
    (hr : r ∈ s.created t) (hd : d ∈ r.definitions) : d ∈ s.held := by
  cases t with
  | build =>
    rcases Option.bind_eq_some_iff.1 (Option.mem_toList.1 hr) with ⟨b, hb, hbuilt⟩
    have hok : b.build.result = .ok r := mem_toList_toOption_iff.1 (Option.mem_toList.2 hbuilt)
    rw [← (Builder.build_result_eq_ok_iff.1 hok).2] at hd
    exact mem_held_iff.2 (Or.inl ⟨b, hb, hd⟩)
  | create tree usePool =>
    have hcopied := (ParseResult.create_result_eq_ok_iff.1 (mem_toList_toOption_iff.1 hr)).2
    cases usePool with
    | false => cases hcopied
    | true =>
      rw [← Option.some.inj hcopied] at hd
      exact mem_held_iff.2 (Or.inr (Or.inl hd))
  | copyResult index =>
    have hresult : r ∈ s.results := List.mem_of_getElem? (Option.mem_toList.1 hr)
    exact mem_held_iff.2 (Or.inr (Or.inr ⟨r, hresult, hd⟩))
  | _ => cases hr

/-- After a step every definition that is held was held before, or the step made it. -/
theorem mem_held_step {s : Session} {t : Step} {d : TextDefinition}
    (h : d ∈ (s.step t).session.held) : d ∈ s.held ∨ s.Makes t d := by
  rw [session_step, mem_held_iff] at h
  rcases h with ⟨b, hb, hd⟩ | hd | ⟨r, hr, hd⟩
  · exact mem_nextBuilder hb hd
  · exact mem_nextPool hd
  · rcases List.mem_append.1 hr with hold | hnew
    · exact Or.inl (mem_held_iff.2 (Or.inr (Or.inr ⟨r, hold, hd⟩)))
    · exact Or.inl (mem_of_mem_created hnew hd)

/-- The mode that a call sets is the mode that the step selects. -/
theorem mode?_of_call? {s : Session} {t : Step} {c : Builder.Call String String}
    {mode : ValidationMode} (hcall : s.call? t = some c) (hmode : c.mode? = some mode) :
    t.mode? = some mode := by
  cases t with
  | setMode selected =>
    cases hcall
    exact hmode
  | setTree tree =>
    cases hcall
    cases hmode
  | define name lambda span =>
    cases hcall
    cases hmode
  | push index =>
    rcases Option.map_eq_some_iff.1 hcall with ⟨pushed, -, rfl⟩
    cases hmode
  | _ => cases hcall

/-- A builder that is lenient after a step was so before, or the step selects this. -/
theorem lenient_nextBuilder {s : Session} {t : Step} {b : Builder String String}
    (hb : s.nextBuilder t = some b) (hlenient : b.mode = .lenient) :
    (∃ found, s.builder = some found ∧ found.mode = .lenient) ∨ t.mode? = some .lenient := by
  rcases nextBuilder_cases hb with rfl | hsame | ⟨found, c, hfound, hcall, rfl⟩
  · cases hlenient
  · exact Or.inl ⟨b, hsame, hlenient⟩
  · rw [Builder.Call.next_eq] at hlenient
    cases hmode : c.mode? with
    | none =>
      rw [hmode] at hlenient
      exact Or.inl ⟨found, hfound, hlenient⟩
    | some mode =>
      rw [hmode] at hlenient
      exact Or.inr (mode?_of_call? hcall (hmode.trans (congrArg some hlenient)))

/-! ## A run -/

/-- One more step goes on from the session that the steps before it have left. -/
theorem after_concat (s : Session) (steps : List Step) (t : Step) :
    s.after (steps ++ [t]) = ((s.after steps).step t).session := by
  rw [after, List.foldl_append]
  rfl

/-- Every definition that is held was made by a step before. -/
theorem exists_makes_of_mem_held {steps : List Step} {d : TextDefinition}
    (h : d ∈ (fresh.after steps).held) :
    ∃ before t later, steps = before ++ t :: later ∧ (fresh.after before).Makes t d := by
  induction steps using List.reverseRecOn with
  | nil => cases h
  | append_singleton steps t ih =>
    rw [after_concat] at h
    rcases mem_held_step h with hheld | hmakes
    · rcases ih hheld with ⟨before, made, later, rfl, hmade⟩
      exact ⟨before, made, later ++ [t], by simp, hmade⟩
    · exact ⟨steps, t, [], rfl, hmakes⟩

/-- A lenient builder goes back to a step that selected this. -/
theorem exists_lenient_of_builder {steps : List Step} {b : Builder String String}
    (hb : (fresh.after steps).builder = some b) (hlenient : b.mode = .lenient) :
    ∃ t ∈ steps, t.mode? = some .lenient := by
  induction steps using List.reverseRecOn generalizing b with
  | nil => cases hb
  | append_singleton steps t ih =>
    rw [after_concat, session_step] at hb
    rcases lenient_nextBuilder hb hlenient with ⟨found, hfound, hbefore⟩ | hselects
    · rcases ih hfound hbefore with ⟨earlier, hmem, hearlier⟩
      exact ⟨earlier, List.mem_append_left _ hmem, hearlier⟩
    · exact ⟨t, by simp, hselects⟩

/-- A construction in lenient mode goes back to a step that selected the mode: the same step, or
one before it. -/
theorem lenient_of_construction {before : List Step} {t : Step} {c : Construction}
    (h : (fresh.after before).construction? t = some c) (hlenient : c.mode = .lenient) :
    t.mode? = some .lenient ∨ ∃ earlier ∈ before, earlier.mode? = some .lenient := by
  cases t with
  | make selected name lambda span =>
    cases h
    exact Or.inl (congrArg some hlenient)
  | define name lambda span =>
    rcases Option.map_eq_some_iff.1 h with ⟨b, hb, rfl⟩
    exact Or.inr (exists_lenient_of_builder hb hlenient)
  | _ => cases h

/-- What is true of every definition that a caller holds after a sequence of steps. -/
structure LawfullyHeld (steps : List Step) : Prop where
  /-- No name is empty. -/
  named : ∀ d ∈ (fresh.after steps).held, d.name ≠ ""
  /-- If no step selects the lenient mode, no definition ends before it starts. -/
  ordered : (∀ t ∈ steps, t.mode? ≠ some .lenient) →
    ∀ d ∈ (fresh.after steps).held, d.span.start ≤ d.span.stop
  /-- A definition that ends before it starts has the arguments of a construction that an earlier
  step ran in lenient mode. -/
  traced : ∀ d ∈ (fresh.after steps).held, d.span.stop < d.span.start →
    ∃ before t later, steps = before ++ t :: later ∧
      (fresh.after before).construction? t = some ⟨.lenient, d.name, some d.lambda, d.span⟩

/-- After any sequence of steps the definitions that are held obey the rules of the modes in which
they were made. -/
theorem lawfully_held (steps : List Step) : LawfullyHeld steps := by
  have htraced : ∀ d ∈ (fresh.after steps).held, d.span.stop < d.span.start →
      ∃ before t later, steps = before ++ t :: later ∧
        (fresh.after before).construction? t = some ⟨.lenient, d.name, some d.lambda, d.span⟩ := by
    intro d hd hreversed
    rcases exists_makes_of_mem_held hd with ⟨before, t, later, hsteps, c, hc, hmade⟩
    rcases FunctionDefinition.make_result_eq_ok_iff.1 hmade with
      ⟨hacceptable, hname, hlambda, hspan⟩
    have hmode : c.mode = .lenient := by
      apply hacceptable.2.2
      rw [← hspan]
      exact Span.isReversed_iff.2 hreversed
    refine ⟨before, t, later, hsteps, ?_⟩
    rw [hc, hname, ← hlambda, hspan, ← hmode]
  refine ⟨?_, ?_, htraced⟩
  · intro d hd
    rcases exists_makes_of_mem_held hd with ⟨before, t, later, -, c, -, hmade⟩
    rcases FunctionDefinition.make_result_eq_ok_iff.1 hmade with ⟨hacceptable, hname, -, -⟩
    rw [hname]
    exact hacceptable.1
  · intro hstrict d hd
    by_contra hreversed
    rcases htraced d hd (Nat.not_le.1 hreversed) with ⟨before, t, later, rfl, hc⟩
    rcases lenient_of_construction hc rfl with hselects | ⟨earlier, hmem, hselects⟩
    · exact hstrict t (List.mem_append_right _ List.mem_cons_self) hselects
    · exact hstrict earlier (List.mem_append_left _ hmem) hselects

/-- A reversed span that passes from a lenient builder through a result into the pool, and a strict
session in which the same arguments are refused. -/
theorem lawfully_held_reversed_and_refused :
    let steps : List Step := [.newBuilder, .setTree "t", .setMode .lenient,
      .define "f" (some "b") ⟨9, 3⟩, .setMode .strict, .build, .take 0]
    let strict : List Step := [.newBuilder, .setTree "t", .define "f" (some "b") ⟨9, 3⟩,
      .make .strict "g" (some "c") ⟨3, 9⟩, .push 0, .build]
    let d : TextDefinition := ⟨"f", "b", ⟨9, 3⟩⟩
    (d ∈ (fresh.after steps).pool ∧
      ∃ before t later, steps = before ++ t :: later ∧
        (fresh.after before).construction? t = some ⟨.lenient, "f", some "b", ⟨9, 3⟩⟩) ∧
    (fresh.after strict).results.length = 1 ∧
      ∀ d ∈ (fresh.after strict).held, d.span.start ≤ d.span.stop := by
  intro steps strict d
  have hpool : d ∈ (fresh.after steps).pool := by decide
  have hheld : d ∈ (fresh.after steps).held := mem_held_iff.2 (Or.inr (Or.inl hpool))
  have hstrict : ∀ t ∈ strict, t.mode? ≠ some .lenient := by decide
  refine ⟨⟨hpool, (lawfully_held steps).traced d hheld (by decide)⟩, by decide, ?_⟩
  exact (lawfully_held strict).ordered hstrict

end Session
end EntitySql

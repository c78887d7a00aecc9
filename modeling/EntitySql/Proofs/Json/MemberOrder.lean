import EntitySql.Json.Decode

/-!
# The order of members

A value keeps the members of its objects in the order in which they are written,
but nothing that is read from it depends on this order.  Readers see an array
item by item and an object member by member, so they cannot tell two values
apart that differ only in the order of members, at whatever depth.

Main results:

- Theorem `Json.lookup_eq_of_perm`: without repeated names the order of members has
  no influence on a look-up.
- Theorem `Json.Reordered.alike`: what readers see of values that differ in the
  order of members.
- Theorem `Json.insensitive_readRecord`: a record is read without regard to the
  order of members, if its fields are.
-/

namespace EntitySql
namespace Json

/-- Two values differ at most in the order in which the members of their objects are written. -/
inductive Reordered : Json → Json → Prop where
  | refl (value : Json) : Reordered value value
  | trans {value between other : Json} :
      Reordered value between → Reordered between other → Reordered value other
  /-- The members of an object are written in another order. -/
  | order {members others : List (String × Json)} :
      (members.map Prod.fst).Nodup → members.Perm others →
        Reordered (.object members) (.object others)
  /-- There is such a difference within an item of an array. -/
  | item {value other : Json} (before after : List Json) : Reordered value other →
      Reordered (.array (before ++ value :: after)) (.array (before ++ other :: after))
  /-- There is such a difference within a member of an object. -/
  | member {value other : Json} (before after : List (String × Json)) (name : String) :
      Reordered value other →
        Reordered (.object (before ++ (name, value) :: after))
          (.object (before ++ (name, other) :: after))

/-! ## Looking members up -/

/-- A member behind others is found first. -/
theorem lookup_append (members others : List (String × Json)) (key : String) :
    lookup (members ++ others) key = (lookup others key).or (lookup members key) := by
  rw [lookup, List.reverse_append, List.lookup_append]
  rfl

/-- A member is found under its own name only. -/
theorem lookup_singleton (name : String) (value : Json) (key : String) :
    lookup [(name, value)] key = if key = name then some value else none := by
  by_cases hkey : key = name
  · simp [lookup, hkey]
  · simp [lookup, List.lookup_cons, beq_eq_false_iff_ne.2 hkey, hkey]

/-- A member is found behind those with other names, and in front of those with its own. -/
theorem lookup_append_cons (before after : List (String × Json)) (name : String) (value : Json)
    (key : String) :
    lookup (before ++ (name, value) :: after) key =
      (lookup after key).or ((if key = name then some value else none).or (lookup before key)) := by
  rw [← List.singleton_append, ← List.append_assoc, lookup_append, lookup_append, lookup_singleton]

/-- Nothing is found under a name that no member has. -/
theorem lookup_eq_none_iff {members : List (String × Json)} {key : String} :
    lookup members key = none ↔ ∀ p ∈ members, key ≠ p.1 := by
  simp only [lookup, List.lookup_eq_none_iff, List.mem_reverse, bne_iff_ne]

/-- Without repeated names every member is found. -/
theorem lookup_eq_some_iff {members : List (String × Json)} (hnodup : (members.map Prod.fst).Nodup)
    {key : String} {value : Json} :
    lookup members key = some value ↔ (key, value) ∈ members := by
  constructor
  · intro h
    rcases List.lookup_eq_some_iff.1 h with ⟨before, after, hsplit, -⟩
    rw [← List.mem_reverse, hsplit]
    exact List.mem_append_right before List.mem_cons_self
  · intro h
    rcases List.append_of_mem h with ⟨before, after, rfl⟩
    -- Behind the member there is none of the same name.
    rw [List.map_append, List.map_cons, List.nodup_append, List.nodup_cons] at hnodup
    have hafter : lookup after key = none := by
      rw [lookup_eq_none_iff]
      intro p hp hname
      exact hnodup.2.1.1 (List.mem_map.2 ⟨p, hp, hname.symm⟩)
    rw [lookup_append_cons, hafter, if_pos rfl]
    rfl

/-- Without repeated names the order of members has no influence on a look-up. -/
theorem lookup_eq_of_perm {members others : List (String × Json)}
    (hnodup : (members.map Prod.fst).Nodup) (hperm : members.Perm others) (key : String) :
    lookup members key = lookup others key := by
  have hothers : (others.map Prod.fst).Nodup := (hperm.map Prod.fst).nodup_iff.1 hnodup
  apply Option.ext
  intro value
  rw [lookup_eq_some_iff hnodup, lookup_eq_some_iff hothers, hperm.mem_iff]

/-- Without repetitions one name is left exactly when all names are this one. -/
theorem eraseDups_eq_singleton_iff {names : List String} {name : String} :
    names.eraseDups = [name] ↔ ∀ key, key ∈ names ↔ key = name := by
  constructor
  · intro h key
    rw [← List.mem_eraseDups, h, List.mem_singleton]
  · intro h
    cases names with
    | nil => exact absurd ((h name).2 rfl) List.not_mem_nil
    | cons first rest =>
      have hfirst : first = name := (h first).1 List.mem_cons_self
      have hrest : (rest.filter fun key => !key == first) = [] := by
        rw [List.filter_eq_nil_iff]
        intro key hkey
        simp [(h key).1 (List.mem_cons_of_mem first hkey), hfirst]
      rw [List.eraseDups_cons, hrest, hfirst]
      rfl

/-- An object has only one name exactly when only this name is found. -/
theorem memberNames_eq_singleton_iff {members : List (String × Json)} {name : String} :
    memberNames members = [name] ↔ ∀ key, (lookup members key).isSome = true ↔ key = name := by
  rw [memberNames, eraseDups_eq_singleton_iff]
  have hmem : ∀ key, key ∈ members.map Prod.fst ↔ (lookup members key).isSome = true := by
    intro key
    simp only [lookup, List.lookup_isSome_iff, List.mem_reverse, beq_iff_eq, List.mem_map,
      eq_comm (a := key)]
  simp only [hmem]

/-! ## What readers see -/

/-- Both are missing, or both are there and differ at most in the order of members. -/
def Agree (value? other? : Option Json) : Prop :=
  Option.Rel Reordered value? other?

/-- What is found agrees with itself, and so does what is missing. -/
theorem Agree.refl (value? : Option Json) : Agree value? value? := by
  cases value? with
  | none => exact .none
  | some value => exact .some (.refl value)

/-- What agrees with something in between agrees. -/
theorem Agree.trans {value? between? other? : Option Json} (h : Agree value? between?)
    (hother : Agree between? other?) : Agree value? other? := by
  cases h with
  | none => exact hother
  | some h =>
    cases hother with
    | some hother => exact .some (h.trans hother)

/-- Of two that agree both are there, or neither. -/
theorem Agree.isSome_eq {value? other? : Option Json} (h : Agree value? other?) :
    value?.isSome = other?.isSome := by
  cases h with
  | none => rfl
  | some h => rfl

/-- Two values are the same, or they are arrays or objects whose items or members agree. -/
inductive Alike : Json → Json → Prop where
  | same (value : Json) : Alike value value
  | array {items others : List Json} : items.length = others.length →
      (∀ i : Nat, Agree items[i]? others[i]?) → Alike (.array items) (.array others)
  | object {members others : List (String × Json)} :
      (∀ key, Agree (lookup members key) (lookup others key)) →
        Alike (.object members) (.object others)

/-- What is like something in between is alike. -/
theorem Alike.trans {value between other : Json} (h : Alike value between)
    (hother : Alike between other) : Alike value other := by
  cases h with
  | same => exact hother
  | array hlength hitems =>
    cases hother with
    | same => exact .array hlength hitems
    | array hlength' hitems' =>
      exact .array (hlength.trans hlength') fun i => (hitems i).trans (hitems' i)
  | object hmembers =>
    cases hother with
    | same => exact .object hmembers
    | object hmembers' => exact .object fun key => (hmembers key).trans (hmembers' key)

/-- Values that differ at most in the order of members look alike. -/
theorem Reordered.alike {value other : Json} (h : Reordered value other) : Alike value other := by
  induction h with
  | refl value => exact .same value
  | trans _ _ ih ih' => exact ih.trans ih'
  | order hnodup hperm =>
    refine .object fun key => ?_
    rw [lookup_eq_of_perm hnodup hperm]
    exact Agree.refl _
  | item before after h =>
    refine .array (by simp) fun i => ?_
    rw [List.getElem?_append, List.getElem?_append]
    split
    · exact Agree.refl _
    · cases i - before.length with
      | zero => exact .some h
      | succ i => exact Agree.refl _
  | member before after name h =>
    refine .object fun key => ?_
    rw [lookup_append_cons, lookup_append_cons]
    cases lookup after key with
    | some found => exact Agree.refl _
    | none =>
      by_cases hkey : key = name
      · rw [if_pos hkey, if_pos hkey]
        exact .some h
      · rw [if_neg hkey, if_neg hkey]
        exact Agree.refl _

/-! ## Readers -/

section Readers

variable {α β : Type}

/-- A reader reads the same from values that differ at most in the order of members. -/
def Insensitive (read : Json → Except DecodeError α) : Prop :=
  ∀ value other, Reordered value other → read value = read other

/-- What becomes of a value that is read does not make its reader sensitive. -/
theorem Insensitive.map {read : Json → Except DecodeError α} (h : Insensitive read) (f : α → β) :
    Insensitive fun value => (read value).map f := by
  intro value other hreordered
  exact congrArg (Except.map f) (h value other hreordered)

/-- The order of members has no influence on a number that is read. -/
theorem insensitive_readNatural (expected : String) (limit : Nat) :
    Insensitive (readNatural expected limit) := by
  intro value other h
  cases h.alike with
  | same => rfl
  | array => rfl
  | object => rfl

/-- Nor has it any on a string. -/
theorem insensitive_readString : Insensitive readString := by
  intro value other h
  cases h.alike with
  | same => rfl
  | array => rfl
  | object => rfl

/-- Nor on null. -/
theorem insensitive_readNull : Insensitive readNull := by
  intro value other h
  cases h.alike with
  | same => rfl
  | array => rfl
  | object => rfl

/-- Nor on an optional value, if it has none on the value. -/
theorem Insensitive.readOptional {read : Json → Except DecodeError α} (hread : Insensitive read) :
    Insensitive (readOptional read) := by
  intro value other h
  cases h.alike with
  | same => rfl
  | array => exact congrArg (Except.map some) (hread _ _ h)
  | object => exact congrArg (Except.map some) (hread _ _ h)

/-- In an object with one name this name is the variant, and its member is to be null. -/
theorem readVariant_of_single (variants : List (String × α)) {members : List (String × Json)}
    {name : String} {content : Json} (hnames : memberNames members = [name])
    (hcontent : lookup members name = some content) :
    readVariant variants (.object members) =
      variantNamed variants name >>= fun a => readNull content >>= fun _ => .ok a := by
  simp only [readVariant, hnames, hcontent]

/-- An object with no name or with several is no variant. -/
theorem readVariant_of_not_single (variants : List (String × α)) {members : List (String × Json)}
    (hnames : ∀ name, memberNames members ≠ [name]) :
    readVariant variants (.object members) =
      .error (.invalidValue .object "map with a single key") := by
  rw [readVariant]
  split
  next name hname => exact absurd hname (hnames name)
  next => rfl

/-- The only name of an object is the name of a member. -/
theorem exists_lookup_of_single {members : List (String × Json)} {name : String}
    (hnames : memberNames members = [name]) : ∃ content, lookup members name = some content :=
  Option.isSome_iff_exists.1 ((memberNames_eq_singleton_iff.1 hnames name).2 rfl)

/-- An object that stands for one of several names has only one name, so that there is no order. -/
theorem insensitive_readVariant (variants : List (String × α)) :
    Insensitive (readVariant variants) := by
  intro value other h
  cases h.alike with
  | same => rfl
  | array => rfl
  | @object members others hmembers =>
    have hnames : ∀ name, memberNames members = [name] ↔ memberNames others = [name] := by
      intro name
      simp only [memberNames_eq_singleton_iff, (hmembers _).isSome_eq]
    by_cases hsingle : ∃ name, memberNames members = [name]
    · rcases hsingle with ⟨name, hname⟩
      have hname' := (hnames name).1 hname
      rcases exists_lookup_of_single hname with ⟨content, hcontent⟩
      rcases exists_lookup_of_single hname' with ⟨content', hcontent'⟩
      have hagree := hmembers name
      rw [hcontent, hcontent'] at hagree
      cases hagree with
      | some hagree =>
        rw [readVariant_of_single variants hname hcontent,
          readVariant_of_single variants hname' hcontent',
          insensitive_readNull content content' hagree]
    · rw [not_exists] at hsingle
      rw [readVariant_of_not_single variants hsingle, readVariant_of_not_single variants]
      intro name hname'
      exact hsingle name ((hnames name).2 hname')

/-! ## Records -/

/-- A member is read alike from objects in which it agrees. -/
theorem readMember_eq_of_agree {members others : List (String × Json)} {name : String}
    {read : Json → Except DecodeError α} (hread : Insensitive read)
    (h : Agree (lookup members name) (lookup others name)) :
    readMember members name read = readMember others name read := by
  unfold readMember
  generalize lookup members name = value?, lookup others name = other? at h
  cases h with
  | none => rfl
  | some h => exact congrArg (Except.map some) (hread _ _ h)

/-- A field is read alike from arrays in which its item agrees. -/
theorem readElement_eq_of_agree {items others : List Json} {i : Nat} {expected : String}
    {read : Json → Except DecodeError α} (hread : Insensitive read)
    (h : Agree items[i]? others[i]?) :
    readElement items i expected read = readElement others i expected read := by
  unfold readElement
  generalize items[i]? = value?, others[i]? = other? at h
  cases h with
  | none => rfl
  | some h => exact hread _ _ h

/-- A record is read without regard to the order of members, if it is so from its members and from
its fields. -/
theorem insensitive_readRecord (name : String)
    {ofMembers : List (String × Json) → Except DecodeError α}
    {ofItems : List Json → Except DecodeError α}
    (hmembers : ∀ members others, (∀ key, Agree (lookup members key) (lookup others key)) →
      ofMembers members = ofMembers others)
    (hitems : ∀ items others : List Json, items.length = others.length →
      (∀ i : Nat, Agree items[i]? others[i]?) → ofItems items = ofItems others) :
    Insensitive (readRecord name ofMembers ofItems) := by
  intro value other h
  cases h.alike with
  | same => rfl
  | array hlength hagree => exact hitems _ _ hlength hagree
  | object hagree => exact hmembers _ _ hagree

end Readers

end Json
end EntitySql

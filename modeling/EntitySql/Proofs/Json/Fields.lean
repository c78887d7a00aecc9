import EntitySql.Proofs.Json.MemberOrder

/-!
# Fields of records

A record is read from an object by looking its fields up by name: first all
fields are read that are there, in the order of their names, then those that must
be there are insisted on, in the order in which the record declares them.  So a
bad value is reported before a missing field, and which of several faults is
reported depends on two different orders, but not on the order in which the
members are written.

Main results:

- Theorems `Json.takes_readNatural`, `Json.takes_readString` and `Json.takes_readVariant`:
  the values that the plain readers take.
- Theorem `Json.refusal?_eq_none_iff`: nothing is reported exactly for a complete object.
- Theorem `Json.refusal?_eq_some_iff`: which fault of an object is reported.
- Theorem `Json.readsRecord`: what it takes to read a record by its fields.
-/

namespace EntitySql
namespace Json

section Readers

variable {α β : Type}

/-! ## What a reader reports -/

/-- What is reported in place of a value, if anything. -/
def fault? : Except DecodeError α → Option DecodeError
  | .ok _ => none
  | .error e => some e

/-- Nothing is reported exactly when a value is read. -/
theorem fault?_eq_none_iff {outcome : Except DecodeError α} :
    fault? outcome = none ↔ ∃ a, outcome = .ok a := by
  cases outcome with
  | ok a => simp [fault?]
  | error e => simp [fault?]

/-- What is reported is the error of the reader. -/
theorem fault?_eq_some_iff {outcome : Except DecodeError α} {e : DecodeError} :
    fault? outcome = some e ↔ outcome = .error e := by
  cases outcome with
  | ok a => simp [fault?]
  | error e => simp [fault?]

@[simp]
theorem fault?_pure (a : α) : fault? (pure a) = none :=
  rfl

/-- What becomes of a value that is read has no influence on what is reported. -/
theorem fault?_map (outcome : Except DecodeError α) (f : α → β) :
    fault? (outcome.map f) = fault? outcome := by
  cases outcome with
  | ok a => rfl
  | error e => rfl

/-- Nothing is reported about a sequence exactly when nothing is about either of its parts. -/
theorem fault?_bind_eq_none_iff {outcome : Except DecodeError α}
    {next : α → Except DecodeError β} :
    fault? (outcome >>= next) = none ↔ ∃ a, outcome = .ok a ∧ fault? (next a) = none := by
  cases outcome with
  | ok a => simp [bind, Except.bind]
  | error e => simp [bind, Except.bind, fault?]

/-- About a value of the wrong type something is reported, even if it has no shape. -/
theorem fault?_wrongType_ne_none (value : Json) (expected : String) :
    fault? (wrongType value expected : Except DecodeError α) ≠ none := by
  rw [wrongType, Ne, fault?_bind_eq_none_iff]
  rintro ⟨found, -, hfound⟩
  cases hfound

/-! ## The values that a reader takes -/

/-- A reader takes exactly the values of some kind. -/
def Takes (read : Json → Except DecodeError α) (Accepts : Json → Prop) : Prop :=
  ∀ value, fault? (read value) = none ↔ Accepts value

/-- A reader takes the same values whatever becomes of them. -/
theorem Takes.map {read : Json → Except DecodeError α} {Accepts : Json → Prop}
    (h : Takes read Accepts) (f : α → β) : Takes (fun value => (read value).map f) Accepts := by
  intro value
  rw [fault?_map]
  exact h value

/-- The integer literal of a natural number below a limit. -/
def IsNatural (limit : Nat) (value : Json) : Prop :=
  ∃ v, value = .number (.natural v) ∧ v < limit

/-- A number is the literal of a natural number exactly when it denotes one. -/
theorem isNatural_number_iff {limit : Nat} (hlimit : limit ≤ Word.limit) {n : Number} :
    IsNatural limit (.number n) ↔ ∃ v, n.numeral? = some (.natural v) ∧ v < limit := by
  simp only [IsNatural, number.injEq, Number.numeral?_eq_natural_iff]
  constructor
  · rintro ⟨v, hn, hv⟩
    exact ⟨v, ⟨hn, Nat.lt_of_lt_of_le hv hlimit⟩, hv⟩
  · rintro ⟨v, ⟨hn, -⟩, hv⟩
    exact ⟨v, hn, hv⟩

/-- The reader of natural numbers takes their integer literals, if a word can hold the limit. -/
theorem takes_readNatural (expected : String) {limit : Nat} (hlimit : limit ≤ Word.limit) :
    Takes (readNatural expected limit) (IsNatural limit) := by
  intro value
  cases value with
  | number n =>
    rw [isNatural_number_iff hlimit, readNatural]
    cases n.numeral? with
    | none => simp [fault?]
    | some numeral =>
      cases numeral with
      | natural v => by_cases hv : v < limit <;> simp [fault?, hv]
      | negative v => simp [fault?]
      | floating x => simp [fault?]
  | _ => simp [readNatural, IsNatural, fault?_wrongType_ne_none]

/-- A string. -/
def IsText (value : Json) : Prop :=
  ∃ s, value = .string s

/-- The reader of strings takes strings only. -/
theorem takes_readString : Takes readString IsText := by
  intro value
  cases value with
  | string s => simp [readString, IsText, fault?]
  | _ => simp [readString, IsText, fault?_wrongType_ne_none]

/-- The reader of an optional value takes null as well. -/
theorem Takes.readOptional {read : Json → Except DecodeError α} {Accepts : Json → Prop}
    (h : Takes read Accepts) :
    Takes (readOptional read) fun value => value = .null ∨ Accepts value := by
  intro value
  by_cases hnull : value = .null
  · simp [Json.readOptional, hnull, fault?]
  · rw [readOptional_of_ne_null read hnull, fault?_map, h value]
    simp [hnull]

/-- One of several names, as a string or as the only name of an object, which has null for it. -/
def IsVariant (names : List String) (value : Json) : Prop :=
  ∃ name ∈ names, value = .string name ∨
    ∃ members, value = .object members ∧
      ∀ key, lookup members key = if key = name then some .null else none

/-- A name is taken exactly when it is the name of a variant. -/
theorem fault?_variantNamed_eq_none_iff {variants : List (String × α)} {name : String} :
    fault? (variantNamed variants name) = none ↔ name ∈ variants.map Prod.fst := by
  have hmem : name ∈ variants.map Prod.fst ↔ (variants.lookup name).isSome = true := by
    simp only [List.lookup_isSome_iff, beq_iff_eq, List.mem_map, eq_comm (a := name)]
  rw [hmem, variantNamed]
  cases variants.lookup name with
  | none => simp [fault?]
  | some a => simp [fault?]

/-- Only null is read as nothing. -/
theorem fault?_readNull_eq_none_iff {value : Json} :
    fault? value.readNull = none ↔ value = .null := by
  cases value with
  | null => simp [readNull, fault?]
  | _ => simp [readNull, fault?_wrongType_ne_none]

/-- The reader of a variant takes its name, alone or as the only member of an object with null. -/
theorem takes_readVariant (variants : List (String × α)) :
    Takes (readVariant variants) (IsVariant (variants.map Prod.fst)) := by
  intro value
  cases value with
  | string name => simp [readVariant, IsVariant, fault?_variantNamed_eq_none_iff]
  | object members =>
    have hobject : IsVariant (variants.map Prod.fst) (.object members) ↔
        ∃ name ∈ variants.map Prod.fst,
          ∀ key, lookup members key = if key = name then some .null else none := by
      simp [IsVariant]
    rw [hobject]
    constructor
    · intro h
      by_cases hsingle : ∃ name, memberNames members = [name]
      · rcases hsingle with ⟨name, hname⟩
        rcases exists_lookup_of_single hname with ⟨content, hcontent⟩
        rw [readVariant_of_single variants hname hcontent, fault?_bind_eq_none_iff] at h
        rcases h with ⟨a, ha, hnull⟩
        rcases fault?_bind_eq_none_iff.1 hnull with ⟨_, hread, -⟩
        have hcontentNull := fault?_readNull_eq_none_iff.1 (fault?_eq_none_iff.2 ⟨_, hread⟩)
        refine ⟨name, fault?_variantNamed_eq_none_iff.1 (fault?_eq_none_iff.2 ⟨a, ha⟩), ?_⟩
        intro key
        by_cases hkey : key = name
        · rw [if_pos hkey, hkey, hcontent, hcontentNull]
        · rw [if_neg hkey, ← Option.not_isSome_iff_eq_none, memberNames_eq_singleton_iff.1 hname]
          exact hkey
      · rw [readVariant_of_not_single variants (not_exists.1 hsingle)] at h
        cases h
    · rintro ⟨name, hmem, hmembers⟩
      have hname : memberNames members = [name] := by
        rw [memberNames_eq_singleton_iff]
        intro key
        by_cases hkey : key = name
        · simp [hmembers, hkey]
        · simp [hmembers, hkey]
      have hcontent : lookup members name = some .null := by
        rw [hmembers, if_pos rfl]
      rcases fault?_eq_none_iff.1 (fault?_variantNamed_eq_none_iff.2 hmem) with ⟨a, ha⟩
      rw [readVariant_of_single variants hname hcontent, ha]
      rfl
  | _ => simp [readVariant, IsVariant, fault?_wrongType_ne_none]

end Readers

/-! ## Fields -/

/-- A field of a record. -/
structure Field where
  name : String
  /-- The field may be missing. -/
  optional : Bool
  /-- What is reported about a value, if anything. -/
  fault? : Json → Option DecodeError
  /-- The values that the field takes. -/
  Accepts : Json → Prop
  accepts_iff : ∀ value, fault? value = none ↔ Accepts value

namespace Field

/-- The field with the values that a reader takes. -/
def ofReader {α : Type} {read : Json → Except DecodeError α} {Accepts : Json → Prop}
    (name : String) (optional : Bool) (h : Takes read Accepts) : Field where
  name := name
  optional := optional
  fault? value := Json.fault? (read value)
  Accepts := Accepts
  accepts_iff := h

variable (f : Field) (members : List (String × Json))

/-- What is reported about the value that an object has for a field, if it has one. -/
def faultIn? : Option DecodeError :=
  (lookup members f.name).bind f.fault?

/-- What is reported about an object in which a field is missing. -/
def missingIn? : Option DecodeError :=
  if f.optional || (lookup members f.name).isSome then none else some (.missingField f.name)

variable {f members}

/-- What is reported about a field is reported about the value found under its name. -/
theorem faultIn?_eq_some_iff {e : DecodeError} :
    f.faultIn? members = some e ↔
      ∃ value, lookup members f.name = some value ∧ f.fault? value = some e :=
  Option.bind_eq_some_iff

/-- Nothing is reported about a field whose value is taken, or which has none. -/
theorem faultIn?_eq_none_iff :
    f.faultIn? members = none ↔
      ∀ value, lookup members f.name = some value → f.Accepts value := by
  rw [faultIn?, Option.bind_eq_none_iff]
  exact forall_congr' fun value => imp_congr_right fun _ => f.accepts_iff value

/-- A field that may be missing is never reported as missing. -/
theorem missingIn?_of_optional (h : f.optional = true) : f.missingIn? members = none := by
  rw [missingIn?, h]
  rfl

/-- A field is not reported as missing exactly when it is there, or may be missing. -/
theorem missingIn?_eq_none_iff :
    f.missingIn? members = none ↔
      (f.optional = false → ∃ value, lookup members f.name = some value) := by
  rw [missingIn?, ← Option.isSome_iff_exists]
  cases f.optional with
  | true => simp
  | false =>
    cases lookup members f.name with
    | none => simp
    | some value => simp

/-- The report about a missing field names it. -/
theorem missingIn?_eq_some_iff {e : DecodeError} :
    f.missingIn? members = some e ↔
      f.optional = false ∧ lookup members f.name = none ∧ e = .missingField f.name := by
  rw [missingIn?]
  cases f.optional with
  | true => simp
  | false =>
    cases lookup members f.name with
    | none => simp [eq_comm]
    | some value => simp

end Field

/-! ## Which fault is reported -/

/-- An object has the fields of a record: those that must be there, and good values for all that
are. -/
def Complete (fields : List Field) (members : List (String × Json)) : Prop :=
  ∀ f ∈ fields, (f.optional = false → ∃ value, lookup members f.name = some value) ∧
    ∀ value, lookup members f.name = some value → f.Accepts value

/-- An object has all the fields if it has a good value for each. -/
theorem Complete.of_forall {fields : List Field} {members : List (String × Json)}
    (h : ∀ f ∈ fields, ∃ value, lookup members f.name = some value ∧ f.Accepts value) :
    Complete fields members := by
  intro f hf
  rcases h f hf with ⟨value, hvalue, haccepts⟩
  refine ⟨fun _ => ⟨value, hvalue⟩, ?_⟩
  intro other hother
  rw [hvalue] at hother
  cases hother
  exact haccepts

/-- What is reported about an object that lacks something of the fields of a record. -/
inductive Refuses (fields : List Field) (members : List (String × Json)) : DecodeError → Prop where
  /-- Of the fields with values that they do not take, the first in the order of names. -/
  | badValue {f : Field} {value : Json} {e : DecodeError} : f ∈ fields →
      lookup members f.name = some value → f.fault? value = some e →
      (∀ g ∈ fields, ∀ other, lookup members g.name = some other → ¬ g.Accepts other →
        f.name ≤ g.name) →
      Refuses fields members e
  /-- If there are none, the first field that is missing, in the order of declaration. -/
  | missing {before after : List Field} {f : Field} : fields = before ++ f :: after →
      f.optional = false → lookup members f.name = none →
      (∀ g ∈ fields, ∀ value, lookup members g.name = some value → g.Accepts value) →
      (∀ g ∈ before, g.optional = false → ∃ value, lookup members g.name = some value) →
      Refuses fields members (.missingField f.name)

/-- Fields are visited in the order of their names. -/
structure VisitedByName (visited declared : List Field) : Prop where
  mem_iff : ∀ f, f ∈ visited ↔ f ∈ declared
  sorted : (visited.map Field.name).Pairwise (· < ·)

/-- The first report from visiting the fields of an object and then insisting on those declared. -/
def refusal? (visited declared : List Field) (members : List (String × Json)) :
    Option DecodeError :=
  (visited.findSome? fun f => f.faultIn? members).or
    (declared.findSome? fun f => f.missingIn? members)

section Refusal

variable {visited declared : List Field} {members : List (String × Json)}

/-- The first report is that of the first field, if there is one. -/
theorem findSome?_cons {β : Type} (report : Field → Option β) (f : Field) (fields : List Field) :
    (f :: fields).findSome? report = (report f).or (fields.findSome? report) := by
  rw [List.findSome?_cons]
  cases report f with
  | none => rfl
  | some b => rfl

/-- A field that is visited earlier has the smaller name. -/
theorem VisitedByName.name_lt (h : VisitedByName visited declared) :
    visited.Pairwise fun f g => f.name < g.name :=
  List.pairwise_map.1 h.sorted

/-- The visits report nothing exactly when every value that is there is taken. -/
theorem VisitedByName.findSome?_eq_none_iff (h : VisitedByName visited declared) :
    (visited.findSome? fun f => f.faultIn? members) = none ↔
      ∀ f ∈ declared, ∀ value, lookup members f.name = some value → f.Accepts value := by
  simp only [List.findSome?_eq_none_iff, h.mem_iff, Field.faultIn?_eq_none_iff]

/-- The first bad value in the order of visits is the one with the smallest name. -/
theorem VisitedByName.findSome?_eq_some_iff (h : VisitedByName visited declared)
    {e : DecodeError} :
    (visited.findSome? fun f => f.faultIn? members) = some e ↔
      ∃ f ∈ declared, f.faultIn? members = some e ∧
        ∀ g ∈ declared, g.faultIn? members ≠ none → f.name ≤ g.name := by
  simp only [← h.mem_iff]
  rw [List.findSome?_eq_some_iff]
  constructor
  · rintro ⟨before, f, after, rfl, hfault, hbefore⟩
    refine ⟨f, List.mem_append_right before List.mem_cons_self, hfault, ?_⟩
    intro g hg hbad
    rcases List.mem_append.1 hg with hgbefore | hgafter
    · exact absurd (hbefore g hgbefore) hbad
    · rcases List.mem_cons.1 hgafter with rfl | hgbehind
      · exact String.le_refl _
      · have hsorted := (List.pairwise_append.1 h.name_lt).2.1
        exact String.not_lt.1 (String.lt_asymm ((List.pairwise_cons.1 hsorted).1 g hgbehind))
  · rintro ⟨f, hf, hfault, hleast⟩
    rcases List.append_of_mem hf with ⟨before, after, rfl⟩
    refine ⟨before, f, after, rfl, hfault, ?_⟩
    intro g hg
    -- A bad value before that of `f` would have a smaller name.
    have hless := (List.pairwise_append.1 h.name_lt).2.2 g hg f List.mem_cons_self
    cases hbad : g.faultIn? members with
    | none => rfl
    | some other =>
      have hle := hleast g (List.mem_append_left _ hg) (by rw [hbad]; exact Option.some_ne_none _)
      exact absurd hle (String.not_le.2 hless)

/-- Nothing is reported exactly for a complete object. -/
theorem refusal?_eq_none_iff (h : VisitedByName visited declared) :
    refusal? visited declared members = none ↔ Complete declared members := by
  rw [refusal?, Option.or_eq_none_iff, h.findSome?_eq_none_iff, List.findSome?_eq_none_iff]
  simp only [Field.missingIn?_eq_none_iff]
  constructor
  · intro hnone f hf
    exact ⟨hnone.2 f hf, hnone.1 f hf⟩
  · intro hcomplete
    exact ⟨fun f hf => (hcomplete f hf).2, fun f hf => (hcomplete f hf).1⟩

/-- What is reported is the first bad value in the order of names, or if there is none the first
missing field in the order of declaration. -/
theorem refusal?_eq_some_iff (h : VisitedByName visited declared) {e : DecodeError} :
    refusal? visited declared members = some e ↔ Refuses declared members e := by
  rw [refusal?, Option.or_eq_some_iff, h.findSome?_eq_some_iff, h.findSome?_eq_none_iff,
    List.findSome?_eq_some_iff]
  constructor
  · rintro (⟨f, hf, hfault, hleast⟩ | ⟨hgood, before, f, after, hsplit, hmissing, hbefore⟩)
    · rcases Field.faultIn?_eq_some_iff.1 hfault with ⟨value, hvalue, hfault⟩
      refine .badValue hf hvalue hfault fun g hg other hother hbad => hleast g hg fun hnone => ?_
      exact hbad (Field.faultIn?_eq_none_iff.1 hnone other hother)
    · rcases Field.missingIn?_eq_some_iff.1 hmissing with ⟨hrequired, hlookup, rfl⟩
      exact .missing hsplit hrequired hlookup hgood fun g hg =>
        Field.missingIn?_eq_none_iff.1 (hbefore g hg)
  · intro hrefuses
    cases hrefuses with
    | @badValue f value e hf hvalue hfault hleast =>
      refine Or.inl ⟨f, hf, Field.faultIn?_eq_some_iff.2 ⟨value, hvalue, hfault⟩, ?_⟩
      intro g hg hbad
      rw [Ne, Field.faultIn?_eq_none_iff] at hbad
      simp only [Classical.not_forall] at hbad
      rcases hbad with ⟨other, hother, hbad⟩
      exact hleast g hg other hother hbad
    | @missing before after f hsplit hrequired hlookup hgood hbefore =>
      refine Or.inr ⟨hgood, before, f, after, hsplit, ?_, fun g hg => ?_⟩
      · exact Field.missingIn?_eq_some_iff.2 ⟨hrequired, hlookup, rfl⟩
      · exact Field.missingIn?_eq_none_iff.2 (hbefore g hg)

end Refusal

/-! ## Reading by fields -/

section Reading

variable {α β : Type} {members : List (String × Json)}

/-- Looking a field up reports a bad value, or whatever is reported afterwards. -/
theorem fault?_readMember_bind {read : Json → Except DecodeError α} {Accepts : Json → Prop}
    {name : String} {optional : Bool} (h : Takes read Accepts)
    {next : Option α → Except DecodeError β} {rest : Option DecodeError}
    (hnext : ∀ a : Option α, a.isSome = (lookup members name).isSome → fault? (next a) = rest) :
    fault? (readMember members name read >>= next) =
      ((Field.ofReader name optional h).faultIn? members).or rest := by
  rw [Field.faultIn?]
  change _ = ((lookup members name).bind fun value => fault? (read value)).or rest
  unfold readMember
  cases hvalue : lookup members name with
  | none => exact hnext none (by rw [hvalue]; rfl)
  | some value =>
    simp only [Option.bind_some]
    cases read value with
    | ok a => exact hnext (some a) (by rw [hvalue]; rfl)
    | error e => rfl

/-- Insisting on a field reports that it is missing, or whatever is reported afterwards. -/
theorem fault?_required_bind {f : Field} (hrequired : f.optional = false) {a : Option α}
    (ha : a.isSome = (lookup members f.name).isSome) {next : α → Except DecodeError β}
    {rest : Option DecodeError} (hnext : ∀ b, fault? (next b) = rest) :
    fault? (required f.name a >>= next) = (f.missingIn? members).or rest := by
  rw [Field.missingIn?, hrequired, ← ha]
  cases a with
  | none => simp [required, bind, Except.bind, fault?]
  | some b => simpa [required, bind, Except.bind] using hnext b

/-- A record is read from an object by its fields. -/
structure ReadsRecord (α : Type) [Decode α] (fields : List Field) : Prop where
  /-- A complete object is read, and no other. -/
  accepted : ∀ members, (∃ a : α, decode (.object members) = .ok a) ↔ Complete fields members
  /-- What is reported about an object. -/
  refused : ∀ members e,
    (decode (.object members) : Except DecodeError α) = .error e ↔ Refuses fields members e
  /-- The report of a missing field names it. -/
  message : ∀ f ∈ fields,
    (DecodeError.missingField f.name).message = "missing field `" ++ f.name ++ "`"
  /-- A member with a name that no field has is passed over. -/
  unknown : ∀ before after name value, (∀ f ∈ fields, f.name ≠ name) →
    (decode (.object (before ++ (name, value) :: after)) : Except DecodeError α) =
      decode (.object (before ++ after))
  /-- The order of members has no influence, at whatever depth they stand. -/
  reordered : ∀ value other, Reordered value other →
    (decode value : Except DecodeError α) = decode other

/-- To read a record by its fields is to report what visiting them and insisting on them reports,
from what is found under their names alone. -/
theorem readsRecord [Decode α] {visited declared : List Field}
    (hvisited : VisitedByName visited declared)
    (hfault : ∀ members,
      fault? (decode (.object members) : Except DecodeError α) =
        refusal? visited declared members)
    (hagree : ∀ members others,
      (∀ name ∈ declared.map Field.name, Agree (lookup members name) (lookup others name)) →
        (decode (.object members) : Except DecodeError α) = decode (.object others))
    (hreordered : Insensitive (decode : Json → Except DecodeError α)) :
    ReadsRecord α declared where
  accepted members := by
    rw [← fault?_eq_none_iff, hfault, refusal?_eq_none_iff hvisited]
  refused members e := by
    rw [← fault?_eq_some_iff, hfault, refusal?_eq_some_iff hvisited]
  message f _ := rfl
  unknown before after name value hname := by
    apply hagree
    intro key hkey
    rcases List.mem_map.1 hkey with ⟨f, hf, rfl⟩
    rw [lookup_append_cons, lookup_append, if_neg (hname f hf), Option.none_or]
    exact Agree.refl _
  reordered := hreordered

end Reading

end Json
end EntitySql

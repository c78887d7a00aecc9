import EntitySql.Diagnostic.Basic
import EntitySql.Proofs.Json.Fields

/-!
# Reading records from objects

Spans, locations and diagnostics are read from objects.  Each of them visits its
fields in the order of their names and insists on them in the order in which it
declares them, a diagnostic on its first three only.  The location of a diagnostic
is read by the same rule, if it is an object, or from the array of its fields.

Main results:

- Theorem `Span.readsRecord_span`, theorem `SourceLocation.readsRecord_location` and
  theorem `Diagnostic.readsRecord_diagnostic`: each is read by its fields.
- Theorem `Json.recordsRead`: the three of them, and a location within a diagnostic.
-/

namespace EntitySql

open Json (Agree Complete Field IsNatural IsText IsVariant Insensitive ReadsRecord Refuses Takes
  VisitedByName fault? refusal?)

/-! ## Spans -/

namespace Span

/-- An offset is a natural number that a word can hold. -/
theorem takes_readOffset : Takes readOffset (IsNatural Word.limit) :=
  Json.takes_readNatural "usize" (Nat.le_refl _)

/-- The order of members has no influence on an offset. -/
theorem insensitive_readOffset : Insensitive readOffset :=
  Json.insensitive_readNatural "usize" Word.limit

/-- A field that takes an offset. -/
def offsetField (name : String) : Field :=
  .ofReader name false takes_readOffset

/-- The fields of a span, as it declares them. -/
def declaredFields : List Field :=
  [offsetField "start", offsetField "end"]

/-- The fields of a span, as it visits them. -/
def visitedFields : List Field :=
  [offsetField "end", offsetField "start"]

/-- The end of a span is visited before its start. -/
theorem visited_byName : VisitedByName visitedFields declaredFields where
  mem_iff f := by simp [visitedFields, declaredFields, or_comm]
  sorted := by decide

/-- Reading a span reports what the visits of its two fields report. -/
theorem fault?_ofMembers (members : List (String × Json)) :
    fault? (ofMembers members) = refusal? visitedFields declaredFields members := by
  simp only [refusal?, visitedFields, declaredFields, Json.findSome?_cons, Option.or_assoc,
    List.findSome?_nil, Option.none_or]
  refine Json.fault?_readMember_bind takes_readOffset fun stop hstop => ?_
  refine Json.fault?_readMember_bind takes_readOffset fun start hstart => ?_
  refine Json.fault?_required_bind (f := offsetField "start") rfl hstart fun _ => ?_
  exact Json.fault?_required_bind (f := offsetField "end") rfl hstop fun _ => rfl

/-- A span depends on what is found under the names of its fields only. -/
theorem ofMembers_eq_of_agree {members others : List (String × Json)}
    (h : ∀ name ∈ declaredFields.map Field.name,
      Agree (Json.lookup members name) (Json.lookup others name)) :
    ofMembers members = ofMembers others := by
  simp only [ofMembers, Json.readMember_eq_of_agree insensitive_readOffset (h "start" (by decide)),
    Json.readMember_eq_of_agree insensitive_readOffset (h "end" (by decide))]

/-- So does a span that is read from an array, on its items. -/
theorem ofItems_eq_of_agree {items others : List Json} (hlength : items.length = others.length)
    (h : ∀ i : Nat, Agree items[i]? others[i]?) : ofItems items = ofItems others := by
  simp only [ofItems, Json.noMore, hlength,
    Json.readElement_eq_of_agree insensitive_readOffset (h 0),
    Json.readElement_eq_of_agree insensitive_readOffset (h 1)]

/-- A span is read by its fields. -/
theorem readsRecord_span : ReadsRecord Span declaredFields :=
  Json.readsRecord visited_byName fault?_ofMembers (fun _ _ => ofMembers_eq_of_agree)
    (Json.insensitive_readRecord "Span"
      (fun _ _ h => ofMembers_eq_of_agree fun name _ => h name) fun _ _ => ofItems_eq_of_agree)

end Span

/-! ## Locations -/

namespace SourceLocation

/-- The fields of a location, as it declares them. -/
def declaredFields : List Field :=
  [Span.offsetField "line", Span.offsetField "column", Span.offsetField "offset",
    Span.offsetField "length"]

/-- The fields of a location, as it visits them. -/
def visitedFields : List Field :=
  [Span.offsetField "column", Span.offsetField "length", Span.offsetField "line",
    Span.offsetField "offset"]

/-- The four fields of a location are visited in the order of their names. -/
theorem visited_byName : VisitedByName visitedFields declaredFields where
  mem_iff f := by
    simp only [visitedFields, declaredFields, List.mem_cons, List.not_mem_nil, or_false]
    grind
  sorted := by decide

/-- Reading a location reports what the visits of its four fields report. -/
theorem fault?_ofMembers (members : List (String × Json)) :
    fault? (ofMembers members) = refusal? visitedFields declaredFields members := by
  simp only [refusal?, visitedFields, declaredFields, Json.findSome?_cons, Option.or_assoc,
    List.findSome?_nil, Option.none_or]
  refine Json.fault?_readMember_bind Span.takes_readOffset fun column hcolumn => ?_
  refine Json.fault?_readMember_bind Span.takes_readOffset fun length hlength => ?_
  refine Json.fault?_readMember_bind Span.takes_readOffset fun line hline => ?_
  refine Json.fault?_readMember_bind Span.takes_readOffset fun offset hoffset => ?_
  refine Json.fault?_required_bind (f := Span.offsetField "line") rfl hline fun _ => ?_
  refine Json.fault?_required_bind (f := Span.offsetField "column") rfl hcolumn fun _ => ?_
  refine Json.fault?_required_bind (f := Span.offsetField "offset") rfl hoffset fun _ => ?_
  exact Json.fault?_required_bind (f := Span.offsetField "length") rfl hlength fun _ => rfl

/-- A location depends on what is found under the names of its fields only. -/
theorem ofMembers_eq_of_agree {members others : List (String × Json)}
    (h : ∀ name ∈ declaredFields.map Field.name,
      Agree (Json.lookup members name) (Json.lookup others name)) :
    ofMembers members = ofMembers others := by
  have hread : ∀ name ∈ declaredFields.map Field.name,
      Json.readMember members name Span.readOffset = Json.readMember others name Span.readOffset :=
    fun name hname => Json.readMember_eq_of_agree Span.insensitive_readOffset (h name hname)
  simp only [ofMembers, hread "line" (by decide), hread "column" (by decide),
    hread "offset" (by decide), hread "length" (by decide)]

/-- So does a location that is read from an array, on its items. -/
theorem ofItems_eq_of_agree {items others : List Json} (hlength : items.length = others.length)
    (h : ∀ i : Nat, Agree items[i]? others[i]?) : ofItems items = ofItems others := by
  have hread : ∀ (i : Nat) expected,
      Json.readElement items i expected Span.readOffset =
        Json.readElement others i expected Span.readOffset :=
    fun i _ => Json.readElement_eq_of_agree Span.insensitive_readOffset (h i)
  simp only [ofItems, Json.noMore, hlength, hread]

/-- The order of members has no influence on a location. -/
theorem insensitive_decode :
    Insensitive (Json.decode : Json → Except Json.DecodeError SourceLocation) :=
  Json.insensitive_readRecord "SourceLocation"
    (fun _ _ h => ofMembers_eq_of_agree fun name _ => h name) fun _ _ => ofItems_eq_of_agree

/-- A location is read by its fields. -/
theorem readsRecord_location : ReadsRecord SourceLocation declaredFields :=
  Json.readsRecord visited_byName fault?_ofMembers (fun _ _ => ofMembers_eq_of_agree)
    insensitive_decode

/-- A complete object, or the array of the four numbers. -/
def IsLocation (value : Json) : Prop :=
  (∃ members, value = .object members ∧ Complete declaredFields members) ∨
    ∃ items, value = .array items ∧ items.length = 4 ∧ ∀ item ∈ items, IsNatural Word.limit item

/-- A location is read from an array of just four numbers. -/
theorem fault?_ofItems_eq_none_iff {items : List Json} :
    fault? (ofItems items) = none ↔
      items.length = 4 ∧ ∀ item ∈ items, IsNatural Word.limit item := by
  have htakes : ∀ item, IsNatural Word.limit item ↔ ∃ n, Span.readOffset item = .ok n := by
    intro item
    rw [← Span.takes_readOffset, Json.fault?_eq_none_iff]
  rcases items with _ | ⟨line, _ | ⟨column, _ | ⟨offset, _ | ⟨length, _ | ⟨next, rest⟩⟩⟩⟩⟩
  all_goals
    simp [ofItems, Json.fault?_bind_eq_none_iff, Json.readElement, Json.noMore, htakes,
      -bind_pure_comp]

/-- The reader of locations takes complete objects and arrays of four numbers. -/
theorem takes_decode :
    Takes (Json.decode : Json → Except Json.DecodeError SourceLocation) IsLocation := by
  intro value
  cases value with
  | object members =>
    have hobject : IsLocation (.object members) ↔ Complete declaredFields members := by
      simp [IsLocation]
    rw [hobject, ← Json.refusal?_eq_none_iff visited_byName, ← fault?_ofMembers]
    rfl
  | array items =>
    have harray : IsLocation (.array items) ↔
        items.length = 4 ∧ ∀ item ∈ items, IsNatural Word.limit item := by
      simp [IsLocation]
    rw [harray, ← fault?_ofItems_eq_none_iff]
    rfl
  | _ => simp [Json.decode, Json.readRecord, IsLocation, Json.fault?_wrongType_ne_none]

end SourceLocation

/-! ## Diagnostics -/

namespace Diagnostic

/-- A severity is one of two names. -/
theorem takes_decodeSeverity :
    Takes (Json.decode : Json → Except Json.DecodeError Severity)
      (IsVariant ["Error", "Warning"]) :=
  Json.takes_readVariant Severity.named

/-- A code is a natural number of 16 bits. -/
theorem takes_decodeCode :
    Takes (Json.decode : Json → Except Json.DecodeError ErrorCode) (IsNatural ErrorCode.limit) :=
  (Json.takes_readNatural "u16" (by decide)).map ErrorCode.ofNat

/-- The order of members has no influence on a severity. -/
theorem insensitive_decodeSeverity :
    Insensitive (Json.decode : Json → Except Json.DecodeError Severity) :=
  Json.insensitive_readVariant Severity.named

/-- Nor has it any on a code. -/
theorem insensitive_decodeCode :
    Insensitive (Json.decode : Json → Except Json.DecodeError ErrorCode) :=
  (Json.insensitive_readNatural "u16" ErrorCode.limit).map ErrorCode.ofNat

/-- The severity must be there, by its name. -/
def severityField : Field :=
  .ofReader "severity" false takes_decodeSeverity

/-- The code must be there, by its number. -/
def codeField : Field :=
  .ofReader "code" false takes_decodeCode

/-- The message must be there. -/
def messageField : Field :=
  .ofReader "message" false Json.takes_readString

/-- The place may be missing or null. -/
def locationField : Field :=
  .ofReader "location" true SourceLocation.takes_decode.readOptional

/-- The word of help may be missing or null. -/
def helpField : Field :=
  .ofReader "help" true Json.takes_readString.readOptional

/-- The fields of a diagnostic, as it declares them. -/
def declaredFields : List Field :=
  [severityField, codeField, messageField, locationField, helpField]

/-- The fields of a diagnostic, as it visits them. -/
def visitedFields : List Field :=
  [codeField, helpField, locationField, messageField, severityField]

/-- The code of a diagnostic is visited first and its severity last. -/
theorem visited_byName : VisitedByName visitedFields declaredFields where
  mem_iff f := by
    simp only [visitedFields, declaredFields, List.mem_cons, List.not_mem_nil, or_false]
    grind
  sorted := by decide

/-- Reading a diagnostic reports what the visits of its five fields report. -/
theorem fault?_ofMembers (members : List (String × Json)) :
    fault? (ofMembers members) = refusal? visitedFields declaredFields members := by
  have hlocation : locationField.missingIn? members = none := Field.missingIn?_of_optional rfl
  have hhelp : helpField.missingIn? members = none := Field.missingIn?_of_optional rfl
  simp only [refusal?, visitedFields, declaredFields, Json.findSome?_cons, Option.or_assoc,
    List.findSome?_nil, Option.none_or, hlocation, hhelp]
  refine Json.fault?_readMember_bind takes_decodeCode fun code hcode => ?_
  refine Json.fault?_readMember_bind Json.takes_readString.readOptional fun help _ => ?_
  refine Json.fault?_readMember_bind SourceLocation.takes_decode.readOptional fun location _ => ?_
  refine Json.fault?_readMember_bind Json.takes_readString fun message hmessage => ?_
  refine Json.fault?_readMember_bind takes_decodeSeverity fun severity hseverity => ?_
  refine Json.fault?_required_bind (f := severityField) rfl hseverity fun _ => ?_
  refine Json.fault?_required_bind (f := codeField) rfl hcode fun _ => ?_
  exact Json.fault?_required_bind (f := messageField) rfl hmessage fun _ => rfl

/-- A diagnostic depends on what is found under the names of its fields only. -/
theorem ofMembers_eq_of_agree {members others : List (String × Json)}
    (h : ∀ name ∈ declaredFields.map Field.name,
      Agree (Json.lookup members name) (Json.lookup others name)) :
    ofMembers members = ofMembers others := by
  have hread {α : Type} {read : Json → Except Json.DecodeError α} (hread : Insensitive read)
      (name : String) (hname : name ∈ declaredFields.map Field.name) :
      Json.readMember members name read = Json.readMember others name read :=
    Json.readMember_eq_of_agree hread (h name hname)
  simp only [ofMembers, hread insensitive_decodeCode "code" (by decide),
    hread Json.insensitive_readString.readOptional "help" (by decide),
    hread SourceLocation.insensitive_decode.readOptional "location" (by decide),
    hread Json.insensitive_readString "message" (by decide),
    hread insensitive_decodeSeverity "severity" (by decide)]

/-- So does a diagnostic that is read from an array, on its items. -/
theorem ofItems_eq_of_agree {items others : List Json} (hlength : items.length = others.length)
    (h : ∀ i : Nat, Agree items[i]? others[i]?) : ofItems items = ofItems others := by
  simp only [ofItems, Json.noMore, hlength,
    Json.readElement_eq_of_agree insensitive_decodeSeverity (h 0),
    Json.readElement_eq_of_agree insensitive_decodeCode (h 1),
    Json.readElement_eq_of_agree Json.insensitive_readString (h 2),
    Json.readElement_eq_of_agree SourceLocation.insensitive_decode.readOptional (h 3),
    Json.readElement_eq_of_agree Json.insensitive_readString.readOptional (h 4)]

/-- A diagnostic is read by its fields. -/
theorem readsRecord_diagnostic : ReadsRecord Diagnostic declaredFields :=
  Json.readsRecord visited_byName fault?_ofMembers (fun _ _ => ofMembers_eq_of_agree)
    (Json.insensitive_readRecord "Diagnostic"
      (fun _ _ h => ofMembers_eq_of_agree fun name _ => h name) fun _ _ => ofItems_eq_of_agree)

/-- An object for the place is refused as a location on its own would be. -/
theorem fault?_locationField_object {members : List (String × Json)} {e : Json.DecodeError} :
    locationField.fault? (.object members) = some e ↔
      Refuses SourceLocation.declaredFields members e := by
  rw [← SourceLocation.readsRecord_location.refused, ← Json.fault?_eq_some_iff]
  change fault? ((Json.decode (.object members)).map some) = some e ↔ _
  rw [Json.fault?_map]

end Diagnostic

/-! ## All records -/

namespace Json

/-- Spans, locations and diagnostics are read from objects by their fields. -/
structure RecordsRead : Prop where
  span : ReadsRecord Span Span.declaredFields
  location : ReadsRecord SourceLocation SourceLocation.declaredFields
  diagnostic : ReadsRecord Diagnostic Diagnostic.declaredFields
  /-- So is the location of a diagnostic. -/
  nested : ∀ members e,
    Diagnostic.locationField.fault? (.object members) = some e ↔
      Refuses SourceLocation.declaredFields members e

/-- Each record is read from the objects that are complete; about any other object the first bad
value in the order of names is reported, or if there is none the first missing field in the order
of declaration. -/
theorem recordsRead : RecordsRead where
  span := Span.readsRecord_span
  location := SourceLocation.readsRecord_location
  diagnostic := Diagnostic.readsRecord_diagnostic
  nested _ _ := Diagnostic.fault?_locationField_object

/-- A diagnostic is read from members in any order, of which one belongs to no field, and with its
place in an object of its own. -/
theorem recordsRead_place_within :
    let place : List (String × Json) :=
      [("offset", .number (.natural 7)), ("line", .number (.natural 1)),
        ("length", .number (.natural 3)), ("column", .number (.natural 8))]
    let members : List (String × Json) :=
      [("severity", .string "Error"), ("origin", .bool true), ("message", .string "m"),
        ("location", .object place), ("code", .number (.natural 406)), ("help", .null)]
    Complete Diagnostic.declaredFields members ∧
      decode (.object members) =
        .ok (⟨.error, ⟨406⟩, "m", some ⟨1, 8, 7, 3⟩, none⟩ : Diagnostic) := by
  intro place members
  have hplace : Complete SourceLocation.declaredFields place := by
    refine .of_forall ?_
    simp only [SourceLocation.declaredFields, List.forall_mem_cons]
    exact ⟨⟨_, rfl, 1, rfl, by decide⟩, ⟨_, rfl, 8, rfl, by decide⟩, ⟨_, rfl, 7, rfl, by decide⟩,
      ⟨_, rfl, 3, rfl, by decide⟩, nofun⟩
  have hcomplete : Complete Diagnostic.declaredFields members := by
    refine .of_forall ?_
    simp only [Diagnostic.declaredFields, List.forall_mem_cons]
    exact ⟨⟨_, rfl, "Error", by decide, .inl rfl⟩, ⟨_, rfl, 406, rfl, by decide⟩,
      ⟨_, rfl, "m", rfl⟩, ⟨_, rfl, .inr (.inl ⟨place, rfl, hplace⟩)⟩, ⟨_, rfl, .inl rfl⟩, nofun⟩
  rcases (recordsRead.diagnostic.accepted members).2 hcomplete with ⟨d, hd⟩
  refine ⟨hcomplete, ?_⟩
  rw [hd]
  cases hd
  rfl

-- The severity is declared first and the code is missing, but the help is visited before both.
example :
    (decode (.object [("severity", .null), ("help", .bool true)]) : Except DecodeError Diagnostic) =
      .error (.invalidType (.bool true) "a string") := by
  rfl

end Json
end EntitySql

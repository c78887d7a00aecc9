import EntitySql.Diagnostic.Basic
import EntitySql.Function.Definition
import EntitySql.Proofs.Json.Text

/-!
# Reading typed values back

Spans, locations, codes, severities, diagnostics and modes are written as JSON
and read from it.  A record is written as an object and may be read from the
array of its fields as well.  Numbers are read as words, so what is read back is
every value whose numbers words can hold.

Main results:

- Theorem `Json.reads_text`: what is read from a value is read from its text.
- Theorem `Json.readsBack_of_decode`: a type whose values are read from their JSON form
  is read back from texts, and its values have different texts.
- Theorem `Diagnostic.decode_encode`: a diagnostic is read from its JSON form.
- Theorem `Json.format_readsBack`: all values of the readable types are read back.
-/

namespace EntitySql
namespace Json

section Reading

variable {α : Type}

/-! ## Typed values and texts -/

/-- A text is read as a value of a type. -/
def Reads [Decode α] (text : String) (a : α) : Prop :=
  ∃ value, parse? text = some value ∧ decode value = .ok a

/-- A text is read as one value of a type at most. -/
theorem Reads.unique [Decode α] {text : String} {a b : α} (ha : Reads text a)
    (hb : Reads text b) : a = b := by
  rcases ha with ⟨value, hvalue, ha⟩
  rcases hb with ⟨other, hother, hb⟩
  rw [hvalue] at hother
  cases hother
  rw [ha] at hb
  exact Except.ok.inj hb

/-- What is read from a value is read from its text. -/
theorem reads_text [Decode α] {value : Json} {a : α} (hvalue : value.WellFormed)
    (ha : decode value = .ok a) : Reads value.text a :=
  ⟨value, parse?_text hvalue, ha⟩

/-- Reading undoes writing for the values of a type that the format can hold. -/
structure ReadsBack (α : Type) [Encode α] [Decode α] (Fits : α → Prop) : Prop where
  /-- Each of them is read from its text. -/
  reads : ∀ a, Fits a → Reads (encode a).text a
  /-- Different ones have different texts. -/
  separates : ∀ a b, Fits a → Fits b → a ≠ b → (encode a).text ≠ (encode b).text

/-- Reading undoes writing for records that are written as the array of their fields. -/
def FieldsReadBack (α : Type) [Decode α] (Fits : α → Prop) (fields : α → List Json) : Prop :=
  ∀ a, Fits a → Reads (Json.array (fields a)).text a

/-- A type whose values are read from their JSON form is read back from texts. -/
theorem readsBack_of_decode [Encode α] [Decode α] {Fits : α → Prop}
    (hvalue : ∀ a : α, (encode a).WellFormed) (h : ∀ a, Fits a → decode (encode a) = .ok a) :
    ReadsBack α Fits where
  reads a ha := reads_text (hvalue a) (h a ha)
  separates := by
    intro a b ha hb hne htext
    have hread : Reads (encode b).text a := by
      rw [← htext]
      exact reads_text (hvalue a) (h a ha)
    exact hne (hread.unique (reads_text (hvalue b) (h b hb)))

/-! ## Fields -/

/-- A member is read from the value that is found under its name. -/
theorem readMember_of_lookup {members : List (String × Json)} {name : String} {value : Json}
    {read : Json → Except DecodeError α} {a : α} (hvalue : lookup members name = some value)
    (ha : read value = .ok a) : readMember members name read = .ok (some a) := by
  simp [readMember, hvalue, ha, Except.map]

/-- A field is read from the item at its position. -/
theorem readElement_of_getElem? {items : List Json} {index : Nat} {value : Json}
    {read : Json → Except DecodeError α} {a : α} (hvalue : items[index]? = some value)
    {expected : String} (ha : read value = .ok a) :
    readElement items index expected read = .ok a := by
  simp [readElement, hvalue, ha]

/-- An optional value is read back, unless what it may hold is written as null. -/
theorem readOptional_encode [Encode α] {read : Json → Except DecodeError α} {o : Option α}
    (hnull : ∀ a : α, encode a ≠ .null) (h : ∀ a ∈ o, read (encode a) = .ok a) :
    readOptional read (encode o) = .ok o := by
  cases o with
  | none => rfl
  | some a =>
    change readOptional read (encode a) = _
    rw [readOptional_of_ne_null read (hnull a), h a rfl]
    rfl

end Reading
end Json

namespace Span

/-! ## Spans -/

/-- An offset that a word can hold is read back. -/
theorem readOffset_encode {n : Nat} (h : Word.Fits n) : readOffset (Json.encode n) = .ok n :=
  Json.readNatural_encode "usize" h (Nat.le_refl _)

/-- Both numbers of a span are well formed. -/
theorem wellFormed_encode (s : Span) : (Json.encode s).WellFormed := by
  refine .object ?_
  simp

/-- The fields of a span, in their order. -/
def fields (s : Span) : List Json :=
  [Json.encode s.start, Json.encode s.stop]

/-- A span is read from its JSON form. -/
theorem decode_encode {s : Span} (h : s.Representable) :
    Json.decode (Json.encode s) = .ok s := by
  have hstart := readOffset_encode h.1
  have hstop := readOffset_encode h.2
  change ofMembers [("start", Json.encode s.start), ("end", Json.encode s.stop)] = .ok s
  rw [ofMembers, Json.readMember_of_lookup rfl hstop, Json.readMember_of_lookup rfl hstart]
  rfl

/-- A span is read from the array of its fields. -/
theorem decode_fields {s : Span} (h : s.Representable) :
    Json.decode (.array s.fields) = .ok s := by
  have hstart := readOffset_encode h.1
  have hstop := readOffset_encode h.2
  change ofItems [Json.encode s.start, Json.encode s.stop] = .ok s
  rw [ofItems, Json.readElement_of_getElem? rfl hstart, Json.readElement_of_getElem? rfl hstop]
  rfl

end Span

namespace SourceLocation

/-! ## Locations -/

/-- All four numbers of a location are well formed. -/
theorem wellFormed_encode (l : SourceLocation) : (Json.encode l).WellFormed := by
  refine .object ?_
  simp

/-- The fields of a location, in their order. -/
def fields (l : SourceLocation) : List Json :=
  [Json.encode l.line, Json.encode l.column, Json.encode l.offset, Json.encode l.length]

/-- A location is read from its JSON form. -/
theorem decode_encode {l : SourceLocation} (h : l.Representable) :
    Json.decode (Json.encode l) = .ok l := by
  rcases h with ⟨hline, hcolumn, hoffset, hlength⟩
  change ofMembers
    [("line", Json.encode l.line), ("column", Json.encode l.column),
      ("offset", Json.encode l.offset), ("length", Json.encode l.length)] = .ok l
  rw [ofMembers, Json.readMember_of_lookup rfl (Span.readOffset_encode hcolumn),
    Json.readMember_of_lookup rfl (Span.readOffset_encode hlength),
    Json.readMember_of_lookup rfl (Span.readOffset_encode hline),
    Json.readMember_of_lookup rfl (Span.readOffset_encode hoffset)]
  rfl

/-- A location is read from the array of its fields. -/
theorem decode_fields {l : SourceLocation} (h : l.Representable) :
    Json.decode (.array l.fields) = .ok l := by
  rcases h with ⟨hline, hcolumn, hoffset, hlength⟩
  change ofItems l.fields = .ok l
  rw [ofItems, fields, Json.readElement_of_getElem? rfl (Span.readOffset_encode hline),
    Json.readElement_of_getElem? rfl (Span.readOffset_encode hcolumn),
    Json.readElement_of_getElem? rfl (Span.readOffset_encode hoffset),
    Json.readElement_of_getElem? rfl (Span.readOffset_encode hlength)]
  rfl

end SourceLocation

/-! ## Codes and names -/

namespace ErrorCode

/-- A code is written as a natural number. -/
theorem wellFormed_encode (c : ErrorCode) : (Json.encode c).WellFormed :=
  Json.wellFormed_encode_nat c.number.toNat

/-- A code is read from its JSON form. -/
theorem decode_encode (c : ErrorCode) : Json.decode (Json.encode c) = .ok c := by
  have hnumber : Json.readNatural "u16" limit (Json.encode c.number.toNat) =
      .ok c.number.toNat :=
    Json.readNatural_encode "u16" c.number.toNat_lt (by decide)
  change (Json.readNatural "u16" limit (Json.encode c.number.toNat)).map ofNat = .ok c
  rw [hnumber]
  simp [Except.map, ofNat]

end ErrorCode

namespace Severity

/-- A severity is written as a string. -/
theorem wellFormed_encode (s : Severity) : (Json.encode s).WellFormed :=
  .string s.name

/-- A severity is read from its name. -/
theorem decode_encode (s : Severity) : Json.decode (Json.encode s) = .ok s := by
  cases s <;> rfl

end Severity

namespace ValidationMode

/-- A mode is written as a string. -/
theorem wellFormed_encode (m : ValidationMode) : (Json.encode m).WellFormed :=
  .string m.name

/-- A mode is read from its name. -/
theorem decode_encode (m : ValidationMode) : Json.decode (Json.encode m) = .ok m := by
  cases m <;> rfl

end ValidationMode

namespace Diagnostic

/-! ## Diagnostics -/

/-- Words can hold the numbers of the place, if there is one. -/
def Representable (d : Diagnostic) : Prop :=
  ∀ l ∈ d.location, l.Representable

/-- All fields of a diagnostic are well formed, the details also where they are missing. -/
theorem wellFormed_encode (d : Diagnostic) : (Json.encode d).WellFormed := by
  refine .object ?_
  simp [Severity.wellFormed_encode, ErrorCode.wellFormed_encode,
    Json.wellFormed_encode_option SourceLocation.wellFormed_encode,
    Json.wellFormed_encode_option Json.wellFormed_encode_string]

/-- The fields of a diagnostic, in their order. -/
def fields (d : Diagnostic) : List Json :=
  [Json.encode d.severity, Json.encode d.code, Json.encode d.message, Json.encode d.location,
    Json.encode d.help]

/-- The place of a diagnostic is read back. -/
theorem readLocation_encode {d : Diagnostic} (h : d.Representable) :
    Json.readOptional Json.decode (Json.encode d.location) = .ok d.location :=
  Json.readOptional_encode (fun _ => nofun) fun l hl => SourceLocation.decode_encode (h l hl)

/-- The help of a diagnostic is read back. -/
theorem readHelp_encode (d : Diagnostic) :
    Json.readOptional Json.readString (Json.encode d.help) = .ok d.help :=
  Json.readOptional_encode (fun _ => nofun) fun s _ => Json.readString_encode s

/-- A diagnostic is read from its JSON form. -/
theorem decode_encode {d : Diagnostic} (h : d.Representable) :
    Json.decode (Json.encode d) = .ok d := by
  change ofMembers
    [("severity", Json.encode d.severity), ("code", Json.encode d.code),
      ("message", Json.encode d.message), ("location", Json.encode d.location),
      ("help", Json.encode d.help)] = .ok d
  rw [ofMembers, Json.readMember_of_lookup rfl (ErrorCode.decode_encode d.code),
    Json.readMember_of_lookup rfl (readHelp_encode d),
    Json.readMember_of_lookup rfl (readLocation_encode h),
    Json.readMember_of_lookup rfl (Json.readString_encode d.message),
    Json.readMember_of_lookup rfl (Severity.decode_encode d.severity)]
  rfl

/-- A diagnostic is read from the array of its fields. -/
theorem decode_fields {d : Diagnostic} (h : d.Representable) :
    Json.decode (.array d.fields) = .ok d := by
  change ofItems d.fields = .ok d
  rw [ofItems, fields, Json.readElement_of_getElem? rfl (Severity.decode_encode d.severity),
    Json.readElement_of_getElem? rfl (ErrorCode.decode_encode d.code),
    Json.readElement_of_getElem? rfl (Json.readString_encode d.message),
    Json.readElement_of_getElem? rfl (readLocation_encode h),
    Json.readElement_of_getElem? rfl (readHelp_encode d)]
  rfl

end Diagnostic

namespace Json

/-! ## The whole format -/

/-- Reading undoes writing for all values of the readable types, and for records in either form. -/
structure FormatReadsBack : Prop where
  span : ReadsBack Span Span.Representable
  location : ReadsBack SourceLocation SourceLocation.Representable
  code : ReadsBack ErrorCode fun _ => True
  severity : ReadsBack Severity fun _ => True
  diagnostic : ReadsBack Diagnostic Diagnostic.Representable
  mode : ReadsBack ValidationMode fun _ => True
  spanFields : FieldsReadBack Span Span.Representable Span.fields
  locationFields : FieldsReadBack SourceLocation SourceLocation.Representable SourceLocation.fields
  diagnosticFields : FieldsReadBack Diagnostic Diagnostic.Representable Diagnostic.fields

/-- All values of the readable types are read back. -/
theorem format_readsBack : FormatReadsBack where
  span := readsBack_of_decode Span.wellFormed_encode fun _ => Span.decode_encode
  location := readsBack_of_decode SourceLocation.wellFormed_encode fun _ =>
    SourceLocation.decode_encode
  code := readsBack_of_decode ErrorCode.wellFormed_encode fun c _ => ErrorCode.decode_encode c
  severity := readsBack_of_decode Severity.wellFormed_encode fun s _ => Severity.decode_encode s
  diagnostic := readsBack_of_decode Diagnostic.wellFormed_encode fun _ => Diagnostic.decode_encode
  mode := readsBack_of_decode ValidationMode.wellFormed_encode fun m _ =>
    ValidationMode.decode_encode m
  spanFields := by
    intro s hs
    exact reads_text (Span.wellFormed_encode s).fields (Span.decode_fields hs)
  locationFields := by
    intro l hl
    exact reads_text (SourceLocation.wellFormed_encode l).fields (SourceLocation.decode_fields hl)
  diagnosticFields := by
    intro d hd
    exact reads_text (Diagnostic.wellFormed_encode d).fields (Diagnostic.decode_fields hd)

end Json
end EntitySql

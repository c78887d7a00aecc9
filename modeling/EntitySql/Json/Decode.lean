import EntitySql.Json.DecodeError

/-!
# Reading typed values from JSON

A typed value is read from a JSON value, or the first thing that is wrong is
reported.  Records are read from an object or from an array of their fields; the
members of an object are visited in the order of their names, so that the
outcome does not depend on the order in which they are written, and names that
do not belong to the record are passed over.

Main results:

- Theorem `Json.readNatural_encode`: a natural number in range is read from its JSON form.
- Theorem `Json.readString_encode`: a string is read from its JSON form.
- Theorem `Json.readOptional_of_ne_null`: anything but null is read as the value itself.
-/

namespace EntitySql
namespace Json

/-- Types whose values can be read from JSON. -/
class Decode (α : Type) where
  /-- Reads a value or reports what is wrong. -/
  decode : Json → Except DecodeError α

export Decode (decode)

/-- Reports that a value has the wrong type. -/
def wrongType {α : Type} (value : Json) (expected : String) : Except DecodeError α := do
  let found ← value.shape
  .error (.invalidType found expected)

/-! ## Plain values -/

/-- Reads a natural number below a limit. -/
def readNatural (expected : String) (limit : Nat) (value : Json) : Except DecodeError Nat :=
  match value with
  | .number n =>
    match n.numeral? with
    | some (.natural v) =>
      if v < limit then .ok v else .error (.invalidValue (.integer v) expected)
    | some (.negative v) => .error (.invalidValue (.integer (-v)) expected)
    | some (.floating x) => .error (.invalidType (.floating x) expected)
    | none => .error .numberTooLarge
  | value => wrongType value expected

/-- Reads a string. -/
def readString (value : Json) : Except DecodeError String :=
  match value with
  | .string s => .ok s
  | value => wrongType value "a string"

/-- Reads a value that may be null. -/
def readOptional {α : Type} (read : Json → Except DecodeError α) (value : Json) :
    Except DecodeError (Option α) :=
  match value with
  | .null => .ok none
  | value => (read value).map some

/-- Reads nothing, which is written as null. -/
def readNull (value : Json) : Except DecodeError Unit :=
  match value with
  | .null => .ok ()
  | value => wrongType value "unit"

/-! ## One of several names -/

/-- The value that belongs to a name. -/
def variantNamed {α : Type} (variants : List (String × α)) (name : String) :
    Except DecodeError α :=
  match variants.lookup name with
  | some a => .ok a
  | none => .error (.unknownVariant name (variants.map Prod.fst))

/-- The names of the members of an object, each once. -/
def memberNames (members : List (String × Json)) : List String :=
  (members.map Prod.fst).eraseDups

/-- Reads one of several names, written as a string or as the only member of an object with
nothing in it. -/
def readVariant {α : Type} (variants : List (String × α)) (value : Json) : Except DecodeError α :=
  match value with
  | .string name => variantNamed variants name
  | .object members =>
    match memberNames members with
    | [name] => do
      let a ← variantNamed variants name
      match lookup members name with
      | some content => do
        readNull content
        .ok a
      | none => .ok a
    | _ => .error (.invalidValue .object "map with a single key")
  | value => wrongType value "string or map"

/-! ## Records -/

/-- Reads a member, if it is there. -/
def readMember {α : Type} (members : List (String × Json)) (name : String)
    (read : Json → Except DecodeError α) : Except DecodeError (Option α) :=
  match lookup members name with
  | some value => (read value).map some
  | none => .ok none

/-- Insists on a member that has been looked for. -/
def required {α : Type} (name : String) : Option α → Except DecodeError α
  | some a => .ok a
  | none => .error (.missingField name)

/-- Reads a field by its position in an array of fields. -/
def readElement {α : Type} (items : List Json) (index : Nat) (expected : String)
    (read : Json → Except DecodeError α) : Except DecodeError α :=
  match items[index]? with
  | some value => read value
  | none => .error (.invalidLength index expected)

/-- Insists that an array of fields has no item past the last field. -/
def noMore (items : List Json) (count : Nat) : Except DecodeError Unit :=
  if items.length ≤ count then .ok ()
  else .error (.invalidLength items.length "fewer elements in array")

/-- The description of a record type in an error message. -/
def recordName (name : String) : String :=
  "struct " ++ name

/-- The description of the array of fields of a record type. -/
def recordItems (name : String) (count : Nat) : String :=
  recordName name ++ " with " ++ Text.decimal count ++ " elements"

/-- Reads a record from an object or from an array of its fields. -/
def readRecord {α : Type} (name : String)
    (ofMembers : List (String × Json) → Except DecodeError α)
    (ofItems : List Json → Except DecodeError α) (value : Json) : Except DecodeError α :=
  match value with
  | .object members => ofMembers members
  | .array items => ofItems items
  | value => wrongType value (recordName name)

/-! ## Reading what was written -/

/-- A natural number below the limit is read from its JSON form. -/
theorem readNatural_encode {n limit : Nat} (expected : String) (h : n < limit)
    (hlimit : limit ≤ Word.limit) : readNatural expected limit (encode n) = .ok n := by
  simp [encode, readNatural, Number.numeral?_natural (Nat.lt_of_lt_of_le h hlimit), h]

/-- A string is read from its JSON form. -/
@[simp]
theorem readString_encode (s : String) : readString (encode s) = .ok s :=
  rfl

/-- Anything but null is read as the value that it stands for. -/
theorem readOptional_of_ne_null {α : Type} (read : Json → Except DecodeError α) {value : Json}
    (h : value ≠ .null) : readOptional read value = (read value).map some := by
  cases value with
  | null => exact absurd rfl h
  | _ => rfl

end Json
end EntitySql

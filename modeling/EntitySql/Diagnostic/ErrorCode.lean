import EntitySql.Json.Decode

/-!
# Error codes

Problems are numbered.  The codes 1 to 99 are errors in a query, reported to its
author; the codes 400 to 499 are internal, the fault of the calling program.  A
catalogue gives a description and sometimes a word of help to the codes in use.

Main results:

- Theorem `ErrorCode.isQueryError_iff` and theorem `ErrorCode.isInternalError_iff`: the two
  ranges of codes.
- Theorem `ErrorCode.not_isQueryError_of_isInternalError`: no code is in both ranges.
-/

namespace EntitySql

/-- The number of a kind of problem. -/
structure ErrorCode where
  number : UInt16
deriving DecidableEq, Repr

namespace ErrorCode

/-- The number of codes. -/
def limit : Nat := UInt16.size

/-- The code with a number. -/
def ofNat (n : Nat) : ErrorCode := ⟨UInt16.ofNat n⟩

/-- What the catalogue says about a code. -/
structure Entry where
  description : String
  help : Option String
deriving DecidableEq, Repr

/-- The catalogue of the codes in use. -/
def catalogue : List (ErrorCode × Entry) :=
  [ (⟨1⟩, ⟨"Unexpected token", none⟩),
    (⟨4⟩, ⟨"Undefined function", none⟩),
    (⟨5⟩, ⟨"Duplicate function definition", none⟩),
    (⟨401⟩,
      ⟨"Missing command tree",
        some "A parse result always wraps the command tree produced by semantic analysis"⟩),
    (⟨402⟩,
      ⟨"Missing function definitions",
        some "Pass an empty sequence when the query declares no inline functions"⟩),
    (⟨403⟩, ⟨"Missing function name", none⟩),
    (⟨404⟩, ⟨"Missing function lambda", none⟩),
    (⟨405⟩,
      ⟨"Invalid source span",
        some "The start position must not be greater than the end position"⟩),
    (⟨406⟩, ⟨"Source span out of bounds", none⟩),
    (⟨407⟩,
      ⟨"Duplicate command tree",
        some "A parse pass produces exactly one command tree"⟩) ]

/-- The entry of codes that the catalogue does not list. -/
def unknown : Entry := ⟨"Unknown error", none⟩

/-- The entry of a code, if the catalogue lists it. -/
def entry? (code : ErrorCode) : Option Entry :=
  catalogue.lookup code

/-- The entry of a code. -/
def entry (code : ErrorCode) : Entry :=
  code.entry?.getD unknown

/-- A short description of the problem. -/
def description (code : ErrorCode) : String :=
  code.entry.description

/-- A word of help, for some codes. -/
def help (code : ErrorCode) : Option String :=
  code.entry.help

/-- The code of an error in a query. -/
def isQueryError (code : ErrorCode) : Bool :=
  1 ≤ code.number && code.number < 100

/-- The code of a fault in the calling program. -/
def isInternalError (code : ErrorCode) : Bool :=
  400 ≤ code.number && code.number < 500

/-- The written form of a code has at least four digits. -/
def render (code : ErrorCode) : String :=
  "ESQL" ++ Text.decimalPadded 4 code.number.toNat

instance : Dump ErrorCode where
  dump code := Dump.tagged "ErrorCode" (dump code.number.toNat)

instance : Json.Encode ErrorCode where
  encode code := Json.encode code.number.toNat

instance : Json.Decode ErrorCode where
  decode value := (Json.readNatural "u16" limit value).map ofNat

/-- The codes 1 to 99 are errors in a query. -/
theorem isQueryError_iff {code : ErrorCode} :
    code.isQueryError = true ↔ 1 ≤ code.number.toNat ∧ code.number.toNat < 100 := by
  simp [isQueryError, UInt16.le_iff_toNat_le, UInt16.lt_iff_toNat_lt]

/-- The codes 400 to 499 are internal. -/
theorem isInternalError_iff {code : ErrorCode} :
    code.isInternalError = true ↔ 400 ≤ code.number.toNat ∧ code.number.toNat < 500 := by
  simp [isInternalError, UInt16.le_iff_toNat_le, UInt16.lt_iff_toNat_lt]

/-- An internal code is not the code of an error in a query. -/
theorem not_isQueryError_of_isInternalError {code : ErrorCode}
    (h : code.isInternalError = true) : code.isQueryError = false := by
  rw [isInternalError_iff] at h
  rw [← Bool.not_eq_true, isQueryError_iff]
  omega

end ErrorCode
end EntitySql

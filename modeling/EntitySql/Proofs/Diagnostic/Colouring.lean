import EntitySql.Diagnostic.Basic
import EntitySql.Proofs.Text.Stripping

/-!
# Colours of a diagnostic

The terminal text of a diagnostic is put together from pieces of the library,
some of them painted, and from a message and a word of help that may hold
anything, control sequences and beginnings of such included.  Behind the message
comes a blank, a line feed or the end, so nothing in the message can be completed
by the colours behind it, and the help comes last.  With its control sequences
taken out, the text is therefore the same with and without colours.

Main results:

- Theorem `Diagnostic.strip_terminalText`: the stripped text is the uncoloured text
  of the diagnostic whose message and help are stripped.
- Theorem `Diagnostic.onlyColours`: colours are all that colouring adds.
-/

namespace EntitySql

/-! ## Pieces of the library -/

/-- Texts without the escape character have none in their concatenation. -/
theorem Terminal.escapeChar_not_mem_append {s t : String} (hs : escapeChar ∉ s.toList)
    (ht : escapeChar ∉ t.toList) : escapeChar ∉ (s ++ t).toList := by
  rw [String.toList_append, List.mem_append, not_or]
  exact ⟨hs, ht⟩

/-- A numeral has digits only, so the escape character is not in it. -/
theorem Text.escapeChar_not_mem_decimal (n : Nat) :
    Terminal.escapeChar ∉ (decimal n).toList := by
  intro h
  rw [toList_decimal] at h
  have hdigit : Terminal.escapeChar.isDigit = true := isDigit_of_mem_digits h
  cases hdigit

/-- The zeros in front of a numeral bring no escape character. -/
theorem Text.escapeChar_not_mem_decimalPadded (width n : Nat) :
    Terminal.escapeChar ∉ (decimalPadded width n).toList := by
  have hzero : Terminal.escapeChar ≠ '0' := by decide
  have hdigits := escapeChar_not_mem_decimal n
  simpa [decimalPadded, List.leftpad, hzero] using hdigits

/-- Neither written severity has the escape character. -/
theorem Severity.escapeChar_not_mem_render (severity : Severity) :
    Terminal.escapeChar ∉ severity.render.toList := by
  cases severity <;> decide

/-- A written code has letters and digits only. -/
theorem ErrorCode.escapeChar_not_mem_render (code : ErrorCode) :
    Terminal.escapeChar ∉ code.render.toList := by
  apply Terminal.escapeChar_not_mem_append
  · decide
  · exact Text.escapeChar_not_mem_decimalPadded 4 code.number.toNat

/-- A written location has digits and a colon only. -/
theorem SourceLocation.escapeChar_not_mem_render (location : SourceLocation) :
    Terminal.escapeChar ∉ location.render.toList := by
  apply Terminal.escapeChar_not_mem_append
  · apply Terminal.escapeChar_not_mem_append
    · exact Text.escapeChar_not_mem_decimal location.line
    · decide
  · exact Text.escapeChar_not_mem_decimal location.column

namespace Diagnostic

open Terminal

theorem escapeChar_not_mem_placeText (location : SourceLocation) :
    escapeChar ∉ (placeText location).toList := by
  apply escapeChar_not_mem_append
  · decide
  · exact location.escapeChar_not_mem_render

/-! ## Details -/

/-- The place of a diagnostic is stripped to the uncoloured place. -/
theorem stripChars_terminalPlace_append (colouring : Bool) (location : Option SourceLocation)
    (more : List Char) :
    stripChars ((terminalPlace colouring location).toList ++ more) =
      (terminalPlace false location).toList ++ stripChars more := by
  cases location with
  | none => rfl
  | some location =>
    have hblank : escapeChar ∉ " ".toList := by decide
    have hplace := escapeChar_not_mem_placeText location
    simp only [terminalPlace, String.toList_append, List.append_assoc]
    rw [stripChars_append_of_not_mem hblank, stripChars_paint_append colouring .dimmed hplace]
    rfl

/-- The help of a diagnostic is stripped to the uncoloured line with the stripped help. -/
theorem stripChars_terminalHelp (colouring : Bool) (help : Option String) :
    stripChars (terminalHelp colouring help).toList =
      (terminalHelp false (help.map strip)).toList := by
  cases help with
  | none => simp [terminalHelp, stripChars]
  | some help =>
    have hbreak : escapeChar ∉ "\n  ".toList := by decide
    have hword : escapeChar ∉ "help".toList := by decide
    have hcolon : escapeChar ∉ ": ".toList := by decide
    simp only [terminalHelp, String.toList_append, List.append_assoc]
    rw [stripChars_append_of_not_mem hbreak, stripChars_paint_append colouring .cyan hword,
      stripChars_append_of_not_mem hcolon]
    simp [strip]

/-- Behind the message comes a blank, a line feed or nothing. -/
theorem stops_details (colouring : Bool) (location : Option SourceLocation)
    (help : Option String) :
    Text.Stops continues
      ((terminalPlace colouring location).toList ++ (terminalHelp colouring help).toList) := by
  cases location with
  | some location =>
    simp only [terminalPlace, String.toList_append, List.append_assoc]
    exact Text.stops_cons rfl _
  | none =>
    cases help with
    | some help =>
      simp only [terminalHelp, String.toList_append, List.append_assoc]
      exact Text.stops_cons rfl _
    | none => exact Text.stops_nil continues

/-! ## The whole text -/

/-- The diagnostic with the control sequences of its message and help taken out. -/
def stripped (d : Diagnostic) : Diagnostic :=
  { d with message := strip d.message, help := d.help.map strip }

/-- Stripping the terminal text is stripping the message and the help and leaving out the colours. -/
theorem strip_terminalText (colouring : Bool) (d : Diagnostic) :
    strip (d.terminalText colouring) = d.stripped.terminalText false := by
  have hseverity := d.severity.escapeChar_not_mem_render
  have hcode := d.code.escapeChar_not_mem_render
  have hopening : escapeChar ∉ "[".toList := by decide
  have hclosing : escapeChar ∉ "]: ".toList := by decide
  rw [← String.toList_inj, strip, String.toList_ofList]
  simp only [terminalText, String.toList_append, List.append_assoc]
  rw [stripChars_paint_append colouring _ hseverity, stripChars_append_of_not_mem hopening,
    stripChars_append_of_not_mem hcode, stripChars_append_of_not_mem hclosing,
    stripChars_append _ (stops_details colouring d.location d.help),
    stripChars_terminalPlace_append, stripChars_terminalHelp]
  simp [stripped, strip]

/-- A diagnostic whose message and help have no escape character loses nothing. -/
theorem stripped_eq_self {d : Diagnostic} (hmessage : escapeChar ∉ d.message.toList)
    (hhelp : ∀ help, d.help = some help → escapeChar ∉ help.toList) : d.stripped = d := by
  obtain ⟨severity, code, message, location, help⟩ := d
  cases help with
  | none => simp [stripped, strip_eq_self hmessage]
  | some help => simp [stripped, strip_eq_self hmessage, strip_eq_self (hhelp help rfl)]

/-- Colours are all that colouring adds to the text of a diagnostic. -/
structure OnlyColours (d : Diagnostic) : Prop where
  /-- With their control sequences taken out, the coloured and the uncoloured text are the same. -/
  same : strip (d.terminalText true) = strip (d.terminalText false)
  /-- They are the uncoloured text itself if message and help have no escape character. -/
  plain : escapeChar ∉ d.message.toList →
    (∀ help, d.help = some help → escapeChar ∉ help.toList) →
      strip (d.terminalText true) = d.terminalText false

/-- Colouring adds colours only, whatever control sequences or parts of such the texts hold. -/
theorem onlyColours (d : Diagnostic) : OnlyColours d where
  same := by rw [strip_terminalText, strip_terminalText]
  plain hmessage hhelp := by rw [strip_terminalText, stripped_eq_self hmessage hhelp]

end Diagnostic
end EntitySql

import EntitySql.Proofs.Query.Layout
import EntitySql.Proofs.Text.Stops
import EntitySql.Query.Reading

/-!
# Decompositions of a query

A query is taken apart into entries, each a declaration with the blanks before
it, the blanks behind the last entry, and the statement.  Reading a query finds
such a decomposition, and there is only one.  A text that cannot be read to its
end has entries too: those before the declaration that is malformed.

Main results:

- Theorem `Reading.scan_entries_append`: entries are read one after the other.
- Theorem `Reading.exists_entries_of_scan`: what is read from any text, to its
  end or to a malformed declaration.
- Theorem `Decomposition.scan_text` and `Decomposition.exists_of_scan`: a text is
  read to its end exactly when it has a decomposition.
- Theorem `Decomposition.text_injective`: a text has at most one decomposition.
-/

namespace EntitySql

/-! ## Entries -/

/-- Every character of a text is a blank. -/
def Blank (text : List Char) : Prop :=
  ∀ c ∈ text, Text.isBlank c = true

instance (text : List Char) : Decidable (Blank text) :=
  decidable_of_iff (text.all Text.isBlank = true) List.all_eq_true

/-- A declaration with the blanks before it. -/
structure Entry where
  blanks : List Char
  declaration : Declaration
deriving DecidableEq, Repr

namespace Entry

/-- The written form of an entry. -/
def text (e : Entry) : List Char :=
  e.blanks ++ e.declaration.text

/-- Blanks are blank, and the declaration is well formed. -/
structure WellFormed (e : Entry) : Prop where
  blanks : Blank e.blanks
  declaration : e.declaration.WellFormed

instance (e : Entry) : Decidable e.WellFormed :=
  decidable_of_iff (Blank e.blanks ∧ e.declaration.WellFormed)
    ⟨fun h => ⟨h.1, h.2⟩, fun h => ⟨h.blanks, h.declaration⟩⟩

/-- The written form of entries that follow each other. -/
def textAll (entries : List Entry) : List Char :=
  entries.flatMap text

/-- The declarations of entries that follow each other, each with its offset. -/
def placedFrom (offset : Nat) : List Entry → List Placed
  | [] => []
  | e :: rest =>
    ⟨e.declaration, offset + e.blanks.length⟩ :: placedFrom (offset + e.text.length) rest

@[simp]
theorem textAll_nil : textAll [] = [] :=
  rfl

@[simp]
theorem textAll_cons (e : Entry) (rest : List Entry) :
    textAll (e :: rest) = e.text ++ textAll rest :=
  rfl

/-- An entry has its blanks and its declaration. -/
theorem length_text (e : Entry) :
    e.text.length = e.blanks.length + e.declaration.text.length :=
  List.length_append

/-- Every declaration lies within the text of its entries. -/
theorem bounds_of_mem_placedFrom {entries : List Entry} {offset : Nat} {p : Placed}
    (h : p ∈ placedFrom offset entries) :
    offset ≤ p.offset ∧ p.span.stop ≤ offset + (textAll entries).length := by
  induction entries generalizing offset with
  | nil => cases h
  | cons e rest ih =>
    rw [textAll_cons, List.length_append, length_text]
    rcases List.mem_cons.1 h with rfl | hmem
    · simp only [Placed.span]
      omega
    · rcases ih hmem with ⟨hoffset, hstop⟩
      rw [length_text] at hoffset hstop
      omega

/-- Every declaration ends before those that are placed after it begin. -/
theorem pairwise_placedFrom (offset : Nat) (entries : List Entry) :
    (placedFrom offset entries).Pairwise fun p q => p.span.stop ≤ q.offset := by
  induction entries generalizing offset with
  | nil => exact List.Pairwise.nil
  | cons e rest ih =>
    rw [placedFrom, List.pairwise_cons]
    refine ⟨?_, ih _⟩
    intro q hq
    have hoffset := (bounds_of_mem_placedFrom hq).1
    rw [length_text, ← Nat.add_assoc] at hoffset
    exact hoffset

/-- Entries are determined by where their declarations are placed in a text. -/
theorem eq_of_placedFrom_eq {es fs : List Entry} {offset : Nat} {s t : List Char}
    (hplaced : placedFrom offset es = placedFrom offset fs)
    (htext : textAll es ++ s = textAll fs ++ t) : es = fs ∧ s = t := by
  induction es generalizing fs offset with
  | nil =>
    cases fs with
    | nil => exact ⟨rfl, htext⟩
    | cons f fs => simp [placedFrom] at hplaced
  | cons e es ih =>
    cases fs with
    | nil => simp [placedFrom] at hplaced
    | cons f fs =>
      simp only [placedFrom, List.cons.injEq, Placed.mk.injEq] at hplaced
      rcases hplaced with ⟨⟨hdeclaration, hoffset⟩, hrest⟩
      simp only [textAll_cons, text, hdeclaration, List.append_assoc] at htext
      have hlength : e.blanks.length = f.blanks.length := by omega
      rcases List.append_inj htext hlength with ⟨hblanks, htail⟩
      have he : e = f := by
        cases e
        cases f
        exact (Entry.mk.injEq ..).mpr ⟨hblanks, hdeclaration⟩
      subst he
      rcases ih hrest (List.append_cancel_left htail) with ⟨rfl, hst⟩
      exact ⟨rfl, hst⟩

end Entry

/-! ## Statements -/

/-- A statement is empty, or begins neither with a blank nor with the keyword of a declaration. -/
structure IsStatement (text : List Char) : Prop where
  head : ∀ c rest, text = c :: rest → Text.isBlank c = false
  keyword : ¬ Declaration.keyword <+: text

/-- No declaration is ahead exactly when the text does not begin with the keyword. -/
theorem isAhead_eq_false_iff {text : List Char} :
    Declaration.isAhead text = false ↔ ¬ Declaration.keyword <+: text := by
  rw [Declaration.isAhead, ← List.isPrefixOf_iff_prefix, Bool.not_eq_true]

/-- What is left without the blanks in front does not begin with one. -/
theorem isBlank_head_dropWhile {text rest : List Char} {c : Char}
    (h : text.dropWhile Text.isBlank = c :: rest) : Text.isBlank c = false := by
  have hhead := List.head_dropWhile_not Text.isBlank (l := text) (by simp [h])
  simpa [h] using hhead

/-- The blanks in front of a text are blank. -/
theorem blank_takeWhile (text : List Char) : Blank (text.takeWhile Text.isBlank) := by
  exact fun c hc => List.all_eq_true.1 List.all_takeWhile c hc

/-- A text with a keyword ahead does not begin with a blank. -/
theorem isBlank_head_of_isAhead {text rest : List Char} {c : Char}
    (hahead : Declaration.isAhead text = true) (h : text = c :: rest) :
    Text.isBlank c = false := by
  rcases Declaration.exists_of_isAhead hahead with ⟨behind, hbehind⟩
  rw [h, Declaration.keyword, List.cons_append, List.cons.injEq] at hbehind
  rw [hbehind.1]
  decide

namespace Reading

/-! ## Reading what is written -/

/-- Declarations in front of those that are read after them. -/
def prependAll (placed : List Placed) (r : Reading) : Reading :=
  { r with declarations := placed ++ r.declarations }

/-- Blanks are skipped and counted. -/
theorem scan_blanks_append {blanks : List Char} (h : Blank blanks) (offset : Nat)
    (text : List Char) : scan offset (blanks ++ text) = scan (offset + blanks.length) text := by
  rw [scan, scan.eq_def (offset + blanks.length)]
  simp only [List.takeWhile_append_of_pos h, List.dropWhile_append_of_pos h, List.length_append,
    Nat.add_assoc]

/-- A well-formed declaration is read, and reading goes on after it. -/
theorem scan_declaration_append {d : Declaration} (h : d.WellFormed) (offset : Nat)
    (rest : List Char) :
    scan offset (d.text ++ rest) = prepend ⟨d, offset⟩ (scan (offset + d.text.length) rest) := by
  have hahead := d.isAhead_text_append rest
  have hhead : Text.Stops Text.isBlank (d.text ++ rest) :=
    fun _ _ => isBlank_head_of_isAhead hahead
  have hdrop := Text.dropWhile_eq_self_of_stops hhead
  have hfind : Layout.find ((d.text ++ rest).dropWhile Text.isBlank) = .ok d.layout := by
    rw [hdrop]
    exact Layout.find_text_append h rest
  rw [scan_of_find (by rw [hdrop]; exact hahead) hfind]
  rw [hdrop, Text.takeWhile_eq_nil_of_stops hhead, Layout.declaration_layout, d.length_layout,
    List.drop_left]
  rfl

/-- A statement is read as it stands, with no declaration before it. -/
theorem scan_statement {statement : List Char} (h : IsStatement statement) (offset : Nat) :
    scan offset statement = ⟨[], .ok statement⟩ := by
  have hdrop := Text.dropWhile_eq_self_of_stops h.head
  have hahead := isAhead_eq_false_iff.2 h.keyword
  rw [scan_of_not_isAhead (by rw [hdrop]; exact hahead), hdrop]

/-- Entries are read one after the other. -/
theorem scan_entries_append {entries : List Entry} (h : ∀ e ∈ entries, e.WellFormed)
    (offset : Nat) (rest : List Char) :
    scan offset (Entry.textAll entries ++ rest) =
      prependAll (Entry.placedFrom offset entries)
        (scan (offset + (Entry.textAll entries).length) rest) := by
  induction entries generalizing offset with
  | nil => rfl
  | cons e entries ih =>
    rcases List.forall_mem_cons.1 h with ⟨he, hentries⟩
    rw [Entry.textAll_cons, Entry.text, List.append_assoc, List.append_assoc,
      scan_blanks_append he.blanks, scan_declaration_append he.declaration, ih hentries]
    simp only [prepend, prependAll, Entry.placedFrom, Entry.length_text, List.length_append,
      List.cons_append, Nat.add_assoc]

/-! ## What is read -/

/-- How the reading of a text ends that lies ahead: with a statement, or with a declaration that is
malformed. -/
def EndsAt (ahead : List Char) : Except Malformed (List Char) → Prop
  | .ok statement => statement = ahead ∧ IsStatement ahead
  | .error fault => Declaration.isAhead ahead = true ∧ Layout.find ahead = .error fault

/-- Any text consists of the entries that are read, of blanks, and of what ends the reading. -/
theorem exists_entries_of_scan (offset : Nat) (text : List Char) :
    ∃ entries blanks ahead, (∀ e ∈ entries, Entry.WellFormed e) ∧ Blank blanks ∧
      text = Entry.textAll entries ++ (blanks ++ ahead) ∧
      (scan offset text).declarations = Entry.placedFrom offset entries ∧
      EndsAt ahead (scan offset text).ending := by
  -- Each declaration that is found leaves a shorter text to be read.
  induction hlength : text.length using Nat.strongRecOn generalizing offset text with
  | ind n ih =>
    have hsplit : text = text.takeWhile Text.isBlank ++ text.dropWhile Text.isBlank :=
      List.takeWhile_append_dropWhile.symm
    cases hahead : Declaration.isAhead (text.dropWhile Text.isBlank) with
    | false =>
      rw [scan_of_not_isAhead hahead]
      refine ⟨[], _, _, by simp, blank_takeWhile text, hsplit, rfl, rfl, ?_, ?_⟩
      · exact fun c rest => isBlank_head_dropWhile
      · exact isAhead_eq_false_iff.1 hahead
    | true =>
      cases hfind : Layout.find (text.dropWhile Text.isBlank) with
      | error fault =>
        rw [scan_of_malformed hahead hfind]
        exact ⟨[], _, _, by simp, blank_takeWhile text, hsplit, rfl, hahead, hfind⟩
      | ok layout =>
        rcases Layout.exists_text_of_find hahead hfind with ⟨d, rest, hd, hrest, -⟩
        rw [hrest] at hsplit
        have hshorter : rest.length < n := by
          rw [← hlength, hsplit]
          simp [Declaration.length_text]
          omega
        rw [hsplit, scan_blanks_append (blank_takeWhile text), scan_declaration_append hd]
        obtain ⟨entries, blanks, ahead, hentries, hblanks, htext, hplaced, hending⟩ :=
          ih rest.length hshorter (offset + (text.takeWhile Text.isBlank).length + d.text.length)
            rest rfl
        refine ⟨⟨text.takeWhile Text.isBlank, d⟩ :: entries, blanks, ahead, ?_, hblanks, ?_, ?_,
          hending⟩
        · exact List.forall_mem_cons.2 ⟨⟨blank_takeWhile text, hd⟩, hentries⟩
        · rw [Entry.textAll_cons, Entry.text, List.append_assoc, List.append_assoc, ← htext]
        · rw [Entry.placedFrom, Entry.length_text, ← Nat.add_assoc, ← hplaced]
          rfl

end Reading

/-! ## Decompositions -/

/-- A query taken apart: entries, the blanks behind them, and a statement. -/
structure Decomposition where
  entries : List Entry
  blanks : List Char
  statement : List Char
deriving DecidableEq, Repr

namespace Decomposition

/-- The text that is taken apart. -/
def text (d : Decomposition) : List Char :=
  Entry.textAll d.entries ++ (d.blanks ++ d.statement)

/-- Every part of a decomposition is what its name says. -/
structure WellFormed (d : Decomposition) : Prop where
  entries : ∀ e ∈ d.entries, e.WellFormed
  blanks : Blank d.blanks
  statement : IsStatement d.statement

/-- A text with a decomposition is read to its end. -/
theorem scan_text {d : Decomposition} (h : d.WellFormed) (offset : Nat) :
    Reading.scan offset d.text = ⟨Entry.placedFrom offset d.entries, .ok d.statement⟩ := by
  rw [text, Reading.scan_entries_append h.entries, Reading.scan_blanks_append h.blanks,
    Reading.scan_statement h.statement]
  simp [Reading.prependAll]

/-- A text that is read to its end has a decomposition. -/
theorem exists_of_scan {offset : Nat} {text statement : List Char}
    (h : (Reading.scan offset text).ending = .ok statement) :
    ∃ d : Decomposition, d.WellFormed ∧ d.text = text ∧ d.statement = statement ∧
      (Reading.scan offset text).declarations = Entry.placedFrom offset d.entries := by
  obtain ⟨entries, blanks, ahead, hentries, hblanks, htext, hplaced, hending⟩ :=
    Reading.exists_entries_of_scan offset text
  rw [h] at hending
  rcases hending with ⟨rfl, hstatement⟩
  exact ⟨⟨entries, blanks, statement⟩, ⟨hentries, hblanks, hstatement⟩, htext.symm, rfl, hplaced⟩

/-- A text has at most one decomposition. -/
theorem text_injective {d e : Decomposition} (hd : d.WellFormed) (he : e.WellFormed)
    (h : d.text = e.text) : d = e := by
  have hscan := scan_text hd 0
  rw [h, scan_text he 0, Reading.mk.injEq, Except.ok.injEq] at hscan
  rcases hscan with ⟨hplaced, hstatement⟩
  rcases Entry.eq_of_placedFrom_eq hplaced.symm h with ⟨hentries, hrest⟩
  rw [hstatement] at hrest
  cases d
  cases e
  exact (Decomposition.mk.injEq ..).mpr
    ⟨hentries, List.append_cancel_right hrest, hstatement.symm⟩

end Decomposition
end EntitySql

import EntitySql.Json.Reading
import EntitySql.Proofs.Json.Literals

/-!
# Reading the text of a value

The text of a value is read in two stages.  Cut into tokens it gives the tokens
of the value, since what is written between two tokens keeps names and numbers
apart.  The machine that reads the tokens goes from the place where a value is
due to the same place with the value complete, whatever is open around it.  So
the text of a value is read as this value, and different values have different
texts.

Main results:

- Theorem `Json.Token.scan?_text_append`: a token is read from its text.
- Theorem `Json.scan?_tokens`: the text of a value is cut into its tokens.
- Theorem `Json.Progress.run?_tokens`: the tokens of a value complete it.
- Theorem `Json.parse?_text`: the text of a value is read as this value.
- Theorem `Json.text_injective`: different values have different texts.
-/

namespace EntitySql
namespace Json

/-- A value whose numbers are well formed, at any depth. -/
inductive WellFormed : Json → Prop
  | null : WellFormed .null
  | bool (b : Bool) : WellFormed (.bool b)
  | number {n : Number} (h : n.WellFormed) : WellFormed (.number n)
  | string (s : String) : WellFormed (.string s)
  | array {items : List Json} (h : ∀ item ∈ items, WellFormed item) : WellFormed (.array items)
  | object {members : List (String × Json)} (h : ∀ m ∈ members, WellFormed m.2) :
    WellFormed (.object members)

/-- The fields of a well-formed object make a well-formed array. -/
theorem WellFormed.fields {members : List (String × Json)} (h : (Json.object members).WellFormed) :
    (Json.array (members.map Prod.snd)).WellFormed := by
  cases h with
  | object h =>
    refine .array fun item hitem => ?_
    rcases List.mem_map.1 hitem with ⟨m, hm, rfl⟩
    exact h m hm

section Encode

variable {α : Type} [Encode α]

@[simp]
theorem wellFormed_encode_nat (n : Nat) : (encode n).WellFormed :=
  .number (Number.wellFormed_natural n)

@[simp]
theorem wellFormed_encode_string (s : String) : (encode s).WellFormed :=
  .string s

/-- An optional value is well formed if the value is. -/
theorem wellFormed_encode_option (h : ∀ a : α, (encode a).WellFormed) (o : Option α) :
    (encode o).WellFormed := by
  cases o with
  | none => exact .null
  | some a => exact h a

/-- A list is well formed if its items are. -/
theorem wellFormed_encode_list (h : ∀ a : α, (encode a).WellFormed) (items : List α) :
    (encode items).WellFormed := by
  refine .array ?_
  simpa using fun a _ => h a

end Encode

/-! ## Tokens -/

namespace Token

/-- A number token is well formed if its number is. -/
def WellFormed : Token → Prop
  | .number n => n.WellFormed
  | _ => True

/-- The tokens that end only where the text stops having characters of names and numbers. -/
def isWord : Token → Bool
  | .null | .bool _ | .number _ => true
  | _ => false

/-- Digits occur in names and numbers. -/
theorem isWordChar_of_isDigit {c : Char} (h : c.isDigit = true) : isWordChar c = true := by
  simp [isWordChar, Char.isAlphanum, h]

/-- A number literal consists of characters of names and numbers. -/
theorem isWordChar_of_mem_text {n : Number} (h : n.WellFormed) {c : Char} (hc : c ∈ n.text) :
    isWordChar c = true := by
  have hdigits : ∀ m, c ∈ Text.digits m → isWordChar c = true := by
    intro m hm
    exact isWordChar_of_isDigit (Text.isDigit_of_mem_digits hm)
  simp only [Number.text, List.mem_append] at hc
  rcases hc with ((hsign | hwhole) | hfraction) | hexponent
  · split at hsign
    · rw [List.mem_singleton.1 hsign]
      decide
    · cases hsign
  · exact hdigits n.whole hwhole
  · cases hdigitsOf : n.fraction with
    | none =>
      rw [hdigitsOf] at hfraction
      cases hfraction
    | some digits =>
      rw [hdigitsOf] at hfraction
      rcases List.mem_cons.1 hfraction with rfl | hmem
      · decide
      · exact isWordChar_of_isDigit ((h digits hdigitsOf).2 c hmem)
  · rcases hof : n.exponent with - | (m | m)
    · rw [hof] at hexponent
      cases hexponent
    · rw [hof] at hexponent
      rcases List.mem_cons.1 hexponent with rfl | hmem
      · decide
      · exact hdigits m hmem
    · rw [hof] at hexponent
      rcases List.mem_cons.1 hexponent with rfl | hmem
      · decide
      · rcases List.mem_cons.1 hmem with rfl | hmem
        · decide
        · exact hdigits (m + 1) hmem

/-- A number literal is not a name: it begins with its sign or with a digit. -/
theorem text_ne_cons (n : Number) {c : Char} (hc : c.isDigit = false) (hsign : c ≠ '-')
    (rest : List Char) : n.text ≠ c :: rest := by
  intro h
  unfold Number.text at h
  cases hnegative : n.negative with
  | true =>
    rw [hnegative] at h
    exact hsign (List.cons.inj h).1.symm
  | false =>
    rw [hnegative, if_neg (by decide), List.nil_append] at h
    cases hdigits : Text.digits n.whole with
    | nil => exact Text.digits_ne_nil n.whole hdigits
    | cons d run =>
      rw [hdigits] at h
      rw [(List.cons.inj h).1] at hdigits
      exact Text.digits_ne_cons hc n.whole run hdigits

/-- The text of a number is the word of this number, not one of the three names. -/
theorem ofWord?_text {n : Number} (h : n.WellFormed) : ofWord? n.text = some (.number n) := by
  have hnull : n.text ≠ Token.null.text := text_ne_cons n (by decide) (by decide) _
  have htrue : n.text ≠ (Token.bool true).text := text_ne_cons n (by decide) (by decide) _
  have hfalse : n.text ≠ (Token.bool false).text := text_ne_cons n (by decide) (by decide) _
  rw [ofWord?, if_neg hnull, if_neg htrue, if_neg hfalse, Number.parse?_text h]
  rfl

/-! ## Cutting a text into tokens -/

/-- A character of punctuation is a token by itself. -/
theorem scan?_punctuation {c : Char} {token : Token} (h : punctuation? c = some token)
    (rest : List Char) : scan? (c :: rest) = (scan? rest).map (token :: ·) := by
  have hspace : isSpace c = false := by
    cases hc : isSpace c with
    | false => rfl
    | true =>
      simp only [isSpace, Bool.or_eq_true, beq_iff_eq] at hc
      rcases hc with ((rfl | rfl) | rfl) | rfl <;> cases h
  have hquote : c ≠ '"' := by
    rintro rfl
    cases h
  rw [scan?]
  simp [hspace, hquote, h]

/-- A word is a token up to where the text stops having characters of words. -/
theorem scan?_word {c : Char} {word rest : List Char} {token : Token}
    (hword : ∀ d ∈ c :: word, isWordChar d = true) (hrest : Text.Stops isWordChar rest)
    (htoken : ofWord? (c :: word) = some token) :
    scan? (c :: word ++ rest) = (scan? rest).map (token :: ·) := by
  have hc : isWordChar c = true := hword c List.mem_cons_self
  have hother : ∀ d, isWordChar d = false → c ≠ d := by
    rintro d hd rfl
    rw [hc] at hd
    cases hd
  have hspace : isSpace c = false := by
    simp [isSpace, hother ' ' rfl, hother '\t' rfl, hother '\n' rfl, hother '\r' rfl]
  have hquote : c ≠ '"' := hother '"' rfl
  have hpunctuation : punctuation? c = none := by
    simp [punctuation?, hother '[' rfl, hother ']' rfl, hother '\x7b' rfl, hother '\x7d' rfl,
      hother ',' rfl, hother ':' rfl]
  have htail : ∀ d ∈ word, isWordChar d = true := fun d hd => hword d (List.mem_cons_of_mem c hd)
  rw [List.cons_append, scan?]
  simp [hspace, hquote, hpunctuation, hc, Text.takeWhile_append_of_stops htail hrest,
    Text.dropWhile_append_of_stops htail hrest, htoken]

/-- A string is a token up to its closing quote. -/
theorem scan?_string (s : String) (rest : List Char) :
    scan? ((Token.string s).text ++ rest) = (scan? rest).map (.string s :: ·) := by
  have hread := Quoted.read?_encode_append s.toList rest
  have htext : (Token.string s).text ++ rest = '"' :: (Quoted.encode s.toList ++ '"' :: rest) := by
    simp [Token.text]
  rw [htext, scan?, if_neg (by decide), if_pos rfl]
  split
  next content left heq =>
    rw [hread] at heq
    cases heq
    rw [String.ofList_toList]
  next heq =>
    rw [hread] at heq
    cases heq

/-- A token is read from its text; a name or a number ends where the text stops. -/
theorem scan?_text_append {t : Token} (h : t.WellFormed) {rest : List Char}
    (hrest : t.isWord = true → Text.Stops isWordChar rest) :
    scan? (t.text ++ rest) = (scan? rest).map (t :: ·) := by
  cases t with
  | openArray => exact scan?_punctuation rfl rest
  | closeArray => exact scan?_punctuation rfl rest
  | openObject => exact scan?_punctuation rfl rest
  | closeObject => exact scan?_punctuation rfl rest
  | comma => exact scan?_punctuation rfl rest
  | colon => exact scan?_punctuation rfl rest
  | null => exact scan?_word (List.all_eq_true.1 rfl) (hrest rfl) rfl
  | bool b => cases b <;> exact scan?_word (List.all_eq_true.1 rfl) (hrest rfl) rfl
  | string s => exact scan?_string s rest
  | number n =>
    have hword : ∀ c ∈ n.text, isWordChar c = true := fun _ => isWordChar_of_mem_text h
    have htoken := ofWord?_text h
    change scan? (n.text ++ rest) = _
    cases htext : n.text with
    | nil =>
      rw [htext] at htoken
      cases htoken
    | cons c word =>
      rw [htext] at hword htoken
      exact scan?_word hword (hrest rfl) htoken

/-- Tokens that are read from their text, wherever no name or number follows. -/
def ScansBack (tokens : List Token) : Prop :=
  ∀ rest, Text.Stops isWordChar rest →
    scan? (tokens.flatMap text ++ rest) = (scan? rest).map (tokens ++ ·)

/-- No tokens are read from no text. -/
theorem scansBack_nil : ScansBack [] := by
  intro rest _
  rw [List.flatMap_nil, List.nil_append]
  simp

/-- A token is read from its text. -/
theorem scansBack_singleton {t : Token} (h : t.WellFormed) : ScansBack [t] := by
  intro rest hrest
  rw [List.flatMap_singleton]
  exact scan?_text_append h fun _ => hrest

/-- A separator keeps the tokens before it apart from those behind it. -/
theorem ScansBack.join {before behind : List Token} {separator : Token} {c : Char}
    (hbefore : ScansBack before) (hseparator : punctuation? c = some separator)
    (htext : separator.text = [c]) (hc : isWordChar c = false) (hbehind : ScansBack behind) :
    ScansBack (before ++ separator :: behind) := by
  intro rest hrest
  have hstops : Text.Stops isWordChar (c :: (behind.flatMap text ++ rest)) := Text.stops_cons hc _
  have hsplit : (before ++ separator :: behind).flatMap text ++ rest =
      before.flatMap text ++ c :: (behind.flatMap text ++ rest) := by
    simp [htext]
  rw [hsplit, hbefore _ hstops, scan?_punctuation hseparator, hbehind rest hrest]
  simp [Option.map_map, Function.comp_def]

end Token

/-! ## The tokens of a value -/

open Token in
/-- The items of an array are read back with the commas between them. -/
theorem scansBack_itemTokens {items : List Json} (h : ∀ item ∈ items, ScansBack item.tokens) :
    ScansBack (itemTokens items) := by
  induction items with
  | nil => exact scansBack_nil
  | cons item items ih =>
    have hitem : ScansBack item.tokens := h item List.mem_cons_self
    cases items with
    | nil => exact hitem
    | cons next items =>
      refine hitem.join (c := ',') rfl rfl rfl (ih ?_)
      exact fun other hother => h other (List.mem_cons_of_mem item hother)

open Token in
/-- The members of an object are read back with their names, colons and commas. -/
theorem scansBack_memberTokens {members : List (String × Json)}
    (h : ∀ m ∈ members, ScansBack m.2.tokens) : ScansBack (memberTokens members) := by
  induction members with
  | nil => exact scansBack_nil
  | cons member members ih =>
    obtain ⟨key, value⟩ := member
    have hkey : ScansBack [.string key] := scansBack_singleton trivial
    have hvalue : ScansBack value.tokens := h (key, value) List.mem_cons_self
    have hmember : ScansBack ([.string key] ++ .colon :: value.tokens) :=
      hkey.join (c := ':') rfl rfl rfl hvalue
    cases members with
    | nil => exact hmember
    | cons next members =>
      refine hmember.join (c := ',') rfl rfl rfl (ih ?_)
      exact fun other hother => h other (List.mem_cons_of_mem (key, value) hother)

/-- The text of a value is cut into the tokens of the value. -/
theorem scansBack_tokens {v : Json} (h : v.WellFormed) : Token.ScansBack v.tokens := by
  induction h with
  | null => exact Token.scansBack_singleton trivial
  | bool b => exact Token.scansBack_singleton trivial
  | number h => exact Token.scansBack_singleton h
  | string s => exact Token.scansBack_singleton trivial
  | array _ ih =>
    have hitems := scansBack_itemTokens ih
    have hopened := Token.scansBack_nil.join (c := '[') rfl rfl rfl hitems
    exact hopened.join (c := ']') rfl rfl rfl Token.scansBack_nil
  | object _ ih =>
    have hmembers := scansBack_memberTokens ih
    have hopened := Token.scansBack_nil.join (c := '\x7b') rfl rfl rfl hmembers
    exact hopened.join (c := '\x7d') rfl rfl rfl Token.scansBack_nil

/-- The text of a value is cut into its tokens. -/
theorem scan?_tokens {v : Json} (h : v.WellFormed) :
    Token.scan? v.text.toList = some v.tokens := by
  have hscan := scansBack_tokens h [] (Text.stops_nil _)
  rw [text_eq, ← List.append_nil (v.tokens.flatMap Token.text), hscan]
  simp

/-! ## The value of the tokens -/

namespace Progress

/-- The first item of an array is read as a later one is, unless the array ends. -/
theorem run?_firstItem {token : Token} (h : token ≠ .closeArray) (stack : List Frame)
    (tokens : List Token) :
    (firstItem stack).run? (token :: tokens) =
      (due (.array [] :: stack)).run? (token :: tokens) := by
  cases token with
  | closeArray => exact absurd rfl h
  | _ => rfl

/-- No value begins with the end of an array. -/
theorem exists_cons_tokens (v : Json) :
    ∃ token tokens, v.tokens = token :: tokens ∧ token ≠ .closeArray := by
  cases v <;> exact ⟨_, _, rfl, nofun⟩

/-- The first token of an item does not close the array. -/
theorem exists_cons_itemTokens (item : Json) (items : List Json) :
    ∃ token tokens, itemTokens (item :: items) = token :: tokens ∧ token ≠ .closeArray := by
  rcases exists_cons_tokens item with ⟨token, tokens, htokens, hne⟩
  cases items with
  | nil => exact ⟨token, tokens, htokens, hne⟩
  | cons next items =>
    refine ⟨token, tokens ++ .comma :: itemTokens (next :: items), ?_, hne⟩
    rw [itemTokens, htokens, List.cons_append]

/-- The members of an object begin with a name. -/
theorem exists_cons_memberTokens (member : String × Json) (members : List (String × Json)) :
    ∃ key tokens, memberTokens (member :: members) = .string key :: tokens := by
  obtain ⟨key, value⟩ := member
  cases members <;> exact ⟨key, _, rfl⟩

/-- A value that is due is complete after its tokens, whatever is open around it. -/
def Completes (v : Json) : Prop :=
  ∀ stack, (due stack).run? v.tokens = some (complete v stack)

/-- The items that are left are added to those that have been read, and complete the array. -/
theorem run?_itemTokens {items : List Json} {item : Json} (hitem : Completes item)
    (hitems : ∀ other ∈ items, Completes other) (read : List Json) (stack : List Frame) :
    (due (.array read :: stack)).run? (itemTokens (item :: items) ++ [.closeArray]) =
      some (complete (.array (read.reverse ++ item :: items)) stack) := by
  induction items generalizing item read with
  | nil =>
    rw [run_append, itemTokens, hitem]
    simp [run?, step?, continue?]
  | cons next items ih =>
    rw [List.forall_mem_cons] at hitems
    have hrest := ih hitems.1 hitems.2 (item :: read)
    rw [itemTokens, List.append_assoc, run_append, hitem]
    simpa [run?, step?, continue?] using hrest

/-- The members that are left are added to those that have been read, and complete the object. -/
theorem run?_memberTokens {members : List (String × Json)} {member : String × Json}
    (hmember : Completes member.2) (hmembers : ∀ other ∈ members, Completes other.2)
    (read : List (String × Json)) (stack : List Frame) :
    (name read stack).run? (memberTokens (member :: members) ++ [.closeObject]) =
      some (complete (.object (read.reverse ++ member :: members)) stack) := by
  induction members generalizing member read with
  | nil =>
    obtain ⟨key, value⟩ := member
    have hvalue := hmember (.member read key :: stack)
    simp [memberTokens, run?, step?, run_append, hvalue, continue?]
  | cons next members ih =>
    obtain ⟨key, value⟩ := member
    rw [List.forall_mem_cons] at hmembers
    have hvalue := hmember (.member read key :: stack)
    have hrest := ih hmembers.1 hmembers.2 ((key, value) :: read)
    simpa [memberTokens, run?, step?, run_append, hvalue, continue?] using hrest

/-- An array is complete when its items are. -/
theorem completes_array {items : List Json} (h : ∀ item ∈ items, Completes item) :
    Completes (.array items) := by
  intro stack
  cases items with
  | nil => rfl
  | cons item items =>
    rw [List.forall_mem_cons] at h
    have hitems := run?_itemTokens h.1 h.2 [] stack
    rcases exists_cons_itemTokens item items with ⟨token, tokens, htokens, hne⟩
    change (firstItem stack).run? (itemTokens (item :: items) ++ [.closeArray]) = _
    rw [htokens, List.cons_append] at hitems ⊢
    rw [run?_firstItem hne]
    exact hitems

/-- An object is complete when the values of its members are. -/
theorem completes_object {members : List (String × Json)} (h : ∀ m ∈ members, Completes m.2) :
    Completes (.object members) := by
  intro stack
  cases members with
  | nil => rfl
  | cons member members =>
    rw [List.forall_mem_cons] at h
    have hmembers := run?_memberTokens h.1 h.2 [] stack
    rcases exists_cons_memberTokens member members with ⟨key, tokens, htokens⟩
    change (firstName stack).run? (memberTokens (member :: members) ++ [.closeObject]) = _
    rw [htokens] at hmembers ⊢
    exact hmembers

/-- The tokens of a value complete it. -/
theorem run?_tokens (v : Json) : Completes v := by
  match v with
  | .null => exact fun stack => rfl
  | .bool b => exact fun stack => rfl
  | .number n => exact fun stack => rfl
  | .string s => exact fun stack => rfl
  | .array items => exact completes_array fun item hitem => run?_tokens item
  | .object members => exact completes_object fun m hm => run?_tokens m.2
termination_by sizeOf v
decreasing_by
  · have hlt := List.sizeOf_lt_of_mem hitem
    simp only [array.sizeOf_spec]
    omega
  · have hlt := List.sizeOf_lt_of_mem hm
    have hsnd : sizeOf m.2 < sizeOf m := by
      obtain ⟨key, value⟩ := m
      simp only [Prod.mk.sizeOf_spec]
      omega
    simp only [object.sizeOf_spec]
    omega

end Progress

/-- The text of a value is read as this value. -/
theorem parse?_text {v : Json} (h : v.WellFormed) : parse? v.text = some v := by
  rw [parse?_eq_some_iff]
  exact ⟨v.tokens, scan?_tokens h, Progress.run?_tokens v []⟩

/-- Different values have different texts. -/
theorem text_injective {v w : Json} (hv : v.WellFormed) (hw : w.WellFormed)
    (h : v.text = w.text) : v = w := by
  have hread : some v = some w := by
    rw [← parse?_text hv, h, parse?_text hw]
  exact Option.some.inj hread

end Json
end EntitySql

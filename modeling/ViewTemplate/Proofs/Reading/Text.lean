import ViewTemplate.Proofs.Tokens.Text

/-!
# Reading words and strings

What a name, a numeral and a string literal are read as at the front of a text, with the rest of the text.  A name and a
numeral go as far as their characters do, so the rest must not go on with one; a string literal ends at its first quote
that is not escaped, whatever its content and the rest are (`readString_flatMap_escape`), so a quoted text and what
follows it are told apart in one way only (`quoted_decodable`).
-/

namespace ViewTemplate.Text

/-! ### Words -/

/-- The longest beginning of the text with characters of the kind `p`, and the rest. -/
def readWhile (p : Char → Bool) (cs : List Char) : String × List Char :=
  (String.ofList (cs.takeWhile p), cs.dropWhile p)

/-- The name that the text begins with. -/
def readName (cs : List Char) : Option (String × List Char) :=
  if cs.head?.any isNameStart then some (readWhile isNamePart cs) else none

/-- The text does not go on with what a name or a numeral may go on with. -/
def EndsWord (cs : List Char) : Prop :=
  ∀ c ∈ cs.head?, isNamePart c = false

variable {p : Char → Bool} {s : String} {c : Char} {r : List Char}

theorem endsWord_cons (hc : isNamePart c = false) : EndsWord (c :: r) := by
  rintro _ ⟨⟩
  exact hc

theorem isNamePart_of_isDigit (h : c.isDigit = true) : isNamePart c = true := by
  have hle : c.toNat ≤ 57 := by
    rw [Char.isDigit, Bool.and_eq_true, decide_eq_true_eq, decide_eq_true_eq] at h
    exact UInt32.le_iff_toNat_le.1 h.2
  have hnumber : isNumber c = true := by rw [isNumber, if_pos (by omega), h]
  simp [isNamePart, hnumber]

theorem isLetter_of_isAlpha (h : c.isAlpha = true) : isLetter c = true := by
  have hle : c.toNat ≤ 122 := by
    rcases Bool.or_eq_true_iff.1 h with hupper | hlower
    · have hc : c.val ≤ 'Z'.val := (of_decide_eq_true hupper).2
      exact Nat.le_trans (UInt32.le_iff_toNat_le.1 hc) (by decide)
    · have hc : c.val ≤ 'z'.val := of_decide_eq_true (Bool.and_eq_true_iff.1 hlower).2
      exact UInt32.le_iff_toNat_le.1 hc
  rw [isLetter, if_pos (by omega), h]

/-- A name of letters, digits, underscores and dollar signs of ASCII. -/
def isAsciiName (s : String) : Bool :=
  (first? s).any (!·.isDigit) && s.toList.all fun c => c.isAlphanum || c == '_' || c == '$'

theorem isName_of_isAsciiName (h : isAsciiName s = true) : isName s = true := by
  rw [isAsciiName, Bool.and_eq_true, List.all_eq_true, first?] at h
  obtain ⟨hfirst, hall⟩ := h
  rw [isName]
  cases hs : s.toList with
  | nil => rw [hs] at hfirst; cases hfirst
  | cons c cs =>
    rw [hs] at hfirst hall
    have hdigit : c.isDigit = false := by simpa using hfirst
    have hstart : ∀ d ∈ c :: cs, d.isDigit = false → isNameStart d = true := by
      intro d hd hnot
      have hd := hall d hd
      rw [Char.isAlphanum, hnot, Bool.or_false, Bool.or_eq_true, Bool.or_eq_true] at hd
      rw [isNameStart, Bool.or_eq_true, Bool.or_eq_true]
      exact hd.imp_left (Or.imp_left isLetter_of_isAlpha)
    rw [isNameChars, Bool.and_eq_true, List.all_eq_true]
    refine ⟨hstart c List.mem_cons_self hdigit, fun d hd => ?_⟩
    cases hdd : d.isDigit with
    | true => exact isNamePart_of_isDigit hdd
    | false => exact isNamePart_of_isNameStart (hstart d (List.mem_cons_of_mem _ hd) hdd)

theorem exists_cons_of_isName (hs : isName s = true) : ∃ c cs, s.toList = c :: cs ∧ isNameStart c = true := by
  rw [isName] at hs
  cases hchars : s.toList with
  | nil => rw [hchars] at hs; cases hs
  | cons c cs =>
    rw [hchars, isNameChars, Bool.and_eq_true] at hs
    exact ⟨c, cs, rfl, hs.1⟩

theorem exists_cons_of_isNumeral (hs : isNumeral s = true) : ∃ c cs, s.toList = c :: cs ∧ c.isDigit = true := by
  rw [isNumeral, Bool.and_eq_true] at hs
  cases hchars : s.toList with
  | nil => rw [String.toList_eq_nil_iff.1 hchars] at hs; cases hs.1
  | cons c cs =>
    rw [hchars, List.all_cons, Bool.and_eq_true] at hs
    exact ⟨c, cs, rfl, hs.2.1⟩

theorem readWhile_append (hs : ∀ c ∈ s.toList, p c = true) (hr : ∀ c ∈ r.head?, p c = false) :
    readWhile p (s.toList ++ r) = (s, r) := by
  have hnext : r.takeWhile p = [] ∧ r.dropWhile p = r := by
    cases r with
    | nil => exact ⟨rfl, rfl⟩
    | cons c r =>
      have hc : ¬ p c = true := Bool.eq_false_iff.1 (hr c rfl)
      exact ⟨List.takeWhile_cons_of_neg hc, List.dropWhile_cons_of_neg hc⟩
  rw [readWhile, List.takeWhile_append_of_pos hs, List.dropWhile_append_of_pos hs, hnext.1, hnext.2, List.append_nil,
    String.ofList_toList]

theorem readName_append (hs : isName s = true) (hr : EndsWord r) : readName (s.toList ++ r) = some (s, r) := by
  have hstart : (s.toList ++ r).head?.any isNameStart = true := by
    have h := startsName_append (startsName_of_isName hs) (String.ofList r)
    rwa [startsName, first?, String.toList_append, String.toList_ofList] at h
  rw [readName, if_pos hstart, readWhile_append (fun c hc => isNamePart_of_mem hs hc) hr]

theorem readNumeral_append (hs : isNumeral s = true) (hr : EndsWord r) :
    readWhile Char.isDigit (s.toList ++ r) = (s, r) := by
  rw [isNumeral, Bool.and_eq_true, List.all_eq_true] at hs
  refine readWhile_append hs.2 fun c hc => Bool.eq_false_iff.2 fun hd => ?_
  exact Bool.eq_false_iff.1 (hr c hc) (isNamePart_of_isDigit hd)

/-! ### String literals -/

/-- The character that is written with this one behind a backslash. -/
def unescape? : Char → Option Char
  | '"' => some '"'
  | '\\' => some '\\'
  | 'n' => some '\n'
  | 'r' => some '\r'
  | 't' => some '\t'
  | _ => none

/-- The content of a string literal from behind its opening quote, and what is left behind the closing one. -/
def readString : List Char → Option (List Char × List Char)
  | [] => none
  | '"' :: cs => some ([], cs)
  | '\\' :: c :: cs => (unescape? c).bind fun d => (readString cs).map fun (value, rest) => (d :: value, rest)
  | c :: cs => (readString cs).map fun (value, rest) => (c :: value, rest)

private theorem readString_escape (c : Char) (cs : List Char) :
    readString (escape c ++ cs) = (readString cs).map fun (value, rest) => (c :: value, rest) := by
  unfold escape
  split
  · rfl
  · rfl
  · rfl
  · rfl
  · rfl
  · next hquote hbackslash _ _ _ =>
    rw [List.singleton_append, readString]
    · exact hquote
    · exact fun _ _ h _ => hbackslash h

/-- A string literal is read as its content, whatever follows its closing quote. -/
theorem readString_flatMap_escape (cs r : List Char) : readString (cs.flatMap escape ++ '"' :: r) = some (cs, r) := by
  induction cs with
  | nil => rfl
  | cons c cs ih =>
    rw [List.flatMap_cons, List.append_assoc, readString_escape, ih]
    rfl

theorem toList_quoted_append (s : String) (r : List Char) :
    (quoted s).toList ++ r = '"' :: (s.toList.flatMap escape ++ '"' :: r) := by
  simp [quoted]

/-- The content of the string literal that the text begins with, and the rest of the text. -/
def unquote? (text : String) : Option (String × String) :=
  match text.toList with
  | '"' :: cs => (readString cs).map fun (value, rest) => (String.ofList value, String.ofList rest)
  | _ => none

theorem unquote?_quoted (s r : String) : unquote? (quoted s ++ r) = some (s, r) := by
  rw [unquote?, String.toList_append, toList_quoted_append]
  simp only [readString_flatMap_escape, Option.map_some, String.ofList_toList]

/-- No string literal is the beginning of another one. -/
theorem quoted_append_inj {s s' r r' : String} : quoted s ++ r = quoted s' ++ r' ↔ s = s' ∧ r = r' := by
  constructor
  · intro h
    have hread : some (s, r) = some (s', r') := by rw [← unquote?_quoted, h, unquote?_quoted]
    exact Prod.mk.inj (Option.some.inj hread)
  · rintro ⟨rfl, rfl⟩
    rfl

/-- What is written for a character has no line break. -/
theorem not_lineBreak_of_mem_escape {c d : Char} (hd : d ∈ escape c) : d ≠ '\n' ∧ d ≠ '\r' := by
  unfold escape at hd
  split at hd
  case h_6 _ _ hnewline hreturn _ =>
    obtain rfl := List.mem_singleton.1 hd
    exact ⟨hnewline, hreturn⟩
  all_goals
    rw [List.mem_cons, List.mem_singleton] at hd
    rcases hd with rfl | rfl <;> decide

theorem not_lineBreak_of_mem_quoted {s : String} {c : Char} (hc : c ∈ (quoted s).toList) : c ≠ '\n' ∧ c ≠ '\r' := by
  rw [quoted, String.toList_ofList, List.mem_append, List.mem_cons, List.mem_singleton, List.mem_flatMap] at hc
  rcases hc with (rfl | ⟨d, -, hd⟩) | rfl
  · decide
  · exact not_lineBreak_of_mem_escape hd
  · decide

/-- Whatever follows a string literal, its content and what follows are read back, so no other content and rest give
the same text; and the literal is on one line. -/
theorem quoted_decodable (s r : String) :
    unquote? (quoted s ++ r) = some (s, r) ∧
      (∀ s' r', quoted s ++ r = quoted s' ++ r' ↔ s = s' ∧ r = r') ∧
      '\n' ∉ (quoted s).toList ∧ '\r' ∉ (quoted s).toList :=
  ⟨unquote?_quoted s r, fun _ _ => quoted_append_inj, fun h => (not_lineBreak_of_mem_quoted h).1 rfl,
    fun h => (not_lineBreak_of_mem_quoted h).2 rfl⟩

/-- Backslashes in front of the quote that ends the literal belong to its content. -/
example : quoted "\\\"" ++ "\"" = "\"\\\\\\\"\"\"" ∧
    unquote? (quoted "\\\"" ++ "\"") = some ("\\\"", "\"") := by
  decide

end ViewTemplate.Text

import ViewTemplate.Proofs.Text

/-!
# First characters, numerals and names

What a text begins with is decided by its first part that is not empty (`first?_append`).  A text between brackets or
quotes begins with these, so it does not begin with a sign and is no numeral.  Nor does a text that begins as names do.
-/

namespace ViewTemplate.Text

/-- The first character. -/
def first? (s : String) : Option Char :=
  s.toList.head?

/-- A sign; two of the same kind in a row are another operator. -/
def isSign (c : Char) : Bool :=
  c = '+' || c = '-'

/-- A decimal integer, without a sign. -/
def isNumeral (s : String) : Bool :=
  !s.isEmpty && s.toList.all Char.isDigit

variable {c d : Char} {s t : String}

theorem first?_append (s t : String) : first? (s ++ t) = (first? s).or (first? t) := by
  rw [first?, String.toList_append, List.head?_append]
  rfl

theorem first?_append_of_eq_some (h : first? s = some c) : first? (s ++ t) = some c := by
  rw [first?_append, h]
  rfl

/-- What stands in front decides, if what stands behind does not begin with the character. -/
theorem first?_append_iff (ht : first? t ≠ some c) : first? (s ++ t) = some c ↔ first? s = some c := by
  rw [first?_append]
  cases first? s with
  | none => simpa using ht
  | some d => rfl

theorem first?_ne_none (hs : s ≠ "") : first? s ≠ none := by
  rw [first?, ne_eq, List.head?_eq_none_iff, String.toList_eq_nil_iff]
  exact hs

theorem first?_parenthesized (s : String) : first? (parenthesized s) = some '(' := by
  rw [parenthesized, String.append_assoc]
  exact first?_append_of_eq_some rfl

theorem first?_bracketed (s : String) : first? (bracketed s) = some '[' := by
  rw [bracketed, String.append_assoc]
  exact first?_append_of_eq_some rfl

theorem first?_braced (s : String) : first? (braced s) = some '\x7b' := by
  rw [braced, String.append_assoc]
  exact first?_append_of_eq_some rfl

theorem first?_bracedList (separator : String) (parts : List String) :
    first? (bracedList separator parts) = some '\x7b' := by
  rw [bracedList]
  split
  · exact first?_braced _
  · exact first?_braced _

theorem first?_quoted (s : String) : first? (quoted s) = some '"' := by
  rw [first?, quoted, String.toList_ofList]
  rfl

/-- A text that begins with another character does not begin with a sign. -/
theorem first?_ne_of_isSign (hc : isSign c = true) (hs : first? s = some d) (hd : isSign d = false) :
    first? s ≠ some c := by
  intro h
  obtain rfl : d = c := Option.some.inj (hs.symm.trans h)
  rw [hc] at hd
  exact Bool.noConfusion hd

/-- The first of the words decides, if nothing behind them begins with the sign. -/
theorem first?_blankAfterEach_append_iff (hc : isSign c = true) (ht : first? t ≠ some c) (words : List String) :
    first? (blankAfterEach words ++ t) = some c ↔ ∃ word, words.head? = some word ∧ first? word = some c := by
  rw [first?_append_iff ht]
  cases words with
  | nil => simp [blankAfterEach, first?]
  | cons word words =>
    have hblank : first? (" " ++ String.join (words.map (· ++ " "))) ≠ some c :=
      first?_ne_of_isSign hc (first?_append_of_eq_some rfl) rfl
    rw [blankAfterEach, List.map_cons, String.join_cons, String.append_assoc, first?_append_iff hblank]
    simp

/-- A text with anything but digits is no numeral. -/
theorem not_isNumeral_of_mem (hc : c ∈ s.toList) (hd : c.isDigit = false) : ¬ isNumeral s = true := by
  intro h
  rw [isNumeral, Bool.and_eq_true, List.all_eq_true] at h
  have hdigit := h.2 c hc
  rw [hd] at hdigit
  exact Bool.noConfusion hdigit

/-- A text that begins with anything but a digit is no numeral. -/
theorem not_isNumeral_of_first? (hs : first? s = some c) (hd : c.isDigit = false) : ¬ isNumeral s = true :=
  not_isNumeral_of_mem (List.mem_of_head? hs) hd

/-! ### Texts that begin as names do -/

/-- The text begins as names do. -/
def startsName (s : String) : Bool :=
  (first? s).any isNameStart

theorem startsName_of_isName (h : isName s = true) : startsName s = true := by
  rw [isName] at h
  rw [startsName, first?]
  cases hs : s.toList with
  | nil => simp [hs, isNameChars] at h
  | cons c cs =>
    rw [hs, isNameChars, Bool.and_eq_true] at h
    exact h.1

theorem startsName_append (h : startsName s = true) (t : String) : startsName (s ++ t) = true := by
  obtain ⟨c, hc, hstart⟩ := (Option.any_eq_true _ _).1 h
  rw [startsName, first?_append_of_eq_some hc]
  exact hstart

theorem first?_ne_of_startsName (hc : isSign c = true) (h : startsName s = true) : first? s ≠ some c := by
  obtain ⟨d, hd, hstart⟩ := (Option.any_eq_true _ _).1 h
  refine first?_ne_of_isSign hc hd ?_
  rw [Bool.eq_false_iff]
  intro hsign
  simp only [isSign, Bool.or_eq_true, decide_eq_true_eq] at hsign
  rcases hsign with rfl | rfl
  · exact absurd hstart (by decide)
  · exact absurd hstart (by decide)

/-- A digit begins no name. -/
theorem isNameStart_of_isDigit (h : c.isDigit = true) : isNameStart c = false := by
  obtain ⟨hge, hle⟩ : 48 ≤ c.toNat ∧ c.toNat ≤ 57 := by
    rw [Char.isDigit, Bool.and_eq_true, decide_eq_true_eq, decide_eq_true_eq] at h
    exact ⟨UInt32.le_iff_toNat_le.1 h.1, UInt32.le_iff_toNat_le.1 h.2⟩
  have halpha : c.isAlpha = true → 65 ≤ c.toNat := by
    intro ha
    rcases Bool.or_eq_true_iff.1 ha with hupper | hlower
    · have ha : 'A'.val ≤ c.val := (of_decide_eq_true hupper).1
      exact UInt32.le_iff_toNat_le.1 ha
    · have ha : 'a'.val ≤ c.val := of_decide_eq_true (Bool.and_eq_true_iff.1 hlower).1
      exact Nat.le_trans (by decide) (UInt32.le_iff_toNat_le.1 ha)
  have hletter : isLetter c = false := by
    rw [isLetter, if_pos (by omega), Bool.eq_false_iff]
    intro ha
    have := halpha ha
    omega
  have hunderscore : c ≠ '_' := by
    rintro rfl
    exact absurd hle (by decide)
  have hdollar : c ≠ '$' := by
    rintro rfl
    exact absurd hge (by decide)
  simp [isNameStart, hletter, hunderscore, hdollar]

theorem startsName_of_isNumeral (h : isNumeral s = true) : startsName s = false := by
  rw [isNumeral, Bool.and_eq_true, List.all_eq_true] at h
  rw [startsName, first?]
  cases hs : s.toList with
  | nil => rfl
  | cons c cs => exact isNameStart_of_isDigit (h.2 c (by simp [hs]))

end ViewTemplate.Text

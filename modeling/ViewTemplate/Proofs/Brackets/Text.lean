import ViewTemplate.Text.Layout

/-!
# Texts with matching brackets

A reader goes through a text from left to right and keeps the brackets that are open.  Strings are skipped: a quote
begins one, and the next quote that does not stand behind a backslash ends it (`Reading.next`).  A text is well bracketed
if the reader ends outside a string with no bracket open.

What is put together from parts has to be read in the middle of other text, so the lemmas are about balanced texts,
which the reader passes whatever is open around them.  All ways of putting texts together keep texts balanced.
-/

namespace ViewTemplate.Text

/-- Where a reader stands, with the brackets that are due to close those that are open, the innermost first. -/
inductive Reading where
  /-- outside a string -/
  | code (due : List Char)
  /-- inside a string -/
  | string (due : List Char)
  /-- inside a string, behind a backslash -/
  | escaped (due : List Char)
  deriving DecidableEq

/-- The bracket that closes an opening bracket. -/
def closing? : Char → Option Char
  | '(' => some ')'
  | '[' => some ']'
  | '\x7b' => some '\x7d'
  | _ => none

/-- A bracket that closes another one. -/
def isClosing (c : Char) : Bool :=
  c = ')' || c = ']' || c = '\x7d'

/-- Reading one more character.  A closing bracket has to be the one that is due. -/
def Reading.next : Reading → Char → Option Reading
  | .code due, c =>
    if c = '"' then some (.string due)
    else if isClosing c then (if due.head? = some c then some (.code due.tail) else none)
    else some (.code ((closing? c).toList ++ due))
  | .string due, c =>
    some (if c = '"' then .code due else if c = '\\' then .escaped due else .string due)
  | .escaped due, _ => some (.string due)

/-- Reading characters one after the other. -/
def Reading.run (r : Reading) (cs : List Char) : Option Reading :=
  cs.foldlM next r

/-- Brackets are nested and matched outside strings, and every string is ended. -/
def WellBracketed (s : String) : Prop :=
  (Reading.code []).run s.toList = some (.code [])

instance (s : String) : Decidable (WellBracketed s) :=
  inferInstanceAs (Decidable (_ = _))

/-- The characters that brackets and strings are written with. -/
def isDelimiter (c : Char) : Bool :=
  c = '"' || isClosing c || (closing? c).isSome

/-- The text has neither brackets nor quotes. -/
def undelimited (s : String) : Bool :=
  s.toList.all fun c => !isDelimiter c

/-- A reader passes the text, whatever is open around it. -/
def Balanced (s : String) : Prop :=
  ∀ due, (Reading.code due).run s.toList = some (.code due)

variable {s t : String}

theorem Balanced.wellBracketed (h : Balanced s) : WellBracketed s :=
  h []

theorem Reading.run_append (r : Reading) (cs ds : List Char) : r.run (cs ++ ds) = (r.run cs).bind (·.run ds) :=
  List.foldlM_append

theorem Reading.run_cons (r : Reading) (c : Char) (cs : List Char) : r.run (c :: cs) = (r.next c).bind (·.run cs) :=
  rfl

/-! ### Parts next to each other -/

theorem balanced_empty : Balanced "" :=
  fun _ => rfl

theorem Balanced.append (hs : Balanced s) (ht : Balanced t) : Balanced (s ++ t) := by
  intro due
  rw [String.toList_append, Reading.run_append, hs due]
  exact ht due

theorem Balanced.of_undelimited (h : undelimited s = true) : Balanced s := by
  intro due
  have hpass : ∀ cs : List Char, (∀ c ∈ cs, isDelimiter c = false) → (Reading.code due).run cs = some (.code due) := by
    intro cs hcs
    induction cs with
    | nil => rfl
    | cons c cs ih =>
      obtain ⟨hc, hcs⟩ := List.forall_mem_cons.1 hcs
      have hnext : (Reading.code due).next c = some (.code due) := by
        simp only [isDelimiter, Bool.or_eq_false_iff, decide_eq_false_iff_not, Option.isSome_eq_false_iff,
          Option.isNone_iff_eq_none] at hc
        simp [Reading.next, hc]
      rw [Reading.run_cons, hnext]
      exact ih hcs
  refine hpass s.toList fun c hc => ?_
  have hplain := List.all_eq_true.1 h c hc
  rwa [Bool.not_eq_true'] at hplain

/-- A text behind a fixed one without brackets. -/
theorem Balanced.after (hs : undelimited s = true) (ht : Balanced t) : Balanced (s ++ t) :=
  (of_undelimited hs).append ht

/-- A text before a fixed one without brackets. -/
theorem Balanced.before (hs : Balanced s) (ht : undelimited t = true) : Balanced (s ++ t) :=
  hs.append (.of_undelimited ht)

theorem balanced_join {parts : List String} (h : ∀ part ∈ parts, Balanced part) : Balanced (String.join parts) := by
  induction parts with
  | nil => exact balanced_empty
  | cons part parts ih =>
    obtain ⟨hpart, hparts⟩ := List.forall_mem_cons.1 h
    rw [String.join_cons]
    exact hpart.append (ih hparts)

theorem balanced_intercalate {separator : String} (hs : undelimited separator = true) {parts : List String}
    (h : ∀ part ∈ parts, Balanced part) : Balanced (separator.intercalate parts) := by
  induction parts with
  | nil => exact balanced_empty
  | cons part parts ih =>
    obtain ⟨hpart, hparts⟩ := List.forall_mem_cons.1 h
    cases parts with
    | nil =>
      rw [String.intercalate_singleton]
      exact hpart
    | cons next parts =>
      rw [String.intercalate_cons_cons]
      exact (hpart.before hs).append (ih hparts)

theorem balanced_commaList {parts : List String} (h : ∀ part ∈ parts, Balanced part) : Balanced (commaList parts) :=
  balanced_intercalate (by decide) h

theorem balanced_blankAfterEach {words : List String} (h : ∀ word ∈ words, Balanced word) :
    Balanced (blankAfterEach words) := by
  refine balanced_join (List.forall_mem_map.2 fun word hword => ?_)
  exact (h word hword).before (by decide)

/-! ### Brackets and quotes -/

/-- A text between two others, the first of which leaves `closer` to the second. -/
theorem Balanced.enclosed {first last : String} (closer : Char)
    (hfirst : ∀ due, (Reading.code due).run first.toList = some (.code (closer :: due)))
    (hlast : ∀ due, (Reading.code (closer :: due)).run last.toList = some (.code due)) (h : Balanced s) :
    Balanced (first ++ s ++ last) := by
  intro due
  rw [String.toList_append, String.toList_append, Reading.run_append, Reading.run_append, hfirst due]
  show ((Reading.code (closer :: due)).run s.toList).bind _ = _
  rw [h (closer :: due)]
  exact hlast due

theorem Balanced.parenthesized (h : Balanced s) : Balanced (parenthesized s) :=
  h.enclosed ')' (fun _ => rfl) (fun _ => rfl)

theorem Balanced.bracketed (h : Balanced s) : Balanced (bracketed s) :=
  h.enclosed ']' (fun _ => rfl) (fun _ => rfl)

theorem Balanced.braced (h : Balanced s) : Balanced (braced s) :=
  h.enclosed '\x7d' (fun _ => rfl) (fun _ => rfl)

theorem balanced_bracedList {separator : String} (hs : undelimited separator = true) {parts : List String}
    (h : ∀ part ∈ parts, Balanced part) : Balanced (bracedList separator parts) := by
  rw [bracedList]
  split
  · exact balanced_empty.braced
  · exact (((balanced_intercalate hs h).after (by decide)).before (by decide)).braced

/-- An escaped character does not end the string. -/
private theorem run_escape (c : Char) (due : List Char) : (Reading.string due).run (escape c) = some (.string due) := by
  unfold escape
  split
  · rfl
  · rfl
  · rfl
  · rfl
  · rfl
  · next hquote hbackslash _ _ _ =>
    have hnext : (Reading.string due).next c = some (.string due) :=
      congrArg some ((if_neg hquote).trans (if_neg hbackslash))
    rw [Reading.run_cons, hnext]
    rfl

theorem balanced_quoted (s : String) : Balanced (quoted s) := by
  intro due
  have hinside : ∀ cs : List Char, (Reading.string due).run (cs.flatMap escape) = some (.string due) := by
    intro cs
    induction cs with
    | nil => rfl
    | cons c cs ih =>
      rw [List.flatMap_cons, Reading.run_append, run_escape]
      exact ih
  have hquote : (Reading.code due).next '"' = some (.string due) := rfl
  rw [quoted, String.toList_ofList, List.cons_append, Reading.run_cons, hquote]
  show (Reading.string due).run _ = _
  rw [Reading.run_append, hinside]
  rfl

/-- A bracket in a string closes nothing. -/
example : WellBracketed "f(\")\")" ∧ ¬ WellBracketed "f(\")\"" ∧ ¬ WellBracketed "f(]" := by
  decide

end ViewTemplate.Text

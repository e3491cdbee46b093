import ViewTemplate.Text.Layout
import ViewTemplate.Text.Name

/-!
# Characters of names, and texts on one line

A name has none of the characters that operators, brackets and quotes are written with, and a tag that stands for a
component has the dot alone of them.  `oneLine` writes blanks for line breaks; it goes through all ways of putting texts
together.
-/

namespace ViewTemplate.Text

/-! ### Characters of names -/

variable {c : Char} {s t : String}

theorem isNamePart_of_isNameStart (h : isNameStart c = true) : isNamePart c = true := by
  simp only [isNameStart, isNamePart, Bool.or_eq_true] at h ⊢
  rcases h with (h | h) | h <;> simp [h]

theorem all_isNamePart_of_isNameChars {cs : List Char} (h : isNameChars cs = true) : ∀ c ∈ cs, isNamePart c = true := by
  cases cs with
  | nil => simp
  | cons first rest =>
    rw [isNameChars, Bool.and_eq_true, List.all_eq_true] at h
    exact List.forall_mem_cons.2 ⟨isNamePart_of_isNameStart h.1, h.2⟩

theorem isNamePart_of_mem (h : isName s = true) (hc : c ∈ s.toList) : isNamePart c = true :=
  all_isNamePart_of_isNameChars h c hc

/-- A text with a character that no name has is no name. -/
theorem isName_eq_false_of_mem (hc : c ∈ s.toList) (h : isNamePart c = false) : isName s = false := by
  rw [Bool.eq_false_iff]
  intro hs
  rw [isNamePart_of_mem hs hc] at h
  exact Bool.noConfusion h

private theorem dotPieces_of_not_mem {cs : List Char} (h : '.' ∉ cs) : dotPieces cs = [cs] := by
  induction cs with
  | nil => rfl
  | cons c cs ih =>
    simp only [List.mem_cons, not_or] at h
    have hc : c ≠ '.' := fun hc => h.1 hc.symm
    simp only [dotPieces, if_neg hc, ih h.2]

/-- A name is a tag of a component if it does not begin in lowercase. -/
theorem isComponentTag_eq_of_isName (h : isName s = true) : isComponentTag s = !startsLower s := by
  have hdot : '.' ∉ s.toList := fun hdot => absurd (isNamePart_of_mem h hdot) (by decide)
  rw [isName] at h
  simp [isComponentTag, dotPieces_of_not_mem hdot, h, hdot]

theorem isComponentTag_of_isName (h : isName s = true) (hs : startsLower s = false) : isComponentTag s = true := by
  rw [isComponentTag_eq_of_isName h, hs, Bool.not_false]

private theorem eq_dot_or_isNamePart {cs : List Char} (h : ∀ piece ∈ dotPieces cs, ∀ c ∈ piece, isNamePart c = true) :
    ∀ c ∈ cs, c = '.' ∨ isNamePart c = true := by
  induction cs with
  | nil => simp
  | cons d cs ih =>
    rw [List.forall_mem_cons]
    rw [dotPieces] at h
    split at h
    · next hd =>
      rw [List.forall_mem_cons] at h
      exact ⟨Or.inl hd, ih h.2⟩
    · cases hp : dotPieces cs with
      | nil =>
        simp only [hp, List.forall_mem_singleton] at h
        exact ⟨Or.inr h, ih (by simp [hp])⟩
      | cons piece pieces =>
        simp only [hp, List.forall_mem_cons] at h
        refine ⟨Or.inr h.1.1, ih ?_⟩
        rw [hp, List.forall_mem_cons]
        exact ⟨h.1.2, h.2⟩

/-- A tag of a component is made of names and dots. -/
theorem eq_dot_or_isNamePart_of_mem (h : isComponentTag s = true) (hc : c ∈ s.toList) :
    c = '.' ∨ isNamePart c = true := by
  rw [isComponentTag, Bool.and_eq_true, List.all_eq_true] at h
  exact eq_dot_or_isNamePart (fun piece hp => all_isNamePart_of_isNameChars (h.1 piece hp)) c hc

/-! ### Texts on one line -/

/-- The text on one line: every line break is a blank. -/
def oneLine (s : String) : String :=
  s.map fun c => if c = '\n' then ' ' else c

theorem oneLine_append (s t : String) : oneLine (s ++ t) = oneLine s ++ oneLine t := by
  rw [← String.toList_inj]
  simp [oneLine]

/-- A text without line breaks is on one line. -/
theorem oneLine_eq_self (h : '\n' ∉ s.toList) : oneLine s = s := by
  have hmap : s.toList.map (fun c => if c = '\n' then ' ' else c) = s.toList.map id := by
    refine List.map_congr_left fun c hc => if_neg ?_
    rintro rfl
    exact h hc
  rw [← String.toList_inj, oneLine, String.toList_map, hmap, List.map_id]

/-- A text that is a component's tag when it is written on one line is that tag. -/
theorem eq_of_oneLine_eq (hs : isComponentTag s = true) (h : oneLine s = oneLine t) : t = s := by
  have hlines : '\n' ∉ s.toList := fun hc => (eq_dot_or_isNamePart_of_mem hs hc).elim (by decide) (by decide)
  have hblanks : ' ' ∉ s.toList := fun hc => (eq_dot_or_isNamePart_of_mem hs hc).elim (by decide) (by decide)
  rw [oneLine_eq_self hlines] at h
  -- a line break would be a blank of `s`
  have ht : '\n' ∉ t.toList := by
    intro hc
    refine hblanks ?_
    rw [h, oneLine, String.toList_map]
    exact List.mem_map.2 ⟨'\n', hc, if_pos rfl⟩
  rw [h, oneLine_eq_self ht]

theorem oneLine_join (parts : List String) : oneLine (String.join parts) = String.join (parts.map oneLine) := by
  induction parts with
  | nil => exact oneLine_eq_self (by decide)
  | cons part parts ih => rw [String.join_cons, oneLine_append, ih, List.map_cons, String.join_cons]

theorem oneLine_intercalate {separator : String} (h : '\n' ∉ separator.toList) (parts : List String) :
    oneLine (separator.intercalate parts) = separator.intercalate (parts.map oneLine) := by
  induction parts with
  | nil => exact oneLine_eq_self (by simp)
  | cons part parts ih =>
    cases parts with
    | nil => simp
    | cons next parts =>
      rw [List.map_cons] at ih
      rw [String.intercalate_cons_cons, oneLine_append, oneLine_append, ih, oneLine_eq_self h, List.map_cons,
        List.map_cons, String.intercalate_cons_cons]

/-- Parts that are alike on one line stay so under a function that respects this. -/
theorem map_oneLine_congr {f : String → String} (hf : ∀ s t, oneLine s = oneLine t → oneLine (f s) = oneLine (f t))
    {parts parts' : List String} (h : parts.map oneLine = parts'.map oneLine) :
    (parts.map f).map oneLine = (parts'.map f).map oneLine := by
  induction parts generalizing parts' with
  | nil =>
    rw [List.map_nil, eq_comm, List.map_eq_nil_iff] at h
    rw [h]
  | cons part parts ih =>
    cases parts' with
    | nil => simp at h
    | cons part' parts' =>
      simp only [List.map_cons, List.cons.injEq] at h ⊢
      exact ⟨hf part part' h.1, ih h.2⟩

theorem oneLine_blankAfterEach_congr {words words' : List String} (h : words.map oneLine = words'.map oneLine) :
    oneLine (blankAfterEach words) = oneLine (blankAfterEach words') := by
  rw [blankAfterEach, blankAfterEach, oneLine_join, oneLine_join, map_oneLine_congr ?_ h]
  intro s t hst
  rw [oneLine_append, oneLine_append, hst]

theorem oneLine_parenthesized (s : String) : oneLine (parenthesized s) = parenthesized (oneLine s) := by
  have hopen : oneLine "(" = "(" := oneLine_eq_self (by decide)
  have hclose : oneLine ")" = ")" := oneLine_eq_self (by decide)
  rw [parenthesized, oneLine_append, oneLine_append, hopen, hclose, parenthesized]

theorem oneLine_bracketed (s : String) : oneLine (bracketed s) = bracketed (oneLine s) := by
  have hopen : oneLine "[" = "[" := oneLine_eq_self (by decide)
  have hclose : oneLine "]" = "]" := oneLine_eq_self (by decide)
  rw [bracketed, oneLine_append, oneLine_append, hopen, hclose, bracketed]

theorem oneLine_braced (s : String) : oneLine (braced s) = braced (oneLine s) := by
  have hopen : oneLine "\x7b" = "\x7b" := oneLine_eq_self (by decide)
  have hclose : oneLine "\x7d" = "\x7d" := oneLine_eq_self (by decide)
  rw [braced, oneLine_append, oneLine_append, hopen, hclose, braced]

theorem oneLine_commaList (parts : List String) : oneLine (commaList parts) = commaList (parts.map oneLine) :=
  oneLine_intercalate (by decide) parts

theorem oneLine_bracedList (parts : List String) :
    oneLine (bracedList ", " parts) = bracedList ", " (parts.map oneLine) := by
  have hblank : oneLine " " = " " := oneLine_eq_self (by decide)
  rw [bracedList, bracedList, List.isEmpty_map]
  split
  · rw [oneLine_braced, oneLine_eq_self (by simp)]
  · rw [oneLine_braced, oneLine_append, oneLine_append, oneLine_intercalate (by decide), hblank]

end ViewTemplate.Text

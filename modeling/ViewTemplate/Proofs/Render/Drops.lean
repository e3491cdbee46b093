import ViewTemplate.Text.Layout

/-!
# Texts of which marks are dropped

Where a text may be another one than expected, but only by leaving out a mark in places, it is the same text exactly if
no mark is left out: each place that leaves one out makes the count of that mark smaller, and the places cannot make up
for each other.  `Drops` says this of one text, and goes through all ways of putting texts together.
-/

namespace ViewTemplate.Text

/-- How often the mark stands in a text. -/
def occurrences (mark : Char) (s : String) : Nat :=
  s.toList.count mark

theorem occurrences_append (mark : Char) (s t : String) :
    occurrences mark (s ++ t) = occurrences mark s + occurrences mark t := by
  rw [occurrences, String.toList_append, List.count_append]
  rfl

/-- The text `t` is what is left of `s`: all of it if nothing is dropped, and else with fewer
occurrences of the mark. -/
structure Drops (mark : Char) (kept : Bool) (s t : String) : Prop where
  same : kept = true → t = s
  fewer : kept = false → occurrences mark t < occurrences mark s

section

variable {mark : Char} {a b : Bool} {s t s' t' : String}

theorem drops_self (s : String) : Drops mark true s s :=
  ⟨fun _ => rfl, fun h => Bool.noConfusion h⟩

/-- Nothing is dropped exactly if the text is the same. -/
theorem Drops.eq_iff (h : Drops mark a s t) : t = s ↔ a = true := by
  refine ⟨fun he => ?_, h.same⟩
  cases a with
  | true => rfl
  | false => exact absurd (congrArg (occurrences mark) he) (Nat.ne_of_lt (h.fewer rfl))

theorem Drops.le (h : Drops mark a s t) : occurrences mark t ≤ occurrences mark s := by
  cases a with
  | true => exact Nat.le_of_eq (congrArg (occurrences mark) (h.same rfl))
  | false => exact Nat.le_of_lt (h.fewer rfl)

theorem Drops.append (h : Drops mark a s t) (h' : Drops mark b s' t') : Drops mark (a && b) (s ++ s') (t ++ t') := by
  refine ⟨fun hk => ?_, fun hk => ?_⟩
  · rw [Bool.and_eq_true] at hk
    rw [h.same hk.1, h'.same hk.2]
  · have hle := h.le
    have hle' := h'.le
    rw [occurrences_append, occurrences_append]
    rw [Bool.and_eq_false_iff] at hk
    rcases hk with hk | hk
    · have hlt := h.fewer hk
      omega
    · have hlt := h'.fewer hk
      omega

/-- The same text behind. -/
theorem Drops.before (h : Drops mark a s t) (u : String) : Drops mark a (s ++ u) (t ++ u) := by
  have happend := h.append (drops_self u)
  rwa [Bool.and_true] at happend

/-- The same text in front. -/
theorem Drops.after (h : Drops mark a s t) (u : String) : Drops mark a (u ++ s) (u ++ t) :=
  (drops_self u).append h

theorem Drops.parenthesized (h : Drops mark a s t) : Drops mark a (parenthesized s) (parenthesized t) :=
  (h.after "(").before ")"

theorem Drops.bracketed (h : Drops mark a s t) : Drops mark a (bracketed s) (bracketed t) :=
  (h.after "[").before "]"

theorem Drops.braced (h : Drops mark a s t) : Drops mark a (braced s) (braced t) :=
  (h.after "\x7b").before "\x7d"

end

/-- Each text of the second list is what is left of the one in its place in the first. -/
inductive DropsAll (mark : Char) : Bool → List String → List String → Prop where
  | nil : DropsAll mark true [] []
  | cons {a b : Bool} {s t : String} {ss ts : List String} (h : Drops mark a s t) (hs : DropsAll mark b ss ts) :
    DropsAll mark (a && b) (s :: ss) (t :: ts)

namespace DropsAll

variable {mark : Char} {a : Bool} {ss ts : List String}

theorem refl (ss : List String) : DropsAll mark true ss ss := by
  induction ss with
  | nil => exact nil
  | cons s _ ih => exact cons (drops_self s) ih

theorem join (h : DropsAll mark a ss ts) : Drops mark a (String.join ss) (String.join ts) := by
  induction h with
  | nil => exact drops_self ""
  | cons h _ ih =>
    rw [String.join_cons, String.join_cons]
    exact h.append ih

theorem intercalate (h : DropsAll mark a ss ts) (separator : String) :
    Drops mark a (separator.intercalate ss) (separator.intercalate ts) := by
  induction h with
  | nil => exact drops_self _
  | cons h hs ih =>
    cases hs with
    | nil =>
      rw [String.intercalate_singleton, String.intercalate_singleton, Bool.and_true]
      exact h
    | cons _ _ =>
      rw [String.intercalate_cons_cons, String.intercalate_cons_cons]
      exact (h.before separator).append ih

theorem commaList (h : DropsAll mark a ss ts) : Drops mark a (commaList ss) (commaList ts) :=
  h.intercalate ", "

theorem isEmpty_eq (h : DropsAll mark a ss ts) : ts.isEmpty = ss.isEmpty := by
  cases h with
  | nil | cons _ _ => rfl

theorem bracedList (h : DropsAll mark a ss ts) (separator : String) :
    Drops mark a (bracedList separator ss) (bracedList separator ts) := by
  rw [Text.bracedList, Text.bracedList, h.isEmpty_eq]
  cases h with
  | nil => exact drops_self _
  | cons h hs => exact ((((cons h hs).intercalate separator).after " ").before " ").braced

theorem map (h : DropsAll mark a ss ts) {f : String → String}
    (hf : ∀ {b s t}, Drops mark b s t → Drops mark b (f s) (f t)) : DropsAll mark a (ss.map f) (ts.map f) := by
  induction h with
  | nil => exact nil
  | cons h _ ih => exact cons (hf h) ih

theorem blankAfterEach (h : DropsAll mark a ss ts) : Drops mark a (blankAfterEach ss) (blankAfterEach ts) :=
  (h.map fun h => h.before " ").join

end DropsAll

/-- The same for texts that need not be there. -/
inductive DropsOption (mark : Char) : Bool → Option String → Option String → Prop where
  | none : DropsOption mark true none none
  | some {a : Bool} {s t : String} (h : Drops mark a s t) : DropsOption mark a (some s) (some t)

end ViewTemplate.Text

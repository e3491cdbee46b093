import ViewTemplate.Proofs.Render.Agreement
import ViewTemplate.Proofs.Replaced.Text
import ViewTemplate.Proofs.Tokens.Front

/-!
# Printing follows the replacement of a scope

In a scope where no name is the component instance, and where names can be told from other texts, printing follows the
replacement of the scope (`Scope.Legible.prints`), by induction on the number of variables: a value is printed in a
scope with fewer of them.  So a function is printed as the function with its variables replaced is printed by itself
(`Function.oneLine_render_replaced`).
-/

namespace ViewTemplate

/-- No name is the component instance, and the values are legible and no object literals. -/
structure Scope.Legible (s : Scope) : Prop where
  context : s.context = ""
  vars : s.vars.every .legible = true
  values : ∀ entry ∈ s.vars.entries, entry.2.isObject = false

namespace Scope.Legible

variable {s : Scope} {x : String} {v : Expr}

theorem without (h : s.Legible) (names : List String) : (s.without names).Legible where
  context := h.context
  vars := VariableMap.every_eraseAll h.vars names
  values entry he := h.values entry (List.mem_filter.1 he).1

theorem isObject_eq_false (h : s.Legible) (hv : s.value? x = some v) : v.isObject = false := by
  obtain ⟨before, after, he, -⟩ := List.lookup_eq_some_iff.1 hv
  exact h.values (x, v) (by simp [he])

end Scope.Legible

/-- Markup begins with an angle or a brace. -/
theorem Markup.isName_renderWith_eq_false (E : Expansion) (s : Option Scope) (m : Markup) :
    Text.isName (m.renderWith E s) = false := by
  rcases m.first?_renderWith E s with hangle | hbrace
  · exact Text.isName_eq_false_of_mem (List.mem_of_head? hangle) (by decide)
  · exact Text.isName_eq_false_of_mem (List.mem_of_head? hbrace) (by decide)

/-- An operand that is no identifier is not printed as a name. -/
theorem Expr.isName_renderWith_eq_false {E : Expansion} {s : Scope} (hc : s.context = "") {e : Expr}
    (hp : e.isPrimary = true) (hi : e.ident? = none) (h : e.every .legible = true) :
    Text.isName (e.renderWith E (some s)) = false := by
  have hdot : Text.isNamePart '.' = false := by decide
  have hquote : Text.isNamePart '"' = false := by decide
  have hparen : Text.isNamePart '(' = false := by decide
  have hbracket : Text.isNamePart '[' = false := by decide
  have hbrace : Text.isNamePart '\x7b' = false := by decide
  cases e with
  | ident x => simp [ident?] at hi
  | verbatim text =>
    rw [renderWith]
    simpa [Expr.every, Check.legible] using h
  | number text =>
    rw [renderWith]
    simpa [Expr.every, Check.legible] using h
  | string value =>
    rw [renderWith]
    exact Text.isName_eq_false_of_mem (by simp [Text.quoted]) hquote
  | property object name optional =>
    have hnone : object.instance? none = none := rfl
    rw [renderWith, ← propertyText_congr_of_isPrimary hc rfl]
    simp only [propertyText, hnone]
    exact Text.isName_eq_false_of_mem (by cases optional <;> simp) hdot
  | element object argument =>
    rw [renderWith]
    exact Text.isName_eq_false_of_mem (by simp [Text.bracketed]) hbracket
  | call callee arguments =>
    rw [renderWith]
    exact Text.isName_eq_false_of_mem (by simp [Text.parenthesized]) hparen
  | paren inner =>
    rw [renderWith]
    exact Text.isName_eq_false_of_mem (by simp [Text.parenthesized]) hparen
  | object entries =>
    rw [renderWith, Text.bracedList]
    split <;> exact Text.isName_eq_false_of_mem (by simp [Text.braced]) hbrace
  | array elements =>
    rw [renderWith]
    exact Text.isName_eq_false_of_mem (by simp [Text.bracketed]) hbracket
  | markup m =>
    rw [renderWith]
    exact m.isName_renderWith_eq_false E (some s)
  | binary _ _ _ | unary _ _ | conditional _ _ _ | pattern _ | type _ | function _ => simp [isPrimary] at hp

section

variable {R : Replacement} {E : Expansion} {s t : Scope} {v : Expr} {hidden : List String} {x y : String}

/-- At the top of a scope. -/
theorem Replacement.Prints.render (hP : R.Prints E s) {e : Expr} (he : e.every .legible = true) :
    Text.oneLine (e.renderWith E (some s)) = Text.oneLine ((e.replaceWith R []).render none) := by
  have htext := e.renderWith_eq_replaceWith hP [] he
  rwa [Scope.without_nil] at htext

theorem Replacement.Prints.resolved (hP : R.Prints E s) {tag : Expr} (htag : tag.every .legible = true) :
    (R.tag [] tag (tag.replaceWith R [])).PrintsAs (.ofText E (some s) tag (tag.renderWith E (some s))) := by
  have hresolved := hP.tag [] tag htag (tag.renderWith_eq_replaceWith hP [] htag)
  rwa [Scope.without_nil] at hresolved

theorem Expr.ident?_replaceWith {e : Expr} (h : e.ident? = none) : (e.replaceWith R hidden).ident? = none := by
  cases e with
  | ident x => simp [ident?] at h
  | _ => simp only [Expr.replaceWith, ident?]

/-- What is written for a name and what replaces it: the name itself, or a value that is printed in a scope where
printing follows the replacement. -/
inductive Replacement.Answers (s : Scope) (hidden : List String) (x : String) (E : Expansion) : Prop where
  | stays (htext : E.identText (some (s.without hidden)) x = x) (htree : s.replacement.name hidden x = .ident x)
  | value {E' : Expansion} {t : Scope} {v : Expr} (hP : t.replacement.Prints E' t) (hv : v.every .legible = true)
    (ho : v.isObject = false)
    (htext : E.identText (some (s.without hidden)) x = v.operandText (v.renderWith E' (some t)))
    (htree : s.replacement.name hidden x = (v.replaced t).inPlaceOf v)

namespace Replacement.Answers

theorem isPrimary (h : Answers s hidden x E) : (s.replacement.name hidden x).isPrimary = true := by
  cases h with
  | stays _ htree => rw [htree]; rfl
  | value hP _ _ _ htree =>
    rw [htree, Expr.inPlaceOf]
    split
    · next hp => exact (Expr.isPrimary_replaceWith hP [] _).trans hp
    · rfl

theorem isObject (h : Answers s hidden x E) : (s.replacement.name hidden x).isObject = false := by
  cases h with
  | stays _ htree => rw [htree]; rfl
  | value hP _ ho _ htree =>
    rw [htree, Expr.inPlaceOf]
    split
    · exact (Expr.isObject_replaceWith hP [] _).trans ho
    · rfl

theorem oneLine (h : Answers s hidden x E) :
    Text.oneLine (E.identText (some (s.without hidden)) x) =
      Text.oneLine ((s.replacement.name hidden x).render none) := by
  cases h with
  | stays htext htree => rw [htext, htree]; rfl
  | value hP hv _ htext htree =>
    rw [htext, htree, Expr.render_inPlaceOf]
    exact Expr.oneLine_operandText_congr rfl (hP.render hv)

theorem self_iff (h : Answers s hidden x E) (hy : Text.isName y = true) :
    E.identText (some (s.without hidden)) x = y ↔ (s.replacement.name hidden x).ident? = some y := by
  cases h with
  | stays htext htree => simp [htext, htree, Expr.ident?]
  | @value E' t v hP hv _ htext htree =>
    have hparen : Text.isNamePart '(' = false := by decide
    rw [htext, htree, Expr.operandText, Expr.inPlaceOf]
    cases hp : v.isPrimary with
    | true =>
      simp only [↓reduceIte]
      cases hi : v.ident? with
      | none =>
        have hname := Expr.isName_renderWith_eq_false (E := E') hP.context hp hi hv
        have hident : (v.replaced t).ident? = none := Expr.ident?_replaceWith hi
        simp only [hident, reduceCtorEq, iff_false]
        rintro rfl
        rw [hname] at hy
        exact Bool.noConfusion hy
      | some z =>
        obtain rfl : v = .ident z := by cases v <;> simp_all [Expr.ident?]
        have hself := hP.self [] z y hy
        rw [Scope.without_nil] at hself
        rwa [Expr.renderWith, Expr.replaced, Expr.replaceWith]
    | false =>
      have hname := Text.isName_eq_false_of_mem (s := Text.parenthesized (v.renderWith E' (some t)))
        (by simp [Text.parenthesized]) hparen
      simp only [Bool.false_eq_true, ↓reduceIte, Expr.ident?, reduceCtorEq, iff_false]
      rintro rfl
      rw [hname] at hy
      exact Bool.noConfusion hy

end Replacement.Answers

end

/-- Printing in a legible scope follows the replacement of the scope. -/
theorem Scope.Legible.prints {s : Scope} {n : Nat} (h : s.Legible) (hn : s.vars.size ≤ n) :
    s.replacement.Prints (.upTo n) s := by
  induction n using Nat.strongRecOn generalizing s with
  | ind n ih =>
    -- values are printed in scopes with fewer variables
    have hvalue : ∀ hidden x v, (s.without hidden).value? x = some v → ∃ k, n = k + 1 ∧
        ((s.without hidden).without [x]).replacement.Prints (.upTo k) ((s.without hidden).without [x]) ∧
        v.every .legible = true ∧ v.isObject = false := by
      intro hidden x v hv
      have hlt := size_without_lt hv
      have hle := s.size_without_le hidden
      have hlegible := h.without hidden
      exact ⟨n - 1, by omega, ih (n - 1) (by omega) (hlegible.without [x]) (by omega),
        VariableMap.every_of_get? hlegible.vars hv, hlegible.isObject_eq_false hv⟩
    have hanswers : ∀ hidden x, Replacement.Answers s hidden x (.upTo n) := by
      intro hidden x
      cases hv : (s.without hidden).value? x with
      | none =>
        refine .stays ?_ ?_
        · simp only [Expansion.identText, hv]
          exact contextText_of_context_eq_empty (h.without hidden).context x
        · rw [replacement_name_eq_replaced, Expr.replaced_ident_of_none hv]
      | some v =>
        obtain ⟨k, rfl, hP, hlegible, ho⟩ := hvalue hidden x v hv
        by_cases hx : v.ident? = some x
        · refine .stays ?_ ?_
          · simp only [Expansion.identText, hv, hx, ↓reduceIte]
          · rw [replacement_name_eq_replaced, Expr.replaced_ident_of_self hv hx]
        · refine .value hP hlegible ho ?_ ?_
          · simp only [Expansion.identText, hv, hx, ↓reduceIte, Expansion.upTo]
          · rw [replacement_name_eq_replaced, Expr.replaced_ident_of_some hv hx]
    refine ⟨h.context, fun hidden x => (hanswers hidden x).isPrimary, fun hidden x => (hanswers hidden x).isObject,
      fun hidden x => (hanswers hidden x).oneLine, fun hidden x y hy => (hanswers hidden x).self_iff hy,
      fun hidden tag htag htext => ?_⟩
    have hrender : tag.render (some (s.without hidden)) = tag.renderWith (.upTo n) (some (s.without hidden)) :=
      (Node.renderWith_upTo (Nat.le_trans (s.size_without_le hidden) hn) (.expr tag)).symm
    have hhoisted : (Expr.ident (tag.ident?.getD "Tag")).IsTag (tag.ident?.getD "Tag") := by
      apply Expr.isTag_ident
      cases tag with
      | ident x => exact htag
      | _ => exact (by decide : Text.isName "Tag" = true)
    rw [replacement_tag, Replacement.tagTree, hrender, ResolvedTag.ofText]
    split
    · next hcomponent =>
      have htree := Text.eq_of_oneLine_eq hcomponent htext
      rw [← htree] at hcomponent ⊢
      exact Expr.isTag_of_isComponentTag hcomponent
    · cases hr : tag.replacement? (some (s.without hidden)) with
      | none => exact ⟨rfl, hhoisted, htext⟩
      | some r =>
        obtain ⟨v, t⟩ := r
        obtain ⟨x, rfl, hv, rfl⟩ := Expr.replacement?_eq_some hr
        obtain ⟨k, rfl, hP, hlegible, -⟩ := hvalue hidden x v hv
        have hstripped := v.every_stripParens hlegible
        cases he : v.stripParens with
        | conditional condition whenTrue whenFalse =>
          rw [he] at hstripped
          simp only [Expr.every, Bool.and_eq_true] at hstripped
          obtain ⟨⟨⟨-, hc⟩, hw⟩, hf⟩ := hstripped
          simp only [he, Expansion.upTo]
          exact ⟨hP.render hc, hP.resolved hw, hP.resolved hf⟩
        | _ =>
          rw [he] at hstripped
          simp only [he, Expansion.upTo]
          exact ⟨rfl, hhoisted, hP.render hstripped⟩

/-- In a legible scope a function is printed, but for line breaks, as the function with its variables replaced is by
itself. -/
theorem Function.oneLine_render_replaced {s : Scope} {f : Function} (h : s.Legible) (hf : f.every .legible = true) :
    Text.oneLine (f.render (some s)) = Text.oneLine ((f.replaced s).render none) := by
  have htext := f.renderWith_eq_replaceWith (h.prints (Nat.le_refl _)) [] hf
  rwa [Scope.without_nil] at htext

end ViewTemplate

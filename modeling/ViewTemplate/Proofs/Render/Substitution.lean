import ViewTemplate.Node
import ViewTemplate.Proofs.Scope
import ViewTemplate.Proofs.Syntax.Every

/-!
# Printing is substitution

An expression without markup and functions is printed in a scope as the expression in which the variables of the
scope are replaced is printed without one (`Expr.render_eq_render_subst`), when no name is the component instance.

`Expr.substWith` replaces names by given expressions, and printing follows it along the syntax if the text of every
name is the text of what replaces it (`Expr.renderWith_eq_substWith`).  What replaces a variable is its value, in
which the other variables are replaced in turn, so that the names come by induction on the number of variables.
-/

namespace ViewTemplate

/-! ### Replacing names -/

mutual

/-- The expression in which names are replaced by what `σ` gives for them.  Markup and functions stay as they are. -/
def Expr.substWith (σ : String → Expr) : Expr → Expr
  | .ident name => σ name
  | .verbatim text => .verbatim text
  | .string value => .string value
  | .number text => .number text
  | .property object name optional => .property (object.substWith σ) name optional
  | .element object argument => .element (object.substWith σ) (argument.substWith σ)
  | .call callee arguments => .call (callee.substWith σ) (substExprs σ arguments)
  | .binary left operator right => .binary (left.substWith σ) operator (right.substWith σ)
  | .unary operator operand => .unary operator (operand.substWith σ)
  | .conditional condition whenTrue whenFalse =>
    .conditional (condition.substWith σ) (whenTrue.substWith σ) (whenFalse.substWith σ)
  | .paren inner => .paren (inner.substWith σ)
  | .object entries => .object (substEntries σ entries)
  | .array elements => .array (substExprs σ elements)
  | .pattern p => .pattern (p.substWith σ)
  | .type t => .type t
  | .markup m => .markup m
  | .function f => .function f

/-- Replacing names in a list of expressions. -/
def substExprs (σ : String → Expr) : List Expr → List Expr
  | [] => []
  | e :: es => e.substWith σ :: substExprs σ es

/-- Replacing names in an optional expression. -/
def substExpr? (σ : String → Expr) : Option Expr → Option Expr
  | none => none
  | some e => some (e.substWith σ)

/-- Replacing names in a member of an object literal: a shorthand gets a key when it is no longer printed as its own
name. -/
def ObjectEntry.substWith (σ : String → Expr) : ObjectEntry → ObjectEntry
  | .keyed key value => .keyed key (value.substWith σ)
  | .shorthand name => if (σ name).render none = name then .shorthand name else .keyed name (σ name)
  | .spread value => .spread (value.substWith σ)

/-- Replacing names in a list of members of an object literal. -/
def substEntries (σ : String → Expr) : List ObjectEntry → List ObjectEntry
  | [] => []
  | e :: es => e.substWith σ :: substEntries σ es

/-- Replacing names in the default values of a pattern. -/
def Pattern.substWith (σ : String → Expr) : Pattern → Pattern
  | ⟨kind, elements⟩ => ⟨kind, substBindings σ elements⟩

/-- Replacing names in the default values of a binding. -/
def Binding.substWith (σ : String → Expr) : Binding → Binding
  | ⟨rest, key, target, fallback⟩ => ⟨rest, key, target.substWith σ, substExpr? σ fallback⟩

/-- Replacing names in the default values of a list of bindings. -/
def substBindings (σ : String → Expr) : List Binding → List Binding
  | [] => []
  | b :: bs => b.substWith σ :: substBindings σ bs

/-- Replacing names in the default values of a target; the names it binds stay. -/
def Target.substWith (σ : String → Expr) : Target → Target
  | .name x => .name x
  | .pattern p => .pattern (p.substWith σ)

end

/-- The expression `e` where `v` stood: in parentheses unless `v` is primary. -/
def Expr.inPlaceOf (e v : Expr) : Expr :=
  if v.isPrimary then e else .paren e

theorem Expr.freeNames_inPlaceOf (e v : Expr) : (e.inPlaceOf v).freeNames = e.freeNames := by
  rw [inPlaceOf]
  split
  · rfl
  · rw [freeNames]

theorem Expr.eq_ident_of_ident? {e : Expr} {x : String} (h : e.ident? = some x) : e = .ident x := by
  cases e <;> simp_all [Expr.ident?]

/-- What replaces `x` under the variables of `m`: its value, in which the other variables are replaced.  A name
without a value and a name that stands for itself stay. -/
def VariableMap.substName (m : VariableMap) (x : String) : Expr :=
  match _h : m.get? x with
  | none => .ident x
  | some v => if v.ident? = some x then .ident x else (v.substWith fun y => (m.erase x).substName y).inPlaceOf v
termination_by m.size
decreasing_by exact VariableMap.size_eraseAll_lt (by simp) _h

/-- The expression in which the variables of `m` are replaced by what they stand for. -/
def Expr.subst (m : VariableMap) (e : Expr) : Expr :=
  e.substWith m.substName

namespace VariableMap

variable {m : VariableMap} {x : String} {v : Expr}

theorem substName_of_none (h : m.get? x = none) : m.substName x = .ident x := by
  rw [substName]
  split
  · rfl
  · next hv => simp [h] at hv

theorem substName_of_self (h : m.get? x = some v) (hv : v.ident? = some x) : m.substName x = .ident x := by
  rw [substName]
  split
  · rfl
  · next w hw =>
    rw [h, Option.some.injEq] at hw
    rw [← hw, if_pos hv]

theorem substName_of_some (h : m.get? x = some v) (hv : v.ident? ≠ some x) :
    m.substName x = (v.subst (m.erase x)).inPlaceOf v := by
  rw [substName]
  split
  · next hn => simp [h] at hn
  · next w hw =>
    rw [h, Option.some.injEq] at hw
    rw [← hw, if_neg hv]
    rfl

end VariableMap

/-! ### What replaces a name is primary -/

theorem Expr.isPrimary_substWith {σ : String → Expr} (hσ : ∀ x, (σ x).isPrimary = true) (e : Expr) :
    (e.substWith σ).isPrimary = e.isPrimary := by
  cases e with
  | ident x => exact hσ x
  | _ => rfl

/-- Replacements need no more parentheses: a value that is not primary has them already. -/
theorem VariableMap.isPrimary_substName (m : VariableMap) (x : String) : (m.substName x).isPrimary = true := by
  cases h : m.get? x with
  | none => rw [substName_of_none h]; rfl
  | some v =>
    by_cases hv : v.ident? = some x
    · rw [substName_of_self h hv]; rfl
    · rw [substName_of_some h hv, Expr.inPlaceOf]
      have hlt : (m.erase x).size < m.size := size_eraseAll_lt (by simp) h
      have hprimary : (v.subst (m.erase x)).isPrimary = v.isPrimary :=
        v.isPrimary_substWith (m.erase x).isPrimary_substName
      split
      · next hp => exact hprimary.trans hp
      · rfl
termination_by m.size

/-! ### Printing follows the replacement -/

theorem Expr.operandText_congr {e e' : Expr} (h : e'.isPrimary = e.isPrimary) (text : String) :
    e'.operandText text = e.operandText text := by
  rw [Expr.operandText, Expr.operandText, h]

/-- Without an instance no property is a member of it, so that only parentheses depend on the object. -/
theorem Expr.propertyText_congr_of_isPrimary {s : Scope} (hc : s.context = "") {e e' : Expr}
    (h : e'.isPrimary = e.isPrimary) (text name : String) (optional : Bool) :
    e'.propertyText none text name optional = e.propertyText (some s) text name optional := by
  have hi : e.instance? (some s) = none := by
    cases hx : e.ident? <;> simp [Expr.instance?, Option.filter, hx, Scope.isContext_of_context_eq_empty hc]
  have hi' : e'.instance? none = none := rfl
  rw [Expr.propertyText, Expr.propertyText, hi, hi', Expr.operandText_congr h]

/-- Printing names in `s` with the expansion `E` follows their replacement by `σ`. -/
structure Expansion.Follows (E : Expansion) (s : Scope) (σ : String → Expr) : Prop where
  context : s.context = ""
  primary : ∀ x, (σ x).isPrimary = true
  ident : ∀ x, E.identText (some s) x = (σ x).render none

section

variable {E : Expansion} {s : Scope} {σ : String → Expr}

theorem ObjectEntry.renderWith_shorthand (hf : E.Follows s σ) (x : String) :
    (ObjectEntry.shorthand x).renderWith E (some s) =
      ((ObjectEntry.shorthand x).substWith σ).renderWith (.within none) none := by
  rw [ObjectEntry.renderWith, Expansion.shorthandText, hf.ident, ObjectEntry.substWith]
  by_cases h : (σ x).render none = x
  · simp only [h, ↓reduceIte]
    rw [ObjectEntry.renderWith, Expansion.shorthandText, Expansion.identText, if_pos rfl]
  · simp only [h, ↓reduceIte]
    rw [ObjectEntry.renderWith, Expr.render]

mutual

/-- If every name is printed as what replaces it, so is every expression without markup and functions. -/
theorem Expr.renderWith_eq_substWith (hf : E.Follows s σ) :
    ∀ e : Expr, e.every .plain = true → e.renderWith E (some s) = (e.substWith σ).renderWith (.within none) none
  | .ident x, _ => by
    rw [Expr.renderWith, hf.ident, Expr.substWith]
    rfl
  | .verbatim _, _ => by rw [Expr.substWith, Expr.renderWith, Expr.renderWith]
  | .string _, _ => by rw [Expr.substWith, Expr.renderWith, Expr.renderWith]
  | .number _, _ => by rw [Expr.substWith, Expr.renderWith, Expr.renderWith]
  | .property object name optional, h => by
    simp only [Expr.every, Bool.and_eq_true] at h
    have hprimary := object.isPrimary_substWith hf.primary
    rw [Expr.substWith, Expr.renderWith, Expr.renderWith, Expr.propertyText_congr_of_isPrimary hf.context hprimary,
      Expr.renderWith_eq_substWith hf object h.2]
  | .element object argument, h => by
    simp only [Expr.every, Bool.and_eq_true] at h
    have hprimary := object.isPrimary_substWith hf.primary
    rw [Expr.substWith, Expr.renderWith, Expr.renderWith, Expr.operandText_congr hprimary,
      Expr.renderWith_eq_substWith hf object h.1.2, Expr.renderWith_eq_substWith hf argument h.2]
  | .call callee arguments, h => by
    simp only [Expr.every, Bool.and_eq_true] at h
    have hprimary := callee.isPrimary_substWith hf.primary
    rw [Expr.substWith, Expr.renderWith, Expr.renderWith, Expr.operandText_congr hprimary,
      Expr.renderWith_eq_substWith hf callee h.1.2, renderExprs_eq_subst hf arguments h.2]
  | .binary left operator right, h => by
    simp only [Expr.every, Bool.and_eq_true] at h
    rw [Expr.substWith, Expr.renderWith, Expr.renderWith, Expr.renderWith_eq_substWith hf left h.1.2,
      Expr.renderWith_eq_substWith hf right h.2]
  | .unary operator operand, h => by
    simp only [Expr.every, Bool.and_eq_true] at h
    rw [Expr.substWith, Expr.renderWith, Expr.renderWith, Expr.renderWith_eq_substWith hf operand h.2]
  | .conditional condition whenTrue whenFalse, h => by
    simp only [Expr.every, Bool.and_eq_true] at h
    rw [Expr.substWith, Expr.renderWith, Expr.renderWith, Expr.renderWith_eq_substWith hf condition h.1.1.2,
      Expr.renderWith_eq_substWith hf whenTrue h.1.2, Expr.renderWith_eq_substWith hf whenFalse h.2]
  | .paren inner, h => by
    simp only [Expr.every, Bool.and_eq_true] at h
    rw [Expr.substWith, Expr.renderWith, Expr.renderWith, Expr.renderWith_eq_substWith hf inner h.2]
  | .object entries, h => by
    simp only [Expr.every, Bool.and_eq_true] at h
    rw [Expr.substWith, Expr.renderWith, Expr.renderWith, renderEntries_eq_subst hf entries h.2]
  | .array elements, h => by
    simp only [Expr.every, Bool.and_eq_true] at h
    rw [Expr.substWith, Expr.renderWith, Expr.renderWith, renderExprs_eq_subst hf elements h.2]
  | .pattern p, h => by
    simp only [Expr.every, Bool.and_eq_true] at h
    rw [Expr.substWith, Expr.renderWith, Expr.renderWith, Pattern.renderWith_eq_substWith hf p h.2]
  | .type _, _ => by rw [Expr.substWith, Expr.renderWith, Expr.renderWith]
  | .markup _, h => by simp [Expr.every, Check.plain] at h
  | .function _, h => by simp [Expr.every, Check.plain] at h

theorem renderExprs_eq_subst (hf : E.Follows s σ) :
    ∀ es : List Expr, everyExpr .plain es = true →
      renderExprs E (some s) es = renderExprs (.within none) none (substExprs σ es)
  | [], _ => by rw [substExprs, renderExprs, renderExprs]
  | e :: es, h => by
    simp only [everyExpr, Bool.and_eq_true] at h
    rw [substExprs, renderExprs, renderExprs, Expr.renderWith_eq_substWith hf e h.1,
      renderExprs_eq_subst hf es h.2]

theorem renderExpr?_eq_subst (hf : E.Follows s σ) (before : String) :
    ∀ e : Option Expr, everyExpr? .plain e = true →
      renderExpr? E (some s) before e = renderExpr? (.within none) none before (substExpr? σ e)
  | none, _ => by rw [substExpr?, renderExpr?, renderExpr?]
  | some e, h => by
    rw [everyExpr?] at h
    rw [substExpr?, renderExpr?, renderExpr?, Expr.renderWith_eq_substWith hf e h]

theorem ObjectEntry.renderWith_eq_substWith (hf : E.Follows s σ) :
    ∀ e : ObjectEntry, e.every .plain = true →
      e.renderWith E (some s) = (e.substWith σ).renderWith (.within none) none
  | .keyed key value, h => by
    simp only [ObjectEntry.every, Bool.and_eq_true] at h
    rw [ObjectEntry.substWith, ObjectEntry.renderWith, ObjectEntry.renderWith,
      Expr.renderWith_eq_substWith hf value h.2]
  | .shorthand x, _ => ObjectEntry.renderWith_shorthand hf x
  | .spread value, h => by
    simp only [ObjectEntry.every, Bool.and_eq_true] at h
    rw [ObjectEntry.substWith, ObjectEntry.renderWith, ObjectEntry.renderWith,
      Expr.renderWith_eq_substWith hf value h.2]

theorem renderEntries_eq_subst (hf : E.Follows s σ) :
    ∀ es : List ObjectEntry, everyEntry .plain es = true →
      renderEntries E (some s) es = renderEntries (.within none) none (substEntries σ es)
  | [], _ => by rw [substEntries, renderEntries, renderEntries]
  | e :: es, h => by
    simp only [everyEntry, Bool.and_eq_true] at h
    rw [substEntries, renderEntries, renderEntries, ObjectEntry.renderWith_eq_substWith hf e h.1,
      renderEntries_eq_subst hf es h.2]

theorem Pattern.renderWith_eq_substWith (hf : E.Follows s σ) :
    ∀ p : Pattern, p.every .plain = true → p.renderWith E (some s) = (p.substWith σ).renderWith (.within none) none
  | ⟨kind, elements⟩, h => by
    rw [Pattern.every] at h
    have helements := renderBindings_eq_subst hf elements h
    cases kind with
    | object => rw [Pattern.substWith, Pattern.renderWith, Pattern.renderWith, helements]
    | array => rw [Pattern.substWith, Pattern.renderWith, Pattern.renderWith, helements]

theorem Binding.renderWith_eq_substWith (hf : E.Follows s σ) :
    ∀ b : Binding, b.every .plain = true → b.renderWith E (some s) = (b.substWith σ).renderWith (.within none) none
  | ⟨rest, key, target, fallback⟩, h => by
    simp only [Binding.every, Bool.and_eq_true] at h
    rw [Binding.substWith, Binding.renderWith, Binding.renderWith,
      Target.renderWith_eq_substWith hf target h.1.2, renderExpr?_eq_subst hf _ fallback h.2]

theorem renderBindings_eq_subst (hf : E.Follows s σ) :
    ∀ bs : List Binding, everyBinding .plain bs = true →
      renderBindings E (some s) bs = renderBindings (.within none) none (substBindings σ bs)
  | [], _ => by rw [substBindings, renderBindings, renderBindings]
  | b :: bs, h => by
    simp only [everyBinding, Bool.and_eq_true] at h
    rw [substBindings, renderBindings, renderBindings, Binding.renderWith_eq_substWith hf b h.1,
      renderBindings_eq_subst hf bs h.2]

theorem Target.renderWith_eq_substWith (hf : E.Follows s σ) :
    ∀ t : Target, t.every .plain = true → t.renderWith E (some s) = (t.substWith σ).renderWith (.within none) none
  | .name _, _ => by rw [Target.substWith, Target.renderWith, Target.renderWith]
  | .pattern p, h => by
    simp only [Target.every, Bool.and_eq_true] at h
    rw [Target.substWith, Target.renderWith, Target.renderWith, Pattern.renderWith_eq_substWith hf p h.2]

end

end

/-! ### Names are printed as what replaces them -/

/-- What stands in the place of `v` is printed as an operand is, with the parentheses that `v` asks for. -/
theorem Expr.render_inPlaceOf (e v : Expr) : (e.inPlaceOf v).render none = v.operandText (e.render none) := by
  rw [Expr.inPlaceOf, Expr.operandText]
  split
  · rfl
  · rw [Expr.render, Expr.renderWith, Expr.render]

/-- Printing names follows their replacement: the value of a variable is printed in the scope without the variable,
where there are fewer of them. -/
theorem Expansion.upTo_follows {n : Nat} {s : Scope} (hn : s.vars.size ≤ n) (hc : s.context = "")
    (hs : s.vars.every .plain = true) : (upTo n).Follows s s.vars.substName := by
  induction n using Nat.strongRecOn generalizing s with
  | ind n ih =>
    refine ⟨hc, s.vars.isPrimary_substName, fun x => ?_⟩
    cases hv : s.value? x with
    | none =>
      rw [VariableMap.substName_of_none hv, Expansion.identText]
      simp only [hv]
      exact Scope.contextText_of_context_eq_empty hc x
    | some v =>
      by_cases hself : v.ident? = some x
      · rw [VariableMap.substName_of_self hv hself, Expansion.identText]
        simp only [hv, hself, ↓reduceIte]
        rfl
      · have hlt := Scope.size_without_lt hv
        obtain ⟨k, rfl⟩ : ∃ k, n = k + 1 := ⟨n - 1, by omega⟩
        have hf := ih k (by omega) (s := s.without [x]) (by omega) hc (VariableMap.every_eraseAll hs [x])
        rw [VariableMap.substName_of_some hv hself, Expr.render_inPlaceOf, Expansion.identText]
        simp only [hv, hself, ↓reduceIte]
        exact congrArg v.operandText (Expr.renderWith_eq_substWith hf v (VariableMap.every_of_get? hs hv))

/-- An expression without markup and functions is printed in a scope without an instance as the expression in which
the variables are replaced is printed by itself. -/
theorem Expr.render_eq_render_subst {s : Scope} {e : Expr} (hc : s.context = "") (he : e.every .plain = true)
    (hs : s.vars.every .plain = true) : e.render (some s) = (e.subst s.vars).render none :=
  Expr.renderWith_eq_substWith (Expansion.upTo_follows (Nat.le_refl _) hc hs) e he

/-- Two variables that stand for each other, one of them in a sum: the text is `(a + 1).at(...)` with `b: (b + 1)` and
`c` as members of the argument. -/
theorem Expr.render_eq_render_subst_cyclic :
    let s := (Scope.ofContext "").withVars
      (.ofList [("a", .binary (.ident "b") "+" (.number "1")), ("b", .ident "a")])
    let e := Expr.call (.property (.ident "a") "at" false) [.object [.shorthand "b", .shorthand "c"]]
    (s.context = "" ∧ e.every .plain = true ∧ s.vars.every .plain = true) ∧
      e.render (some s) = (e.subst s.vars).render none := by
  intro s e
  have hc : s.context = "" := rfl
  have he : e.every .plain = true := by decide
  have hs : s.vars.every .plain = true := by decide
  exact ⟨⟨hc, he, hs⟩, render_eq_render_subst hc he hs⟩

end ViewTemplate

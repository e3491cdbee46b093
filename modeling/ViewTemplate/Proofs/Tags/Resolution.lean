import ViewTemplate.Proofs.Render.Agreement
import ViewTemplate.Proofs.Render.Substitution

/-!
# Resolving tags

A tag whose text is no tag of a component is resolved through its variable: into a choice, if the variable stands for a
conditional, and else into a value that is bound to a name.  `Expr.resolveTag_induction` goes along: each branch of a
choice is resolved in a scope with fewer variables.

Choosing tags is choosing values: but for parentheses the resolved tag stands for what the tag is printed as in an
expression, unless the name of the component instance stands for itself (`Expr.value_resolveTag_iff`).  Printing leaves
such a name as it is, and resolving writes for it what is written for the instance.
-/

namespace ViewTemplate

/-! ### Steps -/

/-- More expansions than variables change no tag. -/
theorem ResolvedTag.ofText_upTo {s : Scope} {k : Nat} (hk : s.vars.size ≤ k) (tag : Expr) (text : String) :
    ofText (.upTo k) (some s) tag text = ofText (.within (some s)) (some s) tag text := by
  have halike : ∀ site ∈ tag.sites [], site.Alike (.upTo k) (.upTo s.vars.size) (some s) (some s) :=
    (Expansion.upTo_matches k s.vars.size).alike ⟨s, s, rfl, rfl, hk, Nat.le_refl _, Scope.Agrees.refl s⟩
      (.expr tag) fun _ _ => trivial
  have htag := ofText_congr_sites [] tag halike text
  rwa [Scope.hiding_nil] at htag

namespace Expr

section

variable {s : Scope} {x : String} {v condition whenTrue whenFalse : Expr}

theorem resolveTag_of_isComponentTag {s : Option Scope} {tag : Expr} (h : Text.isComponentTag (tag.render s) = true) :
    tag.resolveTag s = .name (tag.render s) :=
  if_pos h

/-- A tag without a value is bound to a name as it is printed. -/
theorem resolveTag_of_replacement?_eq_none {s : Option Scope} {tag : Expr}
    (h : Text.isComponentTag (tag.render s) = false) (hr : tag.replacement? s = none) :
    tag.resolveTag s = .hoisted (tag.ident?.getD "Tag") (tag.render s) := by
  rw [resolveTag, ResolvedTag.ofText, h, hr]
  rfl

theorem replacement?_ident (hv : s.value? x = some v) :
    (Expr.ident x).replacement? (some s) = some (v, s.without [x]) := by
  simp only [replacement?, ident?, Option.bind_some, hv, Option.map_some]

private theorem within_of_value? (hv : s.value? x = some v) : ∃ k, Expansion.within (some s) = .upTo (k + 1) ∧
    (s.without [x]).vars.size ≤ k := by
  have hlt := Scope.size_without_lt hv
  have hsize : s.vars.size = (s.vars.size - 1) + 1 := by omega
  exact ⟨s.vars.size - 1, congrArg Expansion.upTo hsize, by omega⟩

/-- A variable that stands for a conditional chooses between its branches. -/
theorem resolveTag_of_conditional (h : Text.isComponentTag ((Expr.ident x).render (some s)) = false)
    (hv : s.value? x = some v) (hc : v.stripParens = .conditional condition whenTrue whenFalse) :
    (Expr.ident x).resolveTag (some s) = .choice (condition.render (some (s.without [x])))
      (whenTrue.resolveTag (some (s.without [x]))) (whenFalse.resolveTag (some (s.without [x]))) := by
  obtain ⟨k, hwithin, hk⟩ := within_of_value? hv
  have htext : ∀ e : Expr, e.renderWith (.upTo k) (some (s.without [x])) = e.render (some (s.without [x])) :=
    fun e => Node.renderWith_upTo hk (.expr e)
  rw [resolveTag, ResolvedTag.ofText, h, replacement?_ident hv, hwithin]
  simp only [hc, Expansion.upTo, htext, ResolvedTag.ofText_upTo hk, Bool.false_eq_true, ↓reduceIte]
  rfl

/-- Any other value is bound to the name of its variable. -/
theorem resolveTag_of_value (h : Text.isComponentTag ((Expr.ident x).render (some s)) = false)
    (hv : s.value? x = some v) (hc : v.stripParens.isConditional = false) :
    (Expr.ident x).resolveTag (some s) = .hoisted x (v.stripParens.render (some (s.without [x]))) := by
  obtain ⟨k, hwithin, hk⟩ := within_of_value? hv
  have htext : ∀ e : Expr, e.renderWith (.upTo k) (some (s.without [x])) = e.render (some (s.without [x])) :=
    fun e => Node.renderWith_upTo hk (.expr e)
  rw [resolveTag, ResolvedTag.ofText, h, replacement?_ident hv, hwithin]
  cases he : v.stripParens with
  | conditional _ _ _ => simp [he, isConditional] at hc
  | _ => simp only [he, Expansion.upTo, htext, ident?, Option.getD_some, Bool.false_eq_true, ↓reduceIte]

end

/-- Resolving a tag goes on with the branches of what its variable stands for, in the scope without it. -/
theorem resolveTag_induction {motive : Scope → Expr → Prop}
    (component : ∀ s tag, Text.isComponentTag (tag.render (some s)) = true → motive s tag)
    (kept : ∀ s tag, Text.isComponentTag (tag.render (some s)) = false → tag.replacement? (some s) = none → motive s tag)
    (value : ∀ s x v, Text.isComponentTag ((Expr.ident x).render (some s)) = false → s.value? x = some v →
      v.stripParens.isConditional = false → motive s (.ident x))
    (choice : ∀ s x v condition whenTrue whenFalse, Text.isComponentTag ((Expr.ident x).render (some s)) = false →
      s.value? x = some v → v.stripParens = .conditional condition whenTrue whenFalse →
      motive (s.without [x]) whenTrue → motive (s.without [x]) whenFalse → motive s (.ident x))
    (s : Scope) (tag : Expr) : motive s tag := by
  induction hn : s.vars.size using Nat.strongRecOn generalizing s tag with
  | ind n ih =>
    cases htag : Text.isComponentTag (tag.render (some s)) with
    | true => exact component s tag htag
    | false =>
      cases hr : tag.replacement? (some s) with
      | none => exact kept s tag htag hr
      | some r =>
        cases tag with
        | ident x =>
          simp only [replacement?, ident?, Option.bind_some, Option.map_eq_some_iff] at hr
          obtain ⟨v, hv, -⟩ := hr
          have hlt := Scope.size_without_lt hv
          cases hc : v.stripParens with
          | conditional condition whenTrue whenFalse =>
            exact choice s x v condition whenTrue whenFalse htag hv hc (ih _ (by omega) _ whenTrue rfl)
              (ih _ (by omega) _ whenFalse rfl)
          | _ => exact value s x v htag hv (by rw [hc]; rfl)
        | _ => simp [replacement?, ident?] at hr

end Expr

/-! ### Texts without parentheses -/

/-- The text without its parentheses. -/
def Text.unparenthesized (s : String) : String :=
  String.ofList (s.toList.filter fun c => c ≠ '(' && c ≠ ')')

theorem Text.unparenthesized_append (s t : String) :
    unparenthesized (s ++ t) = unparenthesized s ++ unparenthesized t := by
  simp [unparenthesized]

theorem Text.unparenthesized_parenthesized (s : String) : unparenthesized (parenthesized s) = unparenthesized s := by
  simp [unparenthesized, parenthesized]

namespace Expr

theorem unparenthesized_operandText (e : Expr) (text : String) :
    Text.unparenthesized (e.operandText text) = Text.unparenthesized text := by
  rw [operandText]
  split
  · rfl
  · exact Text.unparenthesized_parenthesized text

theorem unparenthesized_render_stripParens (s : Option Scope) : ∀ e : Expr,
    Text.unparenthesized (e.stripParens.render s) = Text.unparenthesized (e.render s)
  | .paren inner => by
    have hinner := unparenthesized_render_stripParens s inner
    have hparen : (Expr.paren inner).render s = Text.parenthesized (inner.render s) := by
      rw [render, renderWith, render]
    rw [stripParens, hinner, hparen, Text.unparenthesized_parenthesized]
  | .ident _ | .verbatim _ | .string _ | .number _ | .property .. | .element .. | .call .. | .binary .. | .unary ..
  | .conditional .. | .object _ | .array _ | .pattern _ | .type _ | .markup _ | .function _ => rfl

end Expr

/-! ### Values of tags -/

/-- What a resolved tag stands for, as an expression. -/
def ResolvedTag.value : ResolvedTag → String
  | .name text => text
  | .choice condition whenTrue whenFalse => condition ++ " ? " ++ whenTrue.value ++ " : " ++ whenFalse.value
  | .hoisted _ value => value

/-- The name of the component instance stands for itself, is no tag, and is written differently, but for
parentheses, where it does not. -/
def Scope.ShadowsContext (s : Scope) : Prop :=
  s.context ≠ "" ∧ s.value? s.context = some (.ident s.context) ∧ Text.isComponentTag s.context = false ∧
    ∃ context, s.newContext = some context ∧ context ≠ "" ∧
      Text.unparenthesized context ≠ Text.unparenthesized s.context

theorem Scope.ShadowsContext.of_without {s : Scope} {names : List String} (h : (s.without names).ShadowsContext) :
    s.ShadowsContext := by
  obtain ⟨hne, hv, htag, hnew⟩ := h
  exact ⟨hne, (value?_of_value?_without hv).2, htag, hnew⟩

/-- Taken out of a scope, a name is the instance if it is the name of the context. -/
theorem Scope.isContext_without_self {s : Scope} {x : String} :
    (s.without [x]).isContext x = true ↔ s.context ≠ "" ∧ s.context = x := by
  have hvars : (s.vars.eraseAll [x]).contains x = false := by
    rw [VariableMap.contains_eq_isSome, VariableMap.get?_eraseAll]
    simp
  simp [isContext, without, hvars]

namespace Expr

section

variable {s : Scope} {x : String} {v : Expr}

theorem render_ident_of_self (hv : s.value? x = some (.ident x)) : (Expr.ident x).render (some s) = x := by
  simp only [render, renderWith, Expansion.identText, hv, ident?, ↓reduceIte]

theorem render_ident_of_none (hv : s.value? x = none) : (Expr.ident x).render (some s) = s.contextText x := by
  simp only [render, renderWith, Expansion.identText, hv]

/-- A variable that stands for itself is printed as itself, and without it as what is written for the instance: this
differs only where the context is shadowed. -/
theorem unparenthesized_contextText (h : ¬ s.ShadowsContext) (hv : s.value? x = some (.ident x))
    (htag : Text.isComponentTag x = false) :
    Text.unparenthesized ((s.without [x]).contextText x) = Text.unparenthesized x := by
  rw [Scope.contextText]
  split
  · next hcontext =>
    obtain ⟨hne, hx⟩ := Scope.isContext_without_self.1 hcontext
    split
    · next context hnew =>
      split
      · rfl
      · next hempty =>
        refine Classical.byContradiction fun hdiffer => h ⟨hne, hx ▸ hv, hx ▸ htag, context, hnew, ?_, hx ▸ hdiffer⟩
        simpa using hempty
    · rfl
  · rfl

/-- But for parentheses, a variable that does not resolve to a choice has its value. -/
theorem unparenthesized_render_value (h : ¬ s.ShadowsContext)
    (htag : Text.isComponentTag ((Expr.ident x).render (some s)) = false) (hv : s.value? x = some v) :
    Text.unparenthesized (v.stripParens.render (some (s.without [x]))) =
      Text.unparenthesized ((Expr.ident x).render (some s)) := by
  rw [unparenthesized_render_stripParens]
  by_cases hself : v.ident? = some x
  · obtain rfl := eq_ident_of_ident? hself
    have hnone : (s.without [x]).value? x = none := by simp [Scope.value?_without]
    rw [render_ident_of_self hv] at htag ⊢
    rw [render_ident_of_none hnone, unparenthesized_contextText h hv htag]
  · rw [render_ident_of_value? hv hself, unparenthesized_operandText]

end

/-- Where the context is not shadowed, a resolved tag stands for what the tag is printed as. -/
theorem unparenthesized_value_resolveTag (s : Scope) (tag : Expr) (h : ¬ s.ShadowsContext) :
    Text.unparenthesized (tag.resolveTag (some s)).value = Text.unparenthesized (tag.render (some s)) := by
  induction s, tag using resolveTag_induction with
  | component s tag htag => rw [resolveTag_of_isComponentTag htag, ResolvedTag.value]
  | kept s tag htag hr => rw [resolveTag_of_replacement?_eq_none htag hr, ResolvedTag.value]
  | value s x v htag hv hc =>
    rw [resolveTag_of_value htag hv hc, ResolvedTag.value, unparenthesized_render_value h htag hv]
  | choice s x v condition whenTrue whenFalse htag hv hc ih ih' =>
    have hinner : ¬ (s.without [x]).ShadowsContext := fun hs => h hs.of_without
    have htext : v.stripParens.render (some (s.without [x])) = condition.render (some (s.without [x])) ++ " ? " ++
        whenTrue.render (some (s.without [x])) ++ " : " ++ whenFalse.render (some (s.without [x])) := by
      rw [hc, render, renderWith]
      rfl
    rw [resolveTag_of_conditional htag hv hc, ResolvedTag.value, ← unparenthesized_render_value h htag hv, htext]
    simp only [Text.unparenthesized_append, ih hinner, ih' hinner]

/-- But for parentheses, every resolved tag stands for what the tag is printed as in an expression, exactly if the scope
does not shadow its context. -/
theorem value_resolveTag_iff (s : Option Scope) :
    (∀ tag : Expr, Text.unparenthesized (tag.resolveTag s).value = Text.unparenthesized (tag.render s)) ↔
      ∀ t ∈ s, ¬ t.ShadowsContext := by
  constructor
  · rintro h s rfl ⟨hne, hv, htag, context, hnew, hempty, hdiffer⟩
    -- the name of the instance itself is resolved to what is written for the instance
    have htext := render_ident_of_self hv
    have hnone : (s.without [s.context]).value? s.context = none := by simp [Scope.value?_without]
    have hcontext := Scope.isContext_without_self.2 ⟨hne, rfl⟩
    have hwritten : (s.without [s.context]).contextText s.context = context := by
      have hnew : (s.without [s.context]).newContext = some context := hnew
      have hempty : context.isEmpty = false := by simpa using hempty
      simp [Scope.contextText, hcontext, hnew, hempty]
    have hresolved := h (.ident s.context)
    rw [resolveTag_of_value (by rwa [htext]) hv rfl, ResolvedTag.value, htext] at hresolved
    have hvalue : (Expr.ident s.context).stripParens = .ident s.context := rfl
    rw [hvalue, render_ident_of_none hnone, hwritten] at hresolved
    exact hdiffer hresolved
  · intro h tag
    cases s with
    | none =>
      cases htag : Text.isComponentTag (tag.render none) with
      | true => rw [resolveTag_of_isComponentTag htag, ResolvedTag.value]
      | false => rw [resolveTag_of_replacement?_eq_none htag rfl, ResolvedTag.value]
    | some s => exact unparenthesized_value_resolveTag s tag (h s rfl)

/-- A variable that stands for itself and is the name of the instance, in a branch of a tag. -/
theorem value_resolveTag_shadowed :
    let s : Scope := ⟨"model", some "this", .ofList [("Item", .conditional (.ident "wide") (.ident "model")
      (.ident "Basic")), ("model", .ident "model")], [], none⟩
    (Expr.ident "Item").render (some s) = "(wide ? model : Basic)" ∧
      ((Expr.ident "Item").resolveTag (some s)).value = "wide ? this : Basic" ∧
      Text.unparenthesized ((Expr.ident "Item").resolveTag (some s)).value ≠
        Text.unparenthesized ((Expr.ident "Item").render (some s)) := by
  decide

end Expr

end ViewTemplate

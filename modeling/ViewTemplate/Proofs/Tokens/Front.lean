import ViewTemplate.Proofs.Render.Agreement
import ViewTemplate.Proofs.Render.Substitution
import ViewTemplate.Proofs.Tokens.Text

/-!
# Signs at the front of an expression

Only a few texts can begin with a sign: names and texts that are written as they are, prefix operators, and modifiers of
functions.  An expression begins with a sign if one of these is its leftmost part (`Expr.first?_render_iff`); the way
to it goes on into the values of variables, unless there are parentheses around them.
-/

namespace ViewTemplate

open Text (first? isSign)

/-! ### Names that are replaced -/

/-- What is written for `x` instead of it, with the scope it is printed in; a name that stands for itself is not
replaced. -/
def Scope.replaced? (s : Option Scope) (x : String) : Option (Expr × Scope) :=
  ((Expr.ident x).replacement? s).filter fun r => r.1.ident? ≠ some x

/-- What is written for a name that is not replaced. -/
def Scope.ownText (s : Option Scope) (x : String) : String :=
  (s.map (·.contextText x)).getD x

section

variable {s : Option Scope} {x : String} {v : Expr} {t : Scope}

theorem Scope.exists_of_replaced? (h : Scope.replaced? s x = some (v, t)) :
    ∃ u, s = some u ∧ u.value? x = some v ∧ v.ident? ≠ some x ∧ t = u.without [x] := by
  obtain ⟨hr, hself⟩ := Option.filter_eq_some_iff.1 h
  obtain ⟨u, rfl, hr⟩ := Option.bind_eq_some_iff.1 hr
  obtain ⟨w, hw, hr⟩ := Option.map_eq_some_iff.1 hr
  obtain ⟨rfl, rfl⟩ := Prod.mk.inj hr
  exact ⟨u, rfl, hw, by simpa using hself, rfl⟩

theorem Scope.replaced?_some (u : Scope) (x : String) : Scope.replaced? (some u) x =
    ((u.value? x).map fun v => (v, u.without [x])).filter fun r => r.1.ident? ≠ some x :=
  rfl

/-- A name that is replaced is printed as its value in the scope without the name. -/
theorem Expr.render_ident_of_replaced? (h : Scope.replaced? s x = some (v, t)) :
    (Expr.ident x).render s = v.operandText (v.render (some t)) := by
  obtain ⟨u, rfl, hv, hself, rfl⟩ := Scope.exists_of_replaced? h
  exact Expr.render_ident_of_value? hv hself

theorem Expr.render_ident_of_replaced?_eq_none (h : Scope.replaced? s x = none) :
    (Expr.ident x).render s = Scope.ownText s x := by
  cases s with
  | none => rfl
  | some u =>
    show (Expr.ident x).render (some u) = u.contextText x
    cases hv : u.value? x with
    | none => simp only [Expr.render, Expr.renderWith, Expansion.identText, hv]
    | some v =>
      have hself : v.ident? = some x := by simpa [Scope.replaced?_some, hv] using h
      have hown : u.contextText x = x := by simp [Scope.contextText, Scope.isContext_eq_false_of_value hv]
      simp only [Expr.render, Expr.renderWith, Expansion.identText, hv, if_pos hself, hown]

/-- What holds in a scope as soon as it holds in all scopes that values of its names are printed in, holds in every
scope. -/
theorem Scope.replaced?_induction {P : Option Scope → Prop}
    (h : ∀ s, (∀ x v t, Scope.replaced? s x = some (v, t) → P (some t)) → P s) (s : Option Scope) : P s := by
  have hsome : ∀ u : Scope, P (some u) := by
    intro u
    induction hn : u.vars.size using Nat.strongRecOn generalizing u with
    | ind n ih =>
      refine h _ fun x v t hr => ?_
      obtain ⟨w, hw, hv, -, rfl⟩ := Scope.exists_of_replaced? hr
      obtain rfl : u = w := Option.some.inj hw
      have hlt := Scope.size_without_lt hv
      exact ih _ (by omega) _ rfl
  cases s with
  | some u => exact hsome u
  | none => exact h none fun x v t _ => hsome t

end

/-! ### The front of an operand -/

/-- The modifier that a function begins with. -/
def Function.leadingModifier? (f : Function) : Option String :=
  match f.form with
  | .keyword (_ :: _) _ _ => none
  | _ => f.modifiers.head?

/-- The expression begins with `c` once variables are replaced. -/
inductive Expr.BeginsWith (c : Char) : Option Scope → Expr → Prop where
  /-- a name that is written so -/
  | name {s : Option Scope} {x : String} (hx : Scope.replaced? s x = none) (h : first? (Scope.ownText s x) = some c) :
    BeginsWith c s (.ident x)
  /-- a name with a value that is written without parentheses -/
  | value {s : Option Scope} {x : String} {v : Expr} {t : Scope} (hx : Scope.replaced? s x = some (v, t))
    (hv : v.isPrimary = true) (h : BeginsWith c (some t) v) : BeginsWith c s (.ident x)
  | verbatim {s : Option Scope} {text : String} (h : first? text = some c) : BeginsWith c s (.verbatim text)
  | number {s : Option Scope} {text : String} (h : first? text = some c) : BeginsWith c s (.number text)
  /-- a property of the component instance -/
  | member {s : Option Scope} {object : Expr} {name : String} {optional : Bool} {t : Scope}
    (ho : object.instance? s = some t) (h : first? (t.memberAccess name) = some c) :
    BeginsWith c s (.property object name optional)
  | property {s : Option Scope} {object : Expr} {name : String} {optional : Bool} (ho : object.instance? s = none)
    (hp : object.isPrimary = true) (h : BeginsWith c s object) : BeginsWith c s (.property object name optional)
  | element {s : Option Scope} {object argument : Expr} (hp : object.isPrimary = true) (h : BeginsWith c s object) :
    BeginsWith c s (.element object argument)
  | call {s : Option Scope} {callee : Expr} {arguments : List Expr} (hp : callee.isPrimary = true)
    (h : BeginsWith c s callee) : BeginsWith c s (.call callee arguments)
  | binary {s : Option Scope} {left right : Expr} {operator : String} (h : BeginsWith c s left) :
    BeginsWith c s (.binary left operator right)
  | operator {s : Option Scope} {operator : String} {operand : Expr} (h : first? operator = some c) :
    BeginsWith c s (.unary operator operand)
  | operand {s : Option Scope} {operand : Expr} (h : BeginsWith c s operand) : BeginsWith c s (.unary "" operand)
  | conditional {s : Option Scope} {condition whenTrue whenFalse : Expr} (h : BeginsWith c s condition) :
    BeginsWith c s (.conditional condition whenTrue whenFalse)
  | type {s : Option Scope} {t : TypeExpr} (h : first? t.render = some c) : BeginsWith c s (.type t)
  | function {s : Option Scope} {f : Function} {modifier : String} (hf : f.leadingModifier? = some modifier)
    (h : first? modifier = some c) : BeginsWith c s (.function f)

namespace Expr

variable {c : Char} {s : Option Scope} {x name operator : String} {optional : Bool} {object argument callee left right
  condition whenTrue whenFalse operand : Expr} {arguments : List Expr}

theorem beginsWith_ident_of_replaced? {v : Expr} {t : Scope} (hx : Scope.replaced? s x = some (v, t)) :
    BeginsWith c s (.ident x) ↔ v.isPrimary = true ∧ BeginsWith c (some t) v := by
  refine ⟨fun h => ?_, fun ⟨hv, h⟩ => .value hx hv h⟩
  cases h with
  | name hx' h => cases hx.symm.trans hx'
  | value hx' hv h =>
    cases hx.symm.trans hx'
    exact ⟨hv, h⟩

theorem beginsWith_ident_of_replaced?_eq_none (hx : Scope.replaced? s x = none) :
    BeginsWith c s (.ident x) ↔ first? (Scope.ownText s x) = some c := by
  refine ⟨fun h => ?_, .name hx⟩
  cases h with
  | name _ h => exact h
  | value hx' _ _ => cases hx.symm.trans hx'

theorem beginsWith_property : BeginsWith c s (.property object name optional) ↔
    (∃ t, object.instance? s = some t ∧ first? (t.memberAccess name) = some c) ∨
      (object.instance? s = none ∧ object.isPrimary = true ∧ BeginsWith c s object) := by
  constructor
  · intro h
    cases h with
    | member ho h => exact Or.inl ⟨_, ho, h⟩
    | property ho hp h => exact Or.inr ⟨ho, hp, h⟩
  · rintro (⟨t, ho, h⟩ | ⟨ho, hp, h⟩)
    · exact .member ho h
    · exact .property ho hp h

theorem beginsWith_element :
    BeginsWith c s (.element object argument) ↔ object.isPrimary = true ∧ BeginsWith c s object := by
  refine ⟨fun h => ?_, fun ⟨hp, h⟩ => .element hp h⟩
  cases h with
  | element hp h => exact ⟨hp, h⟩

theorem beginsWith_call :
    BeginsWith c s (.call callee arguments) ↔ callee.isPrimary = true ∧ BeginsWith c s callee := by
  refine ⟨fun h => ?_, fun ⟨hp, h⟩ => .call hp h⟩
  cases h with
  | call hp h => exact ⟨hp, h⟩

theorem beginsWith_unary : BeginsWith c s (.unary operator operand) ↔
    first? operator = some c ∨ (operator = "" ∧ BeginsWith c s operand) := by
  constructor
  · intro h
    cases h with
    | operator h => exact Or.inl h
    | operand h => exact Or.inr ⟨rfl, h⟩
  · rintro (h | ⟨rfl, h⟩)
    · exact .operator h
    · exact .operand h

theorem beginsWith_function {f : Function} :
    BeginsWith c s (.function f) ↔ ∃ modifier, f.leadingModifier? = some modifier ∧ first? modifier = some c := by
  refine ⟨fun h => ?_, fun ⟨modifier, hf, h⟩ => .function hf h⟩
  cases h with
  | function hf h => exact ⟨_, hf, h⟩

end Expr

section

variable {E : Expansion} {s : Option Scope} {c : Char}

/-- A text that is put between parentheses does not begin with a sign. -/
theorem Expr.first?_operandText_iff (hc : isSign c = true) (e : Expr) (text : String) :
    first? (e.operandText text) = some c ↔ e.isPrimary = true ∧ first? text = some c := by
  rw [operandText]
  split
  · next h => simp [h]
  · next h =>
    have hne := Text.first?_ne_of_isSign hc (Text.first?_parenthesized text) rfl
    simp [h, hne]

theorem Expr.first?_propertyText_iff (hc : isSign c = true) (object : Expr) (text name : String) (optional : Bool) :
    first? (object.propertyText s text name optional) = some c ↔
      (∃ t, object.instance? s = some t ∧ first? (t.memberAccess name) = some c) ∨
        (object.instance? s = none ∧ object.isPrimary = true ∧ first? text = some c) := by
  rw [propertyText]
  cases object.instance? s with
  | some t => simp
  | none =>
    have hdot : first? ((if optional then "?." else ".") ++ name) ≠ some c := by
      cases optional
      · exact Text.first?_ne_of_isSign hc (Text.first?_append_of_eq_some rfl) rfl
      · exact Text.first?_ne_of_isSign hc (Text.first?_append_of_eq_some rfl) rfl
    rw [String.append_assoc, Text.first?_append_iff hdot, first?_operandText_iff hc]
    simp

theorem first?_unaryText_iff (operator text : String) :
    first? (unaryText operator text) = some c ↔ first? operator = some c ∨ (operator = "" ∧ first? text = some c) := by
  by_cases ho : operator = ""
  · subst ho
    have htext : unaryText "" text = text := String.empty_append
    rw [htext]
    simp [first?]
  · obtain ⟨d, hd⟩ := Option.ne_none_iff_exists'.1 (Text.first?_ne_none ho)
    have htext : first? (unaryText operator text) = some d := by
      rw [unaryText]
      split
      · rw [String.append_assoc]
        exact Text.first?_append_of_eq_some hd
      · exact Text.first?_append_of_eq_some hd
    simp [htext, hd, ho]

/-- Markup begins with an angle or a brace. -/
theorem Markup.first?_renderWith (E : Expansion) (s : Option Scope) (m : Markup) :
    first? (m.renderWith E s) = some '<' ∨ first? (m.renderWith E s) = some '\x7b' := by
  have helement : ∀ tag attributes children, first? (ResolvedTag.elementText tag attributes children) = some '<' := by
    intro tag attributes children
    cases children <;> simp only [ResolvedTag.elementText, String.append_assoc] <;>
      exact Text.first?_append_of_eq_some rfl
  have hrender : ∀ attributes children (t : ResolvedTag), first? (t.render attributes children) = some '<' ∨
      first? (t.render attributes children) = some '\x7b' := by
    intro attributes children t
    cases t with
    | name text => exact Or.inl (helement _ _ _)
    | choice _ _ _ => exact Or.inr (Text.first?_braced _)
    | hoisted _ _ => exact Or.inr (Text.first?_braced _)
  cases m with
  | element opening children =>
    obtain ⟨tag, attributes⟩ := opening
    rw [Markup.renderWith, OpeningTag.renderWith]
    exact hrender _ _ _
  | selfClosing opening =>
    obtain ⟨tag, attributes⟩ := opening
    rw [Markup.renderWith, OpeningTag.renderWith]
    exact hrender _ _ _
  | fragment children =>
    rw [Markup.renderWith, String.append_assoc]
    exact Or.inl (Text.first?_append_of_eq_some rfl)
  | container content =>
    rw [Markup.renderWith]
    exact Or.inr (Text.first?_braced _)

theorem Pattern.first?_renderWith (E : Expansion) (s : Option Scope) (p : Pattern) :
    first? (p.renderWith E s) = some '\x7b' ∨ first? (p.renderWith E s) = some '[' := by
  obtain ⟨kind, elements⟩ := p
  cases kind with
  | object =>
    rw [Pattern.renderWith]
    exact Or.inl (Text.first?_bracedList _ _)
  | array =>
    rw [Pattern.renderWith]
    exact Or.inr (Text.first?_bracketed _)

/-- A function begins with a decorator, a modifier, its keyword, its type parameters or its parameters. -/
theorem Function.first?_renderWith_iff (hc : isSign c = true) (E : Expansion) (s : Option Scope) (f : Function) :
    first? (f.renderWith E s) = some c ↔
      ∃ modifier, f.leadingModifier? = some modifier ∧ first? modifier = some c := by
  obtain ⟨form, modifiers, typeParameters, parameters, returnType, body⟩ := f
  rw [Function.renderWith]
  cases form with
  | keyword decorators generator name =>
    cases decorators with
    | nil =>
      have hjoin : String.join [] = "" := rfl
      simp only [FunctionForm.renderWith, renderExprs, List.map_nil, hjoin, String.empty_append, String.append_assoc]
      refine Text.first?_blankAfterEach_append_iff hc ?_ modifiers
      exact Text.first?_ne_of_isSign hc (Text.first?_append_of_eq_some rfl) rfl
    | cons decorator decorators =>
      simp only [FunctionForm.renderWith, renderExprs, List.map_cons, String.join_cons, String.append_assoc]
      refine iff_of_false ?_ (by simp [leadingModifier?])
      exact Text.first?_ne_of_isSign hc (Text.first?_append_of_eq_some rfl) rfl
  | arrow =>
    simp only [FunctionForm.renderWith, Text.parenthesized, String.append_assoc]
    refine Text.first?_blankAfterEach_append_iff hc ?_ modifiers
    split
    · rw [String.empty_append]
      exact Text.first?_ne_of_isSign hc (Text.first?_append_of_eq_some rfl) rfl
    · rw [String.append_assoc]
      exact Text.first?_ne_of_isSign hc (Text.first?_append_of_eq_some rfl) rfl

/-- An expression begins with a sign exactly if it leads to one, as far as this holds of identifiers. -/
theorem Expr.first?_renderWith_iff (hc : isSign c = true)
    (hident : ∀ x, first? (E.identText s x) = some c ↔ BeginsWith c s (.ident x)) :
    ∀ e : Expr, first? (e.renderWith E s) = some c ↔ BeginsWith c s e
  | .ident x => by
    rw [Expr.renderWith]
    exact hident x
  | .verbatim text | .number text => by
    rw [Expr.renderWith]
    exact ⟨fun h => by constructor; exact h, fun h => by cases h; assumption⟩
  | .string value => by
    rw [Expr.renderWith]
    exact iff_of_false (Text.first?_ne_of_isSign hc (Text.first?_quoted _) rfl) nofun
  | .property base name optional => by
    rw [Expr.renderWith, first?_propertyText_iff hc, beginsWith_property, Expr.first?_renderWith_iff hc hident base]
  | .element base argument => by
    have hindex := Text.first?_ne_of_isSign hc (Text.first?_bracketed (argument.renderWith E s)) rfl
    rw [Expr.renderWith, Text.first?_append_iff hindex, first?_operandText_iff hc,
      Expr.first?_renderWith_iff hc hident base, beginsWith_element]
  | .call callee arguments => by
    have harguments := Text.first?_ne_of_isSign hc
      (Text.first?_parenthesized (Text.commaList (renderExprs E s arguments))) rfl
    rw [Expr.renderWith, Text.first?_append_iff harguments, first?_operandText_iff hc,
      Expr.first?_renderWith_iff hc hident callee, beginsWith_call]
  | .binary left operator right => by
    rw [Expr.renderWith, String.append_assoc, String.append_assoc, String.append_assoc,
      Text.first?_append_iff (Text.first?_ne_of_isSign hc (Text.first?_append_of_eq_some rfl) rfl),
      Expr.first?_renderWith_iff hc hident left]
    exact ⟨.binary, fun h => by cases h; assumption⟩
  | .unary operator operand => by
    rw [Expr.renderWith, first?_unaryText_iff, Expr.first?_renderWith_iff hc hident operand, beginsWith_unary]
  | .conditional condition whenTrue whenFalse => by
    rw [Expr.renderWith, String.append_assoc, String.append_assoc, String.append_assoc,
      Text.first?_append_iff (Text.first?_ne_of_isSign hc (Text.first?_append_of_eq_some rfl) rfl),
      Expr.first?_renderWith_iff hc hident condition]
    exact ⟨.conditional, fun h => by cases h; assumption⟩
  | .paren inner => by
    rw [Expr.renderWith]
    exact iff_of_false (Text.first?_ne_of_isSign hc (Text.first?_parenthesized _) rfl) nofun
  | .object entries => by
    rw [Expr.renderWith]
    exact iff_of_false (Text.first?_ne_of_isSign hc (Text.first?_bracedList _ _) rfl) nofun
  | .array elements => by
    rw [Expr.renderWith]
    exact iff_of_false (Text.first?_ne_of_isSign hc (Text.first?_bracketed _) rfl) nofun
  | .pattern p => by
    rw [Expr.renderWith]
    refine iff_of_false ?_ nofun
    rcases p.first?_renderWith E s with h | h <;> exact Text.first?_ne_of_isSign hc h rfl
  | .type t => by
    rw [Expr.renderWith]
    exact ⟨.type, fun h => by cases h; assumption⟩
  | .markup m => by
    rw [Expr.renderWith]
    refine iff_of_false ?_ nofun
    rcases m.first?_renderWith E s with h | h <;> exact Text.first?_ne_of_isSign hc h rfl
  | .function f => by
    rw [Expr.renderWith, f.first?_renderWith_iff hc, beginsWith_function]
termination_by structural e => e

/-- An expression begins with a sign exactly if it leads to one. -/
theorem Expr.first?_render_iff (hc : isSign c = true) (s : Option Scope) (e : Expr) :
    first? (e.render s) = some c ↔ BeginsWith c s e := by
  induction s using Scope.replaced?_induction generalizing e with
  | h s ih =>
    refine e.first?_renderWith_iff hc fun x => ?_
    have htext : (Expansion.within s).identText s x = (Expr.ident x).render s := rfl
    rw [htext]
    cases hr : Scope.replaced? s x with
    | none => rw [render_ident_of_replaced?_eq_none hr, beginsWith_ident_of_replaced?_eq_none hr]
    | some r =>
      obtain ⟨v, t⟩ := r
      rw [render_ident_of_replaced? hr, first?_operandText_iff hc, ih x v t hr v, beginsWith_ident_of_replaced? hr]

end

end ViewTemplate

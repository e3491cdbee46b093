import ViewTemplate.Proofs.Render.Drops
import ViewTemplate.Proofs.Render.Source
import ViewTemplate.Proofs.Resolution
import ViewTemplate.Proofs.Text

/-!
# Optional reads of the component instance

A scope that only names the component instance leaves every text as it was written but for one thing: a property of the
instance is read without `?`, also where the read was optional.  So a piece of syntax is printed as it was written exactly
if no read of that name in it is optional (`Scope.OnlyNames.render_eq_source_iff`).  Where the text is another one it has
fewer question marks, and this is what is carried through the syntax (`Text.Drops`).
-/

namespace ViewTemplate

open Text (Drops DropsAll DropsOption occurrences occurrences_append drops_self)

/-- A tag that stands for a component has no question mark. -/
theorem Text.questionMarks_of_isComponentTag {s : String} (h : isComponentTag s = true) : occurrences '?' s = 0 := by
  rw [occurrences, List.count_eq_zero]
  intro hc
  exact absurd (eq_dot_or_isNamePart_of_mem h hc) (by decide)

/-! ### Tags -/

namespace ResolvedTag

section

variable {E E' : Expansion} {s : Option Scope} {a b d : Bool} {x t t' attributes attributes' : String}
  {children children' : Option String} {tag : Expr}

/-- A tag that no variable replaces. -/
theorem ofText_of_replacement?_eq_none (h : tag.replacement? s = none) (text : String) :
    ofText E s tag text =
      if Text.isComponentTag text then .name text else .hoisted (tag.ident?.getD "Tag") text := by
  rw [ofText, h]

theorem drops_elementText (ha : Drops '?' a attributes attributes') (hc : DropsOption '?' b children children')
    (x : String) : Drops '?' (a && b) (elementText x attributes children) (elementText x attributes' children') := by
  cases hc with
  | none =>
    rw [Bool.and_true]
    exact (ha.after ("<" ++ x)).before " />"
  | some hc => exact ((((((ha.after ("<" ++ x)).before ">").append hc).before "</").before x).before ">")

/-- A tag without question marks adds none to the element. -/
theorem questionMarks_elementText (hx : occurrences '?' x = 0) (attributes : String) (children : Option String) :
    occurrences '?' (elementText x attributes children) = occurrences '?' (elementText "" attributes children) := by
  cases children with
  | none =>
    simp only [elementText, occurrences_append, hx]
    rfl
  | some children =>
    simp only [elementText, occurrences_append, hx]
    rfl

theorem questionMarks_render_hoisted (x value attributes : String) (children : Option String) :
    occurrences '?' ((hoisted x value).render attributes children) =
      occurrences '?' x + occurrences '?' value + occurrences '?' (elementText x attributes children) := by
  simp only [render, markup, Text.braced, occurrences_append]
  simp only [show occurrences '?' "\x7b" = 0 from rfl, show occurrences '?' "\x7d" = 0 from rfl,
    show occurrences '?' "(() => " = 0 from rfl, show occurrences '?' " const " = 0 from rfl,
    show occurrences '?' " = " = 0 from rfl, show occurrences '?' "; return " = 0 from rfl,
    show occurrences '?' "; " = 0 from rfl, show occurrences '?' ")()" = 0 from rfl]
  omega

/-- A tag is resolved alike where nothing is dropped of its text.  Otherwise the text has a question mark and has to be
given a name, which need not hold of what is left of it. -/
theorem drops_render {s' : Option Scope} (ht : Drops '?' a t t') (htag : a = false → tag.ident? = none)
    (hs : tag.replacement? s = none) (hs' : tag.replacement? s' = none) (ha : Drops '?' b attributes attributes')
    (hc : DropsOption '?' d children children') :
    Drops '?' (a && b && d) ((ofText E s tag t).render attributes children)
      ((ofText E' s' tag t').render attributes' children') := by
  rw [ofText_of_replacement?_eq_none hs, ofText_of_replacement?_eq_none hs']
  cases a with
  | true =>
    rw [ht.same rfl, Bool.true_and]
    split
    · exact drops_elementText ha hc t
    · exact (((((drops_elementText ha hc _).after _).before "; ").braced).after "(() => ").before ")()" |>.braced
  | false =>
    have hlt := ht.fewer rfl
    have hnot : Text.isComponentTag t = false := by
      rw [Bool.eq_false_iff]
      intro h
      rw [Text.questionMarks_of_isComponentTag h] at hlt
      exact Nat.not_lt_zero _ hlt
    have hle := (drops_elementText ha hc "").le
    have hname : occurrences '?' "Tag" = 0 := rfl
    refine ⟨fun h => Bool.noConfusion h, fun _ => ?_⟩
    rw [htag rfl, hnot, if_neg Bool.false_ne_true, Option.getD_none, questionMarks_render_hoisted,
      questionMarks_elementText hname]
    split
    · next h =>
      rw [render, questionMarks_elementText (Text.questionMarks_of_isComponentTag h)]
      omega
    · rw [questionMarks_render_hoisted, questionMarks_elementText hname]
      omega

end

end ResolvedTag

/-! ### Scopes that only name the instance -/

/-- The scope names the component instance and says nothing else: no other name is written for the instance, it has no
members, and there are no variables. -/
structure Scope.OnlyNames (s : Scope) (c : String) : Prop where
  context : s.context = c
  nonempty : c ≠ ""
  newContext : s.newContext = none ∨ s.newContext = some c
  members : s.members = []
  vars : s.vars = ∅

/-- Properties of `c` are not read by `?.`. -/
def Check.required (c : String) : Check where
  expr
    | .property (.ident x) _ optional => !(x == c && optional)
    | _ => true

section

variable {s : Scope} {c : String} {E E' : Expansion}

namespace Scope.OnlyNames

theorem value? (hs : s.OnlyNames c) (x : String) : s.value? x = none := by
  rw [Scope.value?, hs.vars, VariableMap.get?_empty]

theorem hiding_eq (hs : s.OnlyNames c) (names : List String) : Scope.hiding (some s) names = some s := by
  have hvars : s.vars.eraseAll names = s.vars := by
    rw [hs.vars]
    rfl
  rw [Scope.hiding, Option.map_some, Scope.without, hvars]

theorem isContext (hs : s.OnlyNames c) (x : String) : s.isContext x = (c == x) := by
  have hempty : c.isEmpty = false := String.isEmpty_eq_false_iff.2 hs.nonempty
  have hcontains : s.vars.contains x = false := by
    rw [hs.vars]
    rfl
  rw [Scope.isContext, hs.context, hempty, hcontains]
  simp

theorem effectiveContext (hs : s.OnlyNames c) : s.effectiveContext = c := by
  rw [Scope.effectiveContext, hs.context]
  rcases hs.newContext with h | h <;> rw [h] <;> rfl

theorem memberAccess (hs : s.OnlyNames c) (name : String) : s.memberAccess name = c ++ "." ++ name := by
  have hempty : c.isEmpty = false := String.isEmpty_eq_false_iff.2 hs.nonempty
  rw [Scope.memberAccess, member?, hs.members, hs.effectiveContext, hempty]
  rfl

/-- Every identifier is written as it stands. -/
theorem identText (hs : s.OnlyNames c) (x : String) : E.identText (some s) x = x := by
  simp only [Expansion.identText, hs.value?, contextText, hs.isContext]
  split
  · next h =>
    rcases hs.newContext with hn | hn
    · rw [hn]
    · rw [hn]
      simpa using fun _ => eq_of_beq h
  · rfl

theorem replacement?_eq_none (hs : s.OnlyNames c) (tag : Expr) : tag.replacement? (some s) = none := by
  cases h : tag.ident? <;> simp [Expr.replacement?, h, hs.value?]

end Scope.OnlyNames

theorem Expr.replacement?_none (tag : Expr) : tag.replacement? none = none :=
  rfl

theorem Text.Drops.operandText {a : Bool} {t t' : String} (h : Drops '?' a t t') (e : Expr) :
    Drops '?' a (e.operandText t) (e.operandText t') := by
  rw [Expr.operandText, Expr.operandText]
  split
  · exact h
  · exact h.parenthesized

theorem Text.Drops.bodyText {a : Bool} {t t' : String} (h : Drops '?' a t t') (e : Expr) :
    Drops '?' a (e.bodyText t) (e.bodyText t') := by
  rw [Expr.bodyText, Expr.bodyText]
  split
  · exact h.parenthesized
  · exact h

theorem Text.Drops.unaryText {a : Bool} {t t' : String} (h : Drops '?' a t t') (operator : String) :
    Drops '?' a (unaryText operator t) (unaryText operator t') := by
  rw [ViewTemplate.unaryText, ViewTemplate.unaryText]
  split
  · exact h.after _
  · exact h.after _

/-- A property of the instance is read without `?`, any other one as it is. -/
theorem Expr.drops_propertyText (hs : s.OnlyNames c) {a : Bool} (object : Expr) (name : String) (optional : Bool)
    (h : Drops '?' a (object.renderWith E none) (object.renderWith E' (some s))) :
    Drops '?' ((Check.required c).expr (.property object name optional) && a)
      (object.propertyText none (object.renderWith E none) name optional)
      (object.propertyText (some s) (object.renderWith E' (some s)) name optional) := by
  cases object with
  | ident x =>
    rw [Expr.renderWith, Expr.renderWith, hs.identText] at h ⊢
    have ha : a = true := h.eq_iff.1 rfl
    rw [ha, Bool.and_true, Expr.propertyText_ident, hs.isContext, hs.memberAccess]
    show Drops '?' (!(x == c && optional)) (x ++ (if optional then "?." else ".") ++ name) _
    by_cases hx : x = c
    · subst hx
      rw [beq_self_eq_true, if_pos rfl, Bool.true_and]
      cases optional with
      | true =>
        have hfewer : Drops '?' false "?." "." := ⟨fun h => Bool.noConfusion h, fun _ => by decide⟩
        exact (hfewer.after x).before name
      | false => exact drops_self _
    · rw [beq_eq_false_iff_ne.2 hx, beq_eq_false_iff_ne.2 (Ne.symm hx), if_neg Bool.false_ne_true]
      exact drops_self _
  | _ => exact (((h.operandText _).before _).before name)

mutual

/-- What a scope that only names the instance leaves of the text of an expression. -/
theorem Expr.drops_renderWith (hs : s.OnlyNames c) :
    ∀ e : Expr, Drops '?' (e.every (.required c)) (e.renderWith E none) (e.renderWith E' (some s))
  | .ident x => by
    rw [Expr.renderWith, Expr.renderWith, hs.identText, Expr.every]
    exact drops_self x
  | .verbatim _ | .string _ | .number _ | .type _ => by
    rw [Expr.renderWith, Expr.renderWith, Expr.every]
    exact drops_self _
  | .property object name optional => by
    rw [Expr.renderWith, Expr.renderWith, Expr.every]
    exact Expr.drops_propertyText hs object name optional (Expr.drops_renderWith hs object)
  | .element object argument => by
    rw [Expr.renderWith, Expr.renderWith, Expr.every]
    exact ((Expr.drops_renderWith hs object).operandText object).append (Expr.drops_renderWith hs argument).bracketed
  | .call callee arguments => by
    rw [Expr.renderWith, Expr.renderWith, Expr.every]
    exact ((Expr.drops_renderWith hs callee).operandText callee).append
      (drops_renderExprs hs arguments).commaList.parenthesized
  | .binary left operator right => by
    rw [Expr.renderWith, Expr.renderWith, Expr.every]
    exact ((((Expr.drops_renderWith hs left).before " ").before operator).before " ").append
      (Expr.drops_renderWith hs right)
  | .unary operator operand => by
    rw [Expr.renderWith, Expr.renderWith, Expr.every]
    exact (Expr.drops_renderWith hs operand).unaryText operator
  | .conditional condition whenTrue whenFalse => by
    rw [Expr.renderWith, Expr.renderWith, Expr.every]
    exact ((((Expr.drops_renderWith hs condition).before " ? ").append (Expr.drops_renderWith hs whenTrue)).before
      " : ").append (Expr.drops_renderWith hs whenFalse)
  | .paren inner => by
    rw [Expr.renderWith, Expr.renderWith, Expr.every]
    exact (Expr.drops_renderWith hs inner).parenthesized
  | .object entries => by
    rw [Expr.renderWith, Expr.renderWith, Expr.every]
    exact (drops_renderEntries hs entries).bracedList ", "
  | .array elements => by
    rw [Expr.renderWith, Expr.renderWith, Expr.every]
    exact (drops_renderExprs hs elements).commaList.bracketed
  | .pattern p => by
    rw [Expr.renderWith, Expr.renderWith, Expr.every]
    exact Pattern.drops_renderWith hs p
  | .markup m => by
    rw [Expr.renderWith, Expr.renderWith, Expr.every]
    exact Markup.drops_renderWith hs m
  | .function f => by
    rw [Expr.renderWith, Expr.renderWith, Expr.every]
    exact Function.drops_renderWith hs f
termination_by structural e => e

theorem drops_renderExprs (hs : s.OnlyNames c) :
    ∀ es : List Expr, DropsAll '?' (everyExpr (.required c) es) (renderExprs E none es) (renderExprs E' (some s) es)
  | [] => by
    rw [renderExprs, renderExprs, everyExpr]
    exact .nil
  | e :: es => by
    rw [renderExprs, renderExprs, everyExpr]
    exact .cons (Expr.drops_renderWith hs e) (drops_renderExprs hs es)
termination_by structural es => es

theorem drops_renderExpr? (hs : s.OnlyNames c) (before : String) :
    ∀ e : Option Expr,
      Drops '?' (everyExpr? (.required c) e) (renderExpr? E none before e) (renderExpr? E' (some s) before e)
  | none => by
    rw [renderExpr?, renderExpr?, everyExpr?]
    exact drops_self ""
  | some e => by
    rw [renderExpr?, renderExpr?, everyExpr?]
    exact (Expr.drops_renderWith hs e).after before
termination_by structural e => e

theorem ObjectEntry.drops_renderWith (hs : s.OnlyNames c) :
    ∀ e : ObjectEntry, Drops '?' (e.every (.required c)) (e.renderWith E none) (e.renderWith E' (some s))
  | .keyed key value => by
    rw [ObjectEntry.renderWith, ObjectEntry.renderWith, ObjectEntry.every]
    exact (Expr.drops_renderWith hs value).after _
  | .shorthand x => by
    rw [ObjectEntry.renderWith, ObjectEntry.renderWith, ObjectEntry.every, Expansion.shorthandText,
      Expansion.shorthandText, hs.identText]
    exact drops_self _
  | .spread value => by
    rw [ObjectEntry.renderWith, ObjectEntry.renderWith, ObjectEntry.every]
    exact (Expr.drops_renderWith hs value).after _
termination_by structural e => e

theorem drops_renderEntries (hs : s.OnlyNames c) :
    ∀ es : List ObjectEntry,
      DropsAll '?' (everyEntry (.required c) es) (renderEntries E none es) (renderEntries E' (some s) es)
  | [] => by
    rw [renderEntries, renderEntries, everyEntry]
    exact .nil
  | e :: es => by
    rw [renderEntries, renderEntries, everyEntry]
    exact .cons (ObjectEntry.drops_renderWith hs e) (drops_renderEntries hs es)
termination_by structural es => es

theorem Markup.drops_renderWith (hs : s.OnlyNames c) :
    ∀ m : Markup, Drops '?' (m.every (.required c)) (m.renderWith E none) (m.renderWith E' (some s))
  | .element opening children => by
    rw [Markup.renderWith, Markup.renderWith, Markup.every]
    exact OpeningTag.drops_renderWith hs (.some (drops_renderChildren hs children).join) opening
  | .selfClosing opening => by
    rw [Markup.renderWith, Markup.renderWith, Markup.every, ← Bool.and_true (opening.every _)]
    exact OpeningTag.drops_renderWith hs .none opening
  | .fragment children => by
    rw [Markup.renderWith, Markup.renderWith, Markup.every]
    exact ((drops_renderChildren hs children).join.after "<>").before "</>"
  | .container content => by
    rw [Markup.renderWith, Markup.renderWith, Markup.every]
    exact (drops_renderExpr? hs "" content).braced
termination_by structural m => m

/-- The tag of the page itself is an identifier, so nothing is dropped of it. -/
theorem OpeningTag.drops_renderWith (hs : s.OnlyNames c) {a : Bool} {children children' : Option String}
    (hc : DropsOption '?' a children children') :
    ∀ t : OpeningTag,
      Drops '?' (t.every (.required c) && a) (t.renderWith E none children) (t.renderWith E' (some s) children')
  | ⟨tag, attributes⟩ => by
    have hattributes := (drops_renderAttributes hs attributes).join
    have htag := Expr.drops_renderWith hs tag
    have hident : tag.every (.required c) = false → tag.ident? = none := by
      intro h
      cases tag with
      | ident x => exact Bool.noConfusion h
      | _ => rfl
    rw [OpeningTag.renderWith, OpeningTag.renderWith, OpeningTag.every]
    split
    · next h =>
      have hevery : tag.every (.required c) = true := by
        refine Decidable.byContradiction fun hfalse => ?_
        rw [Bool.not_eq_true] at hfalse
        rw [OpeningTag.isIntrinsic, hident hfalse] at h
        exact Bool.noConfusion h
      rw [hevery, Bool.true_and]
      exact ResolvedTag.drops_elementText hattributes hc _
    · exact ResolvedTag.drops_render htag hident tag.replacement?_none (hs.replacement?_eq_none tag) hattributes hc
termination_by structural t => t

theorem Attribute.drops_renderWith (hs : s.OnlyNames c) :
    ∀ a : Attribute, Drops '?' (a.every (.required c)) (a.renderWith E none) (a.renderWith E' (some s))
  | .flag _ | .text _ _ => by
    rw [Attribute.renderWith, Attribute.renderWith, Attribute.every]
    exact drops_self _
  | .value name value => by
    rw [Attribute.renderWith, Attribute.renderWith, Attribute.every]
    exact (Expr.drops_renderWith hs value).braced.after _
  | .spread value => by
    rw [Attribute.renderWith, Attribute.renderWith, Attribute.every]
    exact ((Expr.drops_renderWith hs value).after "...").braced.after " "
termination_by structural a => a

theorem drops_renderAttributes (hs : s.OnlyNames c) :
    ∀ as : List Attribute,
      DropsAll '?' (everyAttribute (.required c) as) (renderAttributes E none as) (renderAttributes E' (some s) as)
  | [] => by
    rw [renderAttributes, renderAttributes, everyAttribute]
    exact .nil
  | a :: as => by
    rw [renderAttributes, renderAttributes, everyAttribute]
    exact .cons (Attribute.drops_renderWith hs a) (drops_renderAttributes hs as)
termination_by structural as => as

theorem Child.drops_renderWith (hs : s.OnlyNames c) :
    ∀ d : Child, Drops '?' (d.every (.required c)) (d.renderWith E none) (d.renderWith E' (some s))
  | .text _ => by
    rw [Child.renderWith, Child.renderWith, Child.every]
    exact drops_self _
  | .markup m => by
    rw [Child.renderWith, Child.renderWith, Child.every]
    exact Markup.drops_renderWith hs m
termination_by structural d => d

theorem drops_renderChildren (hs : s.OnlyNames c) :
    ∀ ds : List Child,
      DropsAll '?' (everyChild (.required c) ds) (renderChildren E none ds) (renderChildren E' (some s) ds)
  | [] => by
    rw [renderChildren, renderChildren, everyChild]
    exact .nil
  | d :: ds => by
    rw [renderChildren, renderChildren, everyChild]
    exact .cons (Child.drops_renderWith hs d) (drops_renderChildren hs ds)
termination_by structural ds => ds

theorem Pattern.drops_renderWith (hs : s.OnlyNames c) :
    ∀ p : Pattern, Drops '?' (p.every (.required c)) (p.renderWith E none) (p.renderWith E' (some s))
  | ⟨kind, elements⟩ => by
    have helements := drops_renderBindings hs elements
    rw [Pattern.every]
    cases kind with
    | object =>
      rw [Pattern.renderWith, Pattern.renderWith]
      exact helements.bracedList ", "
    | array =>
      rw [Pattern.renderWith, Pattern.renderWith]
      exact helements.commaList.bracketed
termination_by structural p => p

theorem Binding.drops_renderWith (hs : s.OnlyNames c) :
    ∀ b : Binding, Drops '?' (b.every (.required c)) (b.renderWith E none) (b.renderWith E' (some s))
  | ⟨rest, key, target, fallback⟩ => by
    rw [Binding.renderWith, Binding.renderWith, Binding.every]
    exact ((Target.drops_renderWith hs target).after _).append (drops_renderExpr? hs _ fallback)
termination_by structural b => b

theorem drops_renderBindings (hs : s.OnlyNames c) :
    ∀ bs : List Binding,
      DropsAll '?' (everyBinding (.required c) bs) (renderBindings E none bs) (renderBindings E' (some s) bs)
  | [] => by
    rw [renderBindings, renderBindings, everyBinding]
    exact .nil
  | b :: bs => by
    rw [renderBindings, renderBindings, everyBinding]
    exact .cons (Binding.drops_renderWith hs b) (drops_renderBindings hs bs)
termination_by structural bs => bs

theorem Target.drops_renderWith (hs : s.OnlyNames c) :
    ∀ t : Target, Drops '?' (t.every (.required c)) (t.renderWith E none) (t.renderWith E' (some s))
  | .name _ => by
    rw [Target.renderWith, Target.renderWith, Target.every]
    exact drops_self _
  | .pattern p => by
    rw [Target.renderWith, Target.renderWith, Target.every]
    exact Pattern.drops_renderWith hs p
termination_by structural t => t

theorem Parameter.drops_renderWith (hs : s.OnlyNames c) :
    ∀ p : Parameter, Drops '?' (p.every (.required c)) (p.renderWith E none) (p.renderWith E' (some s))
  | ⟨decorators, modifiers, rest, target, optional, type, fallback⟩ => by
    have hdecorators := ((drops_renderExprs hs decorators).map fun h => h.after "@").blankAfterEach
    rw [Parameter.renderWith, Parameter.renderWith, Parameter.every]
    exact (((((hdecorators.before _).before _).append (Target.drops_renderWith hs target)).before _).before _).append
      (drops_renderExpr? hs _ fallback)
termination_by structural p => p

theorem drops_renderParameters (hs : s.OnlyNames c) :
    ∀ ps : List Parameter,
      DropsAll '?' (everyParameter (.required c) ps) (renderParameters E none ps) (renderParameters E' (some s) ps)
  | [] => by
    rw [renderParameters, renderParameters, everyParameter]
    exact .nil
  | p :: ps => by
    rw [renderParameters, renderParameters, everyParameter]
    exact .cons (Parameter.drops_renderWith hs p) (drops_renderParameters hs ps)
termination_by structural ps => ps

theorem Function.drops_renderWith (hs : s.OnlyNames c) :
    ∀ f : Function, Drops '?' (f.every (.required c)) (f.renderWith E none) (f.renderWith E' (some s))
  | ⟨form, modifiers, typeParameters, parameters, returnType, body⟩ => by
    rw [Function.renderWith, Function.renderWith, Function.every, hs.hiding_eq]
    exact FunctionForm.drops_renderWith hs _
      (((drops_renderParameters hs parameters).commaList.parenthesized.after _).before _)
      (Body.drops_renderWith hs body) form
termination_by structural f => f

theorem FunctionForm.drops_renderWith (hs : s.OnlyNames c) {a b : Bool} {signature signature' body body' : String}
    (modifiers : String) (hsignature : Drops '?' a signature signature') (hbody : Drops '?' b body body') :
    ∀ f : FunctionForm, Drops '?' (f.every (.required c) && a && b) (f.renderWith E none modifiers signature body)
      (f.renderWith E' (some s) modifiers signature' body')
  | .keyword decorators generator name => by
    have hdecorators := ((drops_renderExprs hs decorators).map
      fun h => (h.after "@").before "\n").join
    rw [FunctionForm.renderWith, FunctionForm.renderWith, FunctionForm.every]
    exact ((((((hdecorators.before _).before _).before _).before _).append hsignature).before " ").append hbody
  | .arrow => by
    rw [FunctionForm.renderWith, FunctionForm.renderWith, FunctionForm.every]
    exact ((hsignature.after modifiers).before " => ").append hbody
termination_by structural f => f

theorem Body.drops_renderWith (hs : s.OnlyNames c) :
    ∀ b : Body, Drops '?' (b.every (.required c)) (b.renderWith E none) (b.renderWith E' (some s))
  | .block b => by
    rw [Body.renderWith, Body.renderWith, Body.every]
    exact Block.drops_renderWith hs b
  | .expr value => by
    rw [Body.renderWith, Body.renderWith, Body.every]
    exact (Expr.drops_renderWith hs value).bodyText value
termination_by structural b => b

theorem Block.drops_renderWith (hs : s.OnlyNames c) :
    ∀ b : Block, Drops '?' (b.every (.required c)) (b.renderWith E none) (b.renderWith E' (some s))
  | ⟨statements⟩ => by
    have hlines := ((drops_renderStatements hs statements).map fun h => h.before "\n").join
    rw [Block.renderWith, Block.renderWith, Block.every]
    cases statements with
    | nil => exact drops_self _
    | cons t ts => exact (hlines.after "\n").braced
termination_by structural b => b

theorem Statement.drops_renderWith (hs : s.OnlyNames c) :
    ∀ t : Statement, Drops '?' (t.every (.required c)) (t.renderWith E none) (t.renderWith E' (some s))
  | .ret value => by
    rw [Statement.renderWith, Statement.renderWith, Statement.every]
    exact ((drops_renderExpr? hs " " value).after "return").before ";"
  | .declare modifiers declarations => by
    rw [Statement.renderWith, Statement.renderWith, Statement.every]
    exact ((Declarations.drops_renderWith hs declarations).after _).before ";"
  | .expr value => by
    rw [Statement.renderWith, Statement.renderWith, Statement.every]
    exact (Expr.drops_renderWith hs value).before ";"
  | .block b => by
    rw [Statement.renderWith, Statement.renderWith, Statement.every]
    exact Block.drops_renderWith hs b
termination_by structural t => t

theorem drops_renderStatements (hs : s.OnlyNames c) :
    ∀ ts : List Statement,
      DropsAll '?' (everyStatement (.required c) ts) (renderStatements E none ts) (renderStatements E' (some s) ts)
  | [] => by
    rw [renderStatements, renderStatements, everyStatement]
    exact .nil
  | t :: ts => by
    rw [renderStatements, renderStatements, everyStatement]
    exact .cons (Statement.drops_renderWith hs t) (drops_renderStatements hs ts)
termination_by structural ts => ts

theorem Declarations.drops_renderWith (hs : s.OnlyNames c) :
    ∀ d : Declarations, Drops '?' (d.every (.required c)) (d.renderWith E none) (d.renderWith E' (some s))
  | ⟨kind, items⟩ => by
    rw [Declarations.renderWith, Declarations.renderWith, Declarations.every]
    exact (drops_renderItems hs items).commaList.after _
termination_by structural d => d

theorem drops_renderItems (hs : s.OnlyNames c) :
    ∀ ds : List Declaration,
      DropsAll '?' (everyItem (.required c) ds) (renderItems E none ds) (renderItems E' (some s) ds)
  | [] => by
    rw [renderItems, renderItems, everyItem]
    exact .nil
  | d :: ds => by
    rw [renderItems, renderItems, everyItem]
    exact .cons (Declaration.drops_renderWith hs d) (drops_renderItems hs ds)
termination_by structural ds => ds

theorem Declaration.drops_renderWith (hs : s.OnlyNames c) :
    ∀ d : Declaration, Drops '?' (d.every (.required c)) (d.renderWith E none) (d.renderWith E' (some s))
  | ⟨target, type, value⟩ => by
    rw [Declaration.renderWith, Declaration.renderWith, Declaration.every]
    exact ((Target.drops_renderWith hs target).before _).append (drops_renderExpr? hs " = " value)
termination_by structural d => d

end

/-- What a scope that only names the instance leaves of a text. -/
theorem Node.drops_render (hs : s.OnlyNames c) (n : Node) :
    Drops '?' (n.every (.required c)) n.source (n.render (some s)) := by
  cases n with
  | expr e => exact e.drops_renderWith hs
  | markup m => exact m.drops_renderWith hs
  | pattern p => exact p.drops_renderWith hs
  | target t => exact t.drops_renderWith hs
  | binding b => exact b.drops_renderWith hs
  | parameter p => exact p.drops_renderWith hs
  | decorator e => exact (e.drops_renderWith hs).after "@"
  | function f => exact f.drops_renderWith hs
  | block b => exact b.drops_renderWith hs
  | statement t => exact t.drops_renderWith hs
  | declarations d => exact d.drops_renderWith hs
  | type t => exact drops_self _

end

/-! ### Templates of functions without locals -/

section

variable {f : Function} {p : Parameter} {x : String} {e : Expr}

/-- A function whose first parameter is a name and that has no locals finds its template in a scope that at most names the
instance. -/
theorem Function.resolve_default (hp : f.parameters.head? = some p) (hx : p.target = .name x)
    (hf : f.declarations = []) (he : f.body.result? = some e) (keep : Bool) :
    f.resolve (some default) keep ∅ =
      .ok (some (.ofExpr e), some (Scope.ofContext (if keep then "" else x))) := by
  have hparameter : f.instanceParameter? default = some p := by
    rw [instanceParameter?, hp]
    rfl
  have htarget : f.instanceTarget? default = some (.name x) := by
    rw [instanceTarget?_eq, hparameter, Option.map_some, hx]
  have hshallow : f.Shallow default := by
    refine ⟨fun q hq => ?_, fun d hd => ?_⟩
    · rw [hparameter] at hq
      cases hq
      rw [hx]
      exact Nat.zero_le _
    · rw [hf] at hd
      exact absurd hd List.not_mem_nil
  rw [resolve_of_shallow he hshallow, templateScope, templateContext, instanceText, parameterReadings, localReadings_eq,
    htarget, hf]
  cases keep <;> rfl

end

namespace Scope.OnlyNames

/-- In a scope that only names the instance, a piece of syntax is printed as it was written exactly if no property of that
name is read by `?.`; such a read is printed without `?`.  So the template of a function without locals, whose first
parameter is that name and which uses no globals, is printed as it was written exactly if no property of the parameter is
read by `?.`, or the name of the instance is kept. -/
theorem render_eq_source_iff (c : String) :
    (∀ s : Scope, s.OnlyNames c →
      (∀ n : Node, n.render (some s) = n.source ↔ n.every (.required c) = true) ∧
        ∀ name optional, (Expr.property (.ident c) name optional).render (some s) = c ++ "." ++ name) ∧
    ∀ (settings : Settings) (r : Registry) (f : Function) (p : Parameter) (e : Expr) (keep : Bool),
      f.parameters.head? = some p → p.target = .name c → f.declarations = [] → f.body.result? = some e →
        r.globals = ∅ →
          ∃ text t, (Generator.ofSettings settings).templateText r f (some default) keep = .ok (text, some t) ∧
            (text = (Node.markup (.ofExpr e)).source ↔
              keep = true ∨ c = "" ∨ (Node.markup (.ofExpr e)).every (.required c) = true) := by
  refine ⟨fun s hs => ⟨fun n => (n.drops_render hs).eq_iff, fun name optional => ?_⟩, ?_⟩
  · rw [Expr.render, Expr.renderWith, Expr.propertyText_ident, hs.isContext, beq_self_eq_true, if_pos rfl,
      hs.memberAccess]
  · intro settings r f p e keep hp hc hf he hr
    refine ⟨(Node.markup (.ofExpr e)).render (some (.ofContext (if keep then "" else c))),
      .ofContext (if keep then "" else c), ?_, ?_⟩
    · rw [Generator.templateText, hr, Function.resolve_default hp hc hf he]
      rfl
    · by_cases hempty : (if keep then "" else c) = ""
      · rw [hempty]
        have hnothing : (Scope.ofContext "").BindsNothing := ⟨rfl, rfl⟩
        refine iff_of_true (hnothing.render_eq_source _) ?_
        cases keep with
        | true => exact Or.inl rfl
        | false => exact Or.inr (Or.inl hempty)
      · cases keep with
        | true => exact absurd rfl hempty
        | false =>
          have hs : (Scope.ofContext c).OnlyNames c := ⟨rfl, hempty, Or.inl rfl, rfl, rfl⟩
          refine ((Node.drops_render hs _).eq_iff).trans ⟨fun h => Or.inr (Or.inr h), fun h => ?_⟩
          rcases h with h | h | h
          · exact Bool.noConfusion h
          · exact absurd h hempty
          · exact h

/-- A function with a required read of its parameter. -/
theorem render_eq_source_iff_required :
    let s := { ofContext "model" with newContext := some "model" }
    let e := Expr.binary (.property (.ident "model") "text" false) "+" (.property (.ident "other") "text" true)
    let p := Parameter.ofTarget (.name "model")
    let f := Function.named "view" [p] ⟨[.ret (some e)]⟩
    (s.OnlyNames "model" ∧ f.parameters.head? = some p ∧ p.target = .name "model" ∧ f.declarations = [] ∧
      f.body.result? = some e ∧ (∅ : Registry).globals = ∅) ∧
      (Node.expr e).render (some s) = (Node.expr e).source ∧
      ∃ t, (Generator.ofSettings default).templateText ∅ f (some default) false =
        .ok ((Node.markup (.ofExpr e)).source, some t) := by
  intro s e p f
  have hs : s.OnlyNames "model" := ⟨rfl, by decide, Or.inr rfl, rfl, rfl⟩
  obtain ⟨hnames, htemplate⟩ := render_eq_source_iff "model"
  obtain ⟨text, t, htext, hiff⟩ := htemplate default ∅ f p e false rfl rfl rfl rfl rfl
  refine ⟨⟨hs, rfl, rfl, rfl, rfl, rfl⟩, ((hnames s hs).1 (.expr e)).2 (by decide), t, ?_⟩
  rw [htext, hiff.2 (Or.inr (Or.inr (by decide)))]

/-- The question mark of an optional read of the instance is dropped. -/
theorem render_optional_read :
    let s := ofContext "model"
    let e := Expr.property (.ident "model") "text" true
    let f := Function.arrow [.ofTarget (.name "model")] (.expr e)
    s.OnlyNames "model" ∧ (Node.expr e).source = "model?.text" ∧ (Node.expr e).render (some s) = "model.text" ∧
      ((Generator.ofSettings default).templateText ∅ f (some default) false).toOption.map (·.1) =
        some (Text.braced "model.text") := by
  intro s e f
  exact ⟨⟨rfl, by decide, Or.inl rfl, rfl, rfl⟩, by decide, by decide, by decide⟩

end Scope.OnlyNames

end ViewTemplate

import ViewTemplate.Proofs.Scope
import ViewTemplate.Proofs.Syntax.Sites

/-!
# Printing depends on the sites

A piece of syntax is printed alike in two scopes if at each of its sites the name there is written alike, as an
identifier, as the object of a property and as a tag (`Node.renderWith_congr_sites`): one case for each kind of
syntax, with the names that a function binds joining the hidden ones inside it.

What is written for a variable is printed in turn, in the scope without it.  So scopes answer alike as soon as they
correspond: along a relation that gives names the same value, and that holds at the sites of this value in the scopes
without the name (`Scope.Correspondence.answersAlike`, by induction on the number of variables).  All names that
printing comes to that way are in `Scope.Consults`.
-/

namespace ViewTemplate

/-- The two expansions write the name `x` alike, each in its scope: as an identifier, as the object of a property and
as a tag. -/
structure Expansion.AnswersAlike (E E' : Expansion) (s s' : Option Scope) (x : String) : Prop where
  ident : E.identText s x = E'.identText s' x
  property : ∀ text name optional,
    (Expr.ident x).propertyText s text name optional = (Expr.ident x).propertyText s' text name optional
  tag : ∀ text, ResolvedTag.ofText E s (.ident x) text = ResolvedTag.ofText E' s' (.ident x) text

/-- The two expansions write the name at the site alike. -/
def Site.Alike (E E' : Expansion) (s s' : Option Scope) : Site → Prop
  | .name hidden x => E.AnswersAlike E' (Scope.hiding s hidden) (Scope.hiding s' hidden) x
  | .shorthand _ _ | .element _ _ _ => True

section

variable {E E' : Expansion} {s s' : Option Scope}

theorem Expr.propertyText_congr_sites (hidden : List String) (object : Expr)
    (h : ∀ site ∈ object.sites hidden, site.Alike E E' s s') (text name : String) (optional : Bool) :
    object.propertyText (Scope.hiding s hidden) text name optional =
      object.propertyText (Scope.hiding s' hidden) text name optional := by
  cases object with
  | ident x =>
    have hx := h (.name hidden x) (by simp [Expr.sites])
    exact hx.property text name optional
  | _ => cases s <;> cases s' <;> rfl

theorem ResolvedTag.ofText_congr_sites (hidden : List String) (tag : Expr)
    (h : ∀ site ∈ tag.sites hidden, site.Alike E E' s s') (text : String) :
    ResolvedTag.ofText E (Scope.hiding s hidden) tag text =
      ResolvedTag.ofText E' (Scope.hiding s' hidden) tag text := by
  cases tag with
  | ident x =>
    have hx := h (.name hidden x) (by simp [Expr.sites])
    exact hx.tag text
  | _ => cases s <;> cases s' <;> rfl

mutual

/-- Scopes that answer alike at every site give an expression the same text. -/
theorem Expr.renderWith_congr_sites (hidden : List String) :
    ∀ e : Expr, (∀ site ∈ e.sites hidden, site.Alike E E' s s') →
      e.renderWith E (Scope.hiding s hidden) = e.renderWith E' (Scope.hiding s' hidden)
  | .ident x, h => by
    rw [Expr.renderWith, Expr.renderWith]
    have hx := h (.name hidden x) (by simp [Expr.sites])
    exact hx.ident
  | .verbatim _, _ => by rw [Expr.renderWith, Expr.renderWith]
  | .string _, _ => by rw [Expr.renderWith, Expr.renderWith]
  | .number _, _ => by rw [Expr.renderWith, Expr.renderWith]
  | .property object name optional, h => by
    rw [Expr.sites] at h
    rw [Expr.renderWith, Expr.renderWith, Expr.renderWith_congr_sites hidden object h,
      object.propertyText_congr_sites hidden h]
  | .element object argument, h => by
    rw [Expr.sites, List.forall_mem_append] at h
    rw [Expr.renderWith, Expr.renderWith, Expr.renderWith_congr_sites hidden object h.1,
      Expr.renderWith_congr_sites hidden argument h.2]
  | .call callee arguments, h => by
    rw [Expr.sites, List.forall_mem_append] at h
    rw [Expr.renderWith, Expr.renderWith, Expr.renderWith_congr_sites hidden callee h.1,
      renderExprs_congr_sites hidden arguments h.2]
  | .binary left operator right, h => by
    rw [Expr.sites, List.forall_mem_append] at h
    rw [Expr.renderWith, Expr.renderWith, Expr.renderWith_congr_sites hidden left h.1,
      Expr.renderWith_congr_sites hidden right h.2]
  | .unary operator operand, h => by
    rw [Expr.sites] at h
    rw [Expr.renderWith, Expr.renderWith, Expr.renderWith_congr_sites hidden operand h]
  | .conditional condition whenTrue whenFalse, h => by
    rw [Expr.sites, List.forall_mem_append, List.forall_mem_append] at h
    rw [Expr.renderWith, Expr.renderWith, Expr.renderWith_congr_sites hidden condition h.1.1,
      Expr.renderWith_congr_sites hidden whenTrue h.1.2, Expr.renderWith_congr_sites hidden whenFalse h.2]
  | .paren inner, h => by
    rw [Expr.sites] at h
    rw [Expr.renderWith, Expr.renderWith, Expr.renderWith_congr_sites hidden inner h]
  | .object entries, h => by
    rw [Expr.sites] at h
    rw [Expr.renderWith, Expr.renderWith, renderEntries_congr_sites hidden entries h]
  | .array elements, h => by
    rw [Expr.sites] at h
    rw [Expr.renderWith, Expr.renderWith, renderExprs_congr_sites hidden elements h]
  | .pattern p, h => by
    rw [Expr.sites] at h
    rw [Expr.renderWith, Expr.renderWith, Pattern.renderWith_congr_sites hidden p h]
  | .type _, _ => by rw [Expr.renderWith, Expr.renderWith]
  | .markup m, h => by
    rw [Expr.sites] at h
    rw [Expr.renderWith, Expr.renderWith, Markup.renderWith_congr_sites hidden m h]
  | .function f, h => by
    rw [Expr.sites] at h
    rw [Expr.renderWith, Expr.renderWith, Function.renderWith_congr_sites hidden f h]
termination_by structural e => e

theorem renderExprs_congr_sites (hidden : List String) :
    ∀ es : List Expr, (∀ site ∈ sitesOfExprs hidden es, site.Alike E E' s s') →
      renderExprs E (Scope.hiding s hidden) es = renderExprs E' (Scope.hiding s' hidden) es
  | [], _ => by rw [renderExprs, renderExprs]
  | e :: es, h => by
    rw [sitesOfExprs, List.forall_mem_append] at h
    rw [renderExprs, renderExprs, Expr.renderWith_congr_sites hidden e h.1, renderExprs_congr_sites hidden es h.2]
termination_by structural es => es

theorem renderExpr?_congr_sites (hidden : List String) (before : String) :
    ∀ e : Option Expr, (∀ site ∈ sitesOfExpr? hidden e, site.Alike E E' s s') →
      renderExpr? E (Scope.hiding s hidden) before e = renderExpr? E' (Scope.hiding s' hidden) before e
  | none, _ => by rw [renderExpr?, renderExpr?]
  | some e, h => by
    rw [sitesOfExpr?] at h
    rw [renderExpr?, renderExpr?, Expr.renderWith_congr_sites hidden e h]
termination_by structural e => e

theorem ObjectEntry.renderWith_congr_sites (hidden : List String) :
    ∀ e : ObjectEntry, (∀ site ∈ e.sites hidden, site.Alike E E' s s') →
      e.renderWith E (Scope.hiding s hidden) = e.renderWith E' (Scope.hiding s' hidden)
  | .keyed key value, h => by
    rw [ObjectEntry.sites] at h
    rw [ObjectEntry.renderWith, ObjectEntry.renderWith, Expr.renderWith_congr_sites hidden value h]
  | .shorthand x, h => by
    have hx := h (.name hidden x) (by simp [ObjectEntry.sites])
    rw [ObjectEntry.renderWith, ObjectEntry.renderWith, Expansion.shorthandText, Expansion.shorthandText,
      hx.ident]
  | .spread value, h => by
    rw [ObjectEntry.sites] at h
    rw [ObjectEntry.renderWith, ObjectEntry.renderWith, Expr.renderWith_congr_sites hidden value h]
termination_by structural e => e

theorem renderEntries_congr_sites (hidden : List String) :
    ∀ es : List ObjectEntry, (∀ site ∈ sitesOfEntries hidden es, site.Alike E E' s s') →
      renderEntries E (Scope.hiding s hidden) es = renderEntries E' (Scope.hiding s' hidden) es
  | [], _ => by rw [renderEntries, renderEntries]
  | e :: es, h => by
    rw [sitesOfEntries, List.forall_mem_append] at h
    rw [renderEntries, renderEntries, ObjectEntry.renderWith_congr_sites hidden e h.1,
      renderEntries_congr_sites hidden es h.2]
termination_by structural es => es

/-- Scopes that answer alike at every site give a markup tree the same text. -/
theorem Markup.renderWith_congr_sites (hidden : List String) :
    ∀ m : Markup, (∀ site ∈ m.sites hidden, site.Alike E E' s s') →
      m.renderWith E (Scope.hiding s hidden) = m.renderWith E' (Scope.hiding s' hidden)
  | .element opening children, h => by
    rw [Markup.sites, List.forall_mem_append] at h
    rw [Markup.renderWith, Markup.renderWith, renderChildren_congr_sites hidden children h.2,
      OpeningTag.renderWith_congr_sites hidden children _ opening h.1]
  | .selfClosing opening, h => by
    rw [Markup.sites] at h
    rw [Markup.renderWith, Markup.renderWith, OpeningTag.renderWith_congr_sites hidden [] _ opening h]
  | .fragment children, h => by
    rw [Markup.sites] at h
    rw [Markup.renderWith, Markup.renderWith, renderChildren_congr_sites hidden children h]
  | .container content, h => by
    rw [Markup.sites] at h
    rw [Markup.renderWith, Markup.renderWith, renderExpr?_congr_sites hidden _ content h]
termination_by structural m => m

theorem OpeningTag.renderWith_congr_sites (hidden : List String) (children : List Child) (text : Option String) :
    ∀ t : OpeningTag, (∀ site ∈ t.sites hidden children, site.Alike E E' s s') →
      t.renderWith E (Scope.hiding s hidden) text = t.renderWith E' (Scope.hiding s' hidden) text
  | ⟨tag, attributes⟩, h => by
    rw [OpeningTag.sites, List.forall_mem_append] at h
    rw [OpeningTag.renderWith, OpeningTag.renderWith, renderAttributes_congr_sites hidden attributes h.2]
    -- a tag of the page itself is not looked up
    cases hi : OpeningTag.isIntrinsic ⟨tag, attributes⟩ with
    | true => rfl
    | false =>
      have htag := h.1
      rw [hi, if_neg Bool.false_ne_true, List.forall_mem_append] at htag
      rw [Expr.renderWith_congr_sites hidden tag htag.1, ResolvedTag.ofText_congr_sites hidden tag htag.1]
termination_by structural t => t

theorem Attribute.renderWith_congr_sites (hidden : List String) :
    ∀ a : Attribute, (∀ site ∈ a.sites hidden, site.Alike E E' s s') →
      a.renderWith E (Scope.hiding s hidden) = a.renderWith E' (Scope.hiding s' hidden)
  | .flag _, _ => by rw [Attribute.renderWith, Attribute.renderWith]
  | .text _ _, _ => by rw [Attribute.renderWith, Attribute.renderWith]
  | .value name value, h => by
    rw [Attribute.sites] at h
    rw [Attribute.renderWith, Attribute.renderWith, Expr.renderWith_congr_sites hidden value h]
  | .spread value, h => by
    rw [Attribute.sites] at h
    rw [Attribute.renderWith, Attribute.renderWith, Expr.renderWith_congr_sites hidden value h]
termination_by structural a => a

theorem renderAttributes_congr_sites (hidden : List String) :
    ∀ as : List Attribute, (∀ site ∈ sitesOfAttributes hidden as, site.Alike E E' s s') →
      renderAttributes E (Scope.hiding s hidden) as = renderAttributes E' (Scope.hiding s' hidden) as
  | [], _ => by rw [renderAttributes, renderAttributes]
  | a :: as, h => by
    rw [sitesOfAttributes, List.forall_mem_append] at h
    rw [renderAttributes, renderAttributes, Attribute.renderWith_congr_sites hidden a h.1,
      renderAttributes_congr_sites hidden as h.2]
termination_by structural as => as

theorem Child.renderWith_congr_sites (hidden : List String) :
    ∀ c : Child, (∀ site ∈ c.sites hidden, site.Alike E E' s s') →
      c.renderWith E (Scope.hiding s hidden) = c.renderWith E' (Scope.hiding s' hidden)
  | .text _, _ => by rw [Child.renderWith, Child.renderWith]
  | .markup m, h => by
    rw [Child.sites] at h
    rw [Child.renderWith, Child.renderWith, Markup.renderWith_congr_sites hidden m h]
termination_by structural c => c

theorem renderChildren_congr_sites (hidden : List String) :
    ∀ cs : List Child, (∀ site ∈ sitesOfChildren hidden cs, site.Alike E E' s s') →
      renderChildren E (Scope.hiding s hidden) cs = renderChildren E' (Scope.hiding s' hidden) cs
  | [], _ => by rw [renderChildren, renderChildren]
  | c :: cs, h => by
    rw [sitesOfChildren, List.forall_mem_append] at h
    rw [renderChildren, renderChildren, Child.renderWith_congr_sites hidden c h.1,
      renderChildren_congr_sites hidden cs h.2]
termination_by structural cs => cs

theorem Pattern.renderWith_congr_sites (hidden : List String) :
    ∀ p : Pattern, (∀ site ∈ p.sites hidden, site.Alike E E' s s') →
      p.renderWith E (Scope.hiding s hidden) = p.renderWith E' (Scope.hiding s' hidden)
  | ⟨kind, elements⟩, h => by
    rw [Pattern.sites] at h
    cases kind with
    | object => rw [Pattern.renderWith, Pattern.renderWith, renderBindings_congr_sites hidden elements h]
    | array => rw [Pattern.renderWith, Pattern.renderWith, renderBindings_congr_sites hidden elements h]
termination_by structural p => p

theorem Binding.renderWith_congr_sites (hidden : List String) :
    ∀ b : Binding, (∀ site ∈ b.sites hidden, site.Alike E E' s s') →
      b.renderWith E (Scope.hiding s hidden) = b.renderWith E' (Scope.hiding s' hidden)
  | ⟨rest, key, target, fallback⟩, h => by
    rw [Binding.sites, List.forall_mem_append] at h
    rw [Binding.renderWith, Binding.renderWith, Target.renderWith_congr_sites hidden target h.1,
      renderExpr?_congr_sites hidden _ fallback h.2]
termination_by structural b => b

theorem renderBindings_congr_sites (hidden : List String) :
    ∀ bs : List Binding, (∀ site ∈ sitesOfBindings hidden bs, site.Alike E E' s s') →
      renderBindings E (Scope.hiding s hidden) bs = renderBindings E' (Scope.hiding s' hidden) bs
  | [], _ => by rw [renderBindings, renderBindings]
  | b :: bs, h => by
    rw [sitesOfBindings, List.forall_mem_append] at h
    rw [renderBindings, renderBindings, Binding.renderWith_congr_sites hidden b h.1,
      renderBindings_congr_sites hidden bs h.2]
termination_by structural bs => bs

theorem Target.renderWith_congr_sites (hidden : List String) :
    ∀ t : Target, (∀ site ∈ t.sites hidden, site.Alike E E' s s') →
      t.renderWith E (Scope.hiding s hidden) = t.renderWith E' (Scope.hiding s' hidden)
  | .name _, _ => by rw [Target.renderWith, Target.renderWith]
  | .pattern p, h => by
    rw [Target.sites] at h
    rw [Target.renderWith, Target.renderWith, Pattern.renderWith_congr_sites hidden p h]
termination_by structural t => t

theorem Parameter.renderWith_congr_sites (hidden : List String) :
    ∀ p : Parameter, (∀ site ∈ p.sites hidden, site.Alike E E' s s') →
      p.renderWith E (Scope.hiding s hidden) = p.renderWith E' (Scope.hiding s' hidden)
  | ⟨decorators, modifiers, rest, target, optional, type, fallback⟩, h => by
    rw [Parameter.sites, List.forall_mem_append, List.forall_mem_append] at h
    rw [Parameter.renderWith, Parameter.renderWith, renderExprs_congr_sites hidden decorators h.1.1,
      Target.renderWith_congr_sites hidden target h.1.2, renderExpr?_congr_sites hidden _ fallback h.2]
termination_by structural p => p

theorem renderParameters_congr_sites (hidden : List String) :
    ∀ ps : List Parameter, (∀ site ∈ sitesOfParameters hidden ps, site.Alike E E' s s') →
      renderParameters E (Scope.hiding s hidden) ps = renderParameters E' (Scope.hiding s' hidden) ps
  | [], _ => by rw [renderParameters, renderParameters]
  | p :: ps, h => by
    rw [sitesOfParameters, List.forall_mem_append] at h
    rw [renderParameters, renderParameters, Parameter.renderWith_congr_sites hidden p h.1,
      renderParameters_congr_sites hidden ps h.2]
termination_by structural ps => ps

/-- Scopes that answer alike at every site give a function the same text. -/
theorem Function.renderWith_congr_sites (hidden : List String) :
    ∀ f : Function, (∀ site ∈ f.sites hidden, site.Alike E E' s s') →
      f.renderWith E (Scope.hiding s hidden) = f.renderWith E' (Scope.hiding s' hidden)
  | ⟨form, modifiers, typeParameters, parameters, returnType, body⟩, h => by
    rw [Function.sites, List.forall_mem_append, List.forall_mem_append] at h
    obtain ⟨hform, hparameters, hbody⟩ := h
    rw [Function.renderWith, Function.renderWith, Scope.hiding_hiding, Scope.hiding_hiding,
      renderParameters_congr_sites _ parameters hparameters, Body.renderWith_congr_sites _ body hbody,
      FunctionForm.renderWith_congr_sites hidden _ _ _ form hform]
termination_by structural f => f

theorem FunctionForm.renderWith_congr_sites (hidden : List String) (modifiers signature body : String) :
    ∀ f : FunctionForm, (∀ site ∈ f.sites hidden, site.Alike E E' s s') →
      f.renderWith E (Scope.hiding s hidden) modifiers signature body =
        f.renderWith E' (Scope.hiding s' hidden) modifiers signature body
  | .keyword decorators generator name, h => by
    rw [FunctionForm.sites] at h
    rw [FunctionForm.renderWith, FunctionForm.renderWith, renderExprs_congr_sites hidden decorators h]
  | .arrow, _ => by rw [FunctionForm.renderWith, FunctionForm.renderWith]
termination_by structural f => f

theorem Body.renderWith_congr_sites (hidden : List String) :
    ∀ b : Body, (∀ site ∈ b.sites hidden, site.Alike E E' s s') →
      b.renderWith E (Scope.hiding s hidden) = b.renderWith E' (Scope.hiding s' hidden)
  | .block b, h => by
    rw [Body.sites] at h
    rw [Body.renderWith, Body.renderWith, Block.renderWith_congr_sites hidden b h]
  | .expr value, h => by
    rw [Body.sites] at h
    rw [Body.renderWith, Body.renderWith, Expr.renderWith_congr_sites hidden value h]
termination_by structural b => b

theorem Block.renderWith_congr_sites (hidden : List String) :
    ∀ b : Block, (∀ site ∈ b.sites hidden, site.Alike E E' s s') →
      b.renderWith E (Scope.hiding s hidden) = b.renderWith E' (Scope.hiding s' hidden)
  | ⟨statements⟩, h => by
    rw [Block.sites] at h
    rw [Block.renderWith, Block.renderWith, renderStatements_congr_sites hidden statements h]
termination_by structural b => b

theorem Statement.renderWith_congr_sites (hidden : List String) :
    ∀ t : Statement, (∀ site ∈ t.sites hidden, site.Alike E E' s s') →
      t.renderWith E (Scope.hiding s hidden) = t.renderWith E' (Scope.hiding s' hidden)
  | .ret value, h => by
    rw [Statement.sites] at h
    rw [Statement.renderWith, Statement.renderWith, renderExpr?_congr_sites hidden _ value h]
  | .declare modifiers declarations, h => by
    rw [Statement.sites] at h
    rw [Statement.renderWith, Statement.renderWith, Declarations.renderWith_congr_sites hidden declarations h]
  | .expr value, h => by
    rw [Statement.sites] at h
    rw [Statement.renderWith, Statement.renderWith, Expr.renderWith_congr_sites hidden value h]
  | .block b, h => by
    rw [Statement.sites] at h
    rw [Statement.renderWith, Statement.renderWith, Block.renderWith_congr_sites hidden b h]
termination_by structural t => t

theorem renderStatements_congr_sites (hidden : List String) :
    ∀ ts : List Statement, (∀ site ∈ sitesOfStatements hidden ts, site.Alike E E' s s') →
      renderStatements E (Scope.hiding s hidden) ts = renderStatements E' (Scope.hiding s' hidden) ts
  | [], _ => by rw [renderStatements, renderStatements]
  | t :: ts, h => by
    rw [sitesOfStatements, List.forall_mem_append] at h
    rw [renderStatements, renderStatements, Statement.renderWith_congr_sites hidden t h.1,
      renderStatements_congr_sites hidden ts h.2]
termination_by structural ts => ts

theorem Declarations.renderWith_congr_sites (hidden : List String) :
    ∀ d : Declarations, (∀ site ∈ d.sites hidden, site.Alike E E' s s') →
      d.renderWith E (Scope.hiding s hidden) = d.renderWith E' (Scope.hiding s' hidden)
  | ⟨kind, items⟩, h => by
    rw [Declarations.sites] at h
    rw [Declarations.renderWith, Declarations.renderWith, renderItems_congr_sites hidden items h]
termination_by structural d => d

theorem renderItems_congr_sites (hidden : List String) :
    ∀ ds : List Declaration, (∀ site ∈ sitesOfItems hidden ds, site.Alike E E' s s') →
      renderItems E (Scope.hiding s hidden) ds = renderItems E' (Scope.hiding s' hidden) ds
  | [], _ => by rw [renderItems, renderItems]
  | d :: ds, h => by
    rw [sitesOfItems, List.forall_mem_append] at h
    rw [renderItems, renderItems, Declaration.renderWith_congr_sites hidden d h.1,
      renderItems_congr_sites hidden ds h.2]
termination_by structural ds => ds

theorem Declaration.renderWith_congr_sites (hidden : List String) :
    ∀ d : Declaration, (∀ site ∈ d.sites hidden, site.Alike E E' s s') →
      d.renderWith E (Scope.hiding s hidden) = d.renderWith E' (Scope.hiding s' hidden)
  | ⟨target, type, value⟩, h => by
    rw [Declaration.sites, List.forall_mem_append] at h
    rw [Declaration.renderWith, Declaration.renderWith, Target.renderWith_congr_sites hidden target h.1,
      renderExpr?_congr_sites hidden _ value h.2]
termination_by structural d => d

end

/-- Scopes that answer alike at every site give a piece of syntax the same text. -/
theorem Node.renderWith_congr_sites (n : Node) (h : ∀ site ∈ n.sites, site.Alike E E' s s') :
    n.renderWith E s = n.renderWith E' s' := by
  rw [← Scope.hiding_nil s, ← Scope.hiding_nil s']
  cases n with
  | expr e => exact e.renderWith_congr_sites [] h
  | markup m => exact m.renderWith_congr_sites [] h
  | pattern p => exact p.renderWith_congr_sites [] h
  | target t => exact t.renderWith_congr_sites [] h
  | binding b => exact b.renderWith_congr_sites [] h
  | parameter p => exact p.renderWith_congr_sites [] h
  | decorator e => exact congrArg ("@" ++ ·) (e.renderWith_congr_sites [] h)
  | function f => exact f.renderWith_congr_sites [] h
  | block b => exact b.renderWith_congr_sites [] h
  | statement t => exact t.renderWith_congr_sites [] h
  | declarations d => exact d.renderWith_congr_sites [] h
  | type t => rfl

end

/-! ### Scopes that correspond -/

theorem Expr.sites_stripParens (hidden : List String) : ∀ e : Expr, e.stripParens.sites hidden = e.sites hidden
  | .paren inner => by
    rw [Expr.stripParens, Expr.sites_stripParens hidden inner, Expr.sites]
  | .ident _ | .verbatim _ | .string _ | .number _ | .property .. | .element .. | .call .. | .binary .. | .unary ..
  | .conditional .. | .object _ | .array _ | .pattern _ | .type _ | .markup _ | .function _ => rfl

/-- A relation under which a name means the same in two scopes: it has the same value in both, which is printed in
scopes that are related at every site of it, and what is written for the name itself is the same. -/
structure Scope.Correspondence (P : Scope → Scope → String → Prop) : Prop where
  value {s t x} : P s t x → s.value? x = t.value? x
  contextText {s t x} : P s t x → s.contextText x = t.contextText x
  propertyText {s t x} : P s t x → ∀ text name optional,
    (Expr.ident x).propertyText (some s) text name optional = (Expr.ident x).propertyText (some t) text name optional
  step {s t x v} : P s t x → s.value? x = some v → ∀ inner y, Site.name inner y ∈ v.sites [] →
    P ((s.without [x]).without inner) ((t.without [x]).without inner) y

section

variable {P : Scope → Scope → String → Prop} {s t : Scope} {x : String} {v : Expr} {n m : Nat}

private theorem Scope.Correspondence.alike_sites (h : Scope.Correspondence P)
    (ih : ∀ n' < n, ∀ m' s t y, s.vars.size ≤ n' → t.vars.size ≤ m' → P s t y →
      (Expansion.upTo n').AnswersAlike (.upTo m') (some s) (some t) y)
    (hs : s.vars.size ≤ n) (ht : t.vars.size ≤ m) (hx : P s t x) (hv : s.value? x = some v) :
    ∃ n' m', n = n' + 1 ∧ m = m' + 1 ∧
      ∀ site ∈ v.sites [], site.Alike (.upTo n') (.upTo m') (some (s.without [x])) (some (t.without [x])) := by
  -- the variable counts in both scopes
  have hv' : t.value? x = some v := (h.value hx).symm.trans hv
  have hlt := size_without_lt hv
  have hlt' := size_without_lt hv'
  refine ⟨n - 1, m - 1, by omega, by omega, fun site hsite => ?_⟩
  cases site with
  | name inner y =>
    have hle := (s.without [x]).size_without_le inner
    have hle' := (t.without [x]).size_without_le inner
    exact ih (n - 1) (by omega) (m - 1) ((s.without [x]).without inner) ((t.without [x]).without inner) y (by omega)
      (by omega) (h.step hx hv inner y hsite)
  | shorthand _ _ => trivial
  | element _ _ _ => trivial

/-- Expansions for enough variables answer alike for a name that means the same in both scopes. -/
theorem Scope.Correspondence.answersAlike (h : Scope.Correspondence P) (hs : s.vars.size ≤ n) (ht : t.vars.size ≤ m)
    (hx : P s t x) : (Expansion.upTo n).AnswersAlike (.upTo m) (some s) (some t) x := by
  induction n using Nat.strongRecOn generalizing m s t x with
  | ind n ih =>
    have ih' : ∀ n' < n, ∀ m' s t y, s.vars.size ≤ n' → t.vars.size ≤ m' → P s t y →
        (Expansion.upTo n').AnswersAlike (.upTo m') (some s) (some t) y :=
      fun n' hn m' s t y hs ht hy => ih n' hn hs ht hy
    refine ⟨?_, h.propertyText hx, fun text => ?_⟩
    · simp only [Expansion.identText, ← h.value hx]
      cases hv : s.value? x with
      | none => exact h.contextText hx
      | some v =>
        obtain ⟨n', m', rfl, rfl, hsites⟩ := h.alike_sites ih' hs ht hx hv
        have htext := Node.renderWith_congr_sites (.expr v) hsites
        simp only [Node.renderWith] at htext
        simp only [Expansion.upTo, htext]
    · simp only [ResolvedTag.ofText, Expr.replacement?, Expr.ident?, Option.bind_some, ← h.value hx]
      cases hv : s.value? x with
      | none => rfl
      | some v =>
        obtain ⟨n', m', rfl, rfl, hsites⟩ := h.alike_sites ih' hs ht hx hv
        -- the parts of a conditional have no other sites than the value
        rw [← Expr.sites_stripParens] at hsites
        have htext := Node.renderWith_congr_sites (.expr v.stripParens) hsites
        simp only [Node.renderWith] at htext
        simp only [Option.map_some, Expansion.upTo]
        cases he : v.stripParens with
        | conditional condition whenTrue whenFalse =>
          rw [he, Expr.sites, List.forall_mem_append, List.forall_mem_append] at hsites
          obtain ⟨⟨hc, hw⟩, hf⟩ := hsites
          have hctext := Node.renderWith_congr_sites (.expr condition) hc
          have hwtext := Node.renderWith_congr_sites (.expr whenTrue) hw
          have hftext := Node.renderWith_congr_sites (.expr whenFalse) hf
          simp only [Node.renderWith] at hctext hwtext hftext
          have hwtag := ResolvedTag.ofText_congr_sites [] whenTrue hw
          have hftag := ResolvedTag.ofText_congr_sites [] whenFalse hf
          simp only [Scope.hiding_nil] at hwtag hftag
          simp only [hctext, hwtext, hftext, hwtag, hftag]
        | _ =>
          rw [he] at htext
          simp only [htext]

end

/-! ### The names that printing comes to -/

/-- The names that printing can come to from `names`: these themselves, and the names that the value of a name it
comes to looks up. -/
inductive Scope.Consults (s : Scope) (names : List String) : String → Prop where
  | start {x : String} (h : x ∈ names) : s.Consults names x
  | step {x y : String} {v : Expr} (h : s.Consults names y) (hv : s.value? y = some v) (hx : x ∈ v.lookups) :
    s.Consults names x

/-- Names that contain what their values look up are never left. -/
theorem Scope.Consults.mem_of_closed {s : Scope} {names closed : List String} (hs : names ⊆ closed)
    (hc : ∀ y ∈ closed, ∀ v ∈ s.value? y, v.lookups ⊆ closed) {x : String} (h : s.Consults names x) : x ∈ closed := by
  induction h with
  | start hx => exact hs hx
  | step _ hv hx ih => exact hc _ ih _ hv hx

end ViewTemplate

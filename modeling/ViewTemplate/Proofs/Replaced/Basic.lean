import ViewTemplate.Proofs.Render.Substitution
import ViewTemplate.Proofs.Syntax.Sites

/-!
# Syntax with its variables replaced

Printing a piece of syntax in a scope replaces its variables.  Here the replaced syntax is built as syntax:
`Expr.replaced s` stands for what is printed in the scope `s`, all kinds of syntax included.

A `Replacement` says what stands at a site for a name and for the tag of an element, and `replaceWith` carries it
through the syntax.  The replacement of a scope replaces values in turn, in the scope without the variable
(`Scope.replacement_name`); it is the same for any bound on the number of variables (`Replacement.upTo_eq`).
-/

namespace ViewTemplate

/-! ### Tags -/

/-- The tag of an element after its variable was replaced, as syntax. -/
inductive TagTree where
  /-- an expression that can be a tag itself -/
  | name (tag : Expr)
  /-- a choice between two tags -/
  | choice (condition : Expr) (whenTrue whenFalse : TagTree)
  /-- a value that is bound to a name before it is a tag -/
  | hoisted (name : String) (value : Expr)

/-- The element of that tag: with children, or as one tag. -/
def OpeningTag.toMarkup (children : Option (List Child)) (t : OpeningTag) : Markup :=
  match children with
  | some children => .element t children
  | none => .selfClosing t

namespace TagTree

/-- The element with that tag, as an expression. -/
def toExpr (attributes : List Attribute) (children : Option (List Child)) : TagTree → Expr
  | .name tag => .markup (OpeningTag.toMarkup children ⟨tag, attributes⟩)
  | .choice condition whenTrue whenFalse =>
    .conditional condition (whenTrue.toExpr attributes children) (whenFalse.toExpr attributes children)
  | .hoisted x value =>
    .call (.paren (.function (.arrow [] (.block ⟨[.constant (.name x) value,
      .ret (some (.markup (OpeningTag.toMarkup children ⟨.ident x, attributes⟩)))]⟩)))) []

/-- The element with that tag: an expression that is not itself an element stands between braces. -/
def toMarkup (attributes : List Attribute) (children : Option (List Child)) (tag : TagTree) : Markup :=
  match tag with
  | .name tag => OpeningTag.toMarkup children ⟨tag, attributes⟩
  | _ => .container (some (tag.toExpr attributes children))

end TagTree

/-! ### Replacing at the sites -/

/-- What stands for names and tags where some names are hidden; a tag is given with its variables replaced as in an
expression. -/
structure Replacement where
  name : List String → String → Expr
  tag : List String → Expr → Expr → TagTree

mutual

/-- The expression with its names replaced, in a place where `hidden` is hidden. -/
def Expr.replaceWith (R : Replacement) (hidden : List String) : Expr → Expr
  | .ident name => R.name hidden name
  | .verbatim text => .verbatim text
  | .string value => .string value
  | .number text => .number text
  | .property object name optional => .property (object.replaceWith R hidden) name optional
  | .element object argument => .element (object.replaceWith R hidden) (argument.replaceWith R hidden)
  | .call callee arguments => .call (callee.replaceWith R hidden) (replaceExprs R hidden arguments)
  | .binary left operator right => .binary (left.replaceWith R hidden) operator (right.replaceWith R hidden)
  | .unary operator operand => .unary operator (operand.replaceWith R hidden)
  | .conditional condition whenTrue whenFalse =>
    .conditional (condition.replaceWith R hidden) (whenTrue.replaceWith R hidden) (whenFalse.replaceWith R hidden)
  | .paren inner => .paren (inner.replaceWith R hidden)
  | .object entries => .object (replaceEntries R hidden entries)
  | .array elements => .array (replaceExprs R hidden elements)
  | .pattern p => .pattern (p.replaceWith R hidden)
  | .type t => .type t
  | .markup m => .markup (m.replaceWith R hidden)
  | .function f => .function (f.replaceWith R hidden)

/-- A list of expressions with their names replaced. -/
def replaceExprs (R : Replacement) (hidden : List String) : List Expr → List Expr
  | [] => []
  | e :: es => e.replaceWith R hidden :: replaceExprs R hidden es

/-- An optional expression with its names replaced. -/
def replaceExpr? (R : Replacement) (hidden : List String) : Option Expr → Option Expr
  | none => none
  | some e => some (e.replaceWith R hidden)

/-- A member of an object literal with its names replaced: a shorthand gets a key when its name does not stay. -/
def ObjectEntry.replaceWith (R : Replacement) (hidden : List String) : ObjectEntry → ObjectEntry
  | .keyed key value => .keyed key (value.replaceWith R hidden)
  | .shorthand name =>
    if (R.name hidden name).ident? = some name then .shorthand name else .keyed name (R.name hidden name)
  | .spread value => .spread (value.replaceWith R hidden)

/-- A list of members of an object literal with their names replaced. -/
def replaceEntries (R : Replacement) (hidden : List String) : List ObjectEntry → List ObjectEntry
  | [] => []
  | e :: es => e.replaceWith R hidden :: replaceEntries R hidden es

/-- A markup tree with its names replaced. -/
def Markup.replaceWith (R : Replacement) (hidden : List String) : Markup → Markup
  | .element opening children => opening.replaceWith R hidden (some (replaceChildren R hidden children))
  | .selfClosing opening => opening.replaceWith R hidden none
  | .fragment children => .fragment (replaceChildren R hidden children)
  | .container content => .container (replaceExpr? R hidden content)

/-- The element of a tag with its names replaced; a tag of the page itself stays. -/
def OpeningTag.replaceWith (R : Replacement) (hidden : List String) (children : Option (List Child)) :
    OpeningTag → Markup
  | ⟨tag, attributes⟩ =>
    TagTree.toMarkup (replaceAttributes R hidden attributes) children
      (if OpeningTag.isIntrinsic ⟨tag, attributes⟩ then .name tag
        else R.tag hidden tag (tag.replaceWith R hidden))

/-- An attribute with its names replaced. -/
def Attribute.replaceWith (R : Replacement) (hidden : List String) : Attribute → Attribute
  | .flag name => .flag name
  | .text name text => .text name text
  | .value name value => .value name (value.replaceWith R hidden)
  | .spread value => .spread (value.replaceWith R hidden)

/-- A list of attributes with their names replaced. -/
def replaceAttributes (R : Replacement) (hidden : List String) : List Attribute → List Attribute
  | [] => []
  | a :: as => a.replaceWith R hidden :: replaceAttributes R hidden as

/-- A child with its names replaced. -/
def Child.replaceWith (R : Replacement) (hidden : List String) : Child → Child
  | .text text => .text text
  | .markup m => .markup (m.replaceWith R hidden)

/-- A list of children with their names replaced. -/
def replaceChildren (R : Replacement) (hidden : List String) : List Child → List Child
  | [] => []
  | c :: cs => c.replaceWith R hidden :: replaceChildren R hidden cs

/-- A pattern with the names in its default values replaced; the names it binds stay. -/
def Pattern.replaceWith (R : Replacement) (hidden : List String) : Pattern → Pattern
  | ⟨kind, elements⟩ => ⟨kind, replaceBindings R hidden elements⟩

/-- A binding with the names in its default values replaced. -/
def Binding.replaceWith (R : Replacement) (hidden : List String) : Binding → Binding
  | ⟨rest, key, target, fallback⟩ => ⟨rest, key, target.replaceWith R hidden, replaceExpr? R hidden fallback⟩

/-- A list of bindings with the names in their default values replaced. -/
def replaceBindings (R : Replacement) (hidden : List String) : List Binding → List Binding
  | [] => []
  | b :: bs => b.replaceWith R hidden :: replaceBindings R hidden bs

/-- A target with the names in its default values replaced. -/
def Target.replaceWith (R : Replacement) (hidden : List String) : Target → Target
  | .name x => .name x
  | .pattern p => .pattern (p.replaceWith R hidden)

/-- A parameter with the names in its decorators and default values replaced. -/
def Parameter.replaceWith (R : Replacement) (hidden : List String) : Parameter → Parameter
  | ⟨decorators, modifiers, rest, target, optional, type, fallback⟩ =>
    ⟨replaceExprs R hidden decorators, modifiers, rest, target.replaceWith R hidden, optional, type,
      replaceExpr? R hidden fallback⟩

/-- A list of parameters with their names replaced. -/
def replaceParameters (R : Replacement) (hidden : List String) : List Parameter → List Parameter
  | [] => []
  | p :: ps => p.replaceWith R hidden :: replaceParameters R hidden ps

/-- A function with its names replaced: those it binds are hidden in its parameters and its body. -/
def Function.replaceWith (R : Replacement) (hidden : List String) : Function → Function
  | ⟨form, modifiers, typeParameters, parameters, returnType, body⟩ =>
    let inner := Function.boundNames ⟨form, modifiers, typeParameters, parameters, returnType, body⟩ ++ hidden
    ⟨form.replaceWith R hidden, modifiers, typeParameters, replaceParameters R inner parameters, returnType,
      body.replaceWith R inner⟩

/-- What introduces a function, with the names in its decorators replaced. -/
def FunctionForm.replaceWith (R : Replacement) (hidden : List String) : FunctionForm → FunctionForm
  | .keyword decorators generator name => .keyword (replaceExprs R hidden decorators) generator name
  | .arrow => .arrow

/-- A function body with its names replaced. -/
def Body.replaceWith (R : Replacement) (hidden : List String) : Body → Body
  | .block b => .block (b.replaceWith R hidden)
  | .expr value => .expr (value.replaceWith R hidden)

/-- A block with its names replaced. -/
def Block.replaceWith (R : Replacement) (hidden : List String) : Block → Block
  | ⟨statements⟩ => ⟨replaceStatements R hidden statements⟩

/-- A statement with its names replaced. -/
def Statement.replaceWith (R : Replacement) (hidden : List String) : Statement → Statement
  | .ret value => .ret (replaceExpr? R hidden value)
  | .declare modifiers declarations => .declare modifiers (declarations.replaceWith R hidden)
  | .expr value => .expr (value.replaceWith R hidden)
  | .block b => .block (b.replaceWith R hidden)

/-- A list of statements with their names replaced. -/
def replaceStatements (R : Replacement) (hidden : List String) : List Statement → List Statement
  | [] => []
  | t :: ts => t.replaceWith R hidden :: replaceStatements R hidden ts

/-- A list of declarations with their keyword and their names replaced. -/
def Declarations.replaceWith (R : Replacement) (hidden : List String) : Declarations → Declarations
  | ⟨kind, items⟩ => ⟨kind, replaceItems R hidden items⟩

/-- A list of declarations with their names replaced. -/
def replaceItems (R : Replacement) (hidden : List String) : List Declaration → List Declaration
  | [] => []
  | d :: ds => d.replaceWith R hidden :: replaceItems R hidden ds

/-- A declaration with its names replaced. -/
def Declaration.replaceWith (R : Replacement) (hidden : List String) : Declaration → Declaration
  | ⟨target, type, value⟩ => ⟨target.replaceWith R hidden, type, replaceExpr? R hidden value⟩

end

namespace OpeningTag

theorem renderWith_toMarkup (E : Expansion) (s : Option Scope) (t : OpeningTag) (children : Option (List Child)) :
    (t.toMarkup children).renderWith E s =
      t.renderWith E s (children.map fun children => String.join (renderChildren E s children)) := by
  cases children <;> rw [toMarkup, Markup.renderWith] <;> rfl

theorem replaceWith_toMarkup (R : Replacement) (hidden : List String) (t : OpeningTag)
    (children : Option (List Child)) :
    (t.toMarkup children).replaceWith R hidden = t.replaceWith R hidden (children.map (replaceChildren R hidden)) := by
  cases children <;> rw [toMarkup, Markup.replaceWith] <;> rfl

end OpeningTag

/-! ### What a scope replaces -/

namespace Replacement

/-- The replacement under which everything stays. -/
def keep : Replacement :=
  ⟨fun _ x => .ident x, fun _ _ tag => .name tag⟩

/-- What stands for the tag `tag` in the scope `s`, by what `next` replaces in the scope of a value; `tree` is the tag
with its variables replaced as in an expression. -/
def tagTree (next : Scope → Replacement) (s : Scope) (tag tree : Expr) : TagTree :=
  if Text.isComponentTag (tag.render (some s)) then .name tree
  else
    match tag.replacement? (some s) with
    | none => .hoisted (tag.ident?.getD "Tag") tree
    | some (v, inner) =>
      match v.stripParens with
      | .conditional condition whenTrue whenFalse =>
        .choice (condition.replaceWith (next inner) [])
          ((next inner).tag [] whenTrue (whenTrue.replaceWith (next inner) []))
          ((next inner).tag [] whenFalse (whenFalse.replaceWith (next inner) []))
      | e => .hoisted (tag.ident?.getD "Tag") (e.replaceWith (next inner) [])

/-- What stands for the name `x` in the scope `s`. -/
def nameTree (next : Scope → Replacement) (s : Scope) (x : String) : Expr :=
  match s.value? x with
  | none => .ident x
  | some v => if v.ident? = some x then .ident x else (v.replaceWith (next (s.without [x])) []).inPlaceOf v

/-- What stands at the sites of syntax that is printed in the scope `s`. -/
def step (next : Scope → Replacement) (s : Scope) : Replacement :=
  ⟨fun hidden => nameTree next (s.without hidden), fun hidden => tagTree next (s.without hidden)⟩

/-- The replacement of the variables of a scope with at most `n` of them. -/
def upTo : Nat → Scope → Replacement
  | 0 => step fun _ => keep
  | n + 1 => step (upTo n)

end Replacement

/-- The replacement of the variables of a scope. -/
def Scope.replacement (s : Scope) : Replacement :=
  .upTo s.vars.size s

/-- The expression with the variables of the scope replaced. -/
def Expr.replaced (s : Scope) (e : Expr) : Expr :=
  e.replaceWith s.replacement []

/-- The function with the variables of the scope replaced. -/
def Function.replaced (s : Scope) (f : Function) : Function :=
  f.replaceWith s.replacement []

/-! ### One step of a replacement -/

section

variable {next next' : Scope → Replacement} {s : Scope} {x : String} {v : Expr}

/-- What a tag stands for: its variable has a value in the scope. -/
theorem Expr.replacement?_eq_some {tag : Expr} {inner : Scope} (h : tag.replacement? (some s) = some (v, inner)) :
    ∃ x, tag = .ident x ∧ s.value? x = some v ∧ inner = s.without [x] := by
  cases tag with
  | ident x =>
    simp only [Expr.replacement?, Expr.ident?, Option.bind_some, Option.map_eq_some_iff, Prod.mk.injEq] at h
    obtain ⟨w, hw, rfl, rfl⟩ := h
    exact ⟨x, rfl, hw, rfl⟩
  | _ => simp [Expr.replacement?, Expr.ident?] at h

namespace Replacement

private theorem nameTree_congr (h : ∀ v, s.value? x = some v → next (s.without [x]) = next' (s.without [x])) :
    nameTree next s x = nameTree next' s x := by
  unfold nameTree
  cases hv : s.value? x with
  | none => rfl
  | some v => simp only [h v hv]

private theorem tagTree_congr {tag : Expr}
    (h : ∀ v inner, tag.replacement? (some s) = some (v, inner) → next inner = next' inner) (tree : Expr) :
    tagTree next s tag tree = tagTree next' s tag tree := by
  unfold tagTree
  cases hr : tag.replacement? (some s) with
  | none => rfl
  | some r => simp only [h r.1 r.2 hr]

/-- One step looks only at scopes with fewer variables. -/
private theorem step_congr (h : ∀ t : Scope, t.vars.size < s.vars.size → next t = next' t) :
    step next s = step next' s := by
  have hless : ∀ hidden x v, (s.without hidden).value? x = some v →
      ((s.without hidden).without [x]).vars.size < s.vars.size := by
    intro hidden x v hv
    have hlt := Scope.size_without_lt hv
    have hle := s.size_without_le hidden
    omega
  unfold step
  rw [Replacement.mk.injEq]
  refine ⟨funext fun hidden => funext fun x => ?_, funext fun hidden => funext fun tag => funext fun tree => ?_⟩
  · exact nameTree_congr fun v hv => h _ (hless hidden x v hv)
  · refine tagTree_congr (fun v inner hr => ?_) tree
    obtain ⟨x, -, hv, rfl⟩ := Expr.replacement?_eq_some hr
    exact h _ (hless hidden x v hv)

/-- Any bound on the number of variables gives the same replacement. -/
theorem upTo_eq {n m : Nat} (hn : s.vars.size ≤ n) (hm : s.vars.size ≤ m) : upTo n s = upTo m s := by
  induction n generalizing m s with
  | zero =>
    cases m with
    | zero => rfl
    | succ m => exact step_congr fun t ht => by omega
  | succ n ih =>
    cases m with
    | zero => exact step_congr fun t ht => by omega
    | succ m => exact step_congr fun t ht => ih (by omega) (by omega)

end Replacement

namespace Scope

/-- A scope replaces its values in the scopes without their variables. -/
theorem replacement_eq_step (s : Scope) : s.replacement = .step replacement s := by
  unfold replacement
  cases hn : s.vars.size with
  | zero => exact Replacement.step_congr fun t ht => by omega
  | succ n => exact Replacement.step_congr fun t ht => Replacement.upTo_eq (by omega) (Nat.le_refl _)

theorem replacement_name (s : Scope) (hidden : List String) (x : String) :
    s.replacement.name hidden x = Replacement.nameTree replacement (s.without hidden) x := by
  rw [replacement_eq_step]
  rfl

theorem replacement_tag (s : Scope) (hidden : List String) (tag tree : Expr) :
    s.replacement.tag hidden tag tree = Replacement.tagTree replacement (s.without hidden) tag tree := by
  rw [replacement_eq_step]
  rfl

/-- What stands for a name at a site is the name replaced in the scope there. -/
theorem replacement_name_eq_replaced (s : Scope) (hidden : List String) (x : String) :
    s.replacement.name hidden x = (Expr.ident x).replaced (s.without hidden) := by
  rw [Expr.replaced, Expr.replaceWith, replacement_name, replacement_name, without_nil]

end Scope

namespace Expr

theorem replaced_ident_of_none (h : s.value? x = none) : (Expr.ident x).replaced s = .ident x := by
  rw [replaced, replaceWith, Scope.replacement_name, Scope.without_nil, Replacement.nameTree]
  simp only [h]

theorem replaced_ident_of_self (h : s.value? x = some v) (hv : v.ident? = some x) :
    (Expr.ident x).replaced s = .ident x := by
  rw [replaced, replaceWith, Scope.replacement_name, Scope.without_nil, Replacement.nameTree]
  simp only [h, hv, ↓reduceIte]

theorem replaced_ident_of_some (h : s.value? x = some v) (hv : v.ident? ≠ some x) :
    (Expr.ident x).replaced s = (v.replaced (s.without [x])).inPlaceOf v := by
  rw [replaced, replaceWith, Scope.replacement_name, Scope.without_nil, Replacement.nameTree]
  simp only [h, hv, ↓reduceIte]
  rfl

end Expr

end

/-! ### Nothing is replaced -/

mutual

/-- An expression in which every name stays is the same. -/
theorem Expr.replaceWith_keep (hidden : List String) : ∀ e : Expr, e.replaceWith .keep hidden = e
  | .ident _ => by rw [Expr.replaceWith, Replacement.keep]
  | .verbatim _ | .string _ | .number _ | .type _ => by rw [Expr.replaceWith]
  | .property object _ _ => by rw [Expr.replaceWith, Expr.replaceWith_keep hidden object]
  | .element object argument => by
    rw [Expr.replaceWith, Expr.replaceWith_keep hidden object, Expr.replaceWith_keep hidden argument]
  | .call callee arguments => by
    rw [Expr.replaceWith, Expr.replaceWith_keep hidden callee, replaceExprs_keep hidden arguments]
  | .binary left _ right => by
    rw [Expr.replaceWith, Expr.replaceWith_keep hidden left, Expr.replaceWith_keep hidden right]
  | .unary _ operand => by rw [Expr.replaceWith, Expr.replaceWith_keep hidden operand]
  | .conditional condition whenTrue whenFalse => by
    rw [Expr.replaceWith, Expr.replaceWith_keep hidden condition, Expr.replaceWith_keep hidden whenTrue,
      Expr.replaceWith_keep hidden whenFalse]
  | .paren inner => by rw [Expr.replaceWith, Expr.replaceWith_keep hidden inner]
  | .object entries => by rw [Expr.replaceWith, replaceEntries_keep hidden entries]
  | .array elements => by rw [Expr.replaceWith, replaceExprs_keep hidden elements]
  | .pattern p => by rw [Expr.replaceWith, Pattern.replaceWith_keep hidden p]
  | .markup m => by rw [Expr.replaceWith, Markup.replaceWith_keep hidden m]
  | .function f => by rw [Expr.replaceWith, Function.replaceWith_keep hidden f]

theorem replaceExprs_keep (hidden : List String) : ∀ es : List Expr, replaceExprs .keep hidden es = es
  | [] => by rw [replaceExprs]
  | e :: es => by rw [replaceExprs, Expr.replaceWith_keep hidden e, replaceExprs_keep hidden es]

theorem replaceExpr?_keep (hidden : List String) : ∀ e : Option Expr, replaceExpr? .keep hidden e = e
  | none => by rw [replaceExpr?]
  | some e => by rw [replaceExpr?, Expr.replaceWith_keep hidden e]

theorem ObjectEntry.replaceWith_keep (hidden : List String) : ∀ e : ObjectEntry, e.replaceWith .keep hidden = e
  | .keyed _ value => by rw [ObjectEntry.replaceWith, Expr.replaceWith_keep hidden value]
  | .shorthand x => by rw [ObjectEntry.replaceWith]; exact if_pos rfl
  | .spread value => by rw [ObjectEntry.replaceWith, Expr.replaceWith_keep hidden value]

theorem replaceEntries_keep (hidden : List String) : ∀ es : List ObjectEntry, replaceEntries .keep hidden es = es
  | [] => by rw [replaceEntries]
  | e :: es => by rw [replaceEntries, ObjectEntry.replaceWith_keep hidden e, replaceEntries_keep hidden es]

theorem Markup.replaceWith_keep (hidden : List String) : ∀ m : Markup, m.replaceWith .keep hidden = m
  | .element opening children => by
    rw [Markup.replaceWith, OpeningTag.replaceWith_keep hidden opening, replaceChildren_keep hidden children,
      OpeningTag.toMarkup]
  | .selfClosing opening => by rw [Markup.replaceWith, OpeningTag.replaceWith_keep hidden opening, OpeningTag.toMarkup]
  | .fragment children => by rw [Markup.replaceWith, replaceChildren_keep hidden children]
  | .container content => by rw [Markup.replaceWith, replaceExpr?_keep hidden content]

theorem OpeningTag.replaceWith_keep (hidden : List String) {children : Option (List Child)} :
    ∀ t : OpeningTag, t.replaceWith .keep hidden children = t.toMarkup children
  | ⟨tag, attributes⟩ => by
    rw [OpeningTag.replaceWith, replaceAttributes_keep hidden attributes, Expr.replaceWith_keep hidden tag]
    exact congrArg (TagTree.toMarkup attributes children) (ite_self _)

theorem Attribute.replaceWith_keep (hidden : List String) : ∀ a : Attribute, a.replaceWith .keep hidden = a
  | .flag _ | .text _ _ => by rw [Attribute.replaceWith]
  | .value _ value => by rw [Attribute.replaceWith, Expr.replaceWith_keep hidden value]
  | .spread value => by rw [Attribute.replaceWith, Expr.replaceWith_keep hidden value]

theorem replaceAttributes_keep (hidden : List String) : ∀ as : List Attribute, replaceAttributes .keep hidden as = as
  | [] => by rw [replaceAttributes]
  | a :: as => by rw [replaceAttributes, Attribute.replaceWith_keep hidden a, replaceAttributes_keep hidden as]

theorem Child.replaceWith_keep (hidden : List String) : ∀ c : Child, c.replaceWith .keep hidden = c
  | .text _ => by rw [Child.replaceWith]
  | .markup m => by rw [Child.replaceWith, Markup.replaceWith_keep hidden m]

theorem replaceChildren_keep (hidden : List String) : ∀ cs : List Child, replaceChildren .keep hidden cs = cs
  | [] => by rw [replaceChildren]
  | c :: cs => by rw [replaceChildren, Child.replaceWith_keep hidden c, replaceChildren_keep hidden cs]

theorem Pattern.replaceWith_keep (hidden : List String) : ∀ p : Pattern, p.replaceWith .keep hidden = p
  | ⟨_, elements⟩ => by rw [Pattern.replaceWith, replaceBindings_keep hidden elements]

theorem Binding.replaceWith_keep (hidden : List String) : ∀ b : Binding, b.replaceWith .keep hidden = b
  | ⟨_, _, target, fallback⟩ => by
    rw [Binding.replaceWith, Target.replaceWith_keep hidden target, replaceExpr?_keep hidden fallback]

theorem replaceBindings_keep (hidden : List String) : ∀ bs : List Binding, replaceBindings .keep hidden bs = bs
  | [] => by rw [replaceBindings]
  | b :: bs => by rw [replaceBindings, Binding.replaceWith_keep hidden b, replaceBindings_keep hidden bs]

theorem Target.replaceWith_keep (hidden : List String) : ∀ t : Target, t.replaceWith .keep hidden = t
  | .name _ => by rw [Target.replaceWith]
  | .pattern p => by rw [Target.replaceWith, Pattern.replaceWith_keep hidden p]

theorem Parameter.replaceWith_keep (hidden : List String) : ∀ p : Parameter, p.replaceWith .keep hidden = p
  | ⟨decorators, _, _, target, _, _, fallback⟩ => by
    rw [Parameter.replaceWith, replaceExprs_keep hidden decorators, Target.replaceWith_keep hidden target,
      replaceExpr?_keep hidden fallback]

theorem replaceParameters_keep (hidden : List String) : ∀ ps : List Parameter, replaceParameters .keep hidden ps = ps
  | [] => by rw [replaceParameters]
  | p :: ps => by rw [replaceParameters, Parameter.replaceWith_keep hidden p, replaceParameters_keep hidden ps]

/-- A function in which every name stays is the same. -/
theorem Function.replaceWith_keep (hidden : List String) : ∀ f : Function, f.replaceWith .keep hidden = f
  | ⟨form, _, _, parameters, _, body⟩ => by
    rw [Function.replaceWith, FunctionForm.replaceWith_keep hidden form, replaceParameters_keep _ parameters,
      Body.replaceWith_keep _ body]

theorem FunctionForm.replaceWith_keep (hidden : List String) : ∀ f : FunctionForm, f.replaceWith .keep hidden = f
  | .keyword decorators _ _ => by rw [FunctionForm.replaceWith, replaceExprs_keep hidden decorators]
  | .arrow => by rw [FunctionForm.replaceWith]

theorem Body.replaceWith_keep (hidden : List String) : ∀ b : Body, b.replaceWith .keep hidden = b
  | .block b => by rw [Body.replaceWith, Block.replaceWith_keep hidden b]
  | .expr value => by rw [Body.replaceWith, Expr.replaceWith_keep hidden value]

theorem Block.replaceWith_keep (hidden : List String) : ∀ b : Block, b.replaceWith .keep hidden = b
  | ⟨statements⟩ => by rw [Block.replaceWith, replaceStatements_keep hidden statements]

theorem Statement.replaceWith_keep (hidden : List String) : ∀ t : Statement, t.replaceWith .keep hidden = t
  | .ret value => by rw [Statement.replaceWith, replaceExpr?_keep hidden value]
  | .declare _ declarations => by rw [Statement.replaceWith, Declarations.replaceWith_keep hidden declarations]
  | .expr value => by rw [Statement.replaceWith, Expr.replaceWith_keep hidden value]
  | .block b => by rw [Statement.replaceWith, Block.replaceWith_keep hidden b]

theorem replaceStatements_keep (hidden : List String) : ∀ ts : List Statement, replaceStatements .keep hidden ts = ts
  | [] => by rw [replaceStatements]
  | t :: ts => by rw [replaceStatements, Statement.replaceWith_keep hidden t, replaceStatements_keep hidden ts]

theorem Declarations.replaceWith_keep (hidden : List String) : ∀ d : Declarations, d.replaceWith .keep hidden = d
  | ⟨_, items⟩ => by rw [Declarations.replaceWith, replaceItems_keep hidden items]

theorem replaceItems_keep (hidden : List String) : ∀ ds : List Declaration, replaceItems .keep hidden ds = ds
  | [] => by rw [replaceItems]
  | d :: ds => by rw [replaceItems, Declaration.replaceWith_keep hidden d, replaceItems_keep hidden ds]

theorem Declaration.replaceWith_keep (hidden : List String) : ∀ d : Declaration, d.replaceWith .keep hidden = d
  | ⟨target, _, value⟩ => by
    rw [Declaration.replaceWith, Target.replaceWith_keep hidden target, replaceExpr?_keep hidden value]

end

end ViewTemplate

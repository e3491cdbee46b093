import ViewTemplate.Proofs.Lookup
import ViewTemplate.Syntax.Shape
import ViewTemplate.VariableMap

/-!
# Checking all parts of a piece of syntax

A `Check` looks at each part of a piece of syntax by itself, and `every` runs it over all parts: over the
expressions, entries, attributes and so on that lie anywhere within.  `Check.plain` holds of expressions without
markup and functions, `Check.flat` of syntax without decorators and without blocks inside blocks.  Types have no parts
but names and texts, so they are checked by what holds of these.
-/

namespace ViewTemplate

/-- What is looked at in each part of a piece of syntax. -/
structure Check where
  expr : Expr → Bool := fun _ => true
  entry : ObjectEntry → Bool := fun _ => true
  attr : Attribute → Bool := fun _ => true
  child : Child → Bool := fun _ => true
  binding : Binding → Bool := fun _ => true
  target : Target → Bool := fun _ => true
  parameter : Parameter → Bool := fun _ => true
  function : Function → Bool := fun _ => true
  form : FunctionForm → Bool := fun _ => true
  statement : Statement → Bool := fun _ => true
  declaration : Declaration → Bool := fun _ => true

mutual

/-- Whether the check holds of an expression and of all parts of it. -/
def Expr.every (c : Check) : Expr → Bool
  | .ident name => c.expr (.ident name)
  | .verbatim text => c.expr (.verbatim text)
  | .string value => c.expr (.string value)
  | .number text => c.expr (.number text)
  | .property object name optional => c.expr (.property object name optional) && object.every c
  | .element object argument => c.expr (.element object argument) && object.every c && argument.every c
  | .call callee arguments => c.expr (.call callee arguments) && callee.every c && everyExpr c arguments
  | .binary left operator right => c.expr (.binary left operator right) && left.every c && right.every c
  | .unary operator operand => c.expr (.unary operator operand) && operand.every c
  | .conditional condition whenTrue whenFalse =>
    c.expr (.conditional condition whenTrue whenFalse) && condition.every c && whenTrue.every c && whenFalse.every c
  | .paren inner => c.expr (.paren inner) && inner.every c
  | .object entries => c.expr (.object entries) && everyEntry c entries
  | .array elements => c.expr (.array elements) && everyExpr c elements
  | .pattern p => c.expr (.pattern p) && p.every c
  | .type t => c.expr (.type t)
  | .markup m => c.expr (.markup m) && m.every c
  | .function f => c.expr (.function f) && f.every c

/-- Whether the check holds throughout a list of expressions. -/
def everyExpr (c : Check) : List Expr → Bool
  | [] => true
  | e :: es => e.every c && everyExpr c es

/-- Whether the check holds throughout an optional expression. -/
def everyExpr? (c : Check) : Option Expr → Bool
  | none => true
  | some e => e.every c

/-- Whether the check holds throughout a member of an object literal. -/
def ObjectEntry.every (c : Check) : ObjectEntry → Bool
  | .keyed key value => c.entry (.keyed key value) && value.every c
  | .shorthand name => c.entry (.shorthand name)
  | .spread value => c.entry (.spread value) && value.every c

/-- Whether the check holds throughout a list of members of an object literal. -/
def everyEntry (c : Check) : List ObjectEntry → Bool
  | [] => true
  | e :: es => e.every c && everyEntry c es

/-- Whether the check holds throughout a markup tree. -/
def Markup.every (c : Check) : Markup → Bool
  | .element opening children => opening.every c && everyChild c children
  | .selfClosing opening => opening.every c
  | .fragment children => everyChild c children
  | .container content => everyExpr? c content

/-- Whether the check holds throughout a tag and its attributes. -/
def OpeningTag.every (c : Check) : OpeningTag → Bool
  | ⟨tag, attributes⟩ => tag.every c && everyAttribute c attributes

/-- Whether the check holds throughout an attribute. -/
def Attribute.every (c : Check) : Attribute → Bool
  | .flag name => c.attr (.flag name)
  | .text name text => c.attr (.text name text)
  | .value name value => c.attr (.value name value) && value.every c
  | .spread value => c.attr (.spread value) && value.every c

/-- Whether the check holds throughout a list of attributes. -/
def everyAttribute (c : Check) : List Attribute → Bool
  | [] => true
  | a :: as => a.every c && everyAttribute c as

/-- Whether the check holds throughout a child. -/
def Child.every (c : Check) : Child → Bool
  | .text text => c.child (.text text)
  | .markup m => c.child (.markup m) && m.every c

/-- Whether the check holds throughout a list of children. -/
def everyChild (c : Check) : List Child → Bool
  | [] => true
  | d :: ds => d.every c && everyChild c ds

/-- Whether the check holds throughout a pattern. -/
def Pattern.every (c : Check) : Pattern → Bool
  | ⟨_, elements⟩ => everyBinding c elements

/-- Whether the check holds throughout a binding. -/
def Binding.every (c : Check) : Binding → Bool
  | ⟨rest, key, target, fallback⟩ =>
    c.binding ⟨rest, key, target, fallback⟩ && target.every c && everyExpr? c fallback

/-- Whether the check holds throughout a list of bindings. -/
def everyBinding (c : Check) : List Binding → Bool
  | [] => true
  | b :: bs => b.every c && everyBinding c bs

/-- Whether the check holds throughout a target. -/
def Target.every (c : Check) : Target → Bool
  | .name x => c.target (.name x)
  | .pattern p => c.target (.pattern p) && p.every c

/-- Whether the check holds throughout a parameter. -/
def Parameter.every (c : Check) : Parameter → Bool
  | ⟨decorators, modifiers, rest, target, optional, type, fallback⟩ =>
    c.parameter ⟨decorators, modifiers, rest, target, optional, type, fallback⟩ && everyExpr c decorators &&
      target.every c && everyExpr? c fallback

/-- Whether the check holds throughout a list of parameters. -/
def everyParameter (c : Check) : List Parameter → Bool
  | [] => true
  | p :: ps => p.every c && everyParameter c ps

/-- Whether the check holds throughout a function. -/
def Function.every (c : Check) : Function → Bool
  | ⟨form, modifiers, typeParameters, parameters, returnType, body⟩ =>
    c.function ⟨form, modifiers, typeParameters, parameters, returnType, body⟩ && form.every c &&
      everyParameter c parameters && body.every c

/-- Whether the check holds of what introduces a function and throughout its decorators. -/
def FunctionForm.every (c : Check) : FunctionForm → Bool
  | .keyword decorators generator name => c.form (.keyword decorators generator name) && everyExpr c decorators
  | .arrow => c.form .arrow

/-- Whether the check holds throughout a function body. -/
def Body.every (c : Check) : Body → Bool
  | .block b => b.every c
  | .expr value => value.every c

/-- Whether the check holds throughout a block. -/
def Block.every (c : Check) : Block → Bool
  | ⟨statements⟩ => everyStatement c statements

/-- Whether the check holds throughout a statement. -/
def Statement.every (c : Check) : Statement → Bool
  | .ret value => c.statement (.ret value) && everyExpr? c value
  | .declare modifiers declarations => c.statement (.declare modifiers declarations) && declarations.every c
  | .expr value => c.statement (.expr value) && value.every c
  | .block b => c.statement (.block b) && b.every c

/-- Whether the check holds throughout a list of statements. -/
def everyStatement (c : Check) : List Statement → Bool
  | [] => true
  | t :: ts => t.every c && everyStatement c ts

/-- Whether the check holds throughout a list of declarations with their keyword. -/
def Declarations.every (c : Check) : Declarations → Bool
  | ⟨_, items⟩ => everyItem c items

/-- Whether the check holds throughout a list of declarations. -/
def everyItem (c : Check) : List Declaration → Bool
  | [] => true
  | d :: ds => d.every c && everyItem c ds

/-- Whether the check holds throughout a declaration. -/
def Declaration.every (c : Check) : Declaration → Bool
  | ⟨target, type, value⟩ => c.declaration ⟨target, type, value⟩ && target.every c && everyExpr? c value

end

mutual

/-- Whether `p` holds of all names and texts in a type. -/
def TypeExpr.everyText (p : String → Bool) : TypeExpr → Bool
  | .reference name arguments => p name && everyTypeText p arguments
  | .array element => element.everyText p
  | .union members => everyTypeText p members
  | .literal properties => everySignatureText p properties
  | .verbatim text => p text

/-- Whether `p` holds of all names and texts in a list of types. -/
def everyTypeText (p : String → Bool) : List TypeExpr → Bool
  | [] => true
  | t :: ts => t.everyText p && everyTypeText p ts

/-- Whether `p` holds of all names and texts in an optional type. -/
def everyTypeText? (p : String → Bool) : Option TypeExpr → Bool
  | none => true
  | some t => t.everyText p

/-- Whether `p` holds of all names and texts in a property signature. -/
def PropertySignature.everyText (p : String → Bool) : PropertySignature → Bool
  | ⟨name, _, type⟩ => p name && everyTypeText? p type

/-- Whether `p` holds of all names and texts in a list of property signatures. -/
def everySignatureText (p : String → Bool) : List PropertySignature → Bool
  | [] => true
  | s :: ss => s.everyText p && everySignatureText p ss

end

/-- Whether the check holds throughout all values of a map. -/
def VariableMap.every (c : Check) (m : VariableMap) : Bool :=
  m.entries.all fun entry => entry.2.every c

theorem VariableMap.every_of_get? {c : Check} {m : VariableMap} (h : m.every c = true) {x : String} {v : Expr}
    (hx : m.get? x = some v) : v.every c = true :=
  List.all_eq_true.1 h _ (mem_of_lookup_eq_some hx)

theorem VariableMap.every_eraseAll {c : Check} {m : VariableMap} (h : m.every c = true) (names : List String) :
    (m.eraseAll names).every c = true := by
  rw [VariableMap.every, List.all_eq_true] at h ⊢
  intro entry he
  exact h entry (List.mem_filter.1 he).1

theorem Expr.every_stripParens {c : Check} : ∀ e : Expr, e.every c = true → e.stripParens.every c = true
  | .paren inner, h => by
    simp only [Expr.every, Bool.and_eq_true] at h
    exact Expr.every_stripParens inner h.2
  | .ident _, h | .verbatim _, h | .string _, h | .number _, h | .property .., h | .element .., h | .call .., h
  | .binary .., h | .unary .., h | .conditional .., h | .object _, h | .array _, h | .pattern _, h | .type _, h
  | .markup _, h | .function _, h => h

namespace Check

/-- No markup and no functions. -/
def plain : Check where
  expr
    | .markup _ | .function _ => false
    | _ => true

/-- No decorators, and no block but the body of a function. -/
def flat : Check where
  parameter p := p.decorators.isEmpty
  form
    | .keyword decorators _ _ => decorators.isEmpty
    | .arrow => true
  statement
    | .block _ => false
    | _ => true

end Check

end ViewTemplate

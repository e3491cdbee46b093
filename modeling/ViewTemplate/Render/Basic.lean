import ViewTemplate.Render.Expansion
import ViewTemplate.Render.Type

/-!
# Printing syntax in a scope

Every piece of syntax is printed in an optional scope; without one it is printed as it was written. Printing goes
down the syntax, and variables are printed by the expansion at hand. The expansion for `n + 1` variables prints
values with the expansion for `n`, and a scope is printed with the expansion for as many variables as it has: a value
is printed in a scope that has fewer.
-/

namespace ViewTemplate

mutual

/-- The text of an expression. -/
def Expr.renderWith (expand : Expansion) (s : Option Scope) : Expr → String
  | .ident name => expand.identText s name
  | .verbatim text => text
  | .string value => Text.quoted value
  | .number text => text
  | .property object name optional => object.propertyText s (object.renderWith expand s) name optional
  | .element object argument =>
    object.operandText (object.renderWith expand s) ++ Text.bracketed (argument.renderWith expand s)
  | .call callee arguments =>
    callee.operandText (callee.renderWith expand s) ++
      Text.parenthesized (Text.commaList (renderExprs expand s arguments))
  | .binary left operator right =>
    left.renderWith expand s ++ " " ++ operator ++ " " ++ right.renderWith expand s
  | .unary operator operand => unaryText operator (operand.renderWith expand s)
  | .conditional condition whenTrue whenFalse =>
    condition.renderWith expand s ++ " ? " ++ whenTrue.renderWith expand s ++ " : " ++ whenFalse.renderWith expand s
  | .paren inner => Text.parenthesized (inner.renderWith expand s)
  | .object entries => Text.bracedList ", " (renderEntries expand s entries)
  | .array elements => Text.bracketed (Text.commaList (renderExprs expand s elements))
  | .pattern p => p.renderWith expand s
  | .type t => t.render
  | .markup m => m.renderWith expand s
  | .function f => f.renderWith expand s

/-- The texts of a list of expressions. -/
def renderExprs (expand : Expansion) (s : Option Scope) : List Expr → List String
  | [] => []
  | e :: es => e.renderWith expand s :: renderExprs expand s es

/-- The text of an optional expression, after `before`. -/
def renderExpr? (expand : Expansion) (s : Option Scope) (before : String) : Option Expr → String
  | none => ""
  | some e => before ++ e.renderWith expand s

/-- The text of a member of an object literal. -/
def ObjectEntry.renderWith (expand : Expansion) (s : Option Scope) : ObjectEntry → String
  | .keyed key value => key ++ ": " ++ value.renderWith expand s
  | .shorthand name => expand.shorthandText s name
  | .spread value => "..." ++ value.renderWith expand s

/-- The texts of the members of an object literal. -/
def renderEntries (expand : Expansion) (s : Option Scope) : List ObjectEntry → List String
  | [] => []
  | e :: es => e.renderWith expand s :: renderEntries expand s es

/-- The text of a markup tree. -/
def Markup.renderWith (expand : Expansion) (s : Option Scope) : Markup → String
  | .element opening children => opening.renderWith expand s (some (String.join (renderChildren expand s children)))
  | .selfClosing opening => opening.renderWith expand s none
  | .fragment children => "<>" ++ String.join (renderChildren expand s children) ++ "</>"
  | .container content => Text.braced (renderExpr? expand s "" content)

/-- The text of an element: a tag of the page itself is printed as it is. -/
def OpeningTag.renderWith (expand : Expansion) (s : Option Scope) (children : Option String) : OpeningTag → String
  | ⟨tag, attributes⟩ =>
    ResolvedTag.render (String.join (renderAttributes expand s attributes)) children
      (if OpeningTag.isIntrinsic ⟨tag, attributes⟩ then .name (tag.ident?.getD "")
        else .ofText expand s tag (tag.renderWith expand s))

/-- The text of an attribute, with a blank before it. -/
def Attribute.renderWith (expand : Expansion) (s : Option Scope) : Attribute → String
  | .flag name => " " ++ name
  | .text name text => " " ++ name ++ "=" ++ Text.quoted text
  | .value name value => " " ++ name ++ "=" ++ Text.braced (value.renderWith expand s)
  | .spread value => " " ++ Text.braced ("..." ++ value.renderWith expand s)

/-- The texts of a list of attributes. -/
def renderAttributes (expand : Expansion) (s : Option Scope) : List Attribute → List String
  | [] => []
  | a :: as => a.renderWith expand s :: renderAttributes expand s as

/-- The text of a child. -/
def Child.renderWith (expand : Expansion) (s : Option Scope) : Child → String
  | .text text => text
  | .markup m => m.renderWith expand s

/-- The texts of a list of children. -/
def renderChildren (expand : Expansion) (s : Option Scope) : List Child → List String
  | [] => []
  | c :: cs => c.renderWith expand s :: renderChildren expand s cs

/-- The text of a pattern. -/
def Pattern.renderWith (expand : Expansion) (s : Option Scope) : Pattern → String
  | ⟨.object, elements⟩ => Text.bracedList ", " (renderBindings expand s elements)
  | ⟨.array, elements⟩ => Text.bracketed (Text.commaList (renderBindings expand s elements))

/-- The text of a binding. -/
def Binding.renderWith (expand : Expansion) (s : Option Scope) : Binding → String
  | ⟨rest, key, target, fallback⟩ =>
    (if rest then "..." else "") ++ (key.map (· ++ ": ")).getD "" ++ target.renderWith expand s ++
      renderExpr? expand s " = " fallback

/-- The texts of a list of bindings. -/
def renderBindings (expand : Expansion) (s : Option Scope) : List Binding → List String
  | [] => []
  | b :: bs => b.renderWith expand s :: renderBindings expand s bs

/-- The text of a target. -/
def Target.renderWith (expand : Expansion) (s : Option Scope) : Target → String
  | .name x => x
  | .pattern p => p.renderWith expand s

/-- The text of a parameter. -/
def Parameter.renderWith (expand : Expansion) (s : Option Scope) : Parameter → String
  | ⟨decorators, modifiers, rest, target, optional, type, fallback⟩ =>
    Text.blankAfterEach ((renderExprs expand s decorators).map ("@" ++ ·)) ++ Text.blankAfterEach modifiers ++
      (if rest then "..." else "") ++ target.renderWith expand s ++ (if optional then "?" else "") ++
      renderAnnotation type ++ renderExpr? expand s " = " fallback

/-- The texts of a list of parameters. -/
def renderParameters (expand : Expansion) (s : Option Scope) : List Parameter → List String
  | [] => []
  | p :: ps => p.renderWith expand s :: renderParameters expand s ps

/-- The text of a function. The names it binds are hidden from its parameters and its body, not from its
decorators. -/
def Function.renderWith (expand : Expansion) (s : Option Scope) : Function → String
  | ⟨form, modifiers, typeParameters, parameters, returnType, body⟩ =>
    let bound := Function.boundNames ⟨form, modifiers, typeParameters, parameters, returnType, body⟩
    let inner := Scope.hiding s bound
    form.renderWith expand s (Text.blankAfterEach modifiers)
      ((if typeParameters.isEmpty then "" else "<" ++ Text.commaList typeParameters ++ ">") ++
        Text.parenthesized (Text.commaList (renderParameters expand inner parameters)) ++ renderAnnotation returnType)
      (body.renderWith expand inner)

/-- The text of a function with the given modifiers, signature and body. -/
def FunctionForm.renderWith (expand : Expansion) (s : Option Scope) (modifiers signature body : String) :
    FunctionForm → String
  | .keyword decorators generator name =>
    String.join ((renderExprs expand s decorators).map ("@" ++ · ++ "\n")) ++ modifiers ++ "function" ++
      (if generator then "*" else "") ++ (name.map (" " ++ ·)).getD "" ++ signature ++ " " ++ body
  | .arrow => modifiers ++ signature ++ " => " ++ body

/-- The text of a function body. -/
def Body.renderWith (expand : Expansion) (s : Option Scope) : Body → String
  | .block b => b.renderWith expand s
  | .expr value => value.bodyText (value.renderWith expand s)

/-- The text of a block, one statement on a line. -/
def Block.renderWith (expand : Expansion) (s : Option Scope) : Block → String
  | ⟨statements⟩ =>
    if statements.isEmpty then Text.braced ""
    else Text.braced ("\n" ++ String.join ((renderStatements expand s statements).map (· ++ "\n")))

/-- The text of a statement. -/
def Statement.renderWith (expand : Expansion) (s : Option Scope) : Statement → String
  | .ret value => "return" ++ renderExpr? expand s " " value ++ ";"
  | .declare modifiers declarations => Text.blankAfterEach modifiers ++ declarations.renderWith expand s ++ ";"
  | .expr value => value.renderWith expand s ++ ";"
  | .block b => b.renderWith expand s

/-- The texts of a list of statements. -/
def renderStatements (expand : Expansion) (s : Option Scope) : List Statement → List String
  | [] => []
  | t :: ts => t.renderWith expand s :: renderStatements expand s ts

/-- The text of a list of declarations with their keyword. -/
def Declarations.renderWith (expand : Expansion) (s : Option Scope) : Declarations → String
  | ⟨kind, items⟩ => kind.keyword ++ " " ++ Text.commaList (renderItems expand s items)

/-- The texts of a list of declarations. -/
def renderItems (expand : Expansion) (s : Option Scope) : List Declaration → List String
  | [] => []
  | d :: ds => d.renderWith expand s :: renderItems expand s ds

/-- The text of a declaration. -/
def Declaration.renderWith (expand : Expansion) (s : Option Scope) : Declaration → String
  | ⟨target, type, value⟩ =>
    target.renderWith expand s ++ renderAnnotation type ++ renderExpr? expand s " = " value

end

/-- The expansion in scopes of at most `n` variables. -/
def Expansion.upTo : Nat → Expansion
  | 0 => ⟨fun _ _ => "", fun _ _ => .name ""⟩
  | n + 1 =>
    { text := fun s v => v.renderWith (upTo n) (some s)
      tag := fun s v => .ofText (upTo n) (some s) v (v.renderWith (upTo n) (some s)) }

/-- The expansion in the scope `s`. -/
def Expansion.within (s : Option Scope) : Expansion :=
  upTo ((s.map (·.vars.size)).getD 0)

/-- The text of an expression in the scope `s`. -/
def Expr.render (s : Option Scope) (e : Expr) : String :=
  e.renderWith (.within s) s

/-- The tag that `tag` is in the scope `s`. -/
def Expr.resolveTag (s : Option Scope) (tag : Expr) : ResolvedTag :=
  .ofText (.within s) s tag (tag.render s)

/-- The text of a markup tree in the scope `s`. -/
def Markup.render (s : Option Scope) (m : Markup) : String :=
  m.renderWith (.within s) s

/-- The text of a function in the scope `s`. -/
def Function.render (s : Option Scope) (f : Function) : String :=
  f.renderWith (.within s) s

end ViewTemplate

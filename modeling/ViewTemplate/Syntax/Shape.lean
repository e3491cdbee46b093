import ViewTemplate.Syntax.Basic
import ViewTemplate.Text.Name

/-!
# What a piece of syntax is

Questions about syntax that need no scope: which expressions need parentheses, which functions return markup and
where they return it, and which names a pattern, a block or a function binds.
-/

namespace ViewTemplate

namespace Expr

/-- The name of a bare identifier. -/
def ident? : Expr → Option String
  | .ident name => some name
  | _ => none

/-- An expression that can stand inside a larger one without parentheses. -/
def isPrimary : Expr → Bool
  | .binary .. | .unary .. | .conditional .. | .function _ | .pattern _ | .type _ => false
  | _ => true

/-- An object literal, which would read as a block after an arrow. -/
def isObject : Expr → Bool
  | .object _ => true
  | _ => false

/-- A conditional, which has to be parenthesized before a property of its value is read. -/
def isConditional : Expr → Bool
  | .conditional .. => true
  | _ => false

/-- The expression inside all parentheses around it. -/
def stripParens : Expr → Expr
  | .paren inner => inner.stripParens
  | e => e

/-- An expression whose value is markup, as far as its form shows. -/
def isMarkup : Expr → Bool
  | .markup _ => true
  | .paren inner => inner.isMarkup
  | .conditional _ whenTrue whenFalse => whenTrue.isMarkup || whenFalse.isMarkup
  | _ => false

/-- The name of a decorator: `Slot` for both `@Slot` and `@Slot()`. -/
def decoratorName? : Expr → Option String
  | .ident name => some name
  | .call callee _ => callee.ident?
  | _ => none

end Expr

/-- An expression as a markup tree: markup as it is, parentheses removed, anything else between braces. -/
def Markup.ofExpr : Expr → Markup
  | .markup m => m
  | .paren inner => ofExpr inner
  | e => .container (some e)

/-- A tag of the page itself, such as `div`: it is printed as it is and refers to no variable. -/
def OpeningTag.isIntrinsic (t : OpeningTag) : Bool :=
  t.tag.ident?.any Text.startsLower

namespace Target

/-- The name, for a target that is one. -/
def name? : Target → Option String
  | .name x => some x
  | .pattern _ => none

/-- The pattern, for a target that is one. -/
def pattern? : Target → Option Pattern
  | .name _ => none
  | .pattern p => some p

end Target

/-- The property a binding reads: its key, or the bound name itself. -/
def Binding.source? (b : Binding) : Option String :=
  b.key <|> b.target.name?

/-- The first binding that reads the property `key`. -/
def Pattern.find? (p : Pattern) (key : String) : Option Binding :=
  p.elements.find? fun b => b.source? = some key

mutual

/-- The names a pattern binds, in source order. -/
def Pattern.boundNames : Pattern → List String
  | ⟨_, elements⟩ => bindingNames elements

/-- The names a list of bindings binds. -/
def bindingNames : List Binding → List String
  | [] => []
  | b :: bs => b.boundNames ++ bindingNames bs

/-- The names a binding binds. -/
def Binding.boundNames : Binding → List String
  | ⟨_, _, target, _⟩ => target.boundNames

/-- The names a target binds. -/
def Target.boundNames : Target → List String
  | .name x => [x]
  | .pattern p => p.boundNames

end

mutual

/-- How many patterns lie within each other, this one included. -/
def Pattern.depth : Pattern → Nat
  | ⟨_, elements⟩ => 1 + bindingDepth elements

/-- The greatest depth among a list of bindings. -/
def bindingDepth : List Binding → Nat
  | [] => 0
  | b :: bs => max b.depth (bindingDepth bs)

/-- The depth of a binding's pattern. -/
def Binding.depth : Binding → Nat
  | ⟨_, _, target, _⟩ => target.depth

/-- The depth of a target: none for a name. -/
def Target.depth : Target → Nat
  | .name _ => 0
  | .pattern p => p.depth

end

/-- The pattern that takes the component's properties apart: the one under the first key `props`. -/
def Pattern.props? (p : Pattern) : Option Pattern :=
  (p.elements.find? fun b => b.key = some "props").bind (·.target.pattern?)

/-- The name of a parameter's type. -/
def Parameter.typeName? (p : Parameter) : Option String :=
  p.type.bind TypeExpr.name?

/-- The names a list of declarations binds. -/
def Declarations.boundNames (d : Declarations) : List String :=
  d.items.flatMap (·.target.boundNames)

namespace Statement

/-- A return statement, with or without a value. -/
def isReturn : Statement → Bool
  | .ret _ => true
  | _ => false

/-- The value after `return`, for a return statement that has one. -/
def returned? : Statement → Option Expr
  | .ret value => value
  | _ => none

/-- The names a statement declares in the block it stands in. -/
def declaredNames : Statement → List String
  | .declare _ declarations => declarations.boundNames
  | _ => []

end Statement

/-- The names declared directly in a block. -/
def Block.declaredNames (b : Block) : List String :=
  b.statements.flatMap Statement.declaredNames

namespace Body

/-- The expression a function renders: the value of the first return, or the body itself. -/
def result? : Body → Option Expr
  | .block b => (b.statements.find? Statement.isReturn).bind Statement.returned?
  | .expr value => some value

/-- The names declared directly in the body. -/
def declaredNames : Body → List String
  | .block b => b.declaredNames
  | .expr _ => []

/-- The statements of a block, none for an expression. -/
def statements : Body → List Statement
  | .block b => b.statements
  | .expr _ => []

end Body

namespace Function

/-- The name of a function that has one. -/
def name? (f : Function) : Option String :=
  match f.form with
  | .keyword _ _ name => name
  | .arrow => none

/-- The names the parameters and the body of a function bind. -/
def boundNames (f : Function) : List String :=
  f.parameters.flatMap (·.target.boundNames) ++ f.body.declaredNames

/-- A function that returns markup somewhere at the top of its body. -/
def isMarkup (f : Function) : Bool :=
  match f.body with
  | .block b => b.statements.any fun s => s.returned?.any Expr.isMarkup
  | .expr value => value.isMarkup

end Function

end ViewTemplate

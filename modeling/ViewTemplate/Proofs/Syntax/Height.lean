import ViewTemplate.Node

/-!
# Heights

How many pieces of syntax that are printed by themselves lie within each other.  What is only a part of such a piece
(an entry of an object, an attribute, a child, a body, a single declaration) adds nothing by itself.
-/

namespace ViewTemplate

mutual

/-- The height of a type. -/
def TypeExpr.height : TypeExpr → Nat
  | .reference _ arguments => heightOfTypes arguments + 1
  | .array element => element.height + 1
  | .union members => heightOfTypes members + 1
  | .literal properties => heightOfSignatures properties + 1
  | .verbatim _ => 1

/-- The greatest height in a list of types. -/
def heightOfTypes : List TypeExpr → Nat
  | [] => 0
  | t :: ts => max t.height (heightOfTypes ts)

/-- The height of an optional type. -/
def heightOfType? : Option TypeExpr → Nat
  | none => 0
  | some t => t.height

/-- The height of a property signature. -/
def PropertySignature.height : PropertySignature → Nat
  | ⟨_, _, type⟩ => heightOfType? type

/-- The greatest height in a list of property signatures. -/
def heightOfSignatures : List PropertySignature → Nat
  | [] => 0
  | s :: ss => max s.height (heightOfSignatures ss)

end

mutual

/-- The height of an expression. -/
def Expr.height : Expr → Nat
  | .ident _ => 1
  | .verbatim _ => 1
  | .string _ => 1
  | .number _ => 1
  | .property object _ _ => object.height + 1
  | .element object argument => max object.height argument.height + 1
  | .call callee arguments => max callee.height (heightOfExprs arguments) + 1
  | .binary left _ right => max left.height right.height + 1
  | .unary _ operand => operand.height + 1
  | .conditional condition whenTrue whenFalse => max condition.height (max whenTrue.height whenFalse.height) + 1
  | .paren inner => inner.height + 1
  | .object entries => heightOfEntries entries + 1
  | .array elements => heightOfExprs elements + 1
  | .pattern p => p.height + 1
  | .type t => t.height + 1
  | .markup m => m.height + 1
  | .function f => f.height + 1

/-- The greatest height in a list of expressions. -/
def heightOfExprs : List Expr → Nat
  | [] => 0
  | e :: es => max e.height (heightOfExprs es)

/-- The height of an optional expression. -/
def heightOfExpr? : Option Expr → Nat
  | none => 0
  | some e => e.height

/-- The greatest height in a list of decorators, which are printed by themselves. -/
def heightOfDecorators : List Expr → Nat
  | [] => 0
  | e :: es => max (e.height + 1) (heightOfDecorators es)

/-- The height of a member of an object literal. -/
def ObjectEntry.height : ObjectEntry → Nat
  | .keyed _ value => value.height
  | .shorthand _ => 0
  | .spread value => value.height

/-- The greatest height in a list of members of an object literal. -/
def heightOfEntries : List ObjectEntry → Nat
  | [] => 0
  | e :: es => max e.height (heightOfEntries es)

/-- The height of a markup tree. -/
def Markup.height : Markup → Nat
  | .element opening children => max opening.height (heightOfChildren children) + 1
  | .selfClosing opening => opening.height + 1
  | .fragment children => heightOfChildren children + 1
  | .container content => heightOfExpr? content + 1

/-- The height of a tag with its attributes. -/
def OpeningTag.height : OpeningTag → Nat
  | ⟨tag, attributes⟩ => max tag.height (heightOfAttributes attributes)

/-- The height of an attribute. -/
def Attribute.height : Attribute → Nat
  | .flag _ => 0
  | .text _ _ => 0
  | .value _ value => value.height
  | .spread value => value.height

/-- The greatest height in a list of attributes. -/
def heightOfAttributes : List Attribute → Nat
  | [] => 0
  | a :: as => max a.height (heightOfAttributes as)

/-- The height of a child. -/
def Child.height : Child → Nat
  | .text _ => 0
  | .markup m => m.height

/-- The greatest height in a list of children. -/
def heightOfChildren : List Child → Nat
  | [] => 0
  | c :: cs => max c.height (heightOfChildren cs)

/-- The height of a pattern. -/
def Pattern.height : Pattern → Nat
  | ⟨_, elements⟩ => heightOfBindings elements + 1

/-- The height of a binding. -/
def Binding.height : Binding → Nat
  | ⟨_, _, target, fallback⟩ => max target.height (heightOfExpr? fallback) + 1

/-- The greatest height in a list of bindings. -/
def heightOfBindings : List Binding → Nat
  | [] => 0
  | b :: bs => max b.height (heightOfBindings bs)

/-- The height of a target. -/
def Target.height : Target → Nat
  | .name _ => 1
  | .pattern p => p.height + 1

/-- The height of a parameter. -/
def Parameter.height : Parameter → Nat
  | ⟨decorators, _, _, target, _, type, fallback⟩ =>
    max (heightOfDecorators decorators) (max target.height (max (heightOfType? type) (heightOfExpr? fallback))) + 1

/-- The greatest height in a list of parameters. -/
def heightOfParameters : List Parameter → Nat
  | [] => 0
  | p :: ps => max p.height (heightOfParameters ps)

/-- The height of a function. -/
def Function.height : Function → Nat
  | ⟨form, _, _, parameters, returnType, body⟩ =>
    max form.height (max (heightOfParameters parameters) (max (heightOfType? returnType) body.height)) + 1

/-- The greatest height among the decorators of a function. -/
def FunctionForm.height : FunctionForm → Nat
  | .keyword decorators _ _ => heightOfDecorators decorators
  | .arrow => 0

/-- The height of a function body. -/
def Body.height : Body → Nat
  | .block b => b.height
  | .expr value => value.height

/-- The height of a block. -/
def Block.height : Block → Nat
  | ⟨statements⟩ => heightOfStatements statements + 1

/-- The height of a statement. -/
def Statement.height : Statement → Nat
  | .ret value => heightOfExpr? value + 1
  | .declare _ declarations => declarations.height + 1
  | .expr value => value.height + 1
  | .block b => b.height + 1

/-- The greatest height in a list of statements. -/
def heightOfStatements : List Statement → Nat
  | [] => 0
  | t :: ts => max t.height (heightOfStatements ts)

/-- The height of a list of declarations with their keyword. -/
def Declarations.height : Declarations → Nat
  | ⟨_, items⟩ => heightOfItems items + 1

/-- The greatest height in a list of declarations. -/
def heightOfItems : List Declaration → Nat
  | [] => 0
  | d :: ds => max d.height (heightOfItems ds)

/-- The height of a declaration. -/
def Declaration.height : Declaration → Nat
  | ⟨target, type, value⟩ => max target.height (max (heightOfType? type) (heightOfExpr? value))

end

/-- The height of a piece of syntax. -/
def Node.height : Node → Nat
  | .expr e => e.height
  | .markup m => m.height
  | .pattern p => p.height
  | .target t => t.height
  | .binding b => b.height
  | .parameter p => p.height
  | .decorator e => e.height + 1
  | .function f => f.height
  | .block b => b.height
  | .statement t => t.height
  | .declarations d => d.height
  | .type t => t.height

theorem Node.height_pos (n : Node) : 0 < n.height := by
  cases n with
  | expr e => cases e <;> exact Nat.succ_pos _
  | markup m => cases m <;> exact Nat.succ_pos _
  | pattern p => cases p; exact Nat.succ_pos _
  | target t => cases t <;> exact Nat.succ_pos _
  | binding b => cases b; exact Nat.succ_pos _
  | parameter p => cases p; exact Nat.succ_pos _
  | decorator e => exact Nat.succ_pos _
  | function f => cases f; exact Nat.succ_pos _
  | block b => cases b; exact Nat.succ_pos _
  | statement t => cases t <;> exact Nat.succ_pos _
  | declarations d => cases d; exact Nat.succ_pos _
  | type t => cases t <;> exact Nat.succ_pos _

theorem Expr.height_stripParens_le : ∀ e : Expr, e.stripParens.height ≤ e.height
  | .paren inner => by
    have hinner := Expr.height_stripParens_le inner
    rw [Expr.stripParens, Expr.height]
    omega
  | .ident _ | .verbatim _ | .string _ | .number _ | .property .. | .element .. | .call .. | .binary .. | .unary ..
  | .conditional .. | .object _ | .array _ | .pattern _ | .type _ | .markup _ | .function _ => Nat.le_refl _

end ViewTemplate

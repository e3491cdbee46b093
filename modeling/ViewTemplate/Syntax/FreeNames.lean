import ViewTemplate.Syntax.Shape

/-!
# Free names

The names a piece of syntax refers to without binding them itself, each once, in the order of their first
occurrence. Functions and blocks take out the names they bind; a tag of the page itself refers to nothing.
-/

namespace ViewTemplate

/-- The names of both lists, those of the first list first, a name of both only there. -/
def unionNames (xs ys : List String) : List String :=
  xs ++ ys.filter (!xs.contains ·)

/-- The names that are not in `bound`. -/
def withoutNames (bound names : List String) : List String :=
  names.filter (!bound.contains ·)

mutual

/-- The free names of an expression. -/
def Expr.freeNames : Expr → List String
  | .ident name => [name]
  | .verbatim _ => []
  | .string _ => []
  | .number _ => []
  | .property object _ _ => object.freeNames
  | .element object argument => unionNames object.freeNames argument.freeNames
  | .call callee arguments => unionNames callee.freeNames (freeNamesOfExprs arguments)
  | .binary left _ right => unionNames left.freeNames right.freeNames
  | .unary _ operand => operand.freeNames
  | .conditional condition whenTrue whenFalse =>
    unionNames (unionNames condition.freeNames whenTrue.freeNames) whenFalse.freeNames
  | .paren inner => inner.freeNames
  | .object entries => freeNamesOfEntries entries
  | .array elements => freeNamesOfExprs elements
  | .pattern p => p.freeNames
  | .type _ => []
  | .markup m => m.freeNames
  | .function f => f.freeNames

/-- The free names of a list of expressions. -/
def freeNamesOfExprs : List Expr → List String
  | [] => []
  | e :: es => unionNames e.freeNames (freeNamesOfExprs es)

/-- The free names of an optional expression. -/
def freeNamesOfExpr? : Option Expr → List String
  | none => []
  | some e => e.freeNames

/-- The free names of a member of an object literal. -/
def ObjectEntry.freeNames : ObjectEntry → List String
  | .keyed _ value => value.freeNames
  | .shorthand name => [name]
  | .spread value => value.freeNames

/-- The free names of a list of members of an object literal. -/
def freeNamesOfEntries : List ObjectEntry → List String
  | [] => []
  | e :: es => unionNames e.freeNames (freeNamesOfEntries es)

/-- The free names of a markup tree. -/
def Markup.freeNames : Markup → List String
  | .element opening children => unionNames opening.freeNames (freeNamesOfChildren children)
  | .selfClosing opening => opening.freeNames
  | .fragment children => freeNamesOfChildren children
  | .container content => freeNamesOfExpr? content

/-- The free names of a tag and its attributes. -/
def OpeningTag.freeNames : OpeningTag → List String
  | ⟨tag, attributes⟩ =>
    unionNames (if OpeningTag.isIntrinsic ⟨tag, attributes⟩ then [] else tag.freeNames)
      (freeNamesOfAttributes attributes)

/-- The free names of an attribute. -/
def Attribute.freeNames : Attribute → List String
  | .flag _ => []
  | .text _ _ => []
  | .value _ value => value.freeNames
  | .spread value => value.freeNames

/-- The free names of a list of attributes. -/
def freeNamesOfAttributes : List Attribute → List String
  | [] => []
  | a :: as => unionNames a.freeNames (freeNamesOfAttributes as)

/-- The free names of a child. -/
def Child.freeNames : Child → List String
  | .text _ => []
  | .markup m => m.freeNames

/-- The free names of a list of children. -/
def freeNamesOfChildren : List Child → List String
  | [] => []
  | c :: cs => unionNames c.freeNames (freeNamesOfChildren cs)

/-- The free names of a pattern: those of its default values. -/
def Pattern.freeNames : Pattern → List String
  | ⟨_, elements⟩ => freeNamesOfBindings elements

/-- The free names of a binding. -/
def Binding.freeNames : Binding → List String
  | ⟨_, _, target, fallback⟩ => unionNames target.freeNames (freeNamesOfExpr? fallback)

/-- The free names of a list of bindings. -/
def freeNamesOfBindings : List Binding → List String
  | [] => []
  | b :: bs => unionNames b.freeNames (freeNamesOfBindings bs)

/-- The free names of a target. -/
def Target.freeNames : Target → List String
  | .name _ => []
  | .pattern p => p.freeNames

/-- The free names of a parameter: those of its default values. -/
def Parameter.freeNames : Parameter → List String
  | ⟨_, _, _, target, _, _, fallback⟩ => unionNames target.freeNames (freeNamesOfExpr? fallback)

/-- The free names of a list of parameters. -/
def freeNamesOfParameters : List Parameter → List String
  | [] => []
  | p :: ps => unionNames p.freeNames (freeNamesOfParameters ps)

/-- The free names of a function. -/
def Function.freeNames : Function → List String
  | ⟨form, modifiers, typeParameters, parameters, returnType, body⟩ =>
    withoutNames (Function.boundNames ⟨form, modifiers, typeParameters, parameters, returnType, body⟩)
      (unionNames (freeNamesOfParameters parameters) body.freeNames)

/-- The free names of a function body. -/
def Body.freeNames : Body → List String
  | .block b => b.freeNames
  | .expr value => value.freeNames

/-- The free names of a block. -/
def Block.freeNames : Block → List String
  | ⟨statements⟩ => withoutNames (Block.declaredNames ⟨statements⟩) (freeNamesOfStatements statements)

/-- The free names of a statement. -/
def Statement.freeNames : Statement → List String
  | .ret value => freeNamesOfExpr? value
  | .declare _ declarations => declarations.freeNames
  | .expr value => value.freeNames
  | .block b => b.freeNames

/-- The free names of a list of statements. -/
def freeNamesOfStatements : List Statement → List String
  | [] => []
  | s :: ss => unionNames s.freeNames (freeNamesOfStatements ss)

/-- The free names of a list of declarations with their keyword. -/
def Declarations.freeNames : Declarations → List String
  | ⟨_, items⟩ => freeNamesOfItems items

/-- The free names of a list of declarations. -/
def freeNamesOfItems : List Declaration → List String
  | [] => []
  | d :: ds => unionNames d.freeNames (freeNamesOfItems ds)

/-- The free names of a declaration. -/
def Declaration.freeNames : Declaration → List String
  | ⟨target, _, value⟩ => unionNames target.freeNames (freeNamesOfExpr? value)

end

end ViewTemplate

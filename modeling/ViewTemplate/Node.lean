import ViewTemplate.Render.Basic
import ViewTemplate.Syntax.FreeNames

/-!
# Pieces of syntax

Everything that can be printed by itself and that refers to names, under one type.
-/

namespace ViewTemplate

/-- A piece of syntax. -/
inductive Node where
  | expr (e : Expr)
  | markup (m : Markup)
  | pattern (p : Pattern)
  | target (t : Target)
  | binding (b : Binding)
  | parameter (p : Parameter)
  | decorator (e : Expr)
  | function (f : Function)
  | block (b : Block)
  | statement (s : Statement)
  | declarations (d : Declarations)
  | type (t : TypeExpr)

namespace Node

/-- The text of a piece of syntax, with the expansion at hand. -/
def renderWith (expand : Expansion) (s : Option Scope) : Node → String
  | .expr e => e.renderWith expand s
  | .markup m => m.renderWith expand s
  | .pattern p => p.renderWith expand s
  | .target t => t.renderWith expand s
  | .binding b => b.renderWith expand s
  | .parameter p => p.renderWith expand s
  | .decorator e => "@" ++ e.renderWith expand s
  | .function f => f.renderWith expand s
  | .block b => b.renderWith expand s
  | .statement t => t.renderWith expand s
  | .declarations d => d.renderWith expand s
  | .type t => t.render

/-- The text of a piece of syntax in the scope `s`. -/
def render (s : Option Scope) (n : Node) : String :=
  n.renderWith (.within s) s

/-- The text of a piece of syntax as it was written. -/
def source (n : Node) : String :=
  n.render none

/-- The free names of a piece of syntax. -/
def freeNames : Node → List String
  | .expr e => e.freeNames
  | .markup m => m.freeNames
  | .pattern p => p.freeNames
  | .target t => t.freeNames
  | .binding b => b.freeNames
  | .parameter p => p.freeNames
  | .decorator e => e.freeNames
  | .function f => f.freeNames
  | .block b => b.freeNames
  | .statement t => t.freeNames
  | .declarations d => d.freeNames
  | .type _ => []

end Node

/-- The parameter as it is declared for callers: its name and its type, `any` when it has none. -/
def Parameter.declarationText (p : Parameter) : String :=
  (Node.target p.target).source ++ (if p.optional then "?" else "") ++ ": " ++
    ((p.type.map TypeExpr.render).getD "any")

end ViewTemplate

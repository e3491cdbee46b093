import ViewTemplate.Component
import ViewTemplate.Syntax.Same
import ViewTemplate.VariableMap

/-!
# Scopes

What the names in a template mean where it is printed: which name is the component instance and what is written for
it, which variables stand for other expressions, and which members the instance has.
-/

namespace ViewTemplate

/-- A component parameter with its rewritten form. The rewriting depends on nothing but the parameter and its
component, so it holds for every function that begins with the same parameter. -/
structure RewrittenParameter where
  source : Parameter
  rewritten : Parameter

/-- The meaning of names. -/
structure Scope where
  /-- the name of the component instance; empty when there is none -/
  context : String
  /-- what is written for the instance instead of its name -/
  newContext : Option String
  vars : VariableMap
  members : List Member
  parameter : Option RewrittenParameter

namespace Scope

/-- The scope in which `context` names the instance and nothing else has a meaning. -/
def ofContext (context : String) : Scope :=
  ⟨context, none, ∅, [], none⟩

instance : Inhabited Scope := ⟨ofContext ""⟩

/-- What is written in front of members. -/
def effectiveContext (s : Scope) : String :=
  s.newContext.getD s.context

/-- Whether `x` names the component instance: a variable of that name hides it. -/
def isContext (s : Scope) (x : String) : Bool :=
  !s.context.isEmpty && s.context == x && !s.vars.contains x

/-- The member that callers reach by `name`. -/
def member? (s : Scope) (name : String) : Option Member :=
  memberNamed? s.members name

/-- What the variable `x` stands for. -/
def value? (s : Scope) (x : String) : Option Expr :=
  s.vars.get? x

/-- The scope without the variables in `names`. -/
def without (s : Scope) (names : List String) : Scope :=
  { s with vars := s.vars.eraseAll names }

/-- The scope with `vars` as its variables. -/
def withVars (s : Scope) (vars : VariableMap) : Scope :=
  { s with vars }

/-- What is written to read `name` from the instance. -/
def memberAccess (s : Scope) (name : String) : String :=
  match s.member? name with
  | some m => m.getter s.effectiveContext
  | none => if s.effectiveContext.isEmpty then name else s.effectiveContext ++ "." ++ name

/-- The rewritten form of `p`, if `p` is the parameter that was rewritten. -/
def rewriteOf? (s : Scope) (p : Parameter) : Option Parameter :=
  s.parameter.bind fun r => if r.source.same p then some r.rewritten else none

end Scope

/-- The rewritten form of the first parameter of `f`. -/
def Function.rewrittenParameter? (f : Function) (s : Scope) : Option Parameter :=
  f.parameters.head?.bind s.rewriteOf?

/-- The parameter that stands for the component instance: the rewritten one, or the first as declared. -/
def Function.componentParameter? (f : Function) (s : Scope) : Option Parameter :=
  f.rewrittenParameter? s <|> f.parameters.head?

end ViewTemplate

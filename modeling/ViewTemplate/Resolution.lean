import ViewTemplate.Destructuring
import ViewTemplate.Scope

/-!
# Resolving templates

The template of a function is what it returns first. It is printed in a scope that knows the component instance, the
locals of the function, the globals and the names taken out of the component parameter; of two meanings for a name
the one given last in this order counts: what the scope held before, globals, locals, the parameter.

Resolving fails only in debug builds, on the assertion that no pattern it reads is nested too deeply. A build without
assertions resolves every function, and the scope of the template is `Function.templateScope` at every depth.
-/

namespace ViewTemplate

namespace Function

/-- What the first parameter is bound to, as it is written in the end. -/
def instanceTarget? (f : Function) (s : Scope) : Option Target :=
  (f.componentParameter? s).map (·.target)

/-- The text that stands for the component instance while names are resolved. A scope may keep its own. -/
def instanceText (f : Function) (s : Scope) (keepContext : Bool) : String :=
  match f.instanceTarget? s with
  | some (.name x) => if keepContext then s.context else x
  | some (.pattern _) => if keepContext && !s.context.isEmpty then s.context else "this"
  | none => s.context

/-- What the names declared at the top of the body stand for. -/
def localReadings (f : Function) : List (String × Expr) :=
  f.body.statements.flatMap Statement.readings

/-- What the names taken out of the component parameter stand for. -/
def parameterReadings (f : Function) (s : Scope) (keepContext : Bool) : List (String × Expr) :=
  match f.instanceTarget? s with
  | some (.pattern p) => p.readings (some (.verbatim (f.instanceText s keepContext)))
  | _ => []

/-- The name of the instance in the template: there is none once its properties are taken apart. -/
def templateContext (f : Function) (s : Scope) (keepContext : Bool) : String :=
  match f.instanceTarget? s with
  | some (.pattern _) => ""
  | _ => f.instanceText s keepContext

/-- The scope of the template of `f`. -/
def templateScope (f : Function) (s : Scope) (keepContext : Bool) (globals : VariableMap) : Scope :=
  { s with
    context := f.templateContext s keepContext
    vars :=
      ((s.vars.merge globals).insertAll f.localReadings).insertAll (f.parameterReadings s keepContext) }

/-- A function whose locals and component parameter pass the assertion on the depth of patterns. -/
def isReadable (f : Function) (s : Scope) : Bool :=
  f.body.statements.all Statement.isReadable &&
    match f.instanceTarget? s with
    | some (.pattern p) => p.readDepth true ≤ maxPatternDepth
    | _ => true

/-- The template of `f` and the scope to print it in. A function that returns nothing leaves the scope alone. The
failure is the assertion of debug builds; without assertions the function is resolved as if it were readable. -/
def resolve (f : Function) (s : Option Scope) (keepContext : Bool) (globals : VariableMap) :
    Except PatternError (Option Markup × Option Scope) :=
  match f.body.result? with
  | none => .ok (none, s)
  | some e =>
    match s with
    | none => .ok (some (.ofExpr e), none)
    | some s =>
      if f.isReadable s then .ok (some (.ofExpr e), some (f.templateScope s keepContext globals))
      else .error .tooDeep

end Function

end ViewTemplate

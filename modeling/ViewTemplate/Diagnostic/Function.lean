import ViewTemplate.Component
import ViewTemplate.Diagnostic.Basic

/-!
# Diagnostics of functions

What is rendered otherwise than one may expect: returns that are not reached, globals that are hidden, names that are
bound twice, and properties that the component does not have.
-/

namespace ViewTemplate

namespace Function

/-- What a function is called in findings. -/
def calledName (f : Function) : String :=
  f.name?.getD "<anonymous>"

/-- The return statements at the top of the body. -/
def returns (f : Function) : List Statement :=
  f.body.statements.filter Statement.isReturn

/-- Findings about the returns of a function with a block as its body. -/
def diagnoseReturns (f : Function) (checks : Checks) : List Diagnostic :=
  (if checks.missingTemplate && f.body.result?.isNone then [.missingTemplate f.calledName] else []) ++
    f.returns.tail.map fun _ => .ignoredReturn f.calledName

/-- Findings about the names declared at the top of the body. -/
def diagnoseGlobals (f : Function) (checks : Checks) : List Diagnostic :=
  (f.body.declaredNames.filter checks.globals.contains).map .shadowedGlobal

end Function

/-- Findings about one pattern of a parameter. -/
def Pattern.diagnose (p : Pattern) (checks : Checks) : List Diagnostic :=
  (if checks.maxDepth < p.depth then [.patternTooDeep p.depth checks.maxDepth] else []) ++
    (repeatedNames [] p.boundNames).map .duplicateBinding

/-- Findings about the properties that `p` takes out of the component `c`. -/
def Pattern.diagnoseProps (p : Pattern) (c : Component) : List Diagnostic :=
  (((p.elements.filter (!·.rest)).filterMap Binding.source?).filter fun key => (c.member? key).isNone).map
    (.unknownProp · c.name)

/-- The pattern that takes the properties apart, if the first parameter of `f` has one. -/
def Function.propsPattern? (f : Function) : Option Pattern :=
  f.parameters.head?.bind fun p => p.target.pattern?.bind Pattern.props?

/-- What is found about a function whose first parameter is typed as the component `c`. -/
def Function.diagnose (f : Function) (c : Option Component) (checks : Checks) : List Diagnostic :=
  f.diagnoseReturns checks ++ f.diagnoseGlobals checks ++
    (f.parameters.filterMap (·.target.pattern?)).flatMap (·.diagnose checks) ++
    (match c, f.propsPattern? with
    | some c, some props => if checks.unknownProps then props.diagnoseProps c else []
    | _, _ => [])

end ViewTemplate

import ViewTemplate.Component
import ViewTemplate.Syntax.Shape
import ViewTemplate.VariableMap

/-!
# Registries

What is known while the functions of one file are rendered: its components by name, and the variables that all
templates share.
-/

namespace ViewTemplate

/-- Components, each name once, and global variables. -/
structure Registry where
  components : List Component
  globals : VariableMap

namespace Registry

instance : EmptyCollection Registry := ⟨⟨[], ∅⟩⟩

/-- The components with `c` in the place of the one of its name, or at the end. -/
def insertComponent (c : Component) : List Component → List Component
  | [] => [c]
  | d :: rest => if d.name = c.name then c :: rest else d :: insertComponent c rest

/-- The registry with the component `c`. -/
def register (r : Registry) (c : Component) : Registry :=
  { r with components := insertComponent c r.components }

/-- The registry with the global variable `x`. -/
def registerGlobal (r : Registry) (x : String) (e : Expr) : Registry :=
  { r with globals := r.globals.insert x e }

/-- The component of that name. -/
def component? (r : Registry) (name : String) : Option Component :=
  r.components.find? fun c => c.name = name

/-- What the global variable `x` stands for. -/
def global? (r : Registry) (x : String) : Option Expr :=
  r.globals.get? x

end Registry

namespace Component

/-- The place of the function that renders the component: the one it names, or else the one called `view`. -/
def viewIndex? (c : Component) (functions : List Function) : Option Nat :=
  functions.findIdx? fun f => f.name? = some (c.view.getD "view")

/-- The place of the function that computes the view model: the one the component names, or else `viewModel`. -/
def viewModelIndex? (c : Component) (functions : List Function) : Option Nat :=
  functions.findIdx? fun f => f.name? = some (c.viewModel.getD "viewModel")

end Component

end ViewTemplate

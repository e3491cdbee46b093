import ViewTemplate.Syntax.Basic

/-!
# Components

A component declares members under the names its callers use. A member knows the path that leads to it from an
instance of the component.
-/

namespace ViewTemplate

/-- What a member of a component is. -/
inductive MemberKind where
  /-- a property bound one way -/
  | oneWay
  /-- a property bound both ways -/
  | twoWay
  /-- content that callers supply for a fixed place -/
  | slot
  /-- rendering that callers can replace -/
  | template
  /-- a callback -/
  | event
  /-- a method of the view model -/
  | method
  /-- state of the view model -/
  | internal
  deriving DecidableEq

/-- Where members of that kind live: among the properties, or on the instance itself. -/
def MemberKind.path : MemberKind → String
  | .oneWay | .twoWay | .slot | .template | .event => "props."
  | .method | .internal => ""

/-- A member of a component. -/
structure Member where
  /-- the name within the component -/
  name : String
  /-- the name callers use -/
  externalName : String
  /-- what stands between an instance and the name; `none` for a local binding -/
  path : Option String
  kind : MemberKind
  type : Option TypeExpr
  fallback : Option Expr
  decorators : List Expr

namespace Member

/-- A member of that kind under one name for all. -/
def ofKind (kind : MemberKind) (name : String) : Member :=
  ⟨name, name, some kind.path, kind, none, none, []⟩

/-- The member under another name for callers. -/
def withExternalName (m : Member) (name : String) : Member :=
  { m with externalName := name }

/-- The member as a local binding, reached by its own name. -/
def asLocal (m : Member) : Member :=
  { m with path := none }

/-- Content for a fixed place. -/
def isSlot (m : Member) : Bool :=
  m.kind = .slot

/-- Replaceable rendering. -/
def isTemplate (m : Member) : Bool :=
  m.kind = .template

/-- A member that callers cannot set. -/
def isInternal (m : Member) : Bool :=
  m.kind = .internal || m.kind = .method

/-- A member that callers reach by its own name. -/
def hasDefaultName (m : Member) : Bool :=
  m.externalName = m.name

/-- How the member is read from the instance `context`; nothing is written for an empty context. -/
def getter (m : Member) (context : String) : String :=
  match m.path with
  | none => m.externalName
  | some path => if context.isEmpty then path ++ m.name else context ++ "." ++ path ++ m.name

end Member

/-- The first of `members` that callers reach by `name`. -/
def memberNamed? (members : List Member) (name : String) : Option Member :=
  members.find? fun m => m.externalName = name

/-- The members whose bindings are rewritten: all templates, and the slots with a name of their own for callers. -/
def rebindable (members : List Member) : List Member :=
  members.filter fun m => m.isTemplate || (m.isSlot && !m.hasDefaultName)

/-- A component. -/
structure Component where
  name : String
  members : List Member
  /-- the name of the function that renders it -/
  view : Option String
  /-- the name of the function that computes its view model -/
  viewModel : Option String
  decorators : List Expr

namespace Component

/-- A component without members. -/
def ofName (name : String) : Component :=
  ⟨name, [], none, none, []⟩

/-- The component with one more member at the end. -/
def withMember (c : Component) (m : Member) : Component :=
  { c with members := c.members ++ [m] }

/-- The first member that callers reach by `name`. -/
def member? (c : Component) (name : String) : Option Member :=
  memberNamed? c.members name

/-- The slots of the component. -/
def slots (c : Component) : List Member :=
  c.members.filter Member.isSlot

/-- The templates of the component. -/
def templates (c : Component) : List Member :=
  c.members.filter Member.isTemplate

end Component

end ViewTemplate

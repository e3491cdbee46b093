import ViewTemplate.Component
import ViewTemplate.Diagnostic.Basic

/-!
# Diagnostics of components

A component's name has to work as a tag, and no two members can be reached by one name.
-/

namespace ViewTemplate

/-- The names with a meaning of their own in component declarations. -/
def reservedNames : List String :=
  ["Component", "Fragment", "Slot", "Template", "Event", "OneWay", "TwoWay"]

/-- What is wrong with a component's name. -/
def diagnoseName (name : String) : Option Diagnostic :=
  match name.toList.head? with
  | none => some .unnamedComponent
  | some c =>
    if !Text.isCapital c then some (.uncapitalizedName name)
    else if reservedNames.contains name then some (.reservedName name)
    else none

namespace Component

/-- A finding for every member under a name that an earlier member has. -/
def diagnoseMembers (c : Component) : List Diagnostic :=
  (repeatedNames [] (c.members.map (·.externalName))).map (.duplicateMember c.name)

/-- What is found about a component. -/
def diagnose (c : Component) : List Diagnostic :=
  (diagnoseName c.name).toList ++ c.diagnoseMembers

end Component

end ViewTemplate

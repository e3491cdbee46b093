import ViewTemplate.Destructuring
import ViewTemplate.Text.Layout

/-!
# Diagnostics

What is reported about components and functions. Each finding has one wording, one code and one severity.
-/

namespace ViewTemplate

/-- How serious a finding is. -/
inductive Severity where
  | error
  | warning
  | hint
  deriving DecidableEq

/-- The word for a severity. -/
def Severity.name : Severity → String
  | .error => "error"
  | .warning => "warning"
  | .hint => "hint"

/-- What is found. -/
inductive Diagnostic where
  /-- a component without a name -/
  | unnamedComponent
  /-- a component whose name does not begin with a capital -/
  | uncapitalizedName (name : String)
  /-- a component named like a part of the component language -/
  | reservedName (name : String)
  /-- a member under a name that an earlier member has -/
  | duplicateMember (component name : String)
  /-- a function that returns nothing to render -/
  | missingTemplate (function : String)
  /-- a return after the first one -/
  | ignoredReturn (function : String)
  /-- a local declaration of the name of a global -/
  | shadowedGlobal (name : String)
  /-- a pattern that is nested too deeply -/
  | patternTooDeep (depth limit : Nat)
  /-- a name that one pattern binds again -/
  | duplicateBinding (name : String)
  /-- a property taken out of a component that has no such member -/
  | unknownProp (name component : String)
  deriving DecidableEq

namespace Diagnostic

/-- How serious the finding is. -/
def severity : Diagnostic → Severity
  | .unnamedComponent | .uncapitalizedName _ | .ignoredReturn _ => .warning
  | .reservedName _ | .duplicateMember _ _ | .patternTooDeep _ _ | .duplicateBinding _ => .error
  | .missingTemplate _ | .shadowedGlobal _ | .unknownProp _ _ => .hint

/-- The code of the finding. -/
def code : Diagnostic → String
  | .unnamedComponent | .uncapitalizedName _ | .reservedName _ => "invalid-component-name"
  | .duplicateMember _ _ => "duplicate-member"
  | .missingTemplate _ => "missing-template"
  | .ignoredReturn _ => "ignored-return"
  | .shadowedGlobal _ => "shadowed-global"
  | .patternTooDeep _ _ => "pattern-too-deep"
  | .duplicateBinding _ => "duplicate-binding"
  | .unknownProp _ _ => "unknown-prop"

/-- The name the finding is about, if it is about one. -/
def subject? : Diagnostic → Option String
  | .unnamedComponent | .patternTooDeep _ _ => none
  | .uncapitalizedName name | .reservedName name | .duplicateMember _ name | .missingTemplate name
  | .ignoredReturn name | .shadowedGlobal name | .duplicateBinding name | .unknownProp name _ => some name

/-- The finding in words. -/
def message : Diagnostic → String
  | .unnamedComponent => "Component name should not be empty"
  | .uncapitalizedName name => "Component name '" ++ name ++ "' should be in PascalCase"
  | .reservedName name => "'" ++ name ++ "' is a reserved name and cannot be used as a component name"
  | .duplicateMember component name => "Component '" ++ component ++ "' declares '" ++ name ++ "' more than once"
  | .missingTemplate function => "Function '" ++ function ++ "' does not return a template"
  | .ignoredReturn function => "Only the first return of '" ++ function ++ "' is rendered"
  | .shadowedGlobal name => "Local '" ++ name ++ "' hides a global of the same name"
  | .patternTooDeep depth limit =>
    "Binding pattern is nested " ++ toString depth ++ " levels deep; at most " ++ toString limit ++ " are supported"
  | .duplicateBinding name => "'" ++ name ++ "' is bound more than once"
  | .unknownProp name component => "'" ++ name ++ "' is not a member of component '" ++ component ++ "'"

/-- The finding as one line. -/
def display (d : Diagnostic) : String :=
  d.severity.name ++ Text.bracketed d.code ++ ": " ++ d.message

/-- The most serious severity among the findings. -/
def worst? (found : List Diagnostic) : Option Severity :=
  [Severity.error, .warning, .hint].find? fun severity => found.any (·.severity = severity)

end Diagnostic

/-- What is checked. -/
structure Checks where
  /-- whether properties that no member has are reported -/
  unknownProps : Bool
  /-- whether functions without a template are reported -/
  missingTemplate : Bool
  /-- the greatest depth of a pattern that is not reported -/
  maxDepth : Nat
  /-- the names of the globals -/
  globals : List String

instance : Inhabited Checks := ⟨⟨true, true, maxPatternDepth, []⟩⟩

/-- The names that stand in the list a second, third, … time, as often as they do. -/
def repeatedNames (seen : List String) : List String → List String
  | [] => []
  | x :: xs => if seen.contains x then x :: repeatedNames seen xs else repeatedNames (x :: seen) xs

end ViewTemplate

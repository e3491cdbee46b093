import ViewTemplate.Syntax.TypeExpr
import ViewTemplate.Text.Layout

/-!
# Printing types

Types are printed as they were written.
-/

namespace ViewTemplate

mutual

/-- The text of a type. -/
def TypeExpr.render : TypeExpr → String
  | .reference name arguments =>
    if arguments.isEmpty then name else name ++ "<" ++ Text.commaList (renderTypes arguments) ++ ">"
  | .array element => (if element.isUnion then Text.parenthesized element.render else element.render) ++ "[]"
  | .union members => " | ".intercalate (renderTypes members)
  | .literal properties => Text.bracedList "; " (renderSignatures properties)
  | .verbatim text => text

/-- The texts of a list of types. -/
def renderTypes : List TypeExpr → List String
  | [] => []
  | t :: ts => t.render :: renderTypes ts

/-- The annotation for an optional type, with its colon. -/
def renderAnnotation : Option TypeExpr → String
  | none => ""
  | some t => ": " ++ t.render

/-- The text of a property signature. -/
def PropertySignature.render : PropertySignature → String
  | ⟨name, optional, type⟩ => name ++ (if optional then "?" else "") ++ renderAnnotation type

/-- The texts of a list of property signatures. -/
def renderSignatures : List PropertySignature → List String
  | [] => []
  | s :: ss => s.render :: renderSignatures ss

end

end ViewTemplate

import ViewTemplate.Text.Letter

/-!
# Type annotations

Types as they are written: they are printed back, and they name the component a parameter is typed as, but no name
in them is ever replaced.
-/

namespace ViewTemplate

mutual

/-- A type as written. -/
inductive TypeExpr where
  /-- a name, as in `Name` or `Name<A, B>` -/
  | reference (name : String) (arguments : List TypeExpr)
  /-- an array type, `T[]` -/
  | array (element : TypeExpr)
  /-- a choice of types, `A | B` -/
  | union (members : List TypeExpr)
  /-- a type literal, with its properties between braces -/
  | literal (properties : List PropertySignature)
  /-- any other type, kept as text -/
  | verbatim (text : String)

/-- A property of a type literal: `name?: T`. -/
structure PropertySignature where
  name : String
  optional : Bool
  type : Option TypeExpr

end

namespace TypeExpr

/-- The reference to a type without arguments. -/
def ofName (name : String) : TypeExpr :=
  .reference name []

/-- A union has to be parenthesized before `[]`. -/
def isUnion : TypeExpr → Bool
  | .union _ => true
  | _ => false

/-- The name a component is looked up by, for an annotation that names a type. -/
def name? : TypeExpr → Option String
  | .reference name _ => some name
  | .verbatim text => some (Text.trimmed text)
  | _ => none

end TypeExpr

end ViewTemplate

import ViewTemplate.Text.Letter

/-!
# Names

When a text is a name that may follow a dot, and when it is a tag that stands for a component.
-/

namespace ViewTemplate.Text

/-- A character a name may begin with. -/
def isNameStart (c : Char) : Bool :=
  isLetter c || c == '_' || c == '$'

/-- A character a name may go on with. -/
def isNamePart (c : Char) : Bool :=
  isLetter c || isNumber c || c == '_' || c == '$'

/-- The characters of a name: at least one, the first of them no number. -/
def isNameChars : List Char → Bool
  | [] => false
  | c :: cs => isNameStart c && cs.all isNamePart

/-- A text that can be written after a dot to read a property. -/
def isName (s : String) : Bool :=
  isNameChars s.toList

/-- A text that begins with an ASCII lowercase letter. -/
def startsLower (s : String) : Bool :=
  s.toList.head?.any Char.isLower

/-- The pieces between the dots. -/
def dotPieces : List Char → List (List Char)
  | [] => [[]]
  | c :: cs =>
    if c = '.' then [] :: dotPieces cs
    else
      match dotPieces cs with
      | [] => [[c]]
      | piece :: pieces => (c :: piece) :: pieces

/-- A tag that markup reads as a component: a chain of names, or one name that does not begin in lowercase. -/
def isComponentTag (s : String) : Bool :=
  (dotPieces s.toList).all isNameChars && (s.toList.contains '.' || !startsLower s)

end ViewTemplate.Text

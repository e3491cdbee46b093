import ViewTemplate.Scope
import ViewTemplate.Syntax.Shape
import ViewTemplate.Text.Layout

/-!
# Names where a template is printed

How an identifier and a tag are written in a scope. A variable is replaced by the expression it stands for, which is
printed in the scope without that variable, so every replacement leaves fewer variables and even variables that
stand for each other come to an end. A tag has to remain a name: if its variable stands for a conditional, there is
one tag for each branch, and any other value is given a name first.
-/

namespace ViewTemplate

/-- A tag after its variable was replaced. -/
inductive ResolvedTag where
  /-- a text that can be a tag itself -/
  | name (text : String)
  /-- a choice between two tags -/
  | choice (condition : String) (whenTrue whenFalse : ResolvedTag)
  /-- a value that has to be bound to a name before it can be a tag -/
  | hoisted (name value : String)

/-- How the value of a variable is written, once the variable itself is out of scope. -/
structure Expansion where
  text : Scope → Expr → String
  tag : Scope → Expr → ResolvedTag

/-- The scope inside something that binds `names`. -/
def Scope.hiding (s : Option Scope) (names : List String) : Option Scope :=
  s.map (·.without names)

/-- What the variable `tag` stands for, with the scope its value is printed in. -/
def Expr.replacement? (s : Option Scope) (tag : Expr) : Option (Expr × Scope) :=
  s.bind fun s => tag.ident?.bind fun x => (s.value? x).map fun v => (v, s.without [x])

/-- The text of `e` where it has to be a primary expression. -/
def Expr.operandText (e : Expr) (text : String) : String :=
  if e.isPrimary then text else Text.parenthesized text

/-- What is written for a name that no variable replaces. -/
def Scope.contextText (s : Scope) (x : String) : String :=
  if s.isContext x then
    match s.newContext with
    | some context => if context.isEmpty then x else context
    | none => x
  else x

/-- The text of the identifier `x`. -/
def Expansion.identText (expand : Expansion) (s : Option Scope) (x : String) : String :=
  match s with
  | none => x
  | some s =>
    match s.value? x with
    | some v => if v.ident? = some x then x else v.operandText (expand.text (s.without [x]) v)
    | none => s.contextText x

/-- The text of the shorthand `x` in an object literal; the key stays as it is. -/
def Expansion.shorthandText (expand : Expansion) (s : Option Scope) (x : String) : String :=
  let text := expand.identText s x
  if text = x then text else x ++ ": " ++ text

/-- The scope in which `object` names the component instance, if it does. -/
def Expr.instance? (s : Option Scope) (object : Expr) : Option Scope :=
  s.filter fun s => object.ident?.any s.isContext

/-- The text of the property `name` of `object`, which is written `text`. -/
def Expr.propertyText (s : Option Scope) (object : Expr) (text name : String) (optional : Bool) : String :=
  match object.instance? s with
  | some s => s.memberAccess name
  | none => object.operandText text ++ (if optional then "?." else ".") ++ name

/-- The text of a prefix operator before its operand: an operator that is a word is set apart. -/
def unaryText (operator operand : String) : String :=
  if operator.toList.getLast?.any Char.isAlpha then operator ++ " " ++ operand else operator ++ operand

/-- The text of a function body that is the expression `e`: braces would begin a block. -/
def Expr.bodyText (e : Expr) (text : String) : String :=
  if e.isObject then Text.parenthesized text else text

namespace ResolvedTag

/-- The tag `tag`, whose text is `text`. -/
def ofText (expand : Expansion) (s : Option Scope) (tag : Expr) (text : String) : ResolvedTag :=
  if Text.isComponentTag text then .name text
  else
    match tag.replacement? s with
    | none => .hoisted (tag.ident?.getD "Tag") text
    | some (v, inner) =>
      match v.stripParens with
      | .conditional condition whenTrue whenFalse =>
        .choice (expand.text inner condition) (expand.tag inner whenTrue) (expand.tag inner whenFalse)
      | e => .hoisted (tag.ident?.getD "Tag") (expand.text inner e)

/-- The element with that name: with its children between two tags, or as one tag when it has no place for any. -/
def elementText (tag attributes : String) (children : Option String) : String :=
  match children with
  | some children => "<" ++ tag ++ attributes ++ ">" ++ children ++ "</" ++ tag ++ ">"
  | none => "<" ++ tag ++ attributes ++ " />"

/-- The element with that tag, as an expression. -/
def markup (attributes : String) (children : Option String) : ResolvedTag → String
  | .name text => elementText text attributes children
  | .choice condition whenTrue whenFalse =>
    condition ++ " ? " ++ whenTrue.markup attributes children ++ " : " ++ whenFalse.markup attributes children
  | .hoisted x value =>
    "(() => " ++ Text.braced (" const " ++ x ++ " = " ++ value ++ "; return "
      ++ elementText x attributes children ++ "; ") ++ ")()"

/-- The element with that tag: an expression that is not itself an element stands between braces. -/
def render (attributes : String) (children : Option String) (tag : ResolvedTag) : String :=
  match tag with
  | .name text => elementText text attributes children
  | _ => Text.braced (tag.markup attributes children)

end ResolvedTag

end ViewTemplate

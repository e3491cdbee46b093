import ViewTemplate.Syntax.TypeExpr

/-!
# The syntax of render functions

Expressions, markup, destructuring patterns, functions and statements. They contain each other, so they are declared
together: an arrow function is an expression, its parameter may be a pattern, a pattern may hold a default value.
-/

namespace ViewTemplate

/-- Whether a pattern reads properties or positions. -/
inductive PatternKind where
  | object
  | array
  deriving DecidableEq

/-- The keyword of a declaration; `lexical` is written `let`. -/
inductive VariableKind where
  | const
  | lexical
  | var
  deriving DecidableEq

/-- The keyword as it is written. -/
def VariableKind.keyword : VariableKind → String
  | .const => "const"
  | .lexical => "let"
  | .var => "var"

mutual

/-- An expression. -/
inductive Expr where
  | ident (name : String)
  /-- text that is printed as it is, whatever is in scope -/
  | verbatim (text : String)
  | string (value : String)
  /-- a numeral, as written -/
  | number (text : String)
  /-- reading a property: `object.name`, or `object?.name` when optional -/
  | property (object : Expr) (name : String) (optional : Bool)
  /-- reading under a computed key: `object[argument]` -/
  | element (object argument : Expr)
  | call (callee : Expr) (arguments : List Expr)
  | binary (left : Expr) (operator : String) (right : Expr)
  /-- a prefix operator such as `!`, `-` or `typeof` before its operand -/
  | unary (operator : String) (operand : Expr)
  | conditional (condition whenTrue whenFalse : Expr)
  | paren (inner : Expr)
  | object (entries : List ObjectEntry)
  | array (elements : List Expr)
  | pattern (pattern : Pattern)
  | type (type : TypeExpr)
  | markup (markup : Markup)
  | function (function : Function)

/-- A member of an object literal. -/
inductive ObjectEntry where
  /-- a key with its value, `key: value` -/
  | keyed (key : String) (value : Expr)
  /-- a name that is key and value, `name` -/
  | shorthand (name : String)
  /-- all members of an object, `...value` -/
  | spread (value : Expr)

/-- A markup tree. -/
inductive Markup where
  | element (opening : OpeningTag) (children : List Child)
  | selfClosing (opening : OpeningTag)
  | fragment (children : List Child)
  /-- an expression between braces, or nothing between them -/
  | container (content : Option Expr)

/-- A tag with its attributes. -/
structure OpeningTag where
  tag : Expr
  attributes : List Attribute

/-- An attribute of a tag. -/
inductive Attribute where
  /-- a name alone, `name` -/
  | flag (name : String)
  /-- a name with a text, `name="text"` -/
  | text (name text : String)
  /-- a name with an expression between braces -/
  | value (name : String) (value : Expr)
  /-- all members of an object, `...value` between braces -/
  | spread (value : Expr)

/-- A child of an element or a fragment. -/
inductive Child where
  | text (text : String)
  | markup (markup : Markup)

/-- A destructuring pattern. -/
structure Pattern where
  kind : PatternKind
  elements : List Binding

/-- One element of a pattern: `key: target = fallback`, or `...target` for the rest. -/
structure Binding where
  rest : Bool
  key : Option String
  target : Target
  fallback : Option Expr

/-- What a value is bound to: a name, or a pattern that takes it apart. -/
inductive Target where
  | name (name : String)
  | pattern (pattern : Pattern)

/-- A parameter of a function. The decorators are the expressions after `@`. -/
structure Parameter where
  decorators : List Expr
  modifiers : List String
  rest : Bool
  target : Target
  optional : Bool
  type : Option TypeExpr
  fallback : Option Expr

/-- A function. -/
structure Function where
  form : FunctionForm
  modifiers : List String
  typeParameters : List String
  parameters : List Parameter
  returnType : Option TypeExpr
  body : Body

/-- How a function is introduced: by the keyword, with what stands around it, or as an arrow. -/
inductive FunctionForm where
  | keyword (decorators : List Expr) (generator : Bool) (name : Option String)
  | arrow

/-- The body of a function. -/
inductive Body where
  | block (block : Block)
  | expr (value : Expr)

/-- Statements between braces. -/
structure Block where
  statements : List Statement

/-- A statement. -/
inductive Statement where
  | ret (value : Option Expr)
  | declare (modifiers : List String) (declarations : Declarations)
  | expr (value : Expr)
  | block (block : Block)

/-- Declarations after one keyword: `const a = 1, b = 2` -/
structure Declarations where
  kind : VariableKind
  items : List Declaration

/-- One declaration: `target: type = value` -/
structure Declaration where
  target : Target
  type : Option TypeExpr
  value : Option Expr

end

instance : Inhabited Pattern := ⟨⟨.object, []⟩⟩
instance : Inhabited Block := ⟨⟨[]⟩⟩
instance : Inhabited Declarations := ⟨⟨.const, []⟩⟩

namespace Binding

/-- The binding `name`. -/
def ofName (name : String) : Binding :=
  ⟨false, none, .name name, none⟩

/-- The binding `key: name`. -/
def aliased (key name : String) : Binding :=
  ⟨false, some key, .name name, none⟩

/-- The binding of `key:` to a pattern that takes the value apart. -/
def nested (key : String) (pattern : Pattern) : Binding :=
  ⟨false, some key, .pattern pattern, none⟩

/-- The binding `...name`. -/
def restOf (name : String) : Binding :=
  ⟨true, none, .name name, none⟩

/-- The binding with `value` as its default. -/
def withFallback (b : Binding) (value : Expr) : Binding :=
  { b with fallback := some value }

end Binding

namespace OpeningTag

/-- The tag of that name, without attributes. -/
def ofName (name : String) : OpeningTag :=
  ⟨.ident name, []⟩

/-- The tag with one more attribute at the end. -/
def withAttribute (t : OpeningTag) (a : Attribute) : OpeningTag :=
  { t with attributes := t.attributes ++ [a] }

end OpeningTag

/-- The expression between braces, as a child. -/
def Child.ofExpr (e : Expr) : Child :=
  .markup (.container (some e))

/-- A parameter that is only a target. -/
def Parameter.ofTarget (target : Target) : Parameter :=
  ⟨[], [], false, target, false, none, none⟩

/-- The parameter with a type annotation. -/
def Parameter.withType (p : Parameter) (type : TypeExpr) : Parameter :=
  { p with type := some type }

/-- The statement `const target = value`. -/
def Statement.constant (target : Target) (value : Expr) : Statement :=
  .declare [] ⟨.const, [⟨target, none, some value⟩]⟩

/-- The function `function name(parameters)` with a block as its body. -/
def Function.named (name : String) (parameters : List Parameter) (body : Block) : Function :=
  ⟨.keyword [] false (some name), [], [], parameters, none, .block body⟩

/-- The function `(parameters) => body`. -/
def Function.arrow (parameters : List Parameter) (body : Body) : Function :=
  ⟨.arrow, [], [], parameters, none, body⟩

end ViewTemplate

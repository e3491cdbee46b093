import ViewTemplate.Json.Basic
import ViewTemplate.Scope
import ViewTemplate.Settings.Basic

/-!
# Reading syntax from JSON

Each kind of syntax is read by a decoder that is given the decoders for the syntax within it. A value is read by as
many layers of decoders as it is deep, which is always enough: no decoder reads a value with a decoder of its own
layer.
-/

namespace ViewTemplate

open Json

/-- Reads a kind of pattern. -/
def PatternKind.ofJson? : Decoder PatternKind
  | .string "Object" => some .object
  | .string "Array" => some .array
  | _ => none

/-- Reads a declaring keyword. -/
def VariableKind.ofJson? : Decoder VariableKind
  | .string "Const" => some .const
  | .string "Let" => some .lexical
  | .string "Var" => some .var
  | _ => none

/-- A decoder for each kind of syntax. -/
structure Decoders where
  type : Decoder TypeExpr
  expr : Decoder Expr
  markup : Decoder Markup
  pattern : Decoder Pattern
  function : Decoder Function
  block : Decoder Block

namespace Decoders

variable (within : Decoders)

/-- Reads a property signature. -/
def signature : Decoder PropertySignature := fun j => do
  let name ← field? "name" string? j
  let optional ← field? "optional" bool? j
  let type ← optField? "type_annotation" within.type j
  some ⟨name, optional, type⟩

/-- Reads a type, given the decoders for what is in it. -/
def typeOf : Decoder TypeExpr := fun j => do
  let (tag, payload) ← j.tagged?
  match tag with
  | "Reference" => do
    let name ← field? "name" string? payload
    let arguments ← field? "type_arguments" (list? within.type) payload
    some (.reference name arguments)
  | "Array" => (within.type payload).map .array
  | "Union" => (list? within.type payload).map .union
  | "Literal" => (list? within.signature payload).map .literal
  | "Simple" => (string? payload).map .verbatim
  | _ => none

/-- Reads a member of an object literal. -/
def entry : Decoder ObjectEntry := fun j => do
  let (tag, payload) ← j.tagged?
  match tag with
  | "KeyValue" => do
    let key ← field? "key" string? payload
    let value ← field? "value" within.expr payload
    some (.keyed key value)
  | "Shorthand" => (string? payload).map .shorthand
  | "Spread" => (within.expr payload).map .spread
  | _ => none

/-- Reads a property access. -/
def property : Decoder Expr := fun j => do
  let object ← field? "expression" within.expr j
  let name ← field? "name" string? j
  let optional ← field? "question_dot" bool? j
  some (.property object name optional)

/-- Reads an element access. -/
def element : Decoder Expr := fun j => do
  let object ← field? "expression" within.expr j
  let argument ← field? "argument" within.expr j
  some (.element object argument)

/-- Reads a call. -/
def call : Decoder Expr := fun j => do
  let callee ← field? "callee" within.expr j
  let arguments ← field? "arguments" (list? within.expr) j
  some (.call callee arguments)

/-- Reads a binary expression. -/
def binary : Decoder Expr := fun j => do
  let left ← field? "left" within.expr j
  let operator ← field? "operator" string? j
  let right ← field? "right" within.expr j
  some (.binary left operator right)

/-- Reads a prefix operator with its operand. -/
def unary : Decoder Expr := fun j => do
  let operator ← field? "operator" string? j
  let operand ← field? "operand" within.expr j
  some (.unary operator operand)

/-- Reads a conditional. -/
def conditional : Decoder Expr := fun j => do
  let condition ← field? "condition" within.expr j
  let whenTrue ← field? "when_true" within.expr j
  let whenFalse ← field? "when_false" within.expr j
  some (.conditional condition whenTrue whenFalse)

/-- Reads an expression, given the decoders for what is in it. -/
def exprOf : Decoder Expr := fun j => do
  let (tag, payload) ← j.tagged?
  match tag with
  | "Identifier" => (string? payload).map .ident
  | "Simple" => (string? payload).map .verbatim
  | "StringLiteral" => (string? payload).map .string
  | "NumericLiteral" => (string? payload).map .number
  | "PropertyAccess" => within.property payload
  | "ElementAccess" => within.element payload
  | "Call" => within.call payload
  | "Binary" => within.binary payload
  | "Prefix" => within.unary payload
  | "Conditional" => within.conditional payload
  | "Paren" => (within.expr payload).map .paren
  | "ObjectLiteral" => (list? within.entry payload).map .object
  | "ArrayLiteral" => (list? within.expr payload).map .array
  | "Pattern" => (within.pattern payload).map .pattern
  | "Type" => (within.type payload).map .type
  | "Jsx" => (within.markup payload).map .markup
  | "Function" => (within.function payload).map .function
  | _ => none

/-- Reads the value of an attribute that is called `name`. -/
def attributeValue (name : String) : Decoder Attribute := fun j => do
  let (tag, payload) ← j.tagged?
  match tag with
  | "String" => (string? payload).map (.text name)
  | "Expression" => (within.expr payload).map (.value name)
  | _ => none

/-- Reads an attribute. -/
def namedOrSpread : Decoder Attribute := fun j => do
  let (tag, payload) ← j.tagged?
  match tag with
  | "Attribute" => do
    let name ← field? "name" string? payload
    let value ← optField? "value" (within.attributeValue name) payload
    some (value.getD (.flag name))
  | "Spread" => (within.expr payload).map .spread
  | _ => none

/-- Reads a tag with its attributes. -/
def opening : Decoder OpeningTag := fun j => do
  let tag ← field? "tag" within.expr j
  let attributes ← field? "attributes" (list? within.namedOrSpread) j
  some ⟨tag, attributes⟩

/-- Reads a child. -/
def child : Decoder Child := fun j => do
  let (tag, payload) ← j.tagged?
  match tag with
  | "Text" => (string? payload).map .text
  | "Jsx" => (within.markup payload).map .markup
  | _ => none

/-- Reads a markup tree, given the decoders for what is in it. -/
def markupOf : Decoder Markup := fun j => do
  let (tag, payload) ← j.tagged?
  match tag with
  | "Element" => do
    let opening ← field? "opening" within.opening payload
    let children ← field? "children" (list? within.child) payload
    some (.element opening children)
  | "SelfClosing" => (within.opening payload).map .selfClosing
  | "Fragment" => (list? within.child payload).map .fragment
  | "Container" => (nullable? within.expr payload).map .container
  | _ => none

/-- Reads a target. -/
def target : Decoder Target := fun j => do
  let (tag, payload) ← j.tagged?
  match tag with
  | "Identifier" => (string? payload).map .name
  | "Pattern" => (within.pattern payload).map .pattern
  | _ => none

/-- Reads a binding. -/
def binding : Decoder Binding := fun j => do
  let rest ← field? "dot_dot_dot" bool? j
  let key ← optField? "property_name" string? j
  let target ← field? "name" within.target j
  let fallback ← optField? "initializer" within.expr j
  some ⟨rest, key, target, fallback⟩

/-- Reads a pattern, given the decoders for what is in it. -/
def patternOf : Decoder Pattern := fun j => do
  let kind ← field? "kind" PatternKind.ofJson? j
  let elements ← field? "elements" (list? within.binding) j
  some ⟨kind, elements⟩

/-- Reads a decorator. -/
def decorator : Decoder Expr :=
  field? "expression" within.expr

/-- Reads a parameter. -/
def parameter : Decoder Parameter := fun j => do
  let decorators ← field? "decorators" (list? within.decorator) j
  let modifiers ← field? "modifiers" (list? string?) j
  let rest ← field? "dot_dot_dot" bool? j
  let target ← field? "name" within.target j
  let optional ← field? "question_token" bool? j
  let type ← optField? "type_annotation" within.type j
  let fallback ← optField? "initializer" within.expr j
  some ⟨decorators, modifiers, rest, target, optional, type, fallback⟩

/-- Reads a function body. -/
def body : Decoder Body := fun j => do
  let (tag, payload) ← j.tagged?
  match tag with
  | "Block" => (within.block payload).map .block
  | "Expression" => (within.expr payload).map .expr
  | _ => none

/-- Reads the parts of a function that is introduced by `form`. -/
def parts (form : FunctionForm) : Decoder Function := fun j => do
  let modifiers ← field? "modifiers" (list? string?) j
  let typeParameters ← field? "type_parameters" (list? string?) j
  let parameters ← field? "parameters" (list? within.parameter) j
  let returnType ← optField? "return_type" within.type j
  let body ← field? "body" within.body j
  some ⟨form, modifiers, typeParameters, parameters, returnType, body⟩

/-- Reads a function, given the decoders for what is in it. -/
def functionOf : Decoder Function := fun j => do
  let (tag, payload) ← j.tagged?
  match tag with
  | "Function" => do
    let decorators ← field? "decorators" (list? within.decorator) payload
    let generator ← field? "asterisk_token" bool? payload
    let name ← optField? "name" string? payload
    field? "parts" (within.parts (.keyword decorators generator name)) payload
  | "Arrow" => field? "parts" (within.parts .arrow) payload
  | _ => none

/-- Reads a declaration. -/
def declaration : Decoder Declaration := fun j => do
  let target ← field? "name" within.target j
  let type ← optField? "type_annotation" within.type j
  let value ← optField? "initializer" within.expr j
  some ⟨target, type, value⟩

/-- Reads a list of declarations with its keyword. -/
def declarations : Decoder Declarations := fun j => do
  let kind ← field? "kind" VariableKind.ofJson? j
  let items ← field? "declarations" (list? within.declaration) j
  some ⟨kind, items⟩

/-- Reads a statement. -/
def statement : Decoder Statement := fun j => do
  let (tag, payload) ← j.tagged?
  match tag with
  | "Return" => (nullable? within.expr payload).map .ret
  | "Variable" => do
    let modifiers ← field? "modifiers" (list? string?) payload
    let declarations ← field? "declaration_list" within.declarations payload
    some (.declare modifiers declarations)
  | "Expression" => (within.expr payload).map .expr
  | "Block" => (within.block payload).map .block
  | _ => none

/-- Reads a block, given the decoders for what is in it. -/
def blockOf : Decoder Block :=
  fun j => (field? "statements" (list? within.statement) j).map .mk

/-- The decoders one layer further out. -/
def outer : Decoders :=
  { type := within.typeOf
    expr := within.exprOf
    markup := within.markupOf
    pattern := within.patternOf
    function := within.functionOf
    block := within.blockOf }

/-- The decoders for values of less than `n` arrays and objects within each other. -/
def below : Nat → Decoders
  | 0 => ⟨fun _ => none, fun _ => none, fun _ => none, fun _ => none, fun _ => none, fun _ => none⟩
  | n + 1 => (below n).outer

/-- Decoders with enough layers to read `j`. -/
def reading (j : Json) : Decoders :=
  below (j.depth + 1)

end Decoders

/-- Reads a type. -/
def TypeExpr.ofJson? : Decoder TypeExpr := fun j => (Decoders.reading j).type j

/-- Reads an expression. -/
def Expr.ofJson? : Decoder Expr := fun j => (Decoders.reading j).expr j

/-- Reads a markup tree. -/
def Markup.ofJson? : Decoder Markup := fun j => (Decoders.reading j).markup j

/-- Reads a tag with its attributes. -/
def OpeningTag.ofJson? : Decoder OpeningTag := fun j => (Decoders.reading j).opening j

/-- Reads a pattern. -/
def Pattern.ofJson? : Decoder Pattern := fun j => (Decoders.reading j).pattern j

/-- Reads a binding. -/
def Binding.ofJson? : Decoder Binding := fun j => (Decoders.reading j).binding j

/-- Reads a target. -/
def Target.ofJson? : Decoder Target := fun j => (Decoders.reading j).target j

/-- Reads a decorator. -/
def Expr.decoratorOfJson? : Decoder Expr := fun j => (Decoders.reading j).decorator j

/-- Reads a parameter. -/
def Parameter.ofJson? : Decoder Parameter := fun j => (Decoders.reading j).parameter j

/-- Reads a function. -/
def Function.ofJson? : Decoder Function := fun j => (Decoders.reading j).function j

/-- Reads a block. -/
def Block.ofJson? : Decoder Block := fun j => (Decoders.reading j).block j

/-- Reads a statement. -/
def Statement.ofJson? : Decoder Statement := fun j => (Decoders.reading j).statement j

/-- Reads a list of declarations with its keyword. -/
def Declarations.ofJson? : Decoder Declarations := fun j => (Decoders.reading j).declarations j

/-- Reads a declaration. -/
def Declaration.ofJson? : Decoder Declaration := fun j => (Decoders.reading j).declaration j

/-- Reads a kind of member. -/
def MemberKind.ofJson? : Decoder MemberKind
  | .string "OneWay" => some .oneWay
  | .string "TwoWay" => some .twoWay
  | .string "Slot" => some .slot
  | .string "Template" => some .template
  | .string "Event" => some .event
  | .string "Method" => some .method
  | .string "Internal" => some .internal
  | _ => none

/-- Reads a member. -/
def Member.ofJson? : Decoder Member := fun j => do
  let name ← field? "name" string? j
  let externalName ← field? "external_name" string? j
  let path ← optField? "scope" string? j
  let kind ← field? "kind" MemberKind.ofJson? j
  let type ← optField? "type_annotation" TypeExpr.ofJson? j
  let fallback ← optField? "initializer" Expr.ofJson? j
  let decorators ← field? "decorators" (list? Expr.decoratorOfJson?) j
  some ⟨name, externalName, path, kind, type, fallback, decorators⟩

/-- Reads a component. -/
def Component.ofJson? : Decoder Component := fun j => do
  let name ← field? "name" string? j
  let members ← field? "members" (list? Member.ofJson?) j
  let view ← optField? "view" string? j
  let viewModel ← optField? "view_model" string? j
  let decorators ← field? "decorators" (list? Expr.decoratorOfJson?) j
  some ⟨name, members, view, viewModel, decorators⟩

/-- Reads an entry of a variable map: a pair. -/
def VariableMap.entryOfJson? : Decoder (String × Expr)
  | .array [.string name, value] => (Expr.ofJson? value).map fun e => (name, e)
  | _ => none

/-- Reads a variable map. -/
def VariableMap.ofJson? : Decoder VariableMap :=
  fun j => (list? VariableMap.entryOfJson? j).map .ofList

/-- Reads a parameter with its rewritten form. -/
def RewrittenParameter.ofJson? : Decoder RewrittenParameter := fun j => do
  let source ← field? "source" Parameter.ofJson? j
  let rewritten ← field? "rewritten" Parameter.ofJson? j
  some ⟨source, rewritten⟩

/-- Reads a scope; every part of it may be missing. -/
def Scope.ofJson? : Decoder Scope := fun j => do
  let context ← fieldD? "component_context" "" string? j
  let newContext ← optField? "new_component_context" string? j
  let vars ← fieldD? "variables" ∅ VariableMap.ofJson? j
  let members ← fieldD? "members" [] (list? Member.ofJson?) j
  let parameter ← optField? "component_parameter" RewrittenParameter.ofJson? j
  some ⟨context, newContext, vars, members, parameter⟩

/-- Reads the name of a platform. -/
def Platform.ofJson? : Decoder Platform :=
  fun j => j.string?.bind Platform.ofName?

end ViewTemplate

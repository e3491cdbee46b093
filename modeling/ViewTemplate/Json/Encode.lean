import ViewTemplate.Json.Basic
import ViewTemplate.Scope
import ViewTemplate.Settings.Basic

/-!
# The JSON form of syntax

An alternative is an object with the name of the alternative as its only key, data with several parts is an object
with a field for each part, and absent parts are written as null.
-/

namespace ViewTemplate

/-- The JSON form of a kind of pattern. -/
def PatternKind.toJson : PatternKind → Json
  | .object => .string "Object"
  | .array => .string "Array"

/-- The JSON form of a declaring keyword. -/
def VariableKind.toJson : VariableKind → Json
  | .const => .string "Const"
  | .lexical => .string "Let"
  | .var => .string "Var"

mutual

/-- The JSON form of a type. -/
def TypeExpr.toJson : TypeExpr → Json
  | .reference name arguments =>
    .tagged "Reference" (.object [("name", .string name), ("type_arguments", .array (typesToJson arguments))])
  | .array element => .tagged "Array" element.toJson
  | .union members => .tagged "Union" (.array (typesToJson members))
  | .literal properties => .tagged "Literal" (.array (signaturesToJson properties))
  | .verbatim text => .tagged "Simple" (.string text)

/-- The JSON forms of a list of types. -/
def typesToJson : List TypeExpr → List Json
  | [] => []
  | t :: ts => t.toJson :: typesToJson ts

/-- The JSON form of an optional type. -/
def typeToJson? : Option TypeExpr → Json
  | none => .null
  | some t => t.toJson

/-- The JSON form of a property signature. -/
def PropertySignature.toJson : PropertySignature → Json
  | ⟨name, optional, type⟩ =>
    .object [("name", .string name), ("optional", .bool optional), ("type_annotation", typeToJson? type)]

/-- The JSON forms of a list of property signatures. -/
def signaturesToJson : List PropertySignature → List Json
  | [] => []
  | s :: ss => s.toJson :: signaturesToJson ss

end

mutual

/-- The JSON form of an expression. -/
def Expr.toJson : Expr → Json
  | .ident name => .tagged "Identifier" (.string name)
  | .verbatim text => .tagged "Simple" (.string text)
  | .string value => .tagged "StringLiteral" (.string value)
  | .number text => .tagged "NumericLiteral" (.string text)
  | .property object name optional =>
    .tagged "PropertyAccess"
      (.object [("expression", object.toJson), ("name", .string name), ("question_dot", .bool optional)])
  | .element object argument =>
    .tagged "ElementAccess" (.object [("expression", object.toJson), ("argument", argument.toJson)])
  | .call callee arguments =>
    .tagged "Call" (.object [("callee", callee.toJson), ("arguments", .array (exprsToJson arguments))])
  | .binary left operator right =>
    .tagged "Binary" (.object [("left", left.toJson), ("operator", .string operator), ("right", right.toJson)])
  | .unary operator operand =>
    .tagged "Prefix" (.object [("operator", .string operator), ("operand", operand.toJson)])
  | .conditional condition whenTrue whenFalse =>
    .tagged "Conditional"
      (.object [("condition", condition.toJson), ("when_true", whenTrue.toJson), ("when_false", whenFalse.toJson)])
  | .paren inner => .tagged "Paren" inner.toJson
  | .object entries => .tagged "ObjectLiteral" (.array (entriesToJson entries))
  | .array elements => .tagged "ArrayLiteral" (.array (exprsToJson elements))
  | .pattern p => .tagged "Pattern" p.toJson
  | .type t => .tagged "Type" t.toJson
  | .markup m => .tagged "Jsx" m.toJson
  | .function f => .tagged "Function" f.toJson

/-- The JSON forms of a list of expressions. -/
def exprsToJson : List Expr → List Json
  | [] => []
  | e :: es => e.toJson :: exprsToJson es

/-- The JSON forms of a list of decorators. -/
def decoratorsToJson : List Expr → List Json
  | [] => []
  | e :: es => .object [("expression", e.toJson)] :: decoratorsToJson es

/-- The JSON form of an optional expression. -/
def exprToJson? : Option Expr → Json
  | none => .null
  | some e => e.toJson

/-- The JSON form of a member of an object literal. -/
def ObjectEntry.toJson : ObjectEntry → Json
  | .keyed key value => .tagged "KeyValue" (.object [("key", .string key), ("value", value.toJson)])
  | .shorthand name => .tagged "Shorthand" (.string name)
  | .spread value => .tagged "Spread" value.toJson

/-- The JSON forms of the members of an object literal. -/
def entriesToJson : List ObjectEntry → List Json
  | [] => []
  | e :: es => e.toJson :: entriesToJson es

/-- The JSON form of a markup tree. -/
def Markup.toJson : Markup → Json
  | .element opening children =>
    .tagged "Element" (.object [("opening", opening.toJson), ("children", .array (childrenToJson children))])
  | .selfClosing opening => .tagged "SelfClosing" opening.toJson
  | .fragment children => .tagged "Fragment" (.array (childrenToJson children))
  | .container content => .tagged "Container" (exprToJson? content)

/-- The JSON form of a tag with its attributes. -/
def OpeningTag.toJson : OpeningTag → Json
  | ⟨tag, attributes⟩ => .object [("tag", tag.toJson), ("attributes", .array (attributesToJson attributes))]

/-- The JSON form of an attribute. -/
def Attribute.toJson : Attribute → Json
  | .flag name => .tagged "Attribute" (.object [("name", .string name), ("value", .null)])
  | .text name text =>
    .tagged "Attribute" (.object [("name", .string name), ("value", .tagged "String" (.string text))])
  | .value name value =>
    .tagged "Attribute" (.object [("name", .string name), ("value", .tagged "Expression" value.toJson)])
  | .spread value => .tagged "Spread" value.toJson

/-- The JSON forms of a list of attributes. -/
def attributesToJson : List Attribute → List Json
  | [] => []
  | a :: as => a.toJson :: attributesToJson as

/-- The JSON form of a child. -/
def Child.toJson : Child → Json
  | .text text => .tagged "Text" (.string text)
  | .markup m => .tagged "Jsx" m.toJson

/-- The JSON forms of a list of children. -/
def childrenToJson : List Child → List Json
  | [] => []
  | c :: cs => c.toJson :: childrenToJson cs

/-- The JSON form of a pattern. -/
def Pattern.toJson : Pattern → Json
  | ⟨kind, elements⟩ => .object [("kind", kind.toJson), ("elements", .array (bindingsToJson elements))]

/-- The JSON form of a binding. -/
def Binding.toJson : Binding → Json
  | ⟨rest, key, target, fallback⟩ =>
    .object [("dot_dot_dot", .bool rest), ("property_name", .ofString? key), ("name", target.toJson),
      ("initializer", exprToJson? fallback)]

/-- The JSON forms of a list of bindings. -/
def bindingsToJson : List Binding → List Json
  | [] => []
  | b :: bs => b.toJson :: bindingsToJson bs

/-- The JSON form of a target. -/
def Target.toJson : Target → Json
  | .name x => .tagged "Identifier" (.string x)
  | .pattern p => .tagged "Pattern" p.toJson

/-- The JSON form of a parameter. -/
def Parameter.toJson : Parameter → Json
  | ⟨decorators, modifiers, rest, target, optional, type, fallback⟩ =>
    .object [("decorators", .array (decoratorsToJson decorators)), ("modifiers", .ofStrings modifiers),
      ("dot_dot_dot", .bool rest), ("name", target.toJson), ("question_token", .bool optional),
      ("type_annotation", typeToJson? type), ("initializer", exprToJson? fallback)]

/-- The JSON forms of a list of parameters. -/
def parametersToJson : List Parameter → List Json
  | [] => []
  | p :: ps => p.toJson :: parametersToJson ps

/-- The JSON form of a function. -/
def Function.toJson : Function → Json
  | ⟨form, modifiers, typeParameters, parameters, returnType, body⟩ =>
    form.toJson
      (.object [("modifiers", .ofStrings modifiers), ("type_parameters", .ofStrings typeParameters),
        ("parameters", .array (parametersToJson parameters)), ("return_type", typeToJson? returnType),
        ("body", body.toJson)])

/-- The JSON form of a function with the given parts. -/
def FunctionForm.toJson (parts : Json) : FunctionForm → Json
  | .keyword decorators generator name =>
    .tagged "Function"
      (.object [("decorators", .array (decoratorsToJson decorators)), ("asterisk_token", .bool generator),
        ("name", .ofString? name), ("parts", parts)])
  | .arrow => .tagged "Arrow" (.object [("parts", parts)])

/-- The JSON form of a function body. -/
def Body.toJson : Body → Json
  | .block b => .tagged "Block" b.toJson
  | .expr value => .tagged "Expression" value.toJson

/-- The JSON form of a block. -/
def Block.toJson : Block → Json
  | ⟨statements⟩ => .object [("statements", .array (statementsToJson statements))]

/-- The JSON form of a statement. -/
def Statement.toJson : Statement → Json
  | .ret value => .tagged "Return" (exprToJson? value)
  | .declare modifiers declarations =>
    .tagged "Variable"
      (.object [("modifiers", .ofStrings modifiers), ("declaration_list", declarations.toJson)])
  | .expr value => .tagged "Expression" value.toJson
  | .block b => .tagged "Block" b.toJson

/-- The JSON forms of a list of statements. -/
def statementsToJson : List Statement → List Json
  | [] => []
  | s :: ss => s.toJson :: statementsToJson ss

/-- The JSON form of a list of declarations with its keyword. -/
def Declarations.toJson : Declarations → Json
  | ⟨kind, items⟩ => .object [("kind", kind.toJson), ("declarations", .array (itemsToJson items))]

/-- The JSON forms of a list of declarations. -/
def itemsToJson : List Declaration → List Json
  | [] => []
  | d :: ds => d.toJson :: itemsToJson ds

/-- The JSON form of a declaration. -/
def Declaration.toJson : Declaration → Json
  | ⟨target, type, value⟩ =>
    .object [("name", target.toJson), ("type_annotation", typeToJson? type), ("initializer", exprToJson? value)]

end

/-- The JSON form of a kind of member. -/
def MemberKind.toJson : MemberKind → Json
  | .oneWay => .string "OneWay"
  | .twoWay => .string "TwoWay"
  | .slot => .string "Slot"
  | .template => .string "Template"
  | .event => .string "Event"
  | .method => .string "Method"
  | .internal => .string "Internal"

/-- The JSON form of a member. -/
def Member.toJson (m : Member) : Json :=
  .object [("name", .string m.name), ("external_name", .string m.externalName), ("scope", .ofString? m.path),
    ("kind", m.kind.toJson), ("type_annotation", typeToJson? m.type), ("initializer", exprToJson? m.fallback),
    ("decorators", .array (decoratorsToJson m.decorators))]

/-- The JSON form of a component. -/
def Component.toJson (c : Component) : Json :=
  .object [("name", .string c.name), ("members", .array (c.members.map Member.toJson)),
    ("view", .ofString? c.view), ("view_model", .ofString? c.viewModel),
    ("decorators", .array (decoratorsToJson c.decorators))]

/-- The JSON form of a variable map: a list of pairs. -/
def VariableMap.toJson (m : VariableMap) : Json :=
  .array (m.entries.map fun entry => .array [.string entry.1, entry.2.toJson])

/-- The JSON form of a parameter with its rewritten form. -/
def RewrittenParameter.toJson (p : RewrittenParameter) : Json :=
  .object [("source", p.source.toJson), ("rewritten", p.rewritten.toJson)]

/-- The JSON form of a scope. -/
def Scope.toJson (s : Scope) : Json :=
  .object [("component_context", .string s.context), ("new_component_context", .ofString? s.newContext),
    ("variables", s.vars.toJson), ("members", .array (s.members.map Member.toJson)),
    ("component_parameter", (s.parameter.map RewrittenParameter.toJson).getD .null)]

/-- The JSON form of settings: a field for each one that is set. -/
def Settings.toJson (s : Settings) : Json :=
  .object (SettingsField.all.filterMap fun field => (s.value? field).map fun value => (field.key, .string value))

end ViewTemplate

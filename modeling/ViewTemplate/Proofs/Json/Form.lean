import Mathlib.Data.List.Perm.Basic
import Mathlib.Logic.Relation
import ViewTemplate.Json.Decode

/-!
# Forms of JSON values, and the changes that do not matter

Which objects of a JSON value hold the parts of a piece of data, and which mark an alternative, depends on the data that
is read out of it. A *form* says so. An *edit* of a value of that form adds a field that nothing reads, puts the fields
of an object in another order, or leaves out a field that is null and may be missing; it may happen at any place within
the value.
-/

namespace ViewTemplate

namespace Json

/-- The kinds of syntax that contain each other. -/
inductive Kind where
  | type
  | expr
  | markup
  | pattern
  | function
  | block

/-- What a JSON value looks like that holds data of one kind. -/
inductive Form where
  /-- a text, a truth value or a keyword -/
  | plain
  /-- values of one form, one after the other -/
  | list (items : Form)
  /-- null, or a value -/
  | nullable (content : Form)
  /-- an object with these fields, of which those of nullable form may be missing -/
  | record (fields : List (String × Form))
  /-- an object with one of these tags as its only key -/
  | choice (tags : List (String × Form))
  /-- a piece of syntax -/
  | kind (k : Kind)

namespace Form

/-- A form of values that may be absent. -/
def isNullable : Form → Bool
  | .nullable _ => true
  | _ => false

/-- The form of a property signature. -/
def signature : Form :=
  .record [("name", .plain), ("optional", .plain), ("type_annotation", .nullable (.kind .type))]

/-- The form of a type. -/
def type : Form :=
  .choice
    [("Reference", .record [("name", .plain), ("type_arguments", .list (.kind .type))]),
      ("Array", .kind .type), ("Union", .list (.kind .type)), ("Literal", .list signature), ("Simple", .plain)]

/-- The form of a member of an object literal. -/
def entry : Form :=
  .choice
    [("KeyValue", .record [("key", .plain), ("value", .kind .expr)]), ("Shorthand", .plain), ("Spread", .kind .expr)]

/-- The form of an expression. -/
def expr : Form :=
  .choice
    [("Identifier", .plain), ("Simple", .plain), ("StringLiteral", .plain), ("NumericLiteral", .plain),
      ("PropertyAccess", .record [("expression", .kind .expr), ("name", .plain), ("question_dot", .plain)]),
      ("ElementAccess", .record [("expression", .kind .expr), ("argument", .kind .expr)]),
      ("Call", .record [("callee", .kind .expr), ("arguments", .list (.kind .expr))]),
      ("Binary", .record [("left", .kind .expr), ("operator", .plain), ("right", .kind .expr)]),
      ("Prefix", .record [("operator", .plain), ("operand", .kind .expr)]),
      ("Conditional",
        .record [("condition", .kind .expr), ("when_true", .kind .expr), ("when_false", .kind .expr)]),
      ("Paren", .kind .expr), ("ObjectLiteral", .list entry), ("ArrayLiteral", .list (.kind .expr)),
      ("Pattern", .kind .pattern), ("Type", .kind .type), ("Jsx", .kind .markup), ("Function", .kind .function)]

/-- The form of the value of an attribute. -/
def attributeValue : Form :=
  .choice [("String", .plain), ("Expression", .kind .expr)]

/-- The form of an attribute. -/
def tagAttribute : Form :=
  .choice
    [("Attribute", .record [("name", .plain), ("value", .nullable attributeValue)]), ("Spread", .kind .expr)]

/-- The form of a tag with its attributes. -/
def opening : Form :=
  .record [("tag", .kind .expr), ("attributes", .list tagAttribute)]

/-- The form of a child. -/
def child : Form :=
  .choice [("Text", .plain), ("Jsx", .kind .markup)]

/-- The form of a markup tree. -/
def markup : Form :=
  .choice
    [("Element", .record [("opening", opening), ("children", .list child)]), ("SelfClosing", opening),
      ("Fragment", .list child), ("Container", .nullable (.kind .expr))]

/-- The form of a target. -/
def target : Form :=
  .choice [("Identifier", .plain), ("Pattern", .kind .pattern)]

/-- The form of a binding. -/
def binding : Form :=
  .record
    [("dot_dot_dot", .plain), ("property_name", .nullable .plain), ("name", target),
      ("initializer", .nullable (.kind .expr))]

/-- The form of a pattern. -/
def pattern : Form :=
  .record [("kind", .plain), ("elements", .list binding)]

/-- The form of a decorator. -/
def decorator : Form :=
  .record [("expression", .kind .expr)]

/-- The form of a parameter. -/
def parameter : Form :=
  .record
    [("decorators", .list decorator), ("modifiers", .list .plain), ("dot_dot_dot", .plain), ("name", target),
      ("question_token", .plain), ("type_annotation", .nullable (.kind .type)),
      ("initializer", .nullable (.kind .expr))]

/-- The form of a function body. -/
def body : Form :=
  .choice [("Block", .kind .block), ("Expression", .kind .expr)]

/-- The form of the parts of a function. -/
def parts : Form :=
  .record
    [("modifiers", .list .plain), ("type_parameters", .list .plain), ("parameters", .list parameter),
      ("return_type", .nullable (.kind .type)), ("body", body)]

/-- The form of a function. -/
def function : Form :=
  .choice
    [("Function",
        .record
          [("decorators", .list decorator), ("asterisk_token", .plain), ("name", .nullable .plain),
            ("parts", parts)]),
      ("Arrow", .record [("parts", parts)])]

/-- The form of a declaration. -/
def declaration : Form :=
  .record
    [("name", target), ("type_annotation", .nullable (.kind .type)), ("initializer", .nullable (.kind .expr))]

/-- The form of a list of declarations with its keyword. -/
def declarations : Form :=
  .record [("kind", .plain), ("declarations", .list declaration)]

/-- The form of a statement. -/
def statement : Form :=
  .choice
    [("Return", .nullable (.kind .expr)),
      ("Variable", .record [("modifiers", .list .plain), ("declaration_list", declarations)]),
      ("Expression", .kind .expr), ("Block", .kind .block)]

/-- The form of a block. -/
def block : Form :=
  .record [("statements", .list statement)]

/-- The form of a member of a component. -/
def member : Form :=
  .record
    [("name", .plain), ("external_name", .plain), ("scope", .nullable .plain), ("kind", .plain),
      ("type_annotation", .nullable (.kind .type)), ("initializer", .nullable (.kind .expr)),
      ("decorators", .list decorator)]

/-- The form of a component. -/
def component : Form :=
  .record
    [("name", .plain), ("members", .list member), ("view", .nullable .plain), ("view_model", .nullable .plain),
      ("decorators", .list decorator)]

end Form

/-- The form of a piece of syntax of that kind. -/
def Kind.form : Kind → Form
  | .type => .type
  | .expr => .expr
  | .markup => .markup
  | .pattern => .pattern
  | .function => .function
  | .block => .block

/-- One change to a value of that form that leaves the data in it alone. Where fields change places or are left out,
no key of the object occurs twice. -/
inductive Form.Edit : Form → Json → Json → Prop
  /-- a field is added that the object does not have -/
  | add {known : List (String × Form)} {before after : List (String × Json)} {key : String} {value : Json}
      (unknown : known.lookup key = none) :
      Edit (.record known) (.object (before ++ after)) (.object (before ++ (key, value) :: after))
  /-- the fields stand in another order -/
  | reorder {known : List (String × Form)} {fields fields' : List (String × Json)}
      (nodup : (fields.map (·.1)).Nodup) (perm : fields.Perm fields') :
      Edit (.record known) (.object fields) (.object fields')
  /-- a field is left out that is null -/
  | drop {known : List (String × Form)} {before after : List (String × Json)} {key : String} {content : Form}
      (nodup : ((before ++ (key, Json.null) :: after).map (·.1)).Nodup)
      (optional : known.lookup key = some (.nullable content)) :
      Edit (.record known) (.object (before ++ (key, .null) :: after)) (.object (before ++ after))
  | inField {known : List (String × Form)} {before after : List (String × Json)} {key : String} {F : Form}
      {value value' : Json} (isField : known.lookup key = some F) (edit : Edit F value value') :
      Edit (.record known) (.object (before ++ (key, value) :: after)) (.object (before ++ (key, value') :: after))
  | inItem {F : Form} {before after : List Json} {item item' : Json} (edit : Edit F item item') :
      Edit (.list F) (.array (before ++ item :: after)) (.array (before ++ item' :: after))
  | inContent {F : Form} {value value' : Json} (edit : Edit F value value') : Edit (.nullable F) value value'
  | inPayload {tags : List (String × Form)} {tag : String} {F : Form} {payload payload' : Json}
      (isTag : tags.lookup tag = some F) (edit : Edit F payload payload') :
      Edit (.choice tags) (.tagged tag payload) (.tagged tag payload')
  | inKind {k : Kind} {value value' : Json} (edit : Edit k.form value value') : Edit (.kind k) value value'

/-- The value as it is, or after one edit. -/
abbrev Form.EditOrSame (F : Form) : Json → Json → Prop :=
  Relation.ReflGen F.Edit

/-- Only lists, objects and what holds them are edited: null is neither. -/
theorem Form.Edit.ne_null {F : Form} {j j' : Json} (h : F.Edit j j') : j ≠ .null ∧ j' ≠ .null := by
  induction h with
  | inContent _ ih => exact ih
  | inKind _ ih => exact ih
  | _ => simp [tagged]

end Json

end ViewTemplate

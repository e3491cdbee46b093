/-!
# JSON values

JSON as a tree, and what it takes to read data out of it: fields of objects, optional fields, lists, and values that
are marked by a tag, which are objects with the tag as their only key.
-/

namespace ViewTemplate

/-- A JSON value; a number is kept as its text. -/
inductive Json where
  | null
  | bool (value : Bool)
  | number (text : String)
  | string (value : String)
  | array (items : List Json)
  | object (fields : List (String × Json))

namespace Json

instance : Inhabited Json := ⟨.null⟩

mutual

/-- How many arrays and objects lie within each other. -/
def depth : Json → Nat
  | .null => 0
  | .bool _ => 0
  | .number _ => 0
  | .string _ => 0
  | .array items => 1 + itemsDepth items
  | .object fields => 1 + fieldsDepth fields

/-- The greatest depth among a list of values. -/
def itemsDepth : List Json → Nat
  | [] => 0
  | item :: items => max item.depth (itemsDepth items)

/-- The greatest depth among the values of fields. -/
def fieldsDepth : List (String × Json) → Nat
  | [] => 0
  | (_, value) :: fields => max value.depth (fieldsDepth fields)

end

/-- The value `payload`, marked by `tag`. -/
def tagged (tag : String) (payload : Json) : Json :=
  .object [(tag, payload)]

/-- Text, or null. -/
def ofString? : Option String → Json
  | none => .null
  | some s => .string s

/-- A list of texts. -/
def ofStrings (items : List String) : Json :=
  .array (items.map .string)

/-- Reads data of one kind out of a JSON value, if the value has its form. -/
abbrev Decoder (α : Type) := Json → Option α

/-- The fields of an object. -/
def fields? : Json → Option (List (String × Json))
  | .object fields => some fields
  | _ => none

/-- The tag and the payload of a marked value. -/
def tagged? : Json → Option (String × Json)
  | .object [(tag, payload)] => some (tag, payload)
  | _ => none

/-- Reads a text. -/
def string? : Decoder String
  | .string s => some s
  | _ => none

/-- Reads a truth value. -/
def bool? : Decoder Bool
  | .bool b => some b
  | _ => none

/-- Reads a list of data of one kind. -/
def list? {α : Type} (decode : Decoder α) : Decoder (List α)
  | .array items => items.mapM decode
  | _ => none

/-- Reads data that may be absent, which null stands for. -/
def nullable? {α : Type} (decode : Decoder α) : Decoder (Option α)
  | .null => some none
  | j => (decode j).map some

/-- Reads a field that has to be there. -/
def field? {α : Type} (key : String) (decode : Decoder α) : Decoder α :=
  fun j => j.fields?.bind fun fields => (fields.lookup key).bind decode

/-- Reads a field that may be missing or null. -/
def optField? {α : Type} (key : String) (decode : Decoder α) : Decoder (Option α) :=
  fun j => j.fields?.bind fun fields =>
    match fields.lookup key with
    | none => some none
    | some value => nullable? decode value

/-- Reads a field that has a value of its own when it is missing. -/
def fieldD? {α : Type} (key : String) (missing : α) (decode : Decoder α) : Decoder α :=
  fun j => j.fields?.bind fun fields =>
    match fields.lookup key with
    | none => some missing
    | some value => decode value

end Json

end ViewTemplate

import ViewTemplate.Json.Numeral
import ViewTemplate.Json.Scan
import ViewTemplate.Number.Shortest
import ViewTemplate.Settings.Basic
import ViewTemplate.Text.Visible

/-!
# Reading settings

Settings are read from JSON text: from an object with a field for each setting, or from an array of their values.
The text is gone through once from left to right, and the first thing that is wrong with it is reported, be it a
setting that has no such value or text that is no JSON.
-/

namespace ViewTemplate

/-- A value that is not what it should be. -/
inductive FoundValue where
  | null
  | bool (value : Bool)
  | integer (text : String)
  | float (text : String)
  | string (value : String)
  | sequence
  | map
  deriving DecidableEq

/-- What a value should be. -/
inductive ExpectedValue where
  | text
  | settings
  deriving DecidableEq

/-- Why settings cannot be read. -/
inductive SettingsFault where
  | scan (fault : ScanFault)
  | unknownPlatform (text : String)
  | repeatedField (field : SettingsField)
  | wrongType (found : FoundValue) (expected : ExpectedValue)
  deriving DecidableEq

/-- What is said about text that names no platform. -/
def Platform.unknownMessage (text : String) : String :=
  "Invalid platform: " ++ text

/-- The value in words. -/
def FoundValue.describe : FoundValue → String
  | .null => "null"
  | .bool value => "boolean `" ++ (if value then "true" else "false") ++ "`"
  | .integer text => "integer `" ++ text ++ "`"
  | .float text => "floating point `" ++ text ++ "`"
  | .string value => "string " ++ Text.visiblyQuoted value
  | .sequence => "sequence"
  | .map => "map"

/-- What is expected, in words. -/
def ExpectedValue.describe : ExpectedValue → String
  | .text => "a string"
  | .settings => "struct GeneratorOptions"

/-- What is wrong with a text that is JSON but cannot be settings. -/
def SettingsFault.detail? : SettingsFault → Option String
  | .scan _ => none
  | .unknownPlatform text => some (Platform.unknownMessage text)
  | .repeatedField field => some ("duplicate field `" ++ field.key ++ "`")
  | .wrongType found expected =>
    some ("invalid type: " ++ found.describe ++ ", expected " ++ expected.describe)

/-- What is said about a text that is JSON but cannot be settings. -/
def SettingsFault.message? (fault : SettingsFault) : Option String :=
  fault.detail?.map ("failed to parse generator options: " ++ ·)

namespace Settings

private def scanned {α : Type} : Except ScanFault α → Except SettingsFault α
  | .ok a => .ok a
  | .error fault => .error (.scan fault)

/-- The number that a literal denotes, as it is reported: an integer if it fits into 64 bits, else a double. -/
def foundNumber (text : List Char) : Except SettingsFault FoundValue :=
  let negative := text.head? = some '-'
  let unsigned := if negative then text.tail else text
  let value := Numeral.digitsValue unsigned
  let fits := if negative then 0 < value && 2 * value ≤ UInt64.size else value < UInt64.size
  if unsigned.all Char.isDigit && fits then .ok (.integer (String.ofList text))
  else
    match Numeral.double? unsigned with
    | none => .error (.scan .malformed)
    | some d => .ok (.float ((if negative then "-" else "") ++ d.text))

/-- The fault of a text that begins with the wrong kind of value. -/
def wrongType (expected : ExpectedValue) (s : List Char) : SettingsFault :=
  let found : Except SettingsFault FoundValue :=
    match s with
    | [] => .error (.scan .endOfText)
    | c :: rest =>
      if c = 'n' then scanned (Scan.readWord ['u', 'l', 'l'] rest) |>.map fun _ => .null
      else if c = 't' then scanned (Scan.readWord ['r', 'u', 'e'] rest) |>.map fun _ => .bool true
      else if c = 'f' then scanned (Scan.readWord ['a', 'l', 's', 'e'] rest) |>.map fun _ => .bool false
      else if c = '-' then (scanned (Scan.readNumber .sign rest)).bind fun (cs, _) => foundNumber (c :: cs)
      else if c = '0' then (scanned (Scan.readNumber .zero rest)).bind fun (cs, _) => foundNumber (c :: cs)
      else if c.isDigit then (scanned (Scan.readNumber .whole rest)).bind fun (cs, _) => foundNumber (c :: cs)
      else if c = '"' then scanned (Scan.readString rest) |>.map fun (value, _) => .string value
      else if c = '[' then .ok .sequence
      else if c = '\x7b' then .ok .map
      else .error (.scan .malformed)
  match found with
  | .ok found => .wrongType found expected
  | .error fault => fault

/-- Reads a text. -/
def readText (s : List Char) : Except SettingsFault (String × List Char) :=
  match Scan.skipBlanks s with
  | '"' :: rest => scanned (Scan.readString rest)
  | s => .error (wrongType .text s)

/-- Reads a text or null. -/
def readOptText (s : List Char) : Except SettingsFault (Option String × List Char) :=
  match Scan.skipBlanks s with
  | 'n' :: rest => scanned (Scan.readWord ['u', 'l', 'l'] rest) |>.map fun rest => (none, rest)
  | s => (readText s).map fun (value, rest) => (some value, rest)

/-- Reads the value of one setting. -/
def readValue (field : SettingsField) (settings : Settings) (s : List Char) :
    Except SettingsFault (Settings × List Char) :=
  match field with
  | .platform => do
    let (text, rest) ← readText s
    match Platform.ofName? text with
    | some platform => .ok ({ settings with platform }, rest)
    | none => .error (.unknownPlatform text)
  | .defaultOptionsModule => do
    let (value, rest) ← readOptText s
    .ok ({ settings with defaultOptionsModule := value }, rest)
  | .widgetRegistrar => do
    let (value, rest) ← readOptText s
    .ok ({ settings with widgetRegistrar := value }, rest)
  | .widgetBase => do
    let (value, rest) ← readOptText s
    .ok ({ settings with widgetBase := value }, rest)
  | .compilerConfig => do
    let (value, rest) ← readOptText s
    .ok ({ settings with compilerConfig := value }, rest)

/-- The text after the mark `mark`, which has to follow. -/
def readMark (mark : Char) (s : List Char) : Except SettingsFault (List Char) :=
  match Scan.skipBlanks s with
  | [] => .error (.scan .endOfText)
  | c :: rest => if c = mark then .ok rest else .error (.scan .malformed)

/-- Reads one field of an object, the opening quote of whose key stands before the text. `seen` are the settings that
were read before. -/
def readField (seen : List SettingsField) (settings : Settings) (s : List Char) :
    Except SettingsFault ((List SettingsField × Settings) × List Char) := do
  let (key, rest) ← scanned (Scan.readString s)
  match SettingsField.ofKey? key with
  | none => do
    let rest ← readMark ':' rest
    let rest ← scanned (Scan.skipValue rest)
    .ok ((seen, settings), rest)
  | some field =>
    if seen.contains field then .error (.repeatedField field)
    else do
      let rest ← readMark ':' rest
      let (settings, rest) ← readValue field settings rest
      .ok ((field :: seen, settings), rest)

/-- Reads at most `n` fields of an object and its end. -/
def readFields :
    Nat → List SettingsField → Settings → List Char → Except SettingsFault (Settings × List Char)
  | 0, _, _, _ => .error (.scan .endOfText)
  | n + 1, seen, settings, s =>
    match Scan.skipBlanks s with
    | [] => .error (.scan .endOfText)
    | c :: rest =>
      if c = '\x7d' then .ok (settings, rest)
      else if c = ',' then do
        let rest ← readMark '"' rest
        let ((seen, settings), rest) ← readField seen settings rest
        readFields n seen settings rest
      else .error (.scan .malformed)

/-- Reads an object, whose opening brace stands before the text. No object has more fields than characters. -/
def readObject (s : List Char) : Except SettingsFault (Settings × List Char) :=
  match Scan.skipBlanks s with
  | [] => .error (.scan .endOfText)
  | c :: rest =>
    if c = '\x7d' then .ok (default, rest)
    else if c = '"' then do
      let ((seen, settings), rest) ← readField [] default rest
      readFields rest.length.succ seen settings rest
    else .error (.scan .malformed)

/-- Reads the values of `fields` after other items of an array, and its end. -/
def readItems : List SettingsField → Settings → List Char → Except SettingsFault (Settings × List Char)
  | [], settings, s => do
    let rest ← readMark ']' s
    .ok (settings, rest)
  | field :: fields, settings, s =>
    match Scan.skipBlanks s with
    | [] => .error (.scan .endOfText)
    | c :: rest =>
      if c = ']' then .ok (settings, rest)
      else if c = ',' then
        if (Scan.skipBlanks rest).head? = some ']' then .error (.scan .malformed)
        else do
          let (settings, rest) ← readValue field settings rest
          readItems fields settings rest
      else .error (.scan .malformed)

/-- Reads an array, whose opening bracket stands before the text. -/
def readArray (s : List Char) : Except SettingsFault (Settings × List Char) :=
  match Scan.skipBlanks s with
  | [] => .error (.scan .endOfText)
  | c :: rest =>
    if c = ']' then .ok (default, rest)
    else do
      let (settings, rest) ← readValue .platform default (c :: rest)
      readItems SettingsField.all.tail settings rest

/-- Reads settings at the beginning of a text. -/
def readPrefix (s : List Char) : Except SettingsFault (Settings × List Char) :=
  match Scan.skipBlanks s with
  | '\x7b' :: rest => readObject rest
  | '[' :: rest => readArray rest
  | s => .error (wrongType .settings s)

/-- The settings that a JSON text denotes. -/
def read (text : String) : Except SettingsFault Settings := do
  let (settings, rest) ← readPrefix text.toList
  if (Scan.skipBlanks rest).isEmpty then .ok settings else .error (.scan .malformed)

/-- The settings that a JSON text denotes, in normal form. -/
def readNormalized (text : String) : Except SettingsFault Settings :=
  (read text).map normalized

end Settings

end ViewTemplate

/-!
# Quoted and bracketed text

A string literal stands between double quotes. Five characters are written with a backslash, all others as they are.
Brackets are put around text that is already written.
-/

namespace ViewTemplate.Text

/-- How one character is written between the quotes. -/
def escape : Char → List Char
  | '"' => ['\\', '"']
  | '\\' => ['\\', '\\']
  | '\n' => ['\\', 'n']
  | '\r' => ['\\', 'r']
  | '\t' => ['\\', 't']
  | c => [c]

/-- The string literal that denotes `s`. -/
def quoted (s : String) : String :=
  String.ofList ('"' :: s.toList.flatMap escape ++ ['"'])

/-- The text between parentheses. -/
def parenthesized (s : String) : String :=
  "(" ++ s ++ ")"

/-- The text between square brackets. -/
def bracketed (s : String) : String :=
  "[" ++ s ++ "]"

/-- The text between braces. -/
def braced (s : String) : String :=
  "\x7b" ++ s ++ "\x7d"

/-- The parts with commas between them. -/
def commaList (parts : List String) : String :=
  ", ".intercalate parts

/-- The parts between braces, with `separator` between them and a blank at either end; no blank when there are no
parts. -/
def bracedList (separator : String) (parts : List String) : String :=
  if parts.isEmpty then braced "" else braced (" " ++ separator.intercalate parts ++ " ")

/-- The words, each with a blank after it. -/
def blankAfterEach (words : List String) : String :=
  String.join (words.map (· ++ " "))

end ViewTemplate.Text

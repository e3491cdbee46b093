import ViewTemplate.Text.Letter
import ViewTemplate.Text.CodePoints.Unseen

/-!
# Text within messages

A text is quoted in a message so that every character of it can be seen: blanks other than the space, marks that
join the character before them, controls and the like are written as their code points.
-/

namespace ViewTemplate.Text

/-- A character that can be seen by itself, or the space. -/
def isSeen (c : Char) : Bool :=
  if c.toNat < 0x80 then 0x20 ≤ c.toNat && c.toNat ≠ 0x7F else !inRanges c unseenRanges

/-- How one character is written in a message. -/
def visible (c : Char) : List Char :=
  match c with
  | '"' => ['\\', '"']
  | '\\' => ['\\', '\\']
  | '\n' => ['\\', 'n']
  | '\r' => ['\\', 'r']
  | '\t' => ['\\', 't']
  | '\x00' => ['\\', '0']
  | c => if isSeen c then [c] else ['\\', 'u', '\x7b'] ++ Nat.toDigits 16 c.toNat ++ ['\x7d']

/-- The text between double quotes, as it is written in a message. -/
def visiblyQuoted (s : String) : String :=
  String.ofList ('"' :: s.toList.flatMap visible ++ ['"'])

end ViewTemplate.Text

import ViewTemplate.Text.CodePoints.Alphabetic
import ViewTemplate.Text.CodePoints.Numeric
import ViewTemplate.Text.CodePoints.Uppercase

/-!
# Letters, numbers, capitals and blanks

The character classes that names are made of. ASCII characters are decided by their own tests, all others by the
tables of the Unicode properties.
-/

namespace ViewTemplate.Text

/-- Whether a character is in one of the runs of code points. -/
def inRanges (c : Char) (ranges : List (Nat × Nat)) : Bool :=
  ranges.any fun range => range.1 ≤ c.toNat && c.toNat ≤ range.2

/-- A character with the Unicode property Alphabetic. -/
def isLetter (c : Char) : Bool :=
  if c.toNat < 0x80 then c.isAlpha else inRanges c alphabeticRanges

/-- A digit or another number sign: general category Nd, Nl or No. -/
def isNumber (c : Char) : Bool :=
  if c.toNat < 0x80 then c.isDigit else inRanges c numericRanges

/-- A character with the Unicode property Uppercase. -/
def isCapital (c : Char) : Bool :=
  if c.toNat < 0x80 then c.isUpper else inRanges c uppercaseRanges

/-- A character with the Unicode property White_Space. -/
def isBlank (c : Char) : Bool :=
  inRanges c [(0x09, 0x0D), (0x20, 0x20), (0x85, 0x85), (0xA0, 0xA0), (0x1680, 0x1680), (0x2000, 0x200A),
    (0x2028, 0x2029), (0x202F, 0x202F), (0x205F, 0x205F), (0x3000, 0x3000)]

private def dropBlanks (s : List Char) : List Char :=
  s.dropWhile isBlank

/-- The text without blanks at either end. -/
def trimmed (s : String) : String :=
  String.ofList (dropBlanks (dropBlanks s.toList).reverse).reverse

end ViewTemplate.Text

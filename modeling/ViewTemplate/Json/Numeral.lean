import ViewTemplate.Number.Double

/-!
# Numerals

The double that a JSON number denotes. Of its digits as many count as make up a number of 64 bits.
-/

namespace ViewTemplate

namespace Numeral

/-- The number with one more digit. -/
def pushDigit (value : Nat) (c : Char) : Nat :=
  10 * value + (c.toNat - '0'.toNat)

/-- The number that the digits denote. -/
def digitsValue (digits : List Char) : Nat :=
  digits.foldl pushDigit 0

/-- The number with digits appended as long as it has 64 bits, and how many digits were appended. -/
def takeDigits (value : Nat) : List Char → Nat × Nat
  | [] => (value, 0)
  | c :: cs =>
    if pushDigit value c < UInt64.size then
      let (value, taken) := takeDigits (pushDigit value c) cs
      (value, taken + 1)
    else (value, 0)

/-- The exponent after its `e`. -/
def exponentValue : List Char → Int
  | '-' :: digits => -digitsValue digits
  | '+' :: digits => digitsValue digits
  | digits => digitsValue digits

/-- The double that a number without its sign denotes; `none` if it is too large. -/
def double? (text : List Char) : Option Double :=
  let mantissa := text.takeWhile fun c => c ≠ 'e' && c ≠ 'E'
  let whole := mantissa.takeWhile Char.isDigit
  let fraction := (mantissa.drop (whole.length + 1)).takeWhile Char.isDigit
  let (value, taken) := takeDigits 0 whole
  let (significand, places) := takeDigits value fraction
  Double.ofDecimal? significand
    (exponentValue (text.drop (mantissa.length + 1)) + (whole.length - taken : Nat) - places)

end Numeral

end ViewTemplate

/-!
# Doubles

The nonnegative numbers of double precision: a mantissa of at most 53 bits times a power of two that is at least
2^-1074. A fraction is rounded to the nearest of them, of two that are equally near to the one with an even mantissa.
-/

namespace ViewTemplate

/-- The number `mantissa * 2 ^ exponent`. -/
structure Double where
  mantissa : Nat
  exponent : Int

namespace Double

/-- The exponent of the smallest double that is not zero. -/
def minExponent : Int := -1074

/-- Numerator and denominator of `n * 2 ^ exponent`. -/
def shifted (n : Nat) (exponent : Int) : Nat × Nat :=
  (n <<< exponent.toNat, 1 <<< (-exponent).toNat)

/-- The number of whole parts of `1 / den` in `num / den`, a rest of a half or more going to the nearest, and a half
to the even number. -/
def roundedQuotient (num den : Nat) : Nat :=
  let quotient := num / den
  let rest := 2 * (num % den)
  if den < rest || (rest = den && quotient % 2 = 1) then quotient + 1 else quotient

/-- The exponent for a fraction that is not zero: with it, the mantissa has 53 bits, or fewer for a number so small
that its exponent is the smallest. -/
def exponentOf (num den : Nat) : Int :=
  let wide : Int := num.log2 - den.log2 - 52
  let exponent := if num <<< (-wide).toNat < den <<< (52 + wide.toNat) then wide - 1 else wide
  max exponent minExponent

/-- The double nearest to a fraction; `none` for one that is too large. -/
def nearest? (num den : Nat) : Option Double :=
  if num = 0 then some ⟨0, minExponent⟩
  else
    let exponent := exponentOf num den
    let mantissa := roundedQuotient (num <<< (-exponent).toNat) (den <<< exponent.toNat)
    if 1 <<< 1024 ≤ mantissa <<< exponent.toNat then none
    else if mantissa = 1 <<< 53 then some ⟨1 <<< 52, exponent + 1⟩
    else some ⟨mantissa, exponent⟩

/-- Numerator and denominator of a double. -/
def ratio (d : Double) : Nat × Nat :=
  shifted d.mantissa d.exponent

/-- The product of two doubles. -/
def mul? (d e : Double) : Option Double :=
  nearest? (d.ratio.1 * e.ratio.1) (d.ratio.2 * e.ratio.2)

/-- The quotient of two doubles. -/
def div? (d e : Double) : Option Double :=
  nearest? (d.ratio.1 * e.ratio.2) (d.ratio.2 * e.ratio.1)

/-- The power of ten; all up to the 308th are doubles. -/
def tenPow? (n : Nat) : Option Double :=
  nearest? (Nat.pow 10 n) 1

/-- The double `significand * 10 ^ exponent` in the arithmetic of doubles. A power of ten that is too small to be one
is divided by in two steps. -/
def ofDecimal? (significand : Nat) (exponent : Int) : Option Double := do
  let d ← nearest? significand 1
  if d.mantissa = 0 || exponent < -616 then some ⟨0, minExponent⟩
  else if 308 < exponent then none
  else if 0 ≤ exponent then d.mul? (← tenPow? exponent.toNat)
  else if -308 ≤ exponent then d.div? (← tenPow? (-exponent).toNat)
  else (← d.div? (← tenPow? 308)).div? (← tenPow? (-exponent - 308).toNat)

end Double

end ViewTemplate

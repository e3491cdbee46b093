import ViewTemplate.Number.Double

/-!
# The shortest decimal of a double

A double is written with the fewest digits that are read back as the same double, and of the numbers with so many
digits as the one nearest to it. A point always has a digit on both sides, and an exponent stands only in very large
and very small numbers.
-/

namespace ViewTemplate

namespace Double

/-- The decimal `digits * 10 ^ exponent`. -/
structure Decimal where
  digits : Nat
  exponent : Int

/-- Numerator and denominator of `n * 2 ^ exponent / 10 ^ grid`. -/
def onGrid (n : Nat) (exponent grid : Int) : Nat × Nat :=
  let (num, den) := shifted n exponent
  (num * Nat.pow 10 (-grid).toNat, den * Nat.pow 10 grid.toNat)

/-- Whether `n * 10 ^ grid` is read as the double: it lies between the points half way to the doubles next to it, or
on one of them if the mantissa is even. The double below is only half as far away when the mantissa is a power of
two. -/
def isRead (d : Double) (grid : Int) (n : Nat) : Bool :=
  let closer := d.mantissa = 1 <<< 52 && minExponent < d.exponent
  let (low, den) := onGrid (4 * d.mantissa - if closer then 1 else 2) (d.exponent - 2) grid
  let (high, _) := onGrid (4 * d.mantissa + 2) (d.exponent - 2) grid
  if d.mantissa % 2 = 0 then low ≤ n * den && n * den ≤ high else low < n * den && n * den < high

/-- The multiple of `10 ^ grid` that is nearest to the double, of those that are read as it. -/
def onGrid? (d : Double) (grid : Int) : Option Nat :=
  let (num, den) := onGrid d.mantissa d.exponent grid
  let near := roundedQuotient num den
  [near, num / den, num / den + 1].find? (d.isRead grid)

/-- The decimal on the coarsest of the `n` grids up to `grid` that has one. -/
def decimalFrom (d : Double) : Nat → Int → Decimal
  | 0, grid => ⟨0, grid⟩
  | n + 1, grid =>
    match d.onGrid? grid with
    | some digits => ⟨digits, grid⟩
    | none => d.decimalFrom n (grid - 1)

/-- The shortest decimal that is read as the double. -/
def shortest (d : Double) : Decimal :=
  d.decimalFrom 634 309

/-- The digits with the point after `point` of them, zeros filling the gap. -/
def positional (digits : List Char) (point : Int) : List Char :=
  if point ≤ 0 then '0' :: '.' :: List.replicate (-point).toNat '0' ++ digits
  else if digits.length ≤ point then digits ++ List.replicate (point.toNat - digits.length) '0' ++ ['.', '0']
  else digits.take point.toNat ++ '.' :: digits.drop point.toNat

/-- The first digit, a point if more digits follow, and the power of ten with its sign. -/
def scientific (digits : List Char) (point : Int) : List Char :=
  digits.take 1 ++ (if digits.tail.isEmpty then [] else '.' :: digits.tail) ++
    'e' :: (if 0 < point then ['+'] else []) ++ (toString (point - 1)).toList

/-- The text of a double. -/
def text (d : Double) : String :=
  if d.mantissa = 0 then "0.0"
  else
    let decimal := d.shortest
    let digits := Nat.toDigits 10 decimal.digits
    let point := digits.length + decimal.exponent
    String.ofList (if -5 < point && point ≤ 16 then positional digits point else scientific digits point)

end Double

end ViewTemplate

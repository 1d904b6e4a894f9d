/-!
# Double-precision numbers

The finite double nearest to a decimal number, and the fewest decimal digits that lead back to a
double. Both are computed in natural numbers: a double is a significand times a power of two, and
two such products are compared after clearing the denominators.
-/

namespace LocaleRelay.Decimal

/-- A positive or zero double: a significand below `2 ^ 53` times a power of two, which is at least
`-1074`. -/
structure Binary64 where
  significand : Nat
  exponent : Int
  deriving Repr, DecidableEq

/-- The significand of a double has fewer than this many binary digits. -/
def significandBits : Nat := 53

/-- The significand of a double is below this. -/
def significandLimit : Nat := Nat.pow 2 significandBits

/-- The least significand with as many binary digits as there can be. -/
def leastFullSignificand : Nat := Nat.pow 2 (significandBits - 1)

/-- The least power of two of a double. -/
def leastExponent : Int := -1074

/-- The greatest power of two of a double. -/
def greatestExponent : Int := 971

/-- A power of a base, or one where the exponent is negative. -/
def powerUp (base : Nat) (exponent : Int) : Nat := Nat.pow base exponent.toNat

/-- The power of a base that clears a negative exponent. -/
def powerDown (base : Nat) (exponent : Int) : Nat := Nat.pow base (-exponent).toNat

/-- A quotient rounded to the nearest whole number, a half to the even neighbour. -/
def roundDiv (num den : Nat) : Nat :=
  let whole := num / den
  let twice := 2 * (num % den)
  if twice < den then whole
  else if den < twice then whole + 1
  else whole + whole % 2

/-- The double nearest to a positive quotient, unless it is too large for any. -/
def nearest? (num den : Nat) : Option Binary64 :=
  let length : Int := (Nat.log2 num : Int) - Nat.log2 den
  let guess := max (length - significandBits) leastExponent
  let floorAt (exponent : Int) := num * powerDown 2 exponent / (den * powerUp 2 exponent)
  let exponent := if floorAt guess ≥ significandLimit then guess + 1 else guess
  let significand := roundDiv (num * powerDown 2 exponent) (den * powerUp 2 exponent)
  let rounded : Binary64 :=
    if significand = significandLimit then ⟨leastFullSignificand, exponent + 1⟩
    else ⟨significand, exponent⟩
  if rounded.exponent > greatestExponent then none else some rounded

/-- The double nearest to `digits * 10 ^ exponent`, unless it is too large for any. Numbers far
beyond the range of doubles are settled by their length alone. -/
def ofDecimal? (digits : Nat) (exponent : Int) : Option Binary64 :=
  let size : Int := (Nat.toDigits 10 digits).length + exponent
  if digits = 0 ∨ size < -400 then some ⟨0, leastExponent⟩
  else if size > 400 then none
  else nearest? (digits * powerUp 10 exponent) (powerDown 10 exponent)

/-- Decimal digits without a zero at either end, with the place of the point: `0.d₁d₂… * 10 ^
point`. -/
structure Digits where
  digits : List Char
  point : Int
  deriving Repr, DecidableEq

namespace Binary64

/-- How `count * 10 ^ place` compares with `quarters * 2 ^ (exponent - 2)`. -/
def compareWith (count : Nat) (place : Int) (quarters : Nat) (exponent : Int) : Ordering :=
  compare (count * powerUp 10 place * powerDown 2 (exponent - 2))
    (quarters * powerUp 2 (exponent - 2) * powerDown 10 place)

/-- The lower end of the numbers that round to a double, in quarters of its last binary place. -/
def lowerQuarters (x : Binary64) : Nat :=
  if x.significand = leastFullSignificand ∧ x.exponent > leastExponent then
    4 * x.significand - 1
  else 4 * x.significand - 2

/-- The upper end of the numbers that round to a double, in quarters of its last binary place. -/
def upperQuarters (x : Binary64) : Nat := 4 * x.significand + 2

/-- Whether `count * 10 ^ place` rounds to a double; the ends count where the significand is
even. -/
def leadsBack (x : Binary64) (count : Nat) (place : Int) : Bool :=
  let low := compareWith count place x.lowerQuarters x.exponent
  let high := compareWith count place x.upperQuarters x.exponent
  let even := x.significand % 2 = 0
  (low = .gt || (even && low = .eq)) && (high = .lt || (even && high = .eq))

/-- The greatest multiple of `10 ^ place` that is not above a double. -/
def floorAt (x : Binary64) (place : Int) : Nat :=
  x.significand * powerUp 2 x.exponent * powerDown 10 place /
    (powerDown 2 x.exponent * powerUp 10 place)

/-- Whether a double is at least as near to the next multiple of `10 ^ place` as to the one below
it. -/
def isNearAbove (x : Binary64) (count : Nat) (place : Int) : Bool :=
  compareWith (2 * count + 1) place (8 * x.significand) x.exponent ≠ .gt

/-- The multiple of `10 ^ place` that leads back to a double and is nearest to it; of two that are
equally near, the greater one. -/
def onGrid? (x : Binary64) (place : Int) : Option Nat :=
  let below := x.floorAt place
  let lowFits := x.leadsBack below place
  let highFits := x.leadsBack (below + 1) place
  if lowFits && highFits then some (if x.isNearAbove below place then below + 1 else below)
  else if lowFits then some below
  else if highFits then some (below + 1)
  else none

/-- The number of places before the point of a positive double, or minus the number of zeros after
it. -/
def places (x : Binary64) : Int :=
  let scaled := x.floorAt (-400)
  ((Nat.toDigits 10 scaled).length : Int) - 400

/-- The first grid, from so many digits on, that has a number leading back to a double. -/
def searchGrids (x : Binary64) (places : Int) : Nat → Nat → Option (Nat × Int)
  | 0, _ => none
  | more + 1, count =>
    let place := places - count
    match x.onGrid? place with
    | some digits => some (digits, place)
    | none => searchGrids x places more (count + 1)

/-- Digits without the zeros at their end. -/
def trimZeros (digits : List Char) : List Char := (digits.reverse.dropWhile (· == '0')).reverse

/-- The fewest decimal digits that lead back to a double, and of those the nearest. Seventeen are
always enough. -/
def shortest (x : Binary64) : Digits :=
  match x.searchGrids x.places 17 1 with
  | some (count, place) =>
    let digits := Nat.toDigits 10 count
    { digits := trimZeros digits, point := digits.length + place }
  | none => { digits := [], point := 0 }

end Binary64

/-- Digits written out in full, with a point and at least one digit on both sides of it. -/
def Digits.positional (x : Digits) : List Char :=
  if x.digits.isEmpty then ['0', '.', '0']
  else if x.point ≤ 0 then
    '0' :: '.' :: (List.replicate (-x.point).toNat '0' ++ x.digits)
  else
    let point := x.point.toNat
    let zeros := List.replicate (point - x.digits.length) '0'
    let fraction := x.digits.drop point
    x.digits.take point ++ zeros ++ '.' :: (if fraction.isEmpty then ['0'] else fraction)

end LocaleRelay.Decimal

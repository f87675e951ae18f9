import PropertyInsertion.Double.Basic
import PropertyInsertion.Text.Basic

/-!
# Doubles as decimals

A double is written with the fewest digits that no other double is nearer to, and of those with the
nearest ones.
-/

namespace PropertyInsertion.Double

/-- The number `digits * 10 ^ exponent`. -/
structure Decimal where
  digits : Nat
  exponent : Int
deriving DecidableEq, Repr

/-- The ends of the interval of numbers that round to a double, times four over its last binary
digit. -/
def bounds (value : Double) : Nat × Nat :=
  let quarters := 4 * value.significand
  let narrow := value.significand == Nat.pow 2 (precision - 1) && leastExponent < value.exponent
  (if narrow then quarters - 1 else quarters - 2, quarters + 2)

/-- A decimal rounds to the double. The ends of the interval do so if the significand is even. -/
def readsBack (value : Double) (decimal : Decimal) : Bool :=
  let quarters :=
    ((Ratio.mk decimal.digits 1).scale 10 decimal.exponent).scale 2 (2 - value.exponent)
  let (low, high) := value.bounds
  if value.significand % 2 == 0 then
    low * quarters.den ≤ quarters.num && quarters.num ≤ high * quarters.den
  else low * quarters.den < quarters.num && quarters.num < high * quarters.den

/-- The exponent of the first decimal digit of a quotient. -/
def leadingExponent (ratio : Ratio) : Int :=
  let guess : Int := ((Nat.toDigits 10 ratio.num).length : Int) - (Nat.toDigits 10 ratio.den).length
  if 0 < (ratio.scale 10 (-guess)).floor then guess else guess - 1

/-- The best decimal with so many digits that rounds to the double. Of two that are equally near, the
even one is taken. -/
def nearest? (value : Double) (count : Nat) : Option Decimal :=
  let exponent := leadingExponent value.ratio - (count - 1 : Nat)
  let units := value.ratio.scale 10 (-exponent)
  let below : Decimal := ⟨units.floor, exponent⟩
  let above : Decimal := ⟨units.floor + 1, exponent⟩
  let ordered := if units.round = units.floor then [below, above] else [above, below]
  ordered.find? value.readsBack

/-- The most digits that a double needs. -/
def mostDigits : Nat := 17

def shortest? (value : Double) : Option Decimal :=
  (List.range mostDigits).findSome? fun count => value.nearest? (count + 1)

/-- The digits of a decimal without the zeros at their end, and the exponent of the first. -/
def Decimal.parts (decimal : Decimal) : Text × Int :=
  let digits := Nat.toDigits 10 decimal.digits
  ((digits.reverse.dropWhile (· == '0')).reverse, decimal.exponent + (digits.length - 1 : Nat))

/-- Exponents of the first digit at which a number is written without an exponent. -/
def isPlain (exponent : Int) : Bool :=
  -5 ≤ exponent && exponent ≤ 15

/-- Digits with a point between them. There is a digit on both sides of the point. -/
def pointed (digits : Text) (exponent : Int) : Text :=
  let size := exponent.natAbs
  if exponent < 0 then '0' :: '.' :: List.replicate (size - 1) '0' ++ digits
  else if digits.length ≤ size + 1 then
    digits ++ List.replicate (size + 1 - digits.length) '0' ++ ['.', '0']
  else digits.take (size + 1) ++ '.' :: digits.drop (size + 1)

/-- Digits and an exponent, which always has a sign. -/
def scientific (digits : Text) (exponent : Int) : Text :=
  digits.take 1 ++ (if digits.length ≤ 1 then [] else '.' :: digits.drop 1) ++
    ['e', if exponent < 0 then '-' else '+'] ++ Nat.toDigits 10 exponent.natAbs

def toText (value : Double) : Text :=
  let sign := if value.negative then ['-'] else []
  match if value.isZero then none else value.shortest? with
  | none => sign ++ ['0', '.', '0']
  | some decimal =>
    let (digits, exponent) := decimal.parts
    sign ++ if isPlain exponent then pointed digits exponent else scientific digits exponent

end PropertyInsertion.Double

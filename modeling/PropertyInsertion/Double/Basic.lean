/-!
# Doubles

Numbers that are not whole are kept as doubles: 53 binary digits and an exponent. Every operation is
exact and then rounds to the nearest double.
-/

namespace PropertyInsertion

/-- The number `significand * 2 ^ exponent`, with a sign that zero has too. The significand has 53
binary digits, or fewer of them at the least exponent. -/
structure Double where
  negative : Bool
  significand : Nat
  exponent : Int
deriving DecidableEq, Repr

/-- A quotient of two natural numbers. -/
structure Ratio where
  num : Nat
  den : Nat
deriving DecidableEq, Repr

namespace Ratio

/-- The quotient times a power of a base. -/
def scale (ratio : Ratio) (base : Nat) (exponent : Int) : Ratio :=
  if 0 ≤ exponent then ⟨ratio.num * Nat.pow base exponent.natAbs, ratio.den⟩
  else ⟨ratio.num, ratio.den * Nat.pow base exponent.natAbs⟩

def floor (ratio : Ratio) : Nat := ratio.num / ratio.den

/-- The nearest natural number. A half goes to the even neighbour. -/
def round (ratio : Ratio) : Nat :=
  let below := ratio.floor
  let rest := 2 * (ratio.num % ratio.den)
  if rest < ratio.den ∨ (rest = ratio.den ∧ below % 2 = 0) then below else below + 1

theorem scale_zero (ratio : Ratio) (base : Nat) : ratio.scale base 0 = ratio := by
  simp [scale]

theorem round_whole (n : Nat) : round ⟨n, 1⟩ = n := by
  simp [round, floor, Nat.mod_one]

end Ratio

namespace Double

def precision : Nat := 53

def leastExponent : Int := -1074

def greatestExponent : Int := 971

def zero (negative : Bool) : Double := ⟨negative, 0, leastExponent⟩

def isZero (value : Double) : Bool := value.significand == 0

/-- The exponent at which a quotient has 53 binary digits in front of the point. -/
def exponentOf (ratio : Ratio) : Int :=
  let guess : Int := (ratio.num.log2 : Int) - ratio.den.log2 - precision
  let exact := if (ratio.scale 2 (-guess)).floor < Nat.pow 2 precision then guess else guess + 1
  max exact leastExponent

/-- The double nearest to a quotient; none if that is too great for a double. -/
def ofRatio? (negative : Bool) (ratio : Ratio) : Option Double :=
  if ratio.num = 0 then some (zero negative)
  else
    let exponent := exponentOf ratio
    let significand := (ratio.scale 2 (-exponent)).round
    let value : Double :=
      if significand = Nat.pow 2 precision then
        ⟨negative, Nat.pow 2 (precision - 1), exponent + 1⟩
      else ⟨negative, significand, exponent⟩
    if greatestExponent < value.exponent then none else some value

/-- The size of a double, as an exact quotient. -/
def ratio (value : Double) : Ratio :=
  (Ratio.mk value.significand 1).scale 2 value.exponent

def mul? (a b : Double) : Option Double :=
  ofRatio? (a.negative != b.negative)
    ⟨a.ratio.num * b.ratio.num, a.ratio.den * b.ratio.den⟩

def div? (a b : Double) : Option Double :=
  ofRatio? (a.negative != b.negative)
    ⟨a.ratio.num * b.ratio.den, a.ratio.den * b.ratio.num⟩

end Double

end PropertyInsertion

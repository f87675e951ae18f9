import PropertyInsertion.Double.Basic
import PropertyInsertion.Text.Basic

/-!
# Doubles from decimals

A decimal is read in steps that each round: as many digits as fit in 64 bits, and a power of ten, by
which they are multiplied or divided.
-/

namespace PropertyInsertion.Double

/-- A significand with digits behind it, as many as fit in 64 bits, and the digits left. -/
def takeDigits (significand : Nat) : Text → Nat × Text
  | [] => (significand, [])
  | c :: rest =>
    let longer := significand * 10 + (c.toNat - '0'.toNat)
    if Nat.pow 2 64 ≤ longer then (significand, c :: rest) else takeDigits longer rest

/-- The greatest power of ten that is a double. -/
def greatestPower : Nat := 308

def powerOfTen? (exponent : Nat) : Option Double :=
  ofRatio? false ⟨Nat.pow 10 exponent, 1⟩

/-- The value divided by the greatest power of ten, so often. -/
def shrink? (value : Double) : Nat → Option Double
  | 0 => some value
  | count + 1 => do
    if value.isZero then return value
    shrink? (← value.div? (← powerOfTen? greatestPower)) count

/-- The double for `significand * 10 ^ exponent`; none if it is too great for one. -/
def ofDecimal? (negative : Bool) (significand : Nat) (exponent : Int) : Option Double := do
  let value ← ofRatio? negative ⟨significand, 1⟩
  if value.isZero then return value
  let size := exponent.natAbs
  if 0 ≤ exponent then
    if greatestPower < size then none else value.mul? (← powerOfTen? size)
  else
    let count := if size = 0 then 0 else (size - 1) / greatestPower
    let value ← value.shrink? count
    value.div? (← powerOfTen? (size - count * greatestPower))

end PropertyInsertion.Double

import PropertyInsertion.Toml.Quoted

/-!
# TOML numbers

Integers are decimal with an optional sign, or hexadecimal, octal or binary without one. Underscores
may stand between digits. Integers fit in 128 bits, and floats in a double.
-/

namespace PropertyInsertion.Toml

def isDigitBelow (base : Nat) (c : Char) : Bool :=
  (Text.hexDigit? c).any (· < base)

/-- Digits, with single underscores only between two of them. -/
def areDigits (base : Nat) (text : Text) : Bool :=
  (text.splitOn '_').all fun part => !part.isEmpty && part.all (isDigitBelow base)

def digitsValue (base : Nat) (text : Text) : Nat :=
  (text.filter (· != '_')).foldl (fun n c => n * base + (Text.hexDigit? c).getD 0) 0

def splitSign : Text → Bool × Text
  | '-' :: rest => (true, rest)
  | '+' :: rest => (false, rest)
  | text => (false, text)

/-- Decimal digits with no zero in front of another digit. -/
def isWhole (text : Text) : Bool :=
  areDigits 10 text && (text.head? != some '0' || text.length == 1)

/-- The integers that can be told apart. -/
def fitsInteger (n : Int) : Bool :=
  -(Nat.pow 2 127 : Int) ≤ n && n < Nat.pow 2 128

def integer? (text : Text) : Option Int :=
  let unsigned (base : Nat) (digits : Text) : Option Int :=
    if areDigits base digits then some (digitsValue base digits) else none
  let number := match text with
    | '0' :: 'x' :: digits => unsigned 16 digits
    | '0' :: 'o' :: digits => unsigned 8 digits
    | '0' :: 'b' :: digits => unsigned 2 digits
    | _ =>
      let (negative, digits) := splitSign text
      if isWhole digits then
        some (if negative then -(digitsValue 10 digits : Int) else digitsValue 10 digits)
      else none
  number.filter fitsInteger

/-- The least decimal that is nearer to `2 ^ 1024` than to the greatest double. -/
def floatLimit : Nat := Nat.pow 2 1024 - Nat.pow 2 970

/-- The number `digits * 10 ^ exponent` rounds to a finite double. -/
def fitsFloat (digits : Nat) (exponent : Int) : Bool :=
  let size : Int := (Nat.toDigits 10 digits).length + exponent
  if digits = 0 ∨ size < 300 then true
  else if 400 < size then false
  else if exponent < 0 then digits < floatLimit * Nat.pow 10 exponent.natAbs
  else digits * Nat.pow 10 exponent.natAbs < floatLimit

def exponent? (text : Text) : Option Int :=
  let (negative, digits) := splitSign text
  if areDigits 10 digits then
    some (if negative then -(digitsValue 10 digits : Int) else digitsValue 10 digits)
  else none

/-- The text spells a float: a point or an exponent, or both, behind a whole number; or infinity or
no number. -/
def isFloat (text : Text) : Bool :=
  let (_, unsigned) := splitSign text
  if unsigned = ['i', 'n', 'f'] ∨ unsigned = ['n', 'a', 'n'] then true
  else
    let mantissa := unsigned.takeWhile fun c => c != 'e' && c != 'E'
    let power := unsigned.drop mantissa.length
    let whole := mantissa.takeWhile (· != '.')
    let fraction := mantissa.drop whole.length
    let exponent := if power.isEmpty then some 0 else exponent? (power.drop 1)
    let digits := whole ++ fraction.drop 1
    isWhole whole && (fraction.isEmpty || areDigits 10 (fraction.drop 1)) &&
      !(fraction.isEmpty && power.isEmpty) &&
      exponent.any fun exponent =>
        fitsFloat (digitsValue 10 digits)
          (exponent - ((fraction.drop 1).filter (· != '_')).length)

end PropertyInsertion.Toml

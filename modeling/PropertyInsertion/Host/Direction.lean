import PropertyInsertion.Host.Table.Direction
import PropertyInsertion.Text.Basic

/-!
# Directions in domains

Where scripts of both directions meet, what a reader sees can differ from what is written. So if a
domain holds anything that is written from right to left, each of its labels has one direction and
starts and ends in it.
-/

namespace PropertyInsertion.Host

open Text.CodePoint

inductive Direction where
  | left
  | right
  /-- Digits that are used with both directions. -/
  | digit
  /-- Digits that are used from right to left only. -/
  | arabicDigit
  /-- Signs without a direction. -/
  | neutral
  | nonspacing
deriving DecidableEq, Repr

namespace Direction

def ofChar (c : Char) : Direction :=
  if c.toNat < 0x80 then
    if c.isAlpha then .left else if c.isDigit then .digit else .neutral
  else if inSpans Table.rightToLeft c.toNat then .right
  else if inSpans Table.arabicDigits c.toNat then .arabicDigit
  else if inSpans Table.europeanDigits c.toNat then .digit
  else if inSpans Table.neutral c.toNat then .neutral
  else if inSpans Table.nonspacing c.toNat then .nonspacing
  else .left

/-- Written from right to left. -/
def isRight : Direction → Bool
  | .right | .arabicDigit => true
  | _ => false

/-- A label may end in this direction, if it starts to the left or to the right. -/
def mayEnd (left : Bool) : Direction → Bool
  | .left => left
  | .right | .arabicDigit => !left
  | .digit => true
  | .neutral | .nonspacing => false

/-- A label may hold this direction, if it starts to the left or to the right. -/
def mayStand (left : Bool) : Direction → Bool
  | .left => left
  | .right | .arabicDigit => !left
  | .digit | .neutral | .nonspacing => true

/-- The directions of a label go together. It starts with a letter, ends with a letter or digit that
only nonspacing marks follow, and does not mix two sorts of digits from right to left. -/
def agree : List Direction → Bool
  | [] => true
  | first :: rest =>
    let left := first == .left
    let core := ((first :: rest).reverse.dropWhile (· == .nonspacing))
    (left || first == .right) && (first :: rest).all (mayStand left) &&
      core.head?.any (mayEnd left) &&
      (left || !(rest.contains .digit && rest.contains .arabicDigit))

end Direction

/-- The directions of a domain's labels are sound. -/
def directionsAgree (labels : List Text) : Bool :=
  let directions := labels.map (·.map Direction.ofChar)
  !(directions.any (·.any Direction.isRight)) || directions.all Direction.agree

end PropertyInsertion.Host

import PropertyInsertion.Host.Table.Mapping
import PropertyInsertion.Text.Hex

/-!
# Mapping the characters of domains

A domain is read without regard to case and to the many forms that some characters have. Each of its
characters stays, is replaced, is left out, or makes the domain no domain.
-/

namespace PropertyInsertion.Host

open Text.CodePoint

def isAscii (c : Char) : Bool :=
  c.toNat < 0x80

/-- Characters of ASCII that no host may hold. -/
def isForbidden (c : Char) : Bool :=
  ['\x00', '\t', '\n', '\r', ' ', '#', '/', ':', '<', '>', '?', '@', '[', '\\', ']', '^',
    '|'].contains c

/-- Characters of ASCII that no domain may hold. -/
def isForbiddenInDomain (c : Char) : Bool :=
  isForbidden c || c.toNat < 0x20 || c.toNat == 0x7F || c == '%'

def Table.Run.target? (run : Run) (code : Nat) : Option Nat :=
  if run.first ≤ code ∧ code ≤ run.last ∧ (code - run.first) % run.stride = 0 then
    some (run.target + (code - run.first))
  else none

/-- A row of hexadecimal numbers: a code point, and those that replace it. -/
def Table.entry? (row : Text) : Option (Nat × Text) :=
  match (row.splitOn ' ').mapM Text.hexNumber? with
  | some (code :: replacement) => some (code, replacement.map Char.ofNat)
  | _ => none

def Table.replacements : List (Nat × Text) :=
  replacementRows.flatMap fun row => (row.toList.splitOn ',').filterMap entry?

/-- What becomes of a character outside ASCII. -/
def mapOther? (c : Char) : Option Text :=
  let code := c.toNat
  if inSpans Table.refused code then none
  else if inSpans Table.leftOut code then some []
  else
    match Table.runs.findSome? (·.target? code) with
    | some target => some [Char.ofNat target]
    | none => some ((Table.replacements.lookup code).getD [c])

/-- What becomes of a character of a domain. -/
def map? (c : Char) : Option Text :=
  if isAscii c then some [c.toLower] else mapOther? c

/-- The character stands in a domain as it is. -/
def isPlain (c : Char) : Bool :=
  map? c == some [c] && !isForbiddenInDomain c

end PropertyInsertion.Host

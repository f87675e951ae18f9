import PropertyInsertion.Host.Direction
import PropertyInsertion.Host.Joining
import PropertyInsertion.Host.Mapping
import PropertyInsertion.Host.Punycode

/-!
# Domains

Dots divide a domain into labels. The normal form of a domain is ASCII: each label that is not ASCII
is encoded, behind a mark that no other label starts with.
-/

namespace PropertyInsertion.Host

open Text.CodePoint

/-- What an encoded label starts with. -/
def encodedMark : Text := ['x', 'n', '-', '-']

def longestEncoding : Nat := 2000

def longestLabel : Nat := 1000

/-- A mark outside ASCII, which no label starts with. -/
def isMark (c : Char) : Bool :=
  !isAscii c && (inSpans mark c.toNat || inSpans Table.recentMarks c.toNat)

/-- The label behind an encoded one. It is not ASCII, and is in the form that mapping gives. -/
def decodeLabel? (encoded : Text) : Option Text := do
  if longestEncoding < encoded.length then none
  let label ← Punycode.decode? encoded
  if label.all isAscii || label.contains '.' || !label.all isPlain || compose label != label then
    none
  return label

/-- The label that is meant by one of a mapped domain. -/
def label? (written : Text) : Option Text := do
  let label ←
    if encodedMark.isPrefixOf written then decodeLabel? (written.drop encodedMark.length)
    else some written
  let startsWithMark := label.head?.any isMark
  let tooLong := !label.all isAscii && longestLabel < label.length
  if startsWithMark || !joinersAgree [] label || tooLong then none
  return label

def writeLabel (label : Text) : Text :=
  if label.all isAscii then label else encodedMark ++ Punycode.encode label

/-- The normal form of a domain. -/
def domain? (text : Text) : Option Text := do
  let mapped := compose (← text.mapM map?).flatten
  if mapped.any isForbiddenInDomain then none
  let labels ← (mapped.splitOn '.').mapM label?
  if !directionsAgree labels then none
  return List.intercalate ['.'] (labels.map writeLabel)

end PropertyInsertion.Host

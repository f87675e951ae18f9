import PropertyInsertion.Text.Hex

/-!
# Addresses

A host can be an address: four bytes, or eight groups of 16 bits in brackets. Addresses of four bytes
are read leniently, and both kinds have one written form.
-/

namespace PropertyInsertion.Host

def ofDigits? (base : Nat) (digits : Text) : Option Nat :=
  digits.foldlM (fun n c =>
    ((Text.hexDigit? c).filter (· < base)).map (n * base + ·)) 0

/-- A number of an address: hexadecimal behind `0x`, octal behind `0`, else decimal. -/
def number? : Text → Option Nat
  | [] => none
  | '0' :: 'x' :: digits => ofDigits? 16 digits
  | '0' :: 'X' :: digits => ofDigits? 16 digits
  | '0' :: digits => ofDigits? 8 digits
  | digits => ofDigits? 10 digits

def isNumber (text : Text) : Bool :=
  (!text.isEmpty && text.all Char.isDigit) || (number? text).isSome

/-- The parts of a domain; a dot at its end divides nothing. -/
def parts (domain : Text) : List Text :=
  let parts := domain.splitOn '.'
  if 1 < parts.length ∧ parts.getLast? = some [] then parts.dropLast else parts

/-- A domain that ends in a number has to be an address. -/
def endsInNumber (domain : Text) : Bool :=
  (parts domain).getLast?.any isNumber

def decimal (n : Nat) : Text :=
  Nat.toDigits 10 n

/-- The bytes of an address in place of which numbers stand. The last number stands for all bytes that
are left. -/
def bytes? (numbers : List Nat) : Option (List Nat) :=
  match numbers.reverse with
  | [] => none
  | last :: front =>
    let left := 4 - front.length
    if 4 < numbers.length ∨ front.any (255 < ·) ∨ Nat.pow 256 left ≤ last then none
    else some (front.reverse ++ ((List.range left).map fun i => last / Nat.pow 256 i % 256).reverse)

/-- The written form of an address of four bytes. -/
def shortAddress? (domain : Text) : Option Text := do
  let bytes ← bytes? (← (parts domain).mapM number?)
  return List.intercalate ['.'] (bytes.map decimal)

/-- A byte in decimal digits without leading zeros. -/
def byte? (digits : Text) : Option Nat :=
  if digits.isEmpty ∨ !digits.all Char.isDigit ∨ (1 < digits.length ∧ digits.head? = some '0') then
    none
  else (ofDigits? 10 digits).filter (· ≤ 255)

/-- Four bytes as two groups. -/
def dottedGroups? (text : Text) : Option (List Nat) :=
  match (text.splitOn '.').mapM byte? with
  | some [a, b, c, d] => some [a * 256 + b, c * 256 + d]
  | _ => none

def group? (digits : Text) : Option Nat :=
  if digits.isEmpty ∨ 4 < digits.length then none else ofDigits? 16 digits

/-- Groups that colons divide; `dotted` says whether the last two may be written as four bytes. -/
def groups? (dotted : Bool) (text : Text) : Option (List Nat) := do
  if text.isEmpty then return []
  let pieces := text.splitOn ':'
  let front ← pieces.dropLast.mapM group?
  let last := pieces.getLast?.getD []
  if dotted && last.contains '.' then return front ++ (← dottedGroups? last)
  return front ++ [← group? last]

def groupCount : Nat := 8

/-- The groups of an address. Two colons stand for zeros, for one group at least. -/
def longAddress? (text : Text) : Option (List Nat) :=
  match Text.cut? [':', ':'] text with
  | some (before, after) => do
    let front ← groups? false before
    let back ← groups? true after
    let given := front.length + back.length
    if groupCount ≤ given then none
    return front ++ List.replicate (groupCount - given) 0 ++ back
  | none => (groups? true text).filter (·.length == groupCount)

/-- How many zeros stand at the front. -/
def zeros (groups : List Nat) : Nat :=
  (groups.takeWhile (· == 0)).length

/-- Where the longest run of zeros starts and how long it is; of several the first. -/
def longestZeros (groups : List Nat) : Nat × Nat :=
  (List.range groups.length).foldl (fun best start =>
    let run := zeros (groups.drop start)
    if best.2 < run then (start, run) else best) (0, 0)

def writeGroups (groups : List Nat) : Text :=
  List.intercalate [':'] (groups.map (Nat.toDigits 16))

/-- The written form of eight groups. Two colons take the place of the longest run of zeros, unless it
is a single one. -/
def writeLongAddress (groups : List Nat) : Text :=
  let (start, run) := longestZeros groups
  if run < 2 then writeGroups groups
  else writeGroups (groups.take start) ++ [':', ':'] ++ writeGroups (groups.drop (start + run))

end PropertyInsertion.Host

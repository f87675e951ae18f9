import PropertyInsertion.Text.Read

/-!
# Punycode

A label that is not ASCII is written in ASCII: first its ASCII characters, then a dash if there are
any, then a number for each other character. The numbers go by the order of the characters' code
points, and each says how far the place of its character lies behind that of the one before. Digits
are those of base 36; how many values a digit leaves for the digits behind it depends on the numbers
written so far.
-/

namespace PropertyInsertion.Host.Punycode

def base : Nat := 36

def firstCode : Nat := 0x80

def firstBias : Nat := 72

/-- Letters are the digits below 26, and the decimal digits stand for ten more. -/
def digit (value : Nat) : Char :=
  if value < 26 then Char.ofNat ('a'.toNat + value) else Char.ofNat ('0'.toNat + (value - 26))

def digit? (c : Char) : Option Nat :=
  if 'a' ≤ c ∧ c ≤ 'z' then some (c.toNat - 'a'.toNat)
  else if c.isDigit then some (c.toNat - '0'.toNat + 26)
  else none

/-- A digit below the threshold of its place is the last of its number. -/
def threshold (bias place : Nat) : Nat :=
  min 26 (max 1 (place - bias))

theorem threshold_pos (bias place : Nat) : 0 < threshold bias place := by
  unfold threshold
  omega

/-- The bias for a number of the size of `delta`. -/
def settle (places delta : Nat) : Nat :=
  if 455 < delta then settle (places + base) (delta / 35)
  else places + base * delta / (delta + 38)
termination_by delta
decreasing_by exact Nat.div_lt_self (by omega) (by decide)

/-- The bias behind a number, with `size` characters written so far. -/
def adapt (delta size : Nat) (first : Bool) : Nat :=
  let scaled := if first then delta / 700 else delta / 2
  settle 0 (scaled + scaled / size)

/-- The digits of a number, the lowest first. -/
def number (bias place n : Nat) : Text :=
  let t := threshold bias place
  if n < t then [digit n]
  else digit (t + (n - t) % (base - t)) :: number bias (place + base) ((n - t) / (base - t))
termination_by n
decreasing_by
  have := threshold_pos bias place
  exact Nat.lt_of_le_of_lt (Nat.div_le_self _ _) (by omega)

/-- A number read off the front of a text. Numbers have 32 bits. -/
def number? (bias : Nat) (place weight : Nat) : (text : Text) → Option (Read Nat text)
  | [] => none
  | c :: rest => do
    let value ← digit? c
    let t := threshold bias place
    if value < t then return ⟨value * weight, rest, by simp⟩
    if Nat.pow 2 32 ≤ weight * (base - t) then none
    let ⟨more, last, _⟩ ← number? bias (place + base) (weight * (base - t)) rest
    return ⟨value * weight + more, last, by simp only [List.length_cons]; omega⟩

/-- What has been written of a label. -/
structure Draft where
  written : Text
  /-- How many places have been passed since the last written character. -/
  delta : Nat := 0
  bias : Nat := firstBias
  /-- How many characters have been written. -/
  size : Nat

/-- The pass over one character of the label in search of those with a code point. -/
def Draft.pass (basic code : Nat) (draft : Draft) (c : Char) : Draft :=
  if c.toNat < code then { draft with delta := draft.delta + 1 }
  else if c.toNat = code then
    { written := draft.written ++ number draft.bias base draft.delta
      bias := adapt draft.delta (draft.size + 1) (draft.size == basic)
      size := draft.size + 1 }
  else draft

/-- The characters with the listed code points written, one pass over the label for each. -/
def Draft.write (label : Text) (basic next : Nat) : List Nat → Draft → Draft
  | [], draft => draft
  | code :: codes, draft =>
    let reached := { draft with delta := draft.delta + (code - next) * (draft.size + 1) }
    let passed := label.foldl (Draft.pass basic code) reached
    Draft.write label basic (code + 1) codes { passed with delta := passed.delta + 1 }

/-- The code points outside ASCII of a label, each once, in increasing order. -/
def codes (label : Text) : List Nat :=
  ((label.map Char.toNat).filter (firstCode ≤ ·)).mergeSort.eraseDups

def encode (label : Text) : Text :=
  let basic := label.filter (·.toNat < firstCode)
  let start : Draft :=
    { written := if basic.isEmpty then [] else basic ++ ['-'], size := basic.length }
  (start.write label basic.length firstCode (codes label)).written

/-- The characters that the numbers of a text stand for, put into the label read so far. -/
def insert? (bias code place : Nat) (first : Bool) (label : Text) (text : Text) : Option Text :=
  if text.isEmpty then some label
  else do
    let ⟨delta, rest, _⟩ ← number? bias base 1 text
    let size := label.length + 1
    let code := code + (place + delta) / size
    let place := (place + delta) % size
    if !code.isValidChar then none
    insert? (adapt delta size first) code (place + 1) false
      (label.insertIdx place (Char.ofNat code)) rest
termination_by text.length

/-- The label that a text encodes. The last dash ends its ASCII characters, if there are any. -/
def decode? (text : Text) : Option Text :=
  let numbers := (text.reverse.takeWhile (· != '-')).reverse
  let basic := text.take (text.length - numbers.length - 1)
  if basic.any (firstCode ≤ ·.toNat) then none
  else insert? firstBias firstCode 0 true basic (if basic.isEmpty then text else numbers)

end PropertyInsertion.Host.Punycode

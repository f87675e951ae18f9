import PropertyInsertion.Host.Table.Composition
import PropertyInsertion.Text.Basic

/-!
# Composed characters

A character with marks can often be written in several ways. In composed form marks stand in a fixed
order, and a character and its marks are one character wherever there is one.
-/

namespace PropertyInsertion.Host

open Text.CodePoint

/-- The combining class of a mark; other characters are of class zero. -/
def combiningClass (c : Char) : Nat :=
  ((Table.combiningClasses.find? fun entry => inSpans entry.2 c.toNat).map Prod.fst).getD 0

namespace Hangul

/-- Where the syllables start, and the three sorts of letters they are made of. -/
def syllables : Nat := 0xAC00

def leads : Nat := 0x1100

def vowels : Nat := 0x1161

/-- The place in front of the first tail: a syllable without a tail has this one. -/
def tails : Nat := 0x11A7

def vowelCount : Nat := 21

def tailCount : Nat := 28

def syllableCount : Nat := 19 * vowelCount * tailCount

/-- A syllable as its letters. -/
def split? (c : Char) : Option Text :=
  let n := c.toNat - syllables
  if syllables ≤ c.toNat ∧ n < syllableCount then
    let lead := Char.ofNat (leads + n / (vowelCount * tailCount))
    let vowel := Char.ofNat (vowels + n % (vowelCount * tailCount) / tailCount)
    let tail := if n % tailCount = 0 then [] else [Char.ofNat (tails + n % tailCount)]
    some (lead :: vowel :: tail)
  else none

/-- A syllable made of a lead and a vowel, or of a syllable without a tail and a tail. -/
def join? (first second : Char) : Option Char :=
  let lead := first.toNat - leads
  let vowel := second.toNat - vowels
  let n := first.toNat - syllables
  let tail := second.toNat - tails
  if leads ≤ first.toNat ∧ lead < 19 ∧ vowels ≤ second.toNat ∧ vowel < vowelCount then
    some (Char.ofNat (syllables + (lead * vowelCount + vowel) * tailCount))
  else if syllables ≤ first.toNat ∧ n < syllableCount ∧ n % tailCount = 0 ∧
      tails < second.toNat ∧ tail < tailCount then
    some (Char.ofNat (first.toNat + tail))
  else none

end Hangul

/-- One character for two. -/
def join? (first second : Char) : Option Char :=
  match Hangul.join? first second with
  | some c => some c
  | none =>
    (Table.compositions.find? fun entry => entry.2 == (first.toNat, second.toNat)).map
      (Char.ofNat ·.1)

/-- A character as one without marks and its marks. No character has more than `depth` of them. -/
def split (depth : Nat) (c : Char) : Text :=
  match depth, Table.compositions.lookup c.toNat with
  | depth + 1, some (first, second) => split depth (Char.ofNat first) ++ [Char.ofNat second]
  | _, _ => (Hangul.split? c).getD [c]

def mostMarks : Nat := 4

/-- A mark put among the marks that follow it. Marks of one class keep their order. -/
def insertMark (c : Char) : Text → Text
  | [] => [c]
  | d :: rest =>
    if 0 < combiningClass d ∧ combiningClass d < combiningClass c then d :: insertMark c rest
    else c :: d :: rest

/-- Marks behind a character stand in the order of their classes. -/
def orderMarks (text : Text) : Text :=
  text.foldr insertMark []

/-- Marks joined to the character `first`. Those that stay stand in `marks`, the last one first, and a
mark does not pass one of its own class or a higher one. -/
def joinFrom (first : Char) (marks : Text) : Text → Text
  | [] => first :: marks.reverse
  | c :: rest =>
    let blocked := marks.head?.any fun mark => combiningClass c ≤ combiningClass mark
    match if blocked then none else join? first c with
    | some joined => joinFrom joined marks rest
    | none =>
      if combiningClass c = 0 then first :: marks.reverse ++ joinFrom c [] rest
      else joinFrom first (c :: marks) rest

/-- Marks in front of the first character without a class stay as they are. -/
def joinMarks : Text → Text
  | [] => []
  | c :: rest => if combiningClass c = 0 then joinFrom c [] rest else c :: joinMarks rest

/-- The composed form of a text. -/
def compose (text : Text) : Text :=
  if text.all (·.toNat < 0x80) then text
  else joinMarks (orderMarks (text.flatMap (split mostMarks)))

end PropertyInsertion.Host

import PropertyInsertion.Text.Basic

/-!
# Positions

A position names a line and a column, both counted from zero. Columns count UTF-16 code units, so a
character outside the basic plane is two columns wide.
-/

namespace PropertyInsertion

/-- A place in a document: a line and a column in UTF-16 code units, both counted from zero. -/
structure Position where
  line : Nat
  column : Nat
deriving DecidableEq, Repr, Inhabited

structure Range where
  start : Position
  stop : Position
deriving DecidableEq, Repr, Inhabited

def Range.empty (place : Position) : Range := ⟨place, place⟩

/-- How many lines their numbers can tell apart: a line number has 32 bits. -/
def lineNumbers : Nat := Nat.pow 2 32

/-- The number of the line below, if lines have so many numbers. Below the line with the last number
comes the first one again. -/
def lineBelow (numbers line : Nat) : Nat :=
  (line + 1) % numbers

theorem lineBelow_eq {numbers line : Nat} (h : line + 1 < numbers) :
    lineBelow numbers line = line + 1 :=
  Nat.mod_eq_of_lt h

namespace Text

def columns (c : Char) : Nat :=
  if 0x10000 ≤ c.toNat then 2 else 1

/-- What the characters of a text measure together. -/
def total (measure : Char → Nat) : Text → Nat
  | [] => 0
  | c :: rest => measure c + total measure rest

def width (text : Text) : Nat :=
  text.total columns

/-- How many characters stand before a column. A column inside a wide character counts as behind
it, and a column past the end as the end. -/
def indexOfColumn : Nat → Text → Nat
  | 0, _ => 0
  | _ + 1, [] => 0
  | column + 1, c :: rest => indexOfColumn (column + 1 - columns c) rest + 1

theorem indexOfColumn_le_length (column : Nat) (text : Text) :
    indexOfColumn column text ≤ text.length := by
  induction text generalizing column with
  | nil => cases column <;> simp [indexOfColumn]
  | cons c rest ih =>
    cases column with
    | zero => simp [indexOfColumn]
    | succ column => simpa [indexOfColumn] using ih (column + 1 - columns c)

/-- The column behind the last character reaches all of the text. -/
theorem indexOfColumn_width (text : Text) : indexOfColumn (width text) text = text.length := by
  induction text with
  | nil => rfl
  | cons c rest ih =>
    have hwidth : width (c :: rest) = columns c + width rest := rfl
    have hpos : 0 < columns c := by unfold columns; split <;> decide
    obtain ⟨n, hn⟩ : ∃ n, columns c + width rest = n + 1 := ⟨columns c + width rest - 1, by omega⟩
    rw [hwidth, hn, indexOfColumn, ← hn, Nat.add_sub_cancel_left, ih, List.length_cons]

end Text

end PropertyInsertion

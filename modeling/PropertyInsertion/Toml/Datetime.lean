import PropertyInsertion.Toml.Number

/-!
# TOML dates and times

A date, a time, or both with an optional offset. The day has to exist; seconds may be left out and
may be 60.
-/

namespace PropertyInsertion.Toml

/-- The number that exactly `count` decimal digits at the front name, and what follows them. -/
def fixedDigits? (count : Nat) (text : Text) : Option (Nat × Text) :=
  let digits := text.take count
  if digits.length = count ∧ digits.all Char.isDigit then
    some (digitsValue 10 digits, text.drop count)
  else none

def behind? (c : Char) : Text → Option Text
  | d :: rest => if c = d then some rest else none
  | [] => none

def isLeapYear (year : Nat) : Bool :=
  year % 4 == 0 && (year % 100 != 0 || year % 400 == 0)

def daysInMonth (year month : Nat) : Nat :=
  if month = 2 then (if isLeapYear year then 29 else 28)
  else if month = 4 ∨ month = 6 ∨ month = 9 ∨ month = 11 then 30
  else 31

/-- What follows a date at the front. -/
def date? (text : Text) : Option Text := do
  let (year, rest) ← fixedDigits? 4 text
  let (month, rest) ← fixedDigits? 2 (← behind? '-' rest)
  let (day, rest) ← fixedDigits? 2 (← behind? '-' rest)
  if 1 ≤ month ∧ month ≤ 12 ∧ 1 ≤ day ∧ day ≤ daysInMonth year month then some rest else none

/-- What follows hours and minutes, an optional second and its fraction at the front. -/
def time? (text : Text) : Option Text := do
  let (hour, rest) ← fixedDigits? 2 text
  let (minute, rest) ← fixedDigits? 2 (← behind? ':' rest)
  if 23 < hour ∨ 59 < minute then none
  match rest with
  | ':' :: rest =>
    let (second, rest) ← fixedDigits? 2 rest
    if 60 < second then none
    match rest with
    | '.' :: rest =>
      let fraction := rest.takeWhile Char.isDigit
      if fraction.isEmpty then none else some (rest.drop fraction.length)
    | _ => some rest
  | _ => some rest

/-- What follows an offset at the front; there need not be one. -/
def offset? : Text → Option Text
  | 'Z' :: rest => some rest
  | 'z' :: rest => some rest
  | c :: rest =>
    if c = '+' ∨ c = '-' then do
      let (hour, rest) ← fixedDigits? 2 rest
      let (minute, rest) ← fixedDigits? 2 (← behind? ':' rest)
      if 23 < hour ∨ 59 < minute then none else some rest
    else some (c :: rest)
  | [] => some []

def isDateTimeSeparator (c : Char) : Bool :=
  c == 'T' || c == 't' || c == ' '

def isDatetime (text : Text) : Bool :=
  match date? text with
  | some [] => true
  | some (separator :: rest) =>
    isDateTimeSeparator separator && (time? rest >>= offset?).any List.isEmpty
  | none => (time? text).any List.isEmpty

end PropertyInsertion.Toml

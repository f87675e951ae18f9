import PropertyInsertion.Double.Decimal
import PropertyInsertion.Json.Basic
import PropertyInsertion.Text.Hex
import PropertyInsertion.Text.Read

/-!
# Reading JSON

Values are read off the front of a text. A text that is not one value with blanks around it has no
value.
-/

namespace PropertyInsertion.Json

def isBlank (c : Char) : Bool :=
  c == ' ' || c == '\t' || c == '\n' || c == '\r'

def skipBlanks (text : Text) : Text :=
  text.dropWhile isBlank

theorem skipBlanks_length (text : Text) : (skipBlanks text).length ≤ text.length :=
  (List.dropWhile_sublist _).length_le

/-- Escapes of one character and what they stand for. -/
def namedEscapes : List (Char × Char) :=
  [('"', '"'), ('\\', '\\'), ('/', '/'), ('b', '\x08'), ('f', '\x0c'), ('n', '\n'), ('r', '\r'),
    ('t', '\t')]

/-- The number that four hexadecimal digits at the front name. -/
def unit? (text : Text) : Option Nat :=
  if text.length < 4 then none
  else (text.take 4).foldlM (fun n c => (Text.hexDigit? c).map (n * 16 + ·)) 0

/-- The character that one or two code units name, read behind the first `\u`. A unit in the range
for pairs takes a second one. -/
def codedChar? (text : Text) : Option (Char × Text) := do
  let first ← unit? text
  let rest := text.drop 4
  if first < 0xD800 ∨ 0xDFFF < first then return (Char.ofNat first, rest)
  match rest with
  | '\\' :: 'u' :: rest =>
    let second ← unit? rest
    if first ≤ 0xDBFF ∧ 0xDC00 ≤ second ∧ second ≤ 0xDFFF then
      return (Char.ofNat (0x10000 + (first - 0xD800) * 0x400 + (second - 0xDC00)), rest.drop 4)
    else none
  | _ => none

theorem codedChar?_length {text rest : Text} {c : Char} (h : codedChar? text = some (c, rest)) :
    rest.length ≤ text.length := by
  simp only [codedChar?, Option.bind_eq_bind, Option.bind_eq_some_iff] at h
  obtain ⟨first, -, h⟩ := h
  split at h
  · obtain ⟨-, rfl⟩ := Prod.mk.inj (Option.some.inj h)
    simp
  split at h
  next tail htail =>
    obtain ⟨second, -, h⟩ := Option.bind_eq_some_iff.mp h
    have hdrop : (text.drop 4).length ≤ text.length := by simp
    rw [htail] at hdrop
    split at h
    · obtain ⟨-, rfl⟩ := Prod.mk.inj (Option.some.inj h)
      simp only [List.length_cons, List.length_drop] at hdrop ⊢
      omega
    · contradiction
  next => contradiction

/-- A string, read behind its opening quote. -/
def quoted? : (text : Text) → Option (Read Text text)
  | [] => none
  | '"' :: _ => some (.first [])
  | '\\' :: 'u' :: rest =>
    match h : codedChar? rest with
    | some (c, after) => do
      have := codedChar?_length h
      let read ← quoted? after
      return ((read.map (c :: ·)).within this).behind.behind
    | none => none
  | '\\' :: letter :: rest => do
    let c ← namedEscapes.lookup letter
    let read ← quoted? rest
    return (read.map (c :: ·)).behind.behind
  | c :: rest => do
    if c = '\\' ∨ c.toNat < 0x20 then none
    let read ← quoted? rest
    return (read.map (c :: ·)).behind
termination_by text => text.length

def digitsValue (digits : Text) : Nat :=
  digits.foldl (fun n c => n * 10 + (c.toNat - '0'.toNat)) 0

def exponent? (text : Text) : Option Int :=
  let (sign, digits) : Int × Text := match text with
    | '-' :: digits => (-1, digits)
    | '+' :: digits => (1, digits)
    | digits => (1, digits)
  if digits.isEmpty || !digits.all Char.isDigit then none else some (sign * digitsValue digits)

/-- A number without a point and an exponent, if it fits in 64 bits, with a sign if it is negative.
A negative zero does not. -/
def integer? (negative : Bool) (digits : Text) : Option Int :=
  let value := digitsValue digits
  if negative then if 0 < value ∧ value ≤ Nat.pow 2 63 then some (-value) else none
  else if value < Nat.pow 2 64 then some value else none

/-- The double that digits in front of a point and behind it spell, times a power of ten. -/
def float? (negative : Bool) (whole fraction : Text) (power : Int) : Option Double :=
  let (significand, left) := Double.takeDigits 0 whole
  let (significand, unused) := Double.takeDigits significand fraction
  let places := fraction.length - unused.length
  Double.ofDecimal? negative significand (power + left.length - places)

/-- A number. Digits stand in front of a point and behind it, and no zero in front of another digit. -/
def numberValue? (text : Text) : Option Json := do
  let (negative, unsigned) := match text with
    | '-' :: rest => (true, rest)
    | rest => (false, rest)
  let mantissa := unsigned.takeWhile fun c => c != 'e' && c != 'E'
  let power := unsigned.drop mantissa.length
  let whole := mantissa.takeWhile (· != '.')
  let fraction := mantissa.drop whole.length
  if whole.isEmpty || (whole.head? == some '0' && 1 < whole.length) then none
  if fraction.length == 1 || !(whole ++ fraction.drop 1).all Char.isDigit then none
  let exponent ← if power.isEmpty then some 0 else exponent? (power.drop 1)
  match if fraction.isEmpty && power.isEmpty then integer? negative whole else none with
  | some value => return .integer value
  | none => return .float (← float? negative whole (fraction.drop 1) exponent)

def isScalarChar (c : Char) : Bool :=
  c.isAlphanum || c == '-' || c == '+' || c == '.'

def scalar? (text : Text) : Option (Read Json text) := do
  let ⟨front, rest, h⟩ ← Text.run? isScalarChar text
  let value ←
    if front = ['n', 'u', 'l', 'l'] then some .null
    else if front = ['t', 'r', 'u', 'e'] then some (.bool true)
    else if front = ['f', 'a', 'l', 's', 'e'] then some (.bool false)
    else numberValue? front
  return ⟨value, rest, h⟩

/-- Items up to a closing character; `first` says whether the first is still to come. Commas divide
them. -/
def itemsUntil? {α : Type} (close : Char) (item? : (text : Text) → Option (Read α text))
    (first : Bool) (text : Text) : Option (Read (List α) text) :=
  match h : skipBlanks text with
  | [] => none
  | c :: rest =>
    have hblanks : (c :: rest).length ≤ text.length := h ▸ skipBlanks_length text
    if c = close then some ((Read.first []).within hblanks)
    else if first then do
      let item ← (item? (c :: rest)).map (·.within hblanks)
      have := item.shorter
      let items ← itemsUntil? close item? false item.rest
      return item.join List.cons items
    else if c = ',' then do
      let item ← (item? (skipBlanks rest)).map fun item =>
        (item.within (skipBlanks_length rest)).behind.within hblanks
      have := item.shorter
      let items ← itemsUntil? close item? false item.rest
      return item.join List.cons items
    else none
termination_by text.length

/-- A field: a string, a colon and a value that `item?` reads. -/
def fieldOf? (item? : (text : Text) → Option (Read Json text)) :
    (text : Text) → Option (Read (String × Json) text)
  | '"' :: rest => do
    let key ← quoted? rest
    match h : skipBlanks key.rest with
    | ':' :: after =>
      have hcolon : (':' :: after).length ≤ key.rest.length := h ▸ skipBlanks_length key.rest
      let value ← (item? (skipBlanks after)).map fun value =>
        (value.within (skipBlanks_length after)).behind.within hcolon
      return (key.join (fun key value => (String.ofList key, value)) value).behind
    | _ => none
  | _ => none

/-- Of neighbours with one key only the last. -/
def lastOfEach : List (String × Json) → List (String × Json)
  | [] => []
  | field :: rest =>
    if rest.head?.any (·.1 == field.1) then lastOfEach rest else field :: lastOfEach rest

/-- The fields of an object stand in the order of their keys. Of several with one key the last
counts. -/
def objectOf (fields : List (String × Json)) : Json :=
  .object (lastOfEach (fields.mergeSort (·.1 ≤ ·.1)))

/-- A value with at most `depth` brackets and braces around any of its parts. -/
def value? (depth : Nat) : (text : Text) → Option (Read Json text)
  | '"' :: rest =>
    (quoted? rest).map fun read =>
      (read.map fun text => .string (String.ofList text)).behind
  | '[' :: rest =>
    match depth with
    | 0 => none
    | depth + 1 =>
      (itemsUntil? ']' (value? depth) true rest).map fun read =>
        (read.map .array).behind
  | '{' :: rest =>
    match depth with
    | 0 => none
    | depth + 1 =>
      (itemsUntil? '}' (fieldOf? (value? depth)) true rest).map fun read =>
        (read.map objectOf).behind
  | text => scalar? text

/-- How deep arrays and objects may be nested. -/
def deepest : Nat := 127

def parse? (text : Text) : Option Json := do
  let read ← value? deepest (skipBlanks text)
  if (skipBlanks read.rest).isEmpty then some read.value else none

end PropertyInsertion.Json

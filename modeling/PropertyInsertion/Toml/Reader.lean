import PropertyInsertion.Toml.Datetime
import PropertyInsertion.Toml.Value

/-!
# Reading TOML

Keys and values are read off the front of a text, and a file is read line by line into its table.
A text that breaks any rule of TOML has no table at all.
-/

namespace PropertyInsertion.Toml

def isBareKeyChar (c : Char) : Bool :=
  c.isAlphanum || c == '_' || c == '-'

def isScalarChar (c : Char) : Bool :=
  c.isAlphanum || c == '_' || c == '-' || c == '+' || c == '.' || c == ':'

def keyPart? : (text : Text) → Option (Read Text text)
  | [] => none
  | '"' :: rest => (basic? rest).map (·.behind)
  | '\x27' :: rest => (literal? rest).map (·.behind)
  | c :: rest => Text.run? isBareKeyChar (c :: rest)

/-- A key with its parts, which dots divide. Blanks may stand around the dots. -/
def key? (text : Text) : Option (Read (List Text) text) := do
  let part ← keyPart? text
  match h : skipBlanks part.rest with
  | '.' :: after =>
    have hdot : ('.' :: after).length ≤ part.rest.length := h ▸ skipBlanks_length part.rest
    have hafter := skipBlanks_length after
    have := part.shorter
    let parts ← key? (skipBlanks after)
    return part.join List.cons ((parts.within hafter).behind.within hdot)
  | _ => return part.map ([·])
termination_by text.length
decreasing_by
  rw [List.length_cons] at hdot
  omega

def scalarValue? (written : Text) : Option Value :=
  if written = ['t', 'r', 'u', 'e'] then some (.boolean true)
  else if written = ['f', 'a', 'l', 's', 'e'] then some (.boolean false)
  else if isDatetime written then some (.datetime written)
  else if isFloat written then some (.float written)
  else (integer? written).map .integer

/-- A word, number or date. A single space may stand between a date and a time. -/
def scalar? (text : Text) : Option (Read Value text) := do
  let ⟨front, rest, _⟩ ← Text.run? isScalarChar text
  let alone : Option (Read Value text) :=
    (scalarValue? front).map fun value => ⟨value, rest, by omega⟩
  match h : rest with
  | ' ' :: digit :: more =>
    if digit.isDigit ∧ date? front = some [] then do
      have : rest.length = (digit :: more).length + 1 := by simp [h]
      let ⟨time, last, _⟩ ← Text.run? isScalarChar (digit :: more)
      let value ← scalarValue? (front ++ ' ' :: time)
      return ⟨value, last, by omega⟩
    else alone
  | _ => alone

/-- How many parts a key may have, and how many brackets and braces may stand around a value. -/
def deepest : Nat := 80

def boundedKey? (text : Text) : Option (Read (List Text) text) :=
  (key? text).filter (·.value.length ≤ deepest)

/-- A key, an equals sign and a value that `item?` reads; `braces` says whether they stand in
braces. -/
def keyValue? (braces : Bool) (item? : (text : Text) → Option (Read Value text)) (text : Text) :
    Option (Read (List Text × Value) text) := do
  let ⟨path, rest, _⟩ ← boundedKey? text
  match h : skipAround braces rest with
  | some ('=' :: after) =>
    have : after.length + 1 ≤ rest.length := by simpa using skipAround_length h
    match h' : skipAround braces after with
    | some next =>
      have := skipAround_length h'
      let ⟨value, last, _⟩ ← item? next
      return ⟨(path, value), last, by omega⟩
    | none => none
  | _ => none

/-- Items up to a closing character. Commas divide them, and one may follow the last. Blanks,
comments and line ends may stand anywhere between. -/
def itemsUntil? {α : Type} (close : Char) (item? : (text : Text) → Option (Read α text))
    (text : Text) : Option (Read (List α) text) :=
  match h : skipGaps false text with
  | none => none
  | some [] => none
  | some (c :: rest) =>
    have hgaps := skipGaps_length h
    if c = close then some ((Read.first []).within hgaps)
    else do
      let item ← item? (c :: rest)
      match h' : skipGaps false item.rest with
      | some (d :: last) =>
        have hafter := skipGaps_length h'
        if d = close then return (item.join List.cons ((Read.first []).within hafter)).within hgaps
        else if d = ',' then do
          have := item.shorter
          let items ← itemsUntil? close item? last
          return (item.join List.cons (items.behind.within hafter)).within hgaps
        else none
      | _ => none
termination_by text.length
decreasing_by
  rw [List.length_cons] at hgaps hafter this
  omega

def braced? (pairs : List (List Text × Value)) : Option Value :=
  (pairs.foldlM (fun entries (path, value) => Entries.insert value path entries) []).map
    (.table .braces)

/-- A value with at most `depth` brackets and braces around any of its parts. -/
def value? (depth : Nat) : (text : Text) → Option (Read Value text)
  | [] => none
  | '"' :: '"' :: '"' :: rest =>
    (multiBasic? (skipFirstLineEnd rest)).map fun read =>
      (read.map .string).within (by
        unfold skipFirstLineEnd; split <;> simp <;> omega)
  | '\x27' :: '\x27' :: '\x27' :: rest =>
    (multiLiteral? (skipFirstLineEnd rest)).map fun read =>
      (read.map .string).within (by
        unfold skipFirstLineEnd; split <;> simp <;> omega)
  | '"' :: rest => (basic? rest).map fun read => (read.map .string).behind
  | '\x27' :: rest => (literal? rest).map fun read => (read.map .string).behind
  | '[' :: rest =>
    match depth with
    | 0 => none
    | depth + 1 =>
      (itemsUntil? ']' (value? depth) rest).map fun read =>
        (read.map .array).behind
  | '{' :: rest =>
    match depth with
    | 0 => none
    | depth + 1 => do
      let ⟨pairs, last, _⟩ ← itemsUntil? '}' (keyValue? true (value? depth)) rest
      let table ← braced? pairs
      return ⟨table, last, by simp; omega⟩
  | c :: rest => scalar? (c :: rest)

inductive Statement where
  | pair (path : List Text) (value : Value)
  | header (path : List Text)
  | rowHeader (path : List Text)

/-- A table being built, and the path of the header above the current line. -/
structure Draft where
  entries : Entries := []
  header : List Text := []

def Draft.apply (draft : Draft) : Statement → Option Draft
  | .pair path value =>
    (Entries.insertBelow value path draft.header draft.entries).map ({ draft with entries := · })
  | .header path => (Entries.openTable path draft.entries).map (⟨·, path⟩)
  | .rowHeader path => (Entries.openRow path draft.entries).map (⟨·, path⟩)

/-- A header's path up to its closing brackets, read behind the opening ones. -/
def headerPath? (close : Text) (text : Text) : Option (Read (List Text) text) := do
  have := skipBlanks_length text
  let ⟨path, rest, _⟩ ← boundedKey? (skipBlanks text)
  have := skipBlanks_length rest
  if close.isPrefixOf (skipBlanks rest) then
    return ⟨path, (skipBlanks rest).drop close.length, by rw [List.length_drop]; omega⟩
  else none

def statement? : (text : Text) → Option (Read Statement text)
  | '[' :: '[' :: rest =>
    (headerPath? [']', ']'] rest).map fun read =>
      (read.map .rowHeader).behind.behind
  | '[' :: rest =>
    (headerPath? [']'] rest).map fun read => (read.map .header).behind
  | text =>
    (keyValue? false (value? deepest) text).map (·.map fun (path, value) => .pair path value)

def lines? (draft : Draft) (text : Text) : Option Draft :=
  match h : skipGaps false text with
  | none => none
  | some [] => some draft
  | some (c :: rest) => do
    have := skipGaps_length h
    let ⟨statement, after, _⟩ ← statement? (c :: rest)
    let draft ← draft.apply statement
    match h' : skipLineEnd false after with
    | some last =>
      have := skipLineEnd_length h'
      lines? draft last
    | none => none
termination_by text.length

/-- The table of a file. A byte order mark in front of it is skipped. -/
def read? (content : Text) : Option Entries :=
  let text := match content with
    | '\uFEFF' :: rest => rest
    | _ => content
  (lines? {} text).map (·.entries)

end PropertyInsertion.Toml

import PropertyInsertion.Text.Hex
import PropertyInsertion.Toml.Gap

/-!
# TOML strings

Strings in double quotes have escapes, strings in single quotes have none, and strings in three
quotes may go over several lines. The readers start behind the opening quotes.
-/

namespace PropertyInsertion.Toml

def charOfNumber? (n : Nat) : Option Char :=
  if n.isValidChar then some (Char.ofNat n) else none

def namedEscapes : List (Char × Char) :=
  [('b', '\x08'), ('t', '\t'), ('n', '\n'), ('f', '\x0c'), ('r', '\r'), ('e', '\x1b'), ('"', '"'),
    ('\\', '\\')]

/-- Escapes by the number of a character, and how many hexadecimal digits they take. -/
def codedEscapes : List (Char × Nat) :=
  [('x', 2), ('u', 4), ('U', 8)]

/-- The character that an escape stands for, read behind its backslash. -/
def escape? : (text : Text) → Option (Read Char text)
  | [] => none
  | letter :: rest =>
    match namedEscapes.lookup letter, codedEscapes.lookup letter with
    | some c, _ => some (.first c)
    | none, some count => do
      if rest.length < count then none
      let c ← Text.hexNumber? (rest.take count) >>= charOfNumber?
      return ⟨c, rest.drop count, by simp only [List.length_drop, List.length_cons]; omega⟩
    | none, none => none

def basic? : (text : Text) → Option (Read Text text)
  | [] => none
  | '"' :: _ => some (.first [])
  | '\\' :: rest => do
    let escaped ← escape? rest
    have := escaped.shorter
    let read ← basic? escaped.rest
    return (escaped.join List.cons read).behind
  | c :: rest => do
    if !isPlain c then none
    let read ← basic? rest
    return (read.map (c :: ·)).behind
termination_by text => text.length

def literal? : (text : Text) → Option (Read Text text)
  | [] => none
  | '\x27' :: _ => some (.first [])
  | c :: rest => do
    if !isPlain c then none
    let read ← literal? rest
    return (read.map (c :: ·)).behind

def skipFirstLineEnd : Text → Text
  | '\n' :: rest => rest
  | '\r' :: '\n' :: rest => rest
  | text => text

/-- The quotes, two at most, that stand in front of three closing quotes belong to the string. -/
def closingQuotes (quote : Char) (text : Text) : Nat :=
  min 2 (text.takeWhile (· == quote)).length

/-- The text behind a backslash at the end of a line: all blanks and line ends are skipped, if
there is a line end among them. -/
def continuation? (text : Text) : Option Text :=
  match skipBlanks text with
  | '\n' :: rest => some (blankLines rest)
  | '\r' :: '\n' :: rest => some (blankLines rest)
  | _ => none
where
  blankLines : Text → Text
    | '\n' :: rest => blankLines rest
    | '\r' :: '\n' :: rest => blankLines rest
    | c :: rest => if isBlank c then blankLines rest else c :: rest
    | [] => []

theorem blankLines_length (text : Text) :
    (continuation?.blankLines text).length ≤ text.length := by
  fun_induction continuation?.blankLines text <;> grind

theorem continuation?_length {text rest : Text} (h : continuation? text = some rest) :
    rest.length < text.length := by
  have hblanks := skipBlanks_length text
  unfold continuation? at h
  split at h
  next tail hskip =>
    have hlines := blankLines_length tail
    rw [hskip] at hblanks
    grind
  next tail hskip =>
    have hlines := blankLines_length tail
    rw [hskip] at hblanks
    grind
  next => contradiction

def multiBasic? : (text : Text) → Option (Read Text text)
  | [] => none
  | '"' :: '"' :: '"' :: rest =>
    let extra := closingQuotes '"' rest
    some ⟨List.replicate extra '"', rest.drop extra, by simp; omega⟩
  | '\\' :: rest =>
    match h : continuation? rest with
    | some after => do
      have := continuation?_length h
      let read ← multiBasic? after
      return (read.within (Nat.le_of_lt this)).behind
    | none => do
      let escaped ← escape? rest
      have := escaped.shorter
      let read ← multiBasic? escaped.rest
      return (escaped.join List.cons read).behind
  | '\r' :: '\n' :: rest => do
    let read ← multiBasic? rest
    return (read.map ('\r' :: '\n' :: ·)).behind.behind
  | c :: rest => do
    if !(isPlain c || c == '\n') then none
    let read ← multiBasic? rest
    return (read.map (c :: ·)).behind
termination_by text => text.length

def multiLiteral? : (text : Text) → Option (Read Text text)
  | [] => none
  | '\x27' :: '\x27' :: '\x27' :: rest =>
    let extra := closingQuotes '\x27' rest
    some ⟨List.replicate extra '\x27', rest.drop extra, by simp; omega⟩
  | '\r' :: '\n' :: rest => do
    let read ← multiLiteral? rest
    return (read.map ('\r' :: '\n' :: ·)).behind.behind
  | c :: rest => do
    if !(isPlain c || c == '\n') then none
    let read ← multiLiteral? rest
    return (read.map (c :: ·)).behind

end PropertyInsertion.Toml

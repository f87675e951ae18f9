import PropertyInsertion.Text.Read

/-!
# Gaps in TOML

Blanks, comments and line ends carry no meaning and are skipped. Comments, like strings, hold no
control characters but tabs.
-/

namespace PropertyInsertion.Toml

def isBlank (c : Char) : Bool :=
  c == ' ' || c == '\t'

/-- A character that may stand in a comment or a string: no control character but the tab. -/
def isPlain (c : Char) : Bool :=
  c == '\t' || (0x20 ≤ c.toNat && c.toNat != 0x7F)

def skipBlanks (text : Text) : Text :=
  text.dropWhile isBlank

/-- The text behind blanks, line ends and comments; `comment` says whether it starts inside a
comment. A comment holds plain characters only. -/
def skipGaps (comment : Bool) : Text → Option Text
  | [] => some []
  | '\n' :: rest => skipGaps false rest
  | '\r' :: '\n' :: rest => skipGaps false rest
  | c :: rest =>
    if comment then (if isPlain c then skipGaps true rest else none)
    else if c = '#' then skipGaps true rest
    else if isBlank c then skipGaps false rest
    else some (c :: rest)

/-- The text behind the end of a line, which a comment may precede. The end of the text ends a line
too. -/
def skipLineEnd (comment : Bool) : Text → Option Text
  | [] => some []
  | '\n' :: rest => some rest
  | '\r' :: '\n' :: rest => some rest
  | c :: rest =>
    if comment then (if isPlain c then skipLineEnd true rest else none)
    else if c = '#' then skipLineEnd true rest
    else if isBlank c then skipLineEnd false rest
    else none

/-- The text behind the gap around an equals sign. In braces line ends and comments may stand there
too. -/
def skipAround (braces : Bool) (text : Text) : Option Text :=
  if braces then skipGaps false text else some (skipBlanks text)

theorem skipBlanks_length (text : Text) : (skipBlanks text).length ≤ text.length :=
  (List.dropWhile_sublist _).length_le

theorem skipGaps_length {comment : Bool} {text rest : Text}
    (h : skipGaps comment text = some rest) : rest.length ≤ text.length := by
  fun_induction skipGaps comment text <;> grind

theorem skipAround_length {braces : Bool} {text rest : Text}
    (h : skipAround braces text = some rest) : rest.length ≤ text.length := by
  cases braces with
  | true => exact skipGaps_length h
  | false => exact Option.some.inj h ▸ skipBlanks_length text

theorem skipLineEnd_length {comment : Bool} {text rest : Text}
    (h : skipLineEnd comment text = some rest) : rest.length ≤ text.length := by
  fun_induction skipLineEnd comment text <;> grind

end PropertyInsertion.Toml

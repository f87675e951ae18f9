import PropertyInsertion.Document.Basic

/-!
# Edits

An edit replaces a range of a text. Offsets count the text with its line ends, in characters or in
bytes, from line to line; a position past the last line is the end of the text, and one past the end
of a line is in front of that line's end.
-/

namespace PropertyInsertion

structure Edit where
  range : Range
  text : Text
deriving DecidableEq, Repr

/-- How many bytes of a line, in UTF-8, stand before a column: those of each character until the
column is reached. -/
def Text.byteOfColumn : Nat → Text → Nat
  | 0, _ => 0
  | _ + 1, [] => 0
  | column + 1, c :: rest => c.utf8Size + byteOfColumn (column + 1 - columns c) rest

namespace Position

/-- The offset of a column of a line, among the pieces of a text between its line feeds. -/
def offsetAmong : List Text → Nat → Nat → Nat
  | [], _, _ => 0
  | piece :: _, 0, column => Text.indexOfColumn column (Text.dropReturn piece)
  | [piece], _ + 1, _ => piece.length
  | piece :: more :: rest, line + 1, column =>
    piece.length + 1 + offsetAmong (more :: rest) line column

/-- How many characters of the content stand before the position. -/
def offset (content : Text) (position : Position) : Nat :=
  offsetAmong (Text.linePieces content) position.line position.column

/-- The byte of a column of a line, in UTF-8, among the pieces of a text between its line feeds. The
walk has `seen` bytes behind it, and a piece above the line adds its own and the one of its line
feed. Without a piece for the line there is no such byte. -/
def byteAmong? (seen : Nat) : List Text → Nat → Nat → Option Nat
  | [], _, _ => none
  | piece :: _, 0, column => some (seen + Text.byteOfColumn column (Text.dropReturn piece))
  | piece :: rest, line + 1, column =>
    byteAmong? (seen + Text.total Char.utf8Size piece + 1) rest line column

/-- How many bytes of the content, in UTF-8, stand before the position: all of them if it is past
the last line. -/
def byteOffset (content : Text) (position : Position) : Nat :=
  (byteAmong? 0 (Text.linePieces content) position.line position.column).getD
    (Text.total Char.utf8Size content)

end Position

/-- The content with the edit made. A range that stops before it starts is empty at its start. -/
def Edit.apply (edit : Edit) (content : Text) : Text :=
  let start := edit.range.start.offset content
  let stop := max (edit.range.stop.offset content) start
  content.take start ++ edit.text ++ content.drop stop

end PropertyInsertion

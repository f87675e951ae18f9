import PropertyInsertion.Document.Position

/-!
# Documents and views of them

A document is its lines, without their line ends. Recognition and planning look at a document only
through a `View`, whose lines need not all be present.
-/

namespace PropertyInsertion

/-- The lines of a text with the line ends, `\n` or `\r\n`, taken off. There is always one line. -/
structure Document where
  lines : List Text
deriving DecidableEq, Repr

/-- What recognition and planning may look at: numbered lines, any of which may be missing, and the
text of a range. -/
structure View where
  lineCount : Nat
  lineText? : Nat → Option Text
  textIn : Range → Text
  /-- How many numbers there are to count lines with. -/
  numbers : Nat

namespace Text

/-- A line without the carriage return of its line end. -/
def dropReturn (line : Text) : Text :=
  if line.getLast? = some '\r' then line.dropLast else line

def linePieces (content : Text) : List Text :=
  content.splitOn '\n'

/-- The part of line `number` that lies in the range: from its start if the range starts on this
line, and up to its stop if the range stops on this line. -/
def within (range : Range) (line : Text) (number : Nat) : Text :=
  let first := if number = range.start.line then indexOfColumn range.start.column line else 0
  let last := if number = range.stop.line then indexOfColumn range.stop.column line else line.length
  (line.take last).drop first

end Text

/-- The stretch that a line's text takes, its line end left out. -/
def Range.ofLine (number : Nat) (line : Text) : Range :=
  ⟨⟨number, 0⟩, ⟨number, Text.width line⟩⟩

namespace Document

def ofText (content : Text) : Document :=
  ⟨(Text.linePieces content).map Text.dropReturn⟩

def lineCount (doc : Document) : Nat := doc.lines.length

def lineText? (doc : Document) (number : Nat) : Option Text := doc.lines[number]?

/-- The text of a range, its lines joined by line feeds. Line numbers past the last line stand for
the last line, taken whole on that side. -/
def textIn (doc : Document) (range : Range) : Text :=
  let last := doc.lineCount - 1
  let first := min range.start.line last
  let stop := min range.stop.line last
  let lines := (doc.lines.drop first).take (stop + 1 - first)
  List.intercalate ['\n'] ((lines.zipIdx first).map fun (line, number) => line.within range number)

/-- A document with more lines than 32 bits can count gets as many numbers as it needs for its lines
and for two below them, so that no count within a document ever starts again. -/
def view (doc : Document) : View :=
  let lines := doc.lines.toArray
  ⟨doc.lineCount, fun number => lines[number]?, doc.textIn, max lineNumbers (doc.lineCount + 2)⟩

/-- The view in which some lines are missing; line count and ranges are those of the whole. -/
def viewWithout (doc : Document) (missing : List Nat) : View :=
  let whole := doc.view
  { whole with
    lineText? := fun number => if missing.contains number then none else whole.lineText? number }

@[simp] theorem view_lineText? (doc : Document) (number : Nat) :
    doc.view.lineText? number = doc.lineText? number := by
  simp [view, lineText?]

theorem lineBelow_view {doc : Document} {number : Nat} (h : number ≤ doc.lineCount) :
    lineBelow doc.view.numbers number = number + 1 :=
  lineBelow_eq (Nat.lt_of_lt_of_le (Nat.add_lt_add_right (Nat.lt_succ_of_le h) 1)
    (Nat.le_max_right lineNumbers (doc.lineCount + 2)))

end Document

namespace View

def lineRange? (view : View) (number : Nat) : Option Range :=
  (view.lineText? number).map (Range.ofLine number)

/-- The first present line at or below `start` whose text passes the test. -/
def firstLine? (view : View) (test : Text → Bool) (start : Nat) : Option Nat :=
  (List.range' start (view.lineCount - start)).find? fun number =>
    (view.lineText? number).any test

end View

end PropertyInsertion

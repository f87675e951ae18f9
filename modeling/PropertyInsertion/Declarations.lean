import PropertyInsertion.Document.Basic
import PropertyInsertion.Line

/-!
# Where the declarations of a class are

One pass over the lines records where the class body starts, the last trait use, the last property
and the constructor. It stops at the line that closes the constructor, or at a missing line.
-/

namespace PropertyInsertion

/-- The constructor that a pass over the lines found. -/
structure Constructor where
  line : Nat
  /-- The range of its first line: the first line of its docblock, else its signature. -/
  range : Range
  closingLine : Option Nat
deriving DecidableEq, Repr

/-- What a pass over the lines found. -/
structure Declarations where
  /-- The line whose brace opens the class body. -/
  classLine : Option Nat := none
  traitUseLine : Option Nat := none
  /-- The line on which the last property ends. -/
  lastPropertyLine : Option Nat := none
  constructor? : Option Constructor := none
deriving DecidableEq, Repr

def Constructor.hasDocblock (ctor : Constructor) : Bool :=
  ctor.range.start.line < ctor.line

namespace View

/-- The line on which a property that starts at `start` ends. -/
def propertyEnd? (view : View) (start : Nat) : Option Nat :=
  view.firstLine? (Text.closesWith [';']) start

def signatureLine? (view : View) (start : Nat) : Option Nat :=
  view.firstLine? Line.isConstructorSignature start

/-- The text opens a docblock; `single` says whether the docblock may also end on the same line. -/
def opensDocblock (single : Bool) (line : Text) : Bool :=
  let trimmed := Text.trim line
  ['/', '*', '*'].isSuffixOf trimmed || (single && ['/', '*', '*'].isPrefixOf trimmed)

/-- The nearest line from `above` up to `lowest` that opens a docblock. -/
def docblockStart? (view : View) (lowest above : Nat) : Option Nat :=
  (List.range' lowest (above + 1 - lowest)).reverse.find? fun number =>
    (view.lineText? number).any (opensDocblock (number == above))

/-- The range of the first line of a constructor. If the line above its signature ends a comment,
this is the nearest line, not above `lowerBound`, that opens a docblock. -/
def constructorRange? (view : View) (line lowerBound : Nat) : Option Range := do
  let own ← view.lineRange? line
  if line = 0 then return own
  let above := line - 1
  if (view.lineText? above).any (Text.closesWith ['*', '/']) then
    let start? := view.docblockStart? (min lowerBound above) above
    return (start?.bind view.lineRange?).getD own
  return own

end View

namespace Declarations

/-- The line in front of which new members go: below the last property, else below the last trait
use, else below the opening of the class. -/
def insertionLine (decls : Declarations) (numbers : Nat := lineNumbers) : Option Nat :=
  ((decls.lastPropertyLine.or decls.traitUseLine).or decls.classLine).map (lineBelow numbers)

def isClosed (decls : Declarations) : Bool :=
  decls.constructor?.any (·.closingLine.isSome)

def note (view : View) (number : Nat) (line : Text) (decls : Declarations) :
    LineKind → Declarations
  | .classHeader braceInline =>
    { decls with classLine := some (if braceInline then number else number + 1) }
  | .traitUse =>
    if decls.classLine.isSome then { decls with traitUseLine := some number } else decls
  | .property =>
    { decls with lastPropertyLine := (view.propertyEnd? number).or decls.lastPropertyLine }
  | .constructorSignature =>
    match view.constructorRange? number (decls.classLine.getD 0) with
    | some range =>
      let closingLine := if (Line.inlineBody? line).isSome then some number else none
      { decls with constructor? := some ⟨number, range, closingLine⟩ }
    | none => decls
  | .nestedClose =>
    { decls with
      constructor? := decls.constructor?.map fun ctor =>
        if ctor.line < number then { ctor with closingLine := some number } else ctor }
  | .other => decls

def noteLine (view : View) (number : Nat) (line : Text) (decls : Declarations) : Declarations :=
  (Line.kinds line).foldl (note view number line) decls

/-- The pass over the next `count` lines from line `number` on. -/
def scanFrom (view : View) : Nat → Nat → Declarations → Declarations
  | 0, _, decls => decls
  | count + 1, number, decls =>
    match view.lineText? number with
    | none => decls
    | some line =>
      let decls := decls.noteLine view number line
      if decls.isClosed then decls else scanFrom view count (number + 1) decls

/-- The declarations of a whole view. -/
def scan (view : View) : Declarations :=
  scanFrom view view.lineCount 0 {}

end Declarations

end PropertyInsertion

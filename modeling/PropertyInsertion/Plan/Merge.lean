import PropertyInsertion.Plan.Code

/-!
# An existing constructor

The plan replaces the constructor, from its docblock to its closing brace, by itself with one more
parameter at the end of its parameter list and one more assignment at the end of its body, and puts
the property declaration in front. All other text is copied.
-/

namespace PropertyInsertion.Plan

open Code

/-- The line that the new parameter goes on, and the docblock lines in front of it. -/
structure Signature where
  line : Nat
  text : Text
  docblock : List Text
deriving DecidableEq, Repr

/-- The signature of a constructor. Below a docblock it is the first line with a signature. -/
def signature (view : View) (ctor : Constructor) : Except InsertError Signature :=
  let start := ctor.range.start.line
  if ctor.hasDocblock then do
    let some line := view.signatureLine? start | throw (.signatureNotFound start)
    let docblock ← view.linesOrError start (line - start)
    let text ← view.lineOrError line
    return ⟨line, text, docblock⟩
  else
    return ⟨start, view.textIn ctor.range, []⟩

/-- The parameters with the new one at the end. -/
def parameterList (group : Line.Parentheses) (name : Text) : Snippet :=
  [.text (group.before ++ ['(']),
    .text (if group.inside.allBlank then [] else group.inside ++ [',', ' ']),
    .text ['$'], nameStop name, .text [')']]

/-- The body of a constructor that closes on its signature line, opened up into a block. It must
open behind the parameter list. -/
def inlineBlock (settings : Settings) (name : Text) (signature : Signature)
    (group : Line.Parentheses) : Except InsertError Snippet := do
  let some inline := Line.inlineBody? signature.text | throw (.malformedSignature signature.line)
  if inline.head.length < group.stop then throw (.malformedSignature signature.line)
  let blockIndent := signature.text.leadingBlanks
  let body := Text.trim inline.body
  return [.text (Text.trimEnd (inline.head.drop group.stop) ++ newline ++ blockIndent ++ ['{']),
      .text (if body.isEmpty then [] else newline ++ blockIndent ++ settings.indent ++ body)] ++
    assignment blockIndent settings name ++
    [.text (newline ++ blockIndent ++ ['}'])]

/-- The body of a constructor that closes on a later line, with the assignment above that line. -/
def block (view : View) (settings : Settings) (name : Text) (signature : Signature)
    (group : Line.Parentheses) (closingLine : Nat) : Except InsertError Snippet := do
  let first := lineBelow view.numbers signature.line
  let body ← view.linesOrError first (closingLine - first)
  let closing := Text.trimEnd (← view.lineOrError closingLine)
  return [.text group.after] ++ body.map (fun line => .text (newline ++ line)) ++
    assignment (Text.leadingBlanks closing) settings name ++
    [.text (newline ++ closing)]

/-- A line break that keeps the constructor apart from a member right below it. -/
def separation (view : View) (closingLine : Nat) : Text :=
  let after := (view.lineText? (lineBelow view.numbers closingLine)).getD []
  if after.allBlank || Text.closesWith ['}'] after then [] else newline

/-- The place to show: where new members go, if the document has that line. -/
def revealLine (view : View) (decls : Declarations) (ctor : Constructor) : Nat :=
  ((decls.insertionLine view.numbers).filter (· < view.lineCount)).getD ctor.line

def merge (view : View) (decls : Declarations) (ctor : Constructor) (settings : Settings)
    (name : Text) : Except InsertError Plan := do
  let some closingLine := ctor.closingLine | throw (.unterminatedConstructor ctor.line)
  let signature ← signature view ctor
  let some group := Line.parentheses? signature.text | throw (.malformedSignature signature.line)
  let body ←
    if closingLine = signature.line then inlineBlock settings name signature group
    else block view settings name signature group closingLine
  let some last := view.lineRange? closingLine | throw (.lineOutOfRange closingLine)
  let snippet :=
    declaration settings name ++ signature.docblock.map (fun line => .text (line ++ newline)) ++
      parameterList group name ++ body ++ [.text (separation view closingLine)]
  return ⟨.replace ⟨ctor.range.start, last.stop⟩, snippet, ⟨revealLine view decls ctor, 0⟩⟩

end PropertyInsertion.Plan

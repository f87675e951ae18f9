import PropertyInsertion.Plan.Code

/-!
# A new constructor

For a class without a constructor the plan inserts a property, a constructor with one parameter and
the assignment, in front of the insertion line.
-/

namespace PropertyInsertion.Plan

open Code

/-- Line breaks behind a new constructor, decided by the line it goes in front of and the next. A
blank line already separates it from what follows, unless that ends the class. -/
def padding (line next : Text) : Text :=
  if line.allBlank then (if Text.closesWith ['}'] next then [] else newline)
  else if Text.closesWith ['}'] line then newline
  else blankLine

/-- The signature, the opening brace, the assignment and the closing brace. -/
def freshConstructor (settings : Settings) (name : Text) : Snippet :=
  [.text (settings.indent ++ settings.constructorVisibility.keyword.toList ++ space ++
      Line.constructorMark ++ ['(', '$']), nameStop name, .text [')', '\n'],
    .text (settings.indent ++ ['{'])] ++
  assignment settings.indent settings name ++
  [.text (newline ++ settings.indent ++ ['}'])]

def fresh (view : View) (decls : Declarations) (settings : Settings) (name : Text) :
    Except InsertError Plan := do
  let some line := decls.insertionLine view.numbers | throw .classNotFound
  let here ← view.lineOrError line
  let next := (view.lineText? (lineBelow view.numbers line)).getD []
  let separated := decls.lastPropertyLine.isSome || decls.traitUseLine.isSome
  let snippet :=
    [.text (if separated then newline else [])] ++ declaration settings name ++
      freshConstructor settings name ++ [.text (padding here next)]
  return ⟨.insert ⟨line, 0⟩, snippet, ⟨line, 0⟩⟩

end PropertyInsertion.Plan

import PropertyInsertion.Plan.Basic
import PropertyInsertion.Settings.Basic

/-!
# Generated code

The pieces of PHP that every insertion writes: the property declaration, the parameter and the
assignment. The property name is a placeholder in each of them.
-/

namespace PropertyInsertion.Code

def space : Text := [' ']

def newline : Text := ['\n']

def blankLine : Text := ['\n', '\n']

def thisArrow : Text := "$this->".toList

def gets : Text := " = $".toList

/-- The property name, which the user may overtype everywhere at once. -/
def nameStop (name : Text) : Piece := .placeholder 1 name

/-- The property declaration and an empty line. -/
def declaration (settings : Settings) (name : Text) : Snippet :=
  [.text (settings.indent ++ settings.visibility.keyword.toList ++ space ++ ['$']), nameStop name,
    .text (';' :: blankLine)]

/-- The assignment on a new line, one level deeper than its block, with the final cursor behind
it. -/
def assignment (blockIndent : Text) (settings : Settings) (name : Text) : Snippet :=
  [.text (newline ++ blockIndent ++ settings.indent ++ thisArrow), nameStop name, .text gets,
    nameStop name, .text [';'], .finalStop]

end PropertyInsertion.Code

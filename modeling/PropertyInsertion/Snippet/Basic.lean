import PropertyInsertion.Text.Basic

/-!
# Snippets

A snippet is text with marked stops for the cursor. It is built from pieces, each of which has a
written form: literal text is escaped, a placeholder is `${1:default}`, an echo of an earlier
placeholder is `${1}` and the final cursor is `$0`.
-/

namespace PropertyInsertion

inductive Piece where
  /-- Text that is inserted as it is. -/
  | text (literal : Text)
  /-- A stop that the user may overtype, filled with a default. -/
  | placeholder (stop : Nat) (default : Text)
  /-- The text of the first placeholder of a stop once more. -/
  | echo (stop : Nat)
  /-- Where the cursor ends up. -/
  | finalStop
deriving DecidableEq, Repr

abbrev Snippet := List Piece

namespace Snippet

/-- The text with a backslash in front of every dollar sign. -/
def escapeDollars (text : Text) : Text :=
  text.flatMap fun c => if c = '$' then ['\\', c] else [c]

/-- The text with a backslash in front of every dollar sign and every backslash, which a snippet
engine inserts unchanged. A closing brace outside a placeholder needs none. -/
def escape (text : Text) : Text :=
  text.flatMap fun c => if c = '$' ∨ c = '\\' then ['\\', c] else [c]

def stopDigits (stop : Nat) : Text :=
  Nat.toDigits 10 stop

end Snippet

/-- The written form of a piece. -/
def Piece.markup : Piece → Text
  | .text literal => Snippet.escape literal
  | .placeholder stop default => '$' :: '{' :: Snippet.stopDigits stop ++ ':' :: default ++ ['}']
  | .echo stop => '$' :: '{' :: Snippet.stopDigits stop ++ ['}']
  | .finalStop => ['$', '0']

/-- The written form of a snippet. -/
def Snippet.markup (snippet : Snippet) : Text :=
  snippet.flatMap Piece.markup

end PropertyInsertion

import PropertyInsertion.Declarations
import PropertyInsertion.Document.Edit
import PropertyInsertion.Snippet.Render

/-!
# Plans

A plan says where a snippet goes and which place to show the user. Planning can fail for the causes
that `InsertError` lists.
-/

namespace PropertyInsertion

inductive Target where
  | insert (place : Position)
  | replace (range : Range)
deriving DecidableEq, Repr

/-- The stretch of the document that the snippet takes the place of. -/
def Target.range : Target → Range
  | .insert place => .empty place
  | .replace range => range

/-- One insertion into a document. -/
structure Plan where
  target : Target
  snippet : Snippet
  /-- The place to bring into view. -/
  reveal : Position
deriving DecidableEq, Repr

namespace Plan

def text (plan : Plan) : Text := plan.snippet.markup

/-- The plan as an edit for a user who types nothing. -/
def edit (plan : Plan) : Edit := ⟨plan.target.range, Snippet.render plan.text⟩

/-- The property name offered when the user names none. -/
def defaultName : Text := "property".toList

end Plan

/-- Why no insertion can be planned. Lines count from zero here and from one in messages. -/
inductive InsertError where
  | classNotFound
  | lineOutOfRange (line : Nat)
  | unterminatedConstructor (line : Nat)
  | signatureNotFound (line : Nat)
  | malformedSignature (line : Nat)
  | invalidName (name : Text)
deriving DecidableEq, Repr

/-- A line number as messages show it. -/
def countedFromOne (line : Nat) : Nat := lineBelow lineNumbers line

def InsertError.message : InsertError → String
  | .classNotFound => "no class declaration found in the document"
  | .lineOutOfRange line => s!"line {countedFromOne line} is past the end of the document"
  | .unterminatedConstructor line =>
    s!"the constructor on line {countedFromOne line} has no closing brace"
  | .signatureNotFound line =>
    s!"no constructor signature found from line {countedFromOne line} on"
  | .malformedSignature line =>
    s!"the constructor signature on line {countedFromOne line} has no parameter list"
  | .invalidName name => "`" ++ String.ofList name ++ "` is not a valid property name"

/-- A letter or underscore, then letters, numerals and underscores, of any script. -/
def isPropertyName : Text → Bool
  | [] => false
  | first :: rest =>
    (first == '_' || Text.isLetter first) &&
      rest.all fun c => c == '_' || Text.isLetter c || Text.isNumeral c

namespace View

def lineOrError (view : View) (number : Nat) : Except InsertError Text :=
  match view.lineText? number with
  | some line => .ok line
  | none => .error (.lineOutOfRange number)

/-- The next `count` lines from line `first` on. The first of them that is missing is the error. -/
def linesOrError (view : View) (first : Nat) : Nat → Except InsertError (List Text)
  | 0 => .ok []
  | count + 1 => do
    let line ← view.lineOrError first
    let lines ← linesOrError view (first + 1) count
    return line :: lines

end View

end PropertyInsertion

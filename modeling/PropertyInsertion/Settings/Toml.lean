import PropertyInsertion.Settings.Basic
import PropertyInsertion.Toml.Reader

/-!
# Settings written as TOML

Unlike settings sent by an editor, a file of settings is refused as a whole if one of its settings
has the wrong form. Keys that name no setting are passed over.
-/

namespace PropertyInsertion.Settings.Layer

/-- A visibility is its keyword, or a table with the keyword as its only key and nothing under
it. -/
def visibilityOfToml? : Toml.Value → Option Visibility
  | .string word => Visibility.ofKeyword? (String.ofList word)
  | .table _ [(word, .array [])] => Visibility.ofKeyword? (String.ofList word)
  | .table _ [(word, .table _ [])] => Visibility.ofKeyword? (String.ofList word)
  | _ => none

def indentOfToml? : Toml.Value → Option Text
  | .string text => some text
  | _ => none

/-- The value of a key that may be missing but not of the wrong form. -/
def setting? {α : Type} (decode? : Toml.Value → Option α) : Option Toml.Value → Option (Option α)
  | none => some none
  | some value => (decode? value).map some

/-- The layer in a table. The two spellings of the constructor's visibility exclude each other. -/
def ofEntries? (entries : Toml.Entries) : Option Layer := do
  let value? (key : String) : Option Toml.Value := entries.get? key.toList
  let snake := value? "constructor_visibility"
  let camel := value? "constructorVisibility"
  if snake.isSome && camel.isSome then none
  return {
    visibility := ← setting? visibilityOfToml? (value? "visibility")
    constructorVisibility := ← setting? visibilityOfToml? (snake.or camel)
    indent := ← setting? indentOfToml? (value? "indent") }

/-- The layer in a TOML text. -/
def ofToml? (content : Text) : Option Layer :=
  Toml.read? content >>= ofEntries?

end PropertyInsertion.Settings.Layer

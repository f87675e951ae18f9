import PropertyInsertion.Json.Basic
import PropertyInsertion.Settings.Basic

/-!
# Settings sent by an editor

An editor sends settings as a JSON object, or as an object that holds this object in a section of
its own. A value of the wrong form counts as left out.
-/

namespace PropertyInsertion.Settings.Layer

/-- The section of an editor's settings that is ours. -/
def sectionKey : String := "phpConstructor"

/-- A visibility is its keyword, or an object with the keyword as its only key and null under it. -/
def visibilityOfJson? : Json → Option Visibility
  | .string word => Visibility.ofKeyword? word
  | .object [(word, .null)] => Visibility.ofKeyword? word
  | _ => none

def indentOfJson? (value : Json) : Option Text :=
  value.string?.map String.toList

/-- The layer in an editor's settings. Of the two spellings of the constructor's visibility the one
with an underscore counts, whatever its value. -/
def ofJson (settings : Json) : Layer :=
  let own := (settings.field? sectionKey).getD settings
  let spelled := (own.field? "constructor_visibility").or (own.field? "constructorVisibility")
  { visibility := (own.field? "visibility").bind visibilityOfJson?
    constructorVisibility := spelled.bind visibilityOfJson?
    indent := (own.field? "indent").bind indentOfJson? }

end PropertyInsertion.Settings.Layer

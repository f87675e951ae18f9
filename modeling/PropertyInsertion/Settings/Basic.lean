import PropertyInsertion.Text.Basic

/-!
# Settings of generated code

Settings come in layers. A layer gives a value for some of the settings; laid over settings, it
replaces those values and keeps the others.
-/

namespace PropertyInsertion

/-- The modifier of a generated property or constructor. -/
inductive Visibility where
  | «public»
  | «protected»
  | «private»
deriving DecidableEq, Repr

namespace Visibility

def keyword : Visibility → String
  | .public => "public"
  | .protected => "protected"
  | .private => "private"

/-- The visibility with this keyword; keywords are lower case. -/
def ofKeyword? (word : String) : Option Visibility :=
  if word = "public" then some .public
  else if word = "protected" then some .protected
  else if word = "private" then some .private
  else none

@[simp] theorem ofKeyword?_keyword (visibility : Visibility) :
    ofKeyword? visibility.keyword = some visibility := by
  cases visibility <;> decide

end Visibility

structure Settings where
  visibility : Visibility := .private
  constructorVisibility : Visibility := .public
  indent : Text := ['\t']
deriving DecidableEq, Repr

namespace Settings

/-- One source of settings. What it leaves out keeps the value it had. -/
structure Layer where
  visibility : Option Visibility := none
  constructorVisibility : Option Visibility := none
  indent : Option Text := none
deriving DecidableEq, Repr

/-- The settings with a layer on top. An empty indentation counts as left out. -/
def overlay (settings : Settings) (layer : Layer) : Settings where
  visibility := layer.visibility.getD settings.visibility
  constructorVisibility := layer.constructorVisibility.getD settings.constructorVisibility
  indent := (layer.indent.filter (!·.isEmpty)).getD settings.indent

end Settings

end PropertyInsertion

import PropertyInsertion.Json.Basic
import PropertyInsertion.Plan.Basic

/-!
# Plans as JSON

The form in which positions, ranges, edits and plans are handed to an editor.
-/

namespace PropertyInsertion

def Position.toJson (position : Position) : Json :=
  .object [("line", .nat position.line), ("character", .nat position.column)]

def Range.toJson (range : Range) : Json :=
  .object [("start", range.start.toJson), ("end", range.stop.toJson)]

def Edit.toJson (edit : Edit) : Json :=
  .object [("range", edit.range.toJson), ("newText", .string (String.ofList edit.text))]

def Target.toJson : Target → Json
  | .insert place => .object [("kind", .string "insert"), ("at", place.toJson)]
  | .replace range => .object [("kind", .string "replace"), ("range", range.toJson)]

def Plan.toJson (plan : Plan) : Json :=
  .object [("target", plan.target.toJson), ("text", .string (String.ofList plan.text)),
    ("reveal", plan.reveal.toJson)]

end PropertyInsertion

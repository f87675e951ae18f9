import PropertyInsertion.Session.Shape

/-!
# Parts of parameters

The shapes that the parameters of several methods have in common.
-/

namespace PropertyInsertion.Session.Params

def natural : Shape := .integer "u32" 0 4294967295

def number : Shape := .integer "i32" (-2147483648) 2147483647

def texts : Shape := .list .text

/-- Fields that may each be true, false, null or left out. -/
def flags (keys : List String) : List (String × Shape) :=
  keys.map (·, .optional .flag)

def position : Shape :=
  .record "Position" [("line", natural), ("character", natural)]

def range : Shape :=
  .record "Range" [("start", position), ("end", position)]

def location : Shape :=
  .record "Location" [("uri", .uri), ("range", range)]

def document : Shape :=
  .record "TextDocumentIdentifier" [("uri", .uri)]

def documentPosition : Shape :=
  .record "TextDocumentPositionParams" [("textDocument", document), ("position", position)]

/-- A number or a text. -/
def token : Shape := .oneOf "NumberOrString" [number, .text]

/-- The token that progress is reported with. -/
def progress : Shape :=
  .record "WorkDoneProgressParams" [("workDoneToken", .optional token)]

/-- The token that parts of an answer are sent with. -/
def partialResults : Shape :=
  .record "PartialResultParams" [("partialResultToken", .optional token)]

def textEdit : Shape :=
  .record "TextEdit" [("range", range), ("newText", .text)]

def command : Shape :=
  .record "Command"
    [("title", .text), ("command", .text), ("arguments", .optional (.list .any))]

def markupKind : Shape := .word ["plaintext", "markdown"]

/-- A text, plain or with markup. -/
def documentation (name : String) : Shape :=
  .oneOf name [.text, .record "MarkupContent" [("kind", markupKind), ("value", .text)]]

def diagnostic : Shape :=
  .record "Diagnostic"
    [("range", range), ("severity", .optional number), ("code", .optional token),
      ("codeDescription", .optional (.record "CodeDescription" [("href", .uri)])),
      ("source", .optional .text), ("message", .text),
      ("relatedInformation", .optional (.list (.record "DiagnosticRelatedInformation"
        [("location", location), ("message", .text)]))),
      ("tags", .optional (.list number)), ("data", .optional .any)]

end PropertyInsertion.Session.Params

import PropertyInsertion.Session.Params.Capabilities

/-!
# Parameters of what a session understands

The shapes of the parameters of the requests that a session answers and of the notifications that
change it.
-/

namespace PropertyInsertion.Session.Params

def folder : Shape :=
  .record "WorkspaceFolder" [("uri", .uri), ("name", .text)]

/-- What an editor says about itself at the start. -/
def start : Shape :=
  .record "InitializeParams"
    [("processId", .optional natural), ("rootPath", .optional .text),
      ("rootUri", .omissible (.optional .uri)), ("initializationOptions", .optional .any),
      ("capabilities", capabilities),
      ("trace", .omissible (.optional (.word ["off", "messages", "verbose"]))),
      ("workspaceFolders", .optional (.list folder)),
      ("clientInfo",
        .optional (.record "ClientInfo" [("name", .text), ("version", .optional .text)])),
      ("locale", .optional .text)]

def executeCommand : Shape :=
  .merged "ExecuteCommandParams"
    [("command", .text), ("arguments", .omissible (.list .any))] [progress]

def codeAction : Shape :=
  .merged "CodeActionParams"
    [("textDocument", document), ("range", range),
      ("context", .record "CodeActionContext"
        [("diagnostics", .list diagnostic), ("only", .optional texts),
          ("triggerKind", .optional number)])]
    [progress, partialResults]

def didOpen : Shape :=
  .record "DidOpenTextDocumentParams"
    [("textDocument", .record "TextDocumentItem"
      [("uri", .uri), ("languageId", .text), ("version", number), ("text", .text)])]

def didChange : Shape :=
  .record "DidChangeTextDocumentParams"
    [("textDocument", .record "VersionedTextDocumentIdentifier"
        [("uri", .uri), ("version", number)]),
      ("contentChanges", .list (.record "TextDocumentContentChangeEvent"
        [("range", .optional range), ("rangeLength", .optional natural), ("text", .text)]))]

def answered : List (String × Shape) :=
  [("initialize", start), ("workspace/executeCommand", executeCommand),
    ("textDocument/codeAction", codeAction), ("initialized", .record "InitializedParams" []),
    ("textDocument/didOpen", didOpen), ("textDocument/didChange", didChange),
    ("textDocument/didClose", .record "DidCloseTextDocumentParams" [("textDocument", document)]),
    ("workspace/didChangeConfiguration",
      .record "DidChangeConfigurationParams" [("settings", .any)])]

end PropertyInsertion.Session.Params

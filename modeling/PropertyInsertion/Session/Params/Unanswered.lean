import PropertyInsertion.Session.Params.Basic

/-!
# Parameters of what a session does not answer

The requests of the protocol that have no answer here, with the shapes of their parameters: faulty
parameters are refused for their fault.
-/

namespace PropertyInsertion.Session.Params

/-- Parameters that name a place in a document, with fields of their own. -/
def atPosition (name : String) (fields : List (String × Shape)) (parts : List Shape) : Shape :=
  .merged name fields (documentPosition :: parts)

/-- Parameters that name a document, with fields of their own. -/
def ofDocument (name : String) (fields : List (String × Shape)) : Shape :=
  .merged name (("textDocument", document) :: fields) [progress, partialResults]

def jumpParams : Shape := atPosition "GotoDefinitionParams" [] [progress, partialResults]

def callItem : Shape :=
  .record "CallHierarchyItem"
    [("name", .text), ("kind", number), ("tags", .optional (.list number)),
      ("detail", .optional .text), ("uri", .uri), ("range", range), ("selectionRange", range),
      ("data", .optional .any)]

def typeItem : Shape :=
  .record "TypeHierarchyItem"
    [("name", .text), ("kind", number), ("tags", .optional number), ("detail", .optional .text),
      ("uri", .uri), ("range", range), ("selectionRange", range), ("data", .optional .any)]

/-- Parameters that name an item of a hierarchy. -/
def ofItem (name : String) (item : Shape) : Shape :=
  .merged name [("item", item)] [progress, partialResults]

def hint : Shape :=
  let labelPart := .record "InlayHintLabelPart"
    [("value", .text), ("tooltip", .optional (documentation "InlayHintLabelPartTooltip")),
      ("location", .optional location), ("command", .optional command)]
  .record "InlayHint"
    [("position", position), ("label", .oneOf "InlayHintLabel" [.text, .list labelPart]),
      ("kind", .optional number), ("textEdits", .optional (.list textEdit)),
      ("tooltip", .optional (documentation "InlayHintTooltip")), ("paddingLeft", .optional .flag),
      ("paddingRight", .optional .flag), ("data", .optional .any)]

def suggestion : Shape :=
  .record "CompletionItem"
    [("label", .text),
      ("labelDetails", .optional (.record "CompletionItemLabelDetails"
        [("detail", .optional .text), ("description", .optional .text)])),
      ("kind", .optional number), ("detail", .optional .text),
      ("documentation", .optional (documentation "Documentation")),
      ("deprecated", .optional .flag), ("preselect", .optional .flag),
      ("sortText", .optional .text), ("filterText", .optional .text),
      ("insertText", .optional .text), ("insertTextFormat", .optional number),
      ("insertTextMode", .optional number),
      ("textEdit", .optional (.oneOf "CompletionTextEdit"
        [textEdit, .record "InsertReplaceEdit"
          [("newText", .text), ("insert", range), ("replace", range)]])),
      ("additionalTextEdits", .optional (.list textEdit)), ("command", .optional command),
      ("commitCharacters", .optional texts), ("data", .optional .any),
      ("tags", .optional (.list number))]

def signatures : Shape :=
  let parameter := .record "ParameterInformation"
    [("label", .oneOf "ParameterLabel" [.text, .list natural]),
      ("documentation", .optional (documentation "Documentation"))]
  .record "SignatureHelp"
    [("signatures", .list (.record "SignatureInformation"
        [("label", .text), ("documentation", .optional (documentation "Documentation")),
          ("parameters", .optional (.list parameter)), ("activeParameter", .optional natural)])),
      ("activeSignature", .optional natural), ("activeParameter", .optional natural)]

def workspaceChanges : Shape :=
  .record "WorkspaceEdit"
    [("changes", .omissible (.optional (.dictionary .uri (.list textEdit)))),
      ("documentChanges", .optional (.oneOf "DocumentChanges" [.list .any])),
      ("changeAnnotations", .optional (.dictionary .text (.record "ChangeAnnotation"
        [("label", .text), ("needsConfirmation", .optional .flag),
          ("description", .optional .text)])))]

def action : Shape :=
  .record "CodeAction"
    [("title", .text), ("kind", .optional .text), ("diagnostics", .optional (.list diagnostic)),
      ("edit", .optional workspaceChanges), ("command", .optional command),
      ("isPreferred", .optional .flag),
      ("disabled", .optional (.record "CodeActionDisabled" [("reason", .text)])),
      ("data", .optional .any)]

def color : Shape :=
  .record "Color" [("red", .real), ("green", .real), ("blue", .real), ("alpha", .real)]

/-- How to format. Other properties are truth values, numbers or texts. -/
def formatting : Shape :=
  .merged "FormattingOptions"
    [("tabSize", natural), ("insertSpaces", .flag), ("trimTrailingWhitespace", .optional .flag),
      ("insertFinalNewline", .optional .flag), ("trimFinalNewlines", .optional .flag)]
    [.dictionary .text (.oneOf "FormattingProperty" [.flag, number, .text])]

def symbol : Shape :=
  .record "WorkspaceSymbol"
    [("name", .text), ("kind", number), ("tags", .optional (.list number)),
      ("containerName", .optional .text),
      ("location", .oneOf "OneOf" [location, .record "WorkspaceLocation" [("uri", .uri)]]),
      ("data", .optional .any)]

def fileList (name item : String) (keys : List String) : Shape :=
  .record name [("files", .list (.record item (keys.map (·, .text))))]

def documentRequests : List (String × Shape) :=
  [("textDocument/willSaveWaitUntil",
      .record "WillSaveTextDocumentParams" [("textDocument", document), ("reason", number)]),
    ("textDocument/declaration", jumpParams), ("textDocument/definition", jumpParams),
    ("textDocument/typeDefinition", jumpParams), ("textDocument/implementation", jumpParams),
    ("textDocument/references",
      atPosition "ReferenceParams"
        [("context", .record "ReferenceContext" [("includeDeclaration", .flag)])]
        [progress, partialResults]),
    ("textDocument/prepareCallHierarchy", atPosition "CallHierarchyPrepareParams" [] [progress]),
    ("textDocument/prepareTypeHierarchy", atPosition "TypeHierarchyPrepareParams" [] [progress]),
    ("textDocument/documentHighlight",
      atPosition "DocumentHighlightParams" [] [progress, partialResults]),
    ("textDocument/documentLink", ofDocument "DocumentLinkParams" []),
    ("textDocument/hover", atPosition "HoverParams" [] [progress]),
    ("textDocument/codeLens", ofDocument "CodeLensParams" []),
    ("textDocument/foldingRange", ofDocument "FoldingRangeParams" []),
    ("textDocument/selectionRange",
      ofDocument "SelectionRangeParams" [("positions", .list position)]),
    ("textDocument/documentSymbol", ofDocument "DocumentSymbolParams" []),
    ("textDocument/semanticTokens/full", ofDocument "SemanticTokensParams" []),
    ("textDocument/semanticTokens/full/delta",
      ofDocument "SemanticTokensDeltaParams" [("previousResultId", .text)]),
    ("textDocument/semanticTokens/range",
      ofDocument "SemanticTokensRangeParams" [("range", range)]),
    ("textDocument/inlineValue",
      .merged "InlineValueParams"
        [("textDocument", document), ("range", range),
          ("context", .record "InlineValueContext"
            [("frameId", number), ("stoppedLocation", range)])]
        [progress]),
    ("textDocument/inlayHint",
      .merged "InlayHintParams" [("textDocument", document), ("range", range)] [progress]),
    ("textDocument/moniker", atPosition "MonikerParams" [] [progress, partialResults]),
    ("textDocument/completion",
      atPosition "CompletionParams"
        [("context", .optional (.record "CompletionContext"
          [("triggerKind", number), ("triggerCharacter", .optional .text)]))]
        [progress, partialResults]),
    ("textDocument/diagnostic",
      ofDocument "DocumentDiagnosticParams"
        [("identifier", .optional .text), ("previousResultId", .optional .text)]),
    ("textDocument/signatureHelp",
      atPosition "SignatureHelpParams"
        [("context", .optional (.record "SignatureHelpContext"
          [("triggerKind", number), ("triggerCharacter", .optional .text), ("isRetrigger", .flag),
            ("activeSignatureHelp", .optional signatures)]))]
        [progress]),
    ("textDocument/documentColor", ofDocument "DocumentColorParams" []),
    ("textDocument/colorPresentation",
      ofDocument "ColorPresentationParams" [("color", color), ("range", range)]),
    ("textDocument/formatting",
      .merged "DocumentFormattingParams"
        [("textDocument", document), ("options", formatting)] [progress]),
    ("textDocument/rangeFormatting",
      .merged "DocumentRangeFormattingParams"
        [("textDocument", document), ("range", range), ("options", formatting)] [progress]),
    ("textDocument/onTypeFormatting",
      atPosition "DocumentOnTypeFormattingParams" [("ch", .text), ("options", formatting)] []),
    ("textDocument/rename", atPosition "RenameParams" [("newName", .text)] [progress]),
    ("textDocument/prepareRename", documentPosition),
    ("textDocument/linkedEditingRange", atPosition "LinkedEditingRangeParams" [] [progress])]

def otherRequests : List (String × Shape) :=
  [("callHierarchy/incomingCalls", ofItem "CallHierarchyIncomingCallsParams" callItem),
    ("callHierarchy/outgoingCalls", ofItem "CallHierarchyOutgoingCallsParams" callItem),
    ("typeHierarchy/supertypes", ofItem "TypeHierarchySupertypesParams" typeItem),
    ("typeHierarchy/subtypes", ofItem "TypeHierarchySubtypesParams" typeItem),
    ("documentLink/resolve",
      .record "DocumentLink"
        [("range", range), ("target", .optional .uri), ("tooltip", .optional .text),
          ("data", .optional .any)]),
    ("codeLens/resolve",
      .record "CodeLens"
        [("range", range), ("command", .optional command), ("data", .optional .any)]),
    ("inlayHint/resolve", hint), ("completionItem/resolve", suggestion),
    ("codeAction/resolve", action), ("workspaceSymbol/resolve", symbol),
    ("workspace/diagnostic",
      .merged "WorkspaceDiagnosticParams"
        [("identifier", .optional .text),
          ("previousResultIds",
            .list (.record "PreviousResultId" [("uri", .uri), ("value", .text)]))]
        [progress, partialResults]),
    ("workspace/symbol",
      .merged "WorkspaceSymbolParams" [("query", .text)] [partialResults, progress]),
    ("workspace/willCreateFiles", fileList "CreateFilesParams" "FileCreate" ["uri"]),
    ("workspace/willRenameFiles", fileList "RenameFilesParams" "FileRename" ["oldUri", "newUri"]),
    ("workspace/willDeleteFiles", fileList "DeleteFilesParams" "FileDelete" ["uri"])]

def unanswered : List (String × Shape) := documentRequests ++ otherRequests

end PropertyInsertion.Session.Params

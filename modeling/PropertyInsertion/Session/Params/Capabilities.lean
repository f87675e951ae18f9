import PropertyInsertion.Session.Params.Basic

/-!
# What an editor can do

At the start an editor lists what it can do. A session makes no use of it, but refuses a list that is
not of its shape.
-/

namespace PropertyInsertion.Session.Params

def dynamic : Shape :=
  .record "DynamicRegistrationClientCapabilities" (flags ["dynamicRegistration"])

/-- A record of flags. -/
def switches (name : String) (keys : List String) : Shape :=
  .record name (flags keys)

/-- Numbers of tags, or a truth value, or nothing. -/
def tagSupport : Shape :=
  .omissible (.optional (.orFlag (.record "TagSupport" [("valueSet", .list number)])))

def symbolKinds : Shape :=
  .record "SymbolKindCapability" [("valueSet", .optional (.list number))]

/-- The properties that may be resolved later. -/
def resolveSupport (name : String) : Shape :=
  .record name [("properties", texts)]

def workspaceEdit : Shape :=
  .record "WorkspaceEditClientCapabilities"
    [("documentChanges", .optional .flag),
      ("resourceOperations", .optional (.list (.word ["create", "rename", "delete"]))),
      ("failureHandling",
        .optional (.word ["abort", "transactional", "textOnlyTransactional", "undo"])),
      ("normalizesLineEndings", .optional .flag),
      ("changeAnnotationSupport", .optional
        (switches "ChangeAnnotationWorkspaceEditClientCapabilities" ["groupsOnLabel"]))]

def workspaceSymbols : Shape :=
  .record "WorkspaceSymbolClientCapabilities"
    [("dynamicRegistration", .optional .flag), ("symbolKind", .optional symbolKinds),
      ("tagSupport", tagSupport),
      ("resolveSupport", .optional (resolveSupport "WorkspaceSymbolResolveSupportCapability"))]

/-- Whether an editor can be asked to ask again. -/
def refresh (name : String) : Shape :=
  .optional (switches name ["refreshSupport"])

def workspaceCapabilities : Shape :=
  .record "WorkspaceClientCapabilities"
    [("applyEdit", .optional .flag), ("workspaceEdit", .optional workspaceEdit),
      ("didChangeConfiguration", .optional dynamic),
      ("didChangeWatchedFiles", .optional (switches "DidChangeWatchedFilesClientCapabilities"
        ["dynamicRegistration", "relativePatternSupport"])),
      ("symbol", .optional workspaceSymbols), ("executeCommand", .optional dynamic),
      ("workspaceFolders", .optional .flag), ("configuration", .optional .flag),
      ("semanticTokens", refresh "SemanticTokensWorkspaceClientCapabilities"),
      ("codeLens", refresh "CodeLensWorkspaceClientCapabilities"),
      ("fileOperations", .optional (switches "WorkspaceFileOperationsClientCapabilities"
        ["dynamicRegistration", "didCreate", "willCreate", "didRename", "willRename", "didDelete",
          "willDelete"])),
      ("inlineValue", refresh "InlineValueWorkspaceClientCapabilities"),
      ("inlayHint", refresh "InlayHintWorkspaceClientCapabilities"),
      ("diagnostic", refresh "DiagnosticWorkspaceClientCapabilities")]

def completionItem : Shape :=
  .record "CompletionItemCapability"
    [("snippetSupport", .optional .flag), ("commitCharactersSupport", .optional .flag),
      ("documentationFormat", .optional (.list markupKind)),
      ("deprecatedSupport", .optional .flag), ("preselectSupport", .optional .flag),
      ("tagSupport", tagSupport), ("insertReplaceSupport", .optional .flag),
      ("resolveSupport", .optional (resolveSupport "CompletionItemCapabilityResolveSupport")),
      ("insertTextModeSupport", .optional
        (.record "InsertTextModeSupport" [("valueSet", .list number)])),
      ("labelDetailsSupport", .optional .flag)]

def completion : Shape :=
  .record "CompletionClientCapabilities"
    [("dynamicRegistration", .optional .flag), ("completionItem", .optional completionItem),
      ("completionItemKind", .optional
        (.record "CompletionItemKindCapability" [("valueSet", .optional (.list number))])),
      ("contextSupport", .optional .flag), ("insertTextMode", .optional number),
      ("completionList", .optional
        (.record "CompletionListCapability" [("itemDefaults", .optional texts)]))]

def signatureHelp : Shape :=
  .record "SignatureHelpClientCapabilities"
    [("dynamicRegistration", .optional .flag),
      ("signatureInformation", .optional (.record "SignatureInformationSettings"
        [("documentationFormat", .optional (.list markupKind)),
          ("parameterInformation", .optional
            (switches "ParameterInformationSettings" ["labelOffsetSupport"])),
          ("activeParameterSupport", .optional .flag)])),
      ("contextSupport", .optional .flag)]

def documentSymbols : Shape :=
  .record "DocumentSymbolClientCapabilities"
    [("dynamicRegistration", .optional .flag), ("symbolKind", .optional symbolKinds),
      ("hierarchicalDocumentSymbolSupport", .optional .flag), ("tagSupport", tagSupport)]

def jump : Shape :=
  .optional (switches "GotoCapability" ["dynamicRegistration", "linkSupport"])

def codeActions : Shape :=
  .record "CodeActionClientCapabilities"
    [("dynamicRegistration", .optional .flag),
      ("codeActionLiteralSupport", .optional (.record "CodeActionLiteralSupport"
        [("codeActionKind", .record "CodeActionKindLiteralSupport" [("valueSet", texts)])])),
      ("isPreferredSupport", .optional .flag), ("disabledSupport", .optional .flag),
      ("dataSupport", .optional .flag),
      ("resolveSupport", .optional (resolveSupport "CodeActionCapabilityResolveSupport")),
      ("honorsChangeAnnotations", .optional .flag)]

def rename : Shape :=
  .record "RenameClientCapabilities"
    [("dynamicRegistration", .optional .flag), ("prepareSupport", .optional .flag),
      ("prepareSupportDefaultBehavior", .optional number),
      ("honorsChangeAnnotations", .optional .flag)]

def publishDiagnostics : Shape :=
  .record "PublishDiagnosticsClientCapabilities"
    [("relatedInformation", .optional .flag), ("tagSupport", tagSupport),
      ("versionSupport", .optional .flag), ("codeDescriptionSupport", .optional .flag),
      ("dataSupport", .optional .flag)]

def foldingRange : Shape :=
  .record "FoldingRangeClientCapabilities"
    [("dynamicRegistration", .optional .flag), ("rangeLimit", .optional natural),
      ("lineFoldingOnly", .optional .flag),
      ("foldingRangeKind", .optional (.record "FoldingRangeKindCapability"
        [("valueSet", .optional (.list (.word ["comment", "imports", "region"])))])),
      ("foldingRange", .optional (switches "FoldingRangeCapability" ["collapsedText"]))]

def semanticTokens : Shape :=
  .record "SemanticTokensClientCapabilities"
    [("dynamicRegistration", .optional .flag),
      ("requests", .record "SemanticTokensClientCapabilitiesRequests"
        [("range", .optional .flag),
          ("full", .optional (.oneOf "SemanticTokensFullOptions"
            [.flag, switches "SemanticTokensFullOptions" ["delta"]]))]),
      ("tokenTypes", texts), ("tokenModifiers", texts), ("formats", texts),
      ("overlappingTokenSupport", .optional .flag), ("multilineTokenSupport", .optional .flag),
      ("serverCancelSupport", .optional .flag), ("augmentsSyntaxTokens", .optional .flag)]

def documentCapabilities : Shape :=
  .record "TextDocumentClientCapabilities"
    [("synchronization", .optional (switches "TextDocumentSyncClientCapabilities"
        ["dynamicRegistration", "willSave", "willSaveWaitUntil", "didSave"])),
      ("completion", .optional completion),
      ("hover", .optional (.record "HoverClientCapabilities"
        [("dynamicRegistration", .optional .flag),
          ("contentFormat", .optional (.list markupKind))])),
      ("signatureHelp", .optional signatureHelp), ("references", .optional dynamic),
      ("documentHighlight", .optional dynamic), ("documentSymbol", .optional documentSymbols),
      ("formatting", .optional dynamic), ("rangeFormatting", .optional dynamic),
      ("onTypeFormatting", .optional dynamic), ("declaration", jump), ("definition", jump),
      ("typeDefinition", jump), ("implementation", jump), ("codeAction", .optional codeActions),
      ("codeLens", .optional dynamic),
      ("documentLink", .optional (switches "DocumentLinkClientCapabilities"
        ["dynamicRegistration", "tooltipSupport"])),
      ("colorProvider", .optional dynamic), ("rename", .optional rename),
      ("publishDiagnostics", .optional publishDiagnostics),
      ("foldingRange", .optional foldingRange),
      ("selectionRange", .optional
        (switches "SelectionRangeClientCapabilities" ["dynamicRegistration"])),
      ("linkedEditingRange", .optional dynamic), ("callHierarchy", .optional dynamic),
      ("semanticTokens", .optional semanticTokens), ("moniker", .optional dynamic),
      ("typeHierarchy", .optional dynamic), ("inlineValue", .optional dynamic),
      ("inlayHint", .optional (.record "InlayHintClientCapabilities"
        [("dynamicRegistration", .optional .flag),
          ("resolveSupport", .optional
            (resolveSupport "InlayHintResolveClientCapabilities"))])),
      ("diagnostic", .optional (switches "DiagnosticClientCapabilities"
        ["dynamicRegistration", "relatedDocumentSupport"]))]

def notebookCapabilities : Shape :=
  .record "NotebookDocumentClientCapabilities"
    [("synchronization", switches "NotebookDocumentSyncClientCapabilities"
      ["dynamicRegistration", "executionSummaryReport"])]

def windowCapabilities : Shape :=
  .record "WindowClientCapabilities"
    [("workDoneProgress", .optional .flag),
      ("showMessage", .optional (.record "ShowMessageRequestClientCapabilities"
        [("messageActionItem", .optional
          (switches "MessageActionItemCapabilities" ["additionalPropertiesSupport"]))])),
      ("showDocument", .optional (.record "ShowDocumentClientCapabilities" [("support", .flag)]))]

def generalCapabilities : Shape :=
  .record "GeneralClientCapabilities"
    [("regularExpressions", .optional (.record "RegularExpressionsClientCapabilities"
        [("engine", .text), ("version", .optional .text)])),
      ("markdown", .optional (.record "MarkdownClientCapabilities"
        [("parser", .text), ("version", .optional .text), ("allowedTags", .optional texts)])),
      ("staleRequestSupport", .optional (.record "StaleRequestSupportClientCapabilities"
        [("cancel", .flag), ("retryOnContentModified", texts)])),
      ("positionEncodings", .optional texts)]

def capabilities : Shape :=
  .record "ClientCapabilities"
    [("workspace", .optional workspaceCapabilities),
      ("textDocument", .optional documentCapabilities),
      ("notebookDocument", .optional notebookCapabilities),
      ("window", .optional windowCapabilities), ("general", .optional generalCapabilities),
      ("offsetEncoding", .optional texts), ("experimental", .optional .any)]

end PropertyInsertion.Session.Params

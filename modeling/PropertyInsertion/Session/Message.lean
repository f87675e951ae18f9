import PropertyInsertion.Session.Basic

/-!
# Messages

Messages have a method and parameters in JSON. A request whose parameters are not of the shape that
its method calls for is refused, and such a notification changes nothing.
-/

namespace PropertyInsertion.Session

namespace Message

/-- Requests of the protocol that are not answered here. -/
def unsupportedRequests : List String := Params.unanswered.map (·.1)

def supportedRequests : List String :=
  ["initialize", "shutdown", "workspace/executeCommand", "textDocument/codeAction"]

/-- Notifications that change the session or make it tell something. -/
def supportedNotifications : List String :=
  ["initialized", "textDocument/didOpen", "textDocument/didChange", "textDocument/didClose",
    "workspace/didChangeConfiguration"]

/-- Notifications of the protocol that change nothing here. -/
def unsupportedNotifications : List String :=
  ["textDocument/willSave", "textDocument/didSave", "workspace/didChangeWorkspaceFolders",
    "workspace/didCreateFiles", "workspace/didRenameFiles", "workspace/didDeleteFiles",
    "workspace/didChangeWatchedFiles"]

def isRequestMethod (method : String) : Bool :=
  supportedRequests.contains method || unsupportedRequests.contains method

def isNotificationMethod (method : String) : Bool :=
  supportedNotifications.contains method || unsupportedNotifications.contains method

def documentUri? (params : Json) : Option Uri :=
  (params.field? "textDocument").bind (·.stringField? "uri") >>= Uri.parse?

def start? (params : Json) : Option Request :=
  let root := (params.stringField? "rootUri").bind Uri.parse?
  some (.start root (Json.orNull (params.field? "initializationOptions")))

def runCommand? (params : Json) : Option Request := do
  let command ← params.stringField? "command"
  return .runCommand command (((params.field? "arguments").bind Json.array?).getD [])

def codeActions? (params : Json) : Option Request := do
  let uri ← documentUri? params
  let context ← params.field? "context"
  let only := (context.field? "only").bind Json.array?
  return .codeActions uri (only.map (·.filterMap Json.string?))

def opened? (params : Json) : Option Notification := do
  let document ← params.field? "textDocument"
  return .opened (← documentUri? params) (← document.stringField? "text").toList

def changed? (params : Json) : Option Notification := do
  let changes ← params.field? "contentChanges" >>= Json.array?
  let texts ← changes.mapM (·.stringField? "text")
  return .changed (← documentUri? params) (texts.map String.toList)

end Message

namespace Request

open Message

/-- The request that a method spells with parameters of its shape. -/
def read (method : String) (params : Json) : Request :=
  let read? : Option Request :=
    if method = "initialize" then start? params
    else if method = "workspace/executeCommand" then runCommand? params
    else if method = "textDocument/codeAction" then codeActions? params
    else none
  read?.getD .unsupported

/-- The request that a method and its parameters spell. Only the shutdown takes no parameters. -/
def ofMessage (method : String) (params? : Option Json) : Except Refusal Request :=
  if method = "shutdown" then
    match params? with
    | none => .ok .shutdown
    | some params => .error (.unexpectedParams params)
  else
    match params? with
    | none => .error .missingParams
    | some params =>
      match Params.read method params with
      | .error error => .error (.invalidParams error)
      | .ok params => .ok (read method params)

end Request

namespace Notification

open Message

/-- The notification that a method spells with parameters of its shape. -/
def read (method : String) (params : Json) : Notification :=
  let read? : Option Notification :=
    if method = "initialized" then some .started
    else if method = "textDocument/didOpen" then opened? params
    else if method = "textDocument/didChange" then changed? params
    else if method = "textDocument/didClose" then (documentUri? params).map .closed
    else if method = "workspace/didChangeConfiguration" then
      (params.field? "settings").map .settingsChanged
    else none
  read?.getD .ignored

def ofMessage (method : String) (params? : Option Json) : Notification :=
  match params?.map (Params.read method) with
  | some (.ok params) => read method params
  | _ => .ignored

end Notification

namespace Telling

def method : Telling → String
  | .log _ => "window/logMessage"
  | .warn _ => "window/showMessage"
  | .reveal _ _ => "window/showDocument"

def params : Telling → Json
  | .log message => .object [("type", .nat 3), ("message", .string message)]
  | .warn message => .object [("type", .nat 2), ("message", .string message)]
  | .reveal uri place =>
    .object [("uri", .string uri.toString), ("external", .bool false), ("takeFocus", .bool true),
      ("selection", (Range.empty place).toJson)]

end Telling

end PropertyInsertion.Session

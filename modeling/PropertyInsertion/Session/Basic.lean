import PropertyInsertion.Plan.Insertion
import PropertyInsertion.Plan.Json
import PropertyInsertion.Session.Params
import PropertyInsertion.Settings.Json
import PropertyInsertion.Settings.Load

/-!
# Sessions

A session holds the texts of the documents that an editor has open, the settings and the root of the
workspace. It takes requests, which have an answer, and notifications, which have none; both may make
it tell the editor something.
-/

namespace PropertyInsertion

structure Session where
  settings : Settings := {}
  workspaceRoot : Option Path := none
  /-- The texts of the open documents by the written forms of their URIs. -/
  documents : List (String × Text) := []
  /-- Whether an editor listens. -/
  attached : Bool := true
deriving DecidableEq, Repr

namespace Session

inductive Request where
  /-- The first request, with the root of the workspace and the editor's settings. -/
  | start (root : Option Uri) (options : Json)
  | shutdown
  | runCommand (command : String) (arguments : List Json)
  /-- The actions for a document, of the listed kinds only if there is a list. -/
  | codeActions (uri : Uri) (only : Option (List String))
  /-- A request of the protocol that has no answer here. -/
  | unsupported

inductive Notification where
  | started
  | opened (uri : Uri) (text : Text)
  /-- Changes of a document, each of which carries its whole text. -/
  | changed (uri : Uri) (texts : List Text)
  | closed (uri : Uri)
  | settingsChanged (settings : Json)
  /-- A notification that changes nothing. -/
  | ignored

inductive Telling where
  | log (message : String)
  | warn (message : String)
  /-- Bring a place of a document into view. -/
  | reveal (uri : Uri) (place : Position)

inductive Refusal where
  | notStarted
  | invalidRequest
  | methodNotFound
  | missingParams
  /-- Parameters of a request that takes none. -/
  | unexpectedParams (params : Json)
  | invalidParams (error : ShapeError)
  | unknownCommand (command : String)
deriving Repr

namespace Refusal

def code : Refusal → Int
  | .notStarted => -32002
  | .invalidRequest => -32600
  | .methodNotFound => -32601
  | .missingParams | .unexpectedParams _ | .invalidParams _ | .unknownCommand _ => -32602

def message : Refusal → String
  | .notStarted => "Server not initialized"
  | .invalidRequest => "Invalid request"
  | .methodNotFound => "Method not found"
  | .missingParams => "Missing params field"
  | .unexpectedParams params => "Unexpected params: " ++ params.compact
  | .invalidParams error => error.message
  | .unknownCommand command => "unknown command: " ++ command

end Refusal

/-- Where a session finds settings files: the files, and the path of the user's settings. -/
structure Place where
  files : Files
  userSettings : Option Path

def insertCommand : String := "phpConstructor.insert"

def actionTitle : String := "Add constructor property"

def actionKind : String := "refactor.rewrite"

def text? (session : Session) (uri : String) : Option Text :=
  session.documents.lookup uri

def forget (session : Session) (uri : String) : Session :=
  { session with documents := session.documents.filter (·.1 != uri) }

def remember (session : Session) (uri : String) (text : Text) : Session :=
  { session with documents := (uri, text) :: (session.forget uri).documents }

def overlay (session : Session) (settings : Json) : Session :=
  { session with settings := session.settings.overlay (Settings.Layer.ofJson settings) }

def tell (session : Session) (tellings : List Telling) : List Telling :=
  if session.attached then tellings else []

def plan? (session : Session) (uri : String) (name : Text) : Option (Except InsertError Plan) :=
  (session.text? uri).map (Plan.ofText · session.settings name)

def Request.paths (user : Option Path) : Request → List Path
  | .start root _ => Settings.paths user (root.bind Uri.filePath?)
  | _ => []

/-- The session after its start. Settings are loaded anew, unless that fails, and the editor's
settings go on top. -/
def start (session : Session) (place : Place) (root : Option Uri) (options : Json) : Session :=
  let workspaceRoot := root.bind Uri.filePath?
  let settings := match Settings.load place.files place.userSettings workspaceRoot with
    | .ok loaded => loaded
    | .error _ => session.settings
  { { session with settings }.overlay options with workspaceRoot }

def capabilities : Json :=
  .object
    [("capabilities", .object
      [("textDocumentSync", .nat 1),
        ("codeActionProvider", .object
          [("codeActionKinds", .array [.string actionKind]), ("resolveProvider", .bool false)]),
        ("executeCommandProvider", .object
          [("commands", .array [.string insertCommand])])]),
      ("serverInfo", .object [("name", .string "PHPctor"), ("version", .string "0.1.0")])]

/-- The document and the property name that a command's arguments name. -/
def commandArguments? : List Json → Option (String × Text)
  | .string uri :: .string name :: _ => some (uri, name.toList)
  | .string uri :: _ => some (uri, Plan.defaultName)
  | _ => none

/-- The plan for a command's arguments. A failure is told, and the place to show. -/
def insert (session : Session) (arguments : List Json) : Json × List Telling :=
  match commandArguments? arguments with
  | none => (.null, [])
  | some (uri, name) =>
    match session.plan? uri name with
    | none => (.null, [])
    | some (.ok plan) =>
      (plan.toJson, session.tell ((Uri.parse? uri).map (Telling.reveal · plan.reveal)).toList)
    | some (.error error) =>
      (.null, session.tell [.warn ("Cannot insert constructor property: " ++ error.message)])

/-- The one code action is among the kinds asked for. A kind stands for all kinds below it. -/
def isWanted : Option (List String) → Bool
  | none => true
  | some kinds => kinds.any fun kind => kind.toList.isPrefixOf actionKind.toList

/-- A code action that makes one edit. -/
def actionJson (uri : Uri) (edit : Edit) : Json :=
  .object
    [("title", .string actionTitle), ("kind", .string actionKind),
      ("edit", .object
        [("changes", .object [(uri.toString, .array [edit.toJson])])])]

/-- The code actions for a document. -/
def codeActions (session : Session) (uri : Uri) (only : Option (List String)) : Json :=
  if isWanted only then
    match session.plan? uri.toString Plan.defaultName with
    | some (.ok plan) => .array [actionJson uri plan.edit]
    | _ => .null
  else .null

/-- The session after a request, the answer and what is told. -/
def request (session : Session) (place : Place) :
    Request → Session × Except Refusal Json × List Telling
  | .start root options => (session.start place root options, .ok capabilities, [])
  | .shutdown => (session, .ok .null, [])
  | .runCommand command arguments =>
    if command = insertCommand then
      let (answer, tellings) := session.insert arguments
      (session, .ok answer, tellings)
    else (session, .error (.unknownCommand command), [])
  | .codeActions uri only => (session, .ok (session.codeActions uri only), [])
  | .unsupported => (session, .error .methodNotFound, [])

def greeting (settings : Settings) : String :=
  "PHPctor initialized! Properties are " ++ settings.visibility.keyword ++
    ", constructors are " ++ settings.constructorVisibility.keyword

/-- The session after a notification, and what is told. -/
def notify (session : Session) : Notification → Session × List Telling
  | .started => (session, session.tell [.log (greeting session.settings)])
  | .opened uri text =>
    (session.remember uri.toString text, session.tell [.log ("Opened file: " ++ uri.toString)])
  | .changed uri texts =>
    match texts.getLast? with
    | some text => (session.remember uri.toString text, [])
    | none => (session, [])
  | .closed uri =>
    (session.forget uri.toString, session.tell [.log ("Closed file: " ++ uri.toString)])
  | .settingsChanged settings => (session.overlay settings, [])
  | .ignored => (session, [])

end Session

end PropertyInsertion

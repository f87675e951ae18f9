import PropertyInsertion.Command.Arguments
import PropertyInsertion.Json.Printer
import PropertyInsertion.Plan.Insertion
import PropertyInsertion.Plan.Json
import PropertyInsertion.Settings.Load

/-!
# Running a command

A command ends with an exit code, an output and perhaps an error. Breaking the rules of the command
line is exit code 2, a failed plan is exit code 1.
-/

namespace PropertyInsertion.Command

structure Outcome where
  code : Nat
  output : String := ""
  error : Option String := none
deriving DecidableEq, Repr

inductive PlanError where
  | file (cause : ReadError)
  | settings (cause : SettingsError)
  | insert (cause : InsertError)
deriving DecidableEq, Repr

def PlanError.message : PlanError → String
  | .file cause => cause.message
  | .settings cause => cause.message
  | .insert cause => cause.message

/-- Where a command runs: the files, and the paths of the user's settings and of the directory it
runs in. -/
structure Place where
  files : Files
  userSettings : Option Path
  directory : Option Path

namespace PlanRequest

def path (request : PlanRequest) : Path := .ofString request.file

def settings (request : PlanRequest) (loaded : Settings) : Settings :=
  loaded.overlay
    { visibility := request.visibility, constructorVisibility := request.constructorVisibility }

/-- The content of the file and the plan for it. The file is read first, then the settings. -/
def plan (request : PlanRequest) (place : Place) : Except PlanError (Text × Plan) := do
  let content ← (place.files request.path).mapError .file
  let loaded ← (Settings.load place.files place.userSettings place.directory).mapError .settings
  let plan ← (Plan.ofText content (request.settings loaded) request.name).mapError .insert
  return (content, plan)

/-- The printed plan, or the content with the insertion made. -/
def print (request : PlanRequest) (content : Text) (plan : Plan) : String :=
  if request.apply then String.ofList (plan.edit.apply content)
  else plan.toJson.pretty ++ "\n"

end PlanRequest

def programName : String := "phpctor_lsp"

def programVersion : String := "0.1.0"

def usage : String :=
  "Usage: phpctor_lsp [--log-level LEVEL] [serve]\n" ++
  "       phpctor_lsp [--log-level LEVEL] plan FILE [--name NAME] [--visibility VISIBILITY]\n" ++
  "         [--constructor-visibility VISIBILITY] [--apply]\n"

namespace Invocation

def paths (user directory : Option Path) : Invocation → List Path
  | .plan request => request.path :: Settings.paths user directory
  | _ => []

/-- The outcome of an invocation. Serving ends well when the input ends. -/
def run (place : Place) : Invocation → Outcome
  | .serve => { code := 0 }
  | .showVersion => { code := 0, output := programName ++ " " ++ programVersion ++ "\n" }
  | .showHelp => { code := 0, output := usage }
  | .plan request =>
    match request.plan place with
    | .ok (content, made) => { code := 0, output := request.print content made }
    | .error error => { code := 1, error := some ("error: " ++ error.message) }

end Invocation

/-- The outcome of the program for its arguments. -/
def run (place : Place) (arguments : List String) : Outcome :=
  match Invocation.ofArguments? arguments with
  | some invocation => invocation.run place
  | none => { code := 2 }

end PropertyInsertion.Command

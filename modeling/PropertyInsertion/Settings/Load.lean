import PropertyInsertion.File.Basic
import PropertyInsertion.Settings.Toml

/-!
# Settings from files

The user's file lies over the defaults, and the workspace's file over both. A file that is not there
changes nothing; any other failure is an error.
-/

namespace PropertyInsertion

inductive SettingsError where
  | unreadable (path : Path) (cause : ReadError)
  | invalid (path : Path)
deriving DecidableEq, Repr

def SettingsError.message : SettingsError → String
  | .unreadable path cause => "could not read " ++ path.toString ++ ": " ++ cause.message
  | .invalid path => "invalid configuration in " ++ path.toString

/-- The directories that the user's files are found by. -/
structure UserDirectories where
  home : Option Path
  /-- Where configuration lies, if this is an absolute path. -/
  config : Option Path
deriving DecidableEq, Repr

/-- The path of the user's settings. It is known only if the home directory is. -/
def UserDirectories.settingsPath? (directories : UserDirectories) : Option Path :=
  directories.home.map fun home =>
    let base := (directories.config.filter Path.isAbsolute).getD (home.child ".config")
    (base.child "phpctor").child "config.toml"

namespace Settings

def workspaceFile : String := ".phpctor.toml"

def overlayToml? (settings : Settings) (content : Text) : Option Settings :=
  (Layer.ofToml? content).map settings.overlay

def overlayFile (settings : Settings) (files : Files) (path : Path) :
    Except SettingsError Settings :=
  match files path with
  | .error .notFound => .ok settings
  | .error cause => .error (.unreadable path cause)
  | .ok content =>
    match settings.overlayToml? content with
    | some overlaid => .ok overlaid
    | none => .error (.invalid path)

/-- The settings with several files on top, from first to last. -/
def overlayFiles (settings : Settings) (files : Files) (paths : List Path) :
    Except SettingsError Settings :=
  paths.foldlM (·.overlayFile files ·) settings

/-- The settings files of a user and a workspace, the lower one first. -/
def paths (user workspace : Option Path) : List Path :=
  user.toList ++ (workspace.map (·.child workspaceFile)).toList

/-- The defaults, with the user's file and that of the workspace on top. -/
def load (files : Files) (user workspace : Option Path) : Except SettingsError Settings :=
  ({} : Settings).overlayFiles files (paths user workspace)

end Settings

end PropertyInsertion

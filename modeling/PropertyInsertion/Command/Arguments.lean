import PropertyInsertion.Plan.Basic
import PropertyInsertion.Settings.Basic

/-!
# The command line

The program serves an editor, or plans one insertion into a file. An option takes its value behind
an equals sign or as the next argument, is given once at most, and is never abbreviated. Behind a
lone `--` all arguments are operands.
-/

namespace PropertyInsertion.Command

/-- An argument by its look. -/
inductive Argument where
  | separator
  /-- A name behind two dashes, with a value if an equals sign follows the name. -/
  | long (name : String) (value : Option String)
  /-- Letters behind one dash. -/
  | short (letters : Text)
  | word (text : String)
deriving DecidableEq, Repr

/-- A single dash is a word. -/
def Argument.ofString (argument : String) : Argument :=
  match argument.toList with
  | ['-', '-'] => .separator
  | '-' :: '-' :: rest =>
    let name := rest.takeWhile (· != '=')
    match rest.drop name.length with
    | [] => .long (String.ofList name) none
    | _ :: value => .long (String.ofList name) (some (String.ofList value))
  | '-' :: c :: rest => .short (c :: rest)
  | _ => .word argument

structure PlanRequest where
  file : String
  name : Text := Plan.defaultName
  visibility : Option Visibility := none
  constructorVisibility : Option Visibility := none
  /-- Print the file with the insertion made instead of the plan. -/
  apply : Bool := false
deriving DecidableEq, Repr

inductive Invocation where
  | serve
  | plan (request : PlanRequest)
  | showVersion
  | showHelp
deriving DecidableEq, Repr

structure Options where
  file : Option String := none
  name : Option String := none
  visibility : Option Visibility := none
  constructorVisibility : Option Visibility := none
  apply : Bool := false
  logLevel : Option String := none
deriving DecidableEq, Repr

namespace Options

/-- A value for what has none yet. -/
def once {α : Type} (old : Option α) (value : α) : Option (Option α) :=
  if old.isSome then none else some (some value)

def setGlobal? (options : Options) (name value : String) : Option Options :=
  if name = "log-level" then
    (once options.logLevel value).map ({ options with logLevel := · })
  else none

def set? (options : Options) (name value : String) : Option Options :=
  if name = "name" then (once options.name value).map ({ options with name := · })
  else if name = "visibility" then do
    let visibility ← once options.visibility (← Visibility.ofKeyword? value)
    return { options with visibility }
  else if name = "constructor-visibility" then do
    let visibility ← once options.constructorVisibility (← Visibility.ofKeyword? value)
    return { options with constructorVisibility := visibility }
  else options.setGlobal? name value

def setFlag? (options : Options) (name : String) : Option Options :=
  if name = "apply" ∧ options.apply = false then some { options with apply := true } else none

/-- The options with the one operand, which is not empty. -/
def setFile? (options : Options) (file : String) : Option Options :=
  if file.isEmpty then none else (once options.file file).map ({ options with file := · })

def request? (options : Options) : Option PlanRequest :=
  options.file.map fun file =>
    { file
      name := (options.name.map String.toList).getD Plan.defaultName
      visibility := options.visibility
      constructorVisibility := options.constructorVisibility
      apply := options.apply }

end Options

def asksHelp : Argument → Bool
  | .long "help" none => true
  | .short ('h' :: _) => true
  | _ => false

/-- The arguments behind `plan`; `operands` says whether a `--` came before. -/
def planArguments? (options : Options) (operands : Bool) : List String → Option Invocation
  | [] => options.request?.map .plan
  | argument :: rest =>
    if operands then (options.setFile? argument).bind (planArguments? · true rest)
    else if asksHelp (.ofString argument) then some .showHelp
    else
      match Argument.ofString argument with
      | .separator => planArguments? options true rest
      | .word file => (options.setFile? file).bind (planArguments? · false rest)
      | .short _ => none
      | .long name (some value) => (options.set? name value).bind (planArguments? · false rest)
      | .long name none =>
        if name = "apply" then (options.setFlag? name).bind (planArguments? · false rest)
        else
          match rest with
          | [] => none
          | next :: rest =>
            match Argument.ofString next with
            | .word value => (options.set? name value).bind (planArguments? · false rest)
            | _ => none

/-- The arguments behind `serve`, which has no operands. -/
def serveArguments? (options : Options) : List String → Option Invocation
  | [] => some .serve
  | argument :: rest =>
    if asksHelp (.ofString argument) then some .showHelp
    else
      match Argument.ofString argument with
      | .separator => if rest.isEmpty then some .serve else none
      | .long name (some value) => (options.setGlobal? name value).bind (serveArguments? · rest)
      | .long name none =>
        match rest with
        | [] => none
        | next :: rest =>
          match Argument.ofString next with
          | .word value => (options.setGlobal? name value).bind (serveArguments? · rest)
          | _ => none
      | _ => none

/-- The arguments behind `help`, which explains the program or one of its commands. -/
def helpArguments? : List String → Option Invocation
  | [] => some .showHelp
  | [command] => if ["serve", "plan", "help"].contains command then some .showHelp else none
  | _ => none

/-- All arguments, up to the command. Without a command the program serves. -/
def arguments? (options : Options) : List String → Option Invocation
  | [] => some .serve
  | argument :: rest =>
    if asksHelp (.ofString argument) then some .showHelp
    else
      match Argument.ofString argument with
      | .separator => if rest.isEmpty then some .serve else none
      | .word "serve" => serveArguments? {} rest
      | .word "plan" => planArguments? {} false rest
      | .word "help" => helpArguments? rest
      | .word _ => none
      | .short letters => if letters.head? = some 'V' then some .showVersion else none
      | .long "version" none => some .showVersion
      | .long name (some value) => (options.setGlobal? name value).bind (arguments? · rest)
      | .long name none =>
        match rest with
        | [] => none
        | next :: rest =>
          match Argument.ofString next with
          | .word value => (options.setGlobal? name value).bind (arguments? · rest)
          | _ => none

/-- What the arguments ask for; none if they break the rules. -/
def Invocation.ofArguments? (arguments : List String) : Option Invocation :=
  arguments? {} arguments

end PropertyInsertion.Command

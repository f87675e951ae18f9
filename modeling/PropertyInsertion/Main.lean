import PropertyInsertion.Command.Run
import PropertyInsertion.Session.Envelope

/-!
# The program

The thin layer between the library and the system: it reads files and messages, calls the library
and prints what the library says.
-/

namespace PropertyInsertion.Program

def readText (path : Path) : IO (Except ReadError Text) := do
  if let some refusal := path.refusal? then return .error refusal
  let some name := Text.ofUtf8? path.bytes | return .error .notFound
  try
    let bytes ← IO.FS.readBinFile (String.ofList name)
    match Text.ofUtf8? bytes.toList with
    | some text => return .ok text
    | none => return .error .notText
  catch error =>
    match error with
    | .noFileOrDirectory .. => return .error .notFound
    | .inappropriateType _ 21 _ => return .error .isDirectory
    | .inappropriateType .. => return .error .notDirectory
    | other => return .error (.failed (toString other))

def readFiles (paths : List Path) : IO Files := do
  let texts ← paths.mapM fun path => do return (path, ← readText path)
  return fun path => (texts.lookup path).getD (.error .notFound)

def environmentPath (name : String) : IO (Option Path) := do
  return (← IO.getEnv name).map Path.ofString

def userSettings : IO (Option Path) := do
  let directories : UserDirectories :=
    ⟨← environmentPath "HOME", ← environmentPath "XDG_CONFIG_HOME"⟩
  return directories.settingsPath?

/-- Bytes of the input; fewer if it ends. -/
partial def readBytes (input : IO.FS.Stream) (count : Nat) (read : ByteArray) : IO ByteArray := do
  if count = 0 then return read
  let chunk ← input.read count.toUSize
  if chunk.isEmpty then return read
  readBytes input (count - chunk.size) (read ++ chunk)

/-- The length in the header lines of the next message; none at the end of the input. -/
partial def readHeader (input : IO.FS.Stream) (length : Option Nat) : IO (Option Nat) := do
  let line ← input.getLine
  if line.isEmpty then return none
  if line.trimAscii.isEmpty then return some (length.getD 0)
  readHeader input ((Service.contentLength? line).or length)

/-- Answers messages until the input ends or the editor says so. -/
partial def serve (input output : IO.FS.Stream) (user : Option Path) (service : Service)
    (count : Nat) : IO Unit := do
  let some length ← readHeader input none | return
  let bytes ← readBytes input length .empty
  let send (value : Json) : IO Unit := do
    output.putStr (Service.frame value)
    output.flush
  let some value := (Text.ofUtf8? bytes.toList).bind Json.parse?
    | do
      send Service.unreadable
      serve input output user service count
  let some envelope := Service.Envelope.ofJson? value | serve input output user service count
  let message := envelope.message
  let paths := match Session.Request.ofMessage message.method message.params with
    | .ok request => request.paths user
    | .error _ => []
  let place : Session.Place := ⟨← readFiles paths, user⟩
  let (service, reply, tellings) := service.step place message
  for (telling, offset) in tellings.zipIdx do
    send (Service.tellingJson (count + offset) telling)
  if let some answer := envelope.id.bind reply.toJson? then send answer
  if service.phase = .exited then return
  serve input output user service (count + tellings.length)

end PropertyInsertion.Program

open PropertyInsertion PropertyInsertion.Program

/-- Runs the command line, or serves the editor on the standard streams. -/
def main (arguments : List String) : IO UInt32 := do
  let user ← userSettings
  let directory := Path.ofString (← IO.currentDir).toString
  let invocation? := Command.Invocation.ofArguments? arguments
  if invocation? = some .serve then
    serve (← IO.getStdin) (← IO.getStdout) user {} 0
  let paths := (invocation?.map (·.paths user (some directory))).getD []
  let place : Command.Place := ⟨← readFiles paths, user, some directory⟩
  let outcome := Command.run place arguments
  IO.print outcome.output
  if let some error := outcome.error then IO.eprintln error
  if outcome.code = 2 then IO.eprint Command.usage
  return outcome.code.toUInt32

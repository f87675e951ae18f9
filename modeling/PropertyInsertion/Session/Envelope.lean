import PropertyInsertion.Json.Printer
import PropertyInsertion.Json.Reader
import PropertyInsertion.Session.Service

/-!
# Envelopes

On the wire a message is a JSON object behind a header with its length in bytes. A request carries
an id, and its reply carries the same id.
-/

namespace PropertyInsertion.Service

structure Envelope where
  id : Option Json
  message : Message

/-- The envelope that an object spells. An object without a method is a reply, not a message. -/
def Envelope.ofJson? (value : Json) : Option Envelope :=
  (value.stringField? "method").map fun method =>
    let id := value.field? "id"
    ⟨id, ⟨method, value.field? "params", id.isSome⟩⟩

def versionField : String × Json := ("jsonrpc", .string "2.0")

def Reply.toJson? (id : Json) : Reply → Option Json
  | .none | .exited => Option.none
  | .result value => some (.object [versionField, ("result", value), ("id", id)])
  | .refused cause =>
    some (.object [versionField,
      ("error", .object [("code", .integer cause.code), ("message", .string cause.message)]),
      ("id", id)])

/-- The object that tells the editor something. Bringing a place into view is a request, so it
carries an id of its own. -/
def tellingJson (id : Nat) (telling : Session.Telling) : Json :=
  let body := [versionField, ("method", .string telling.method), ("params", telling.params)]
  match telling with
  | .reveal _ _ => .object (body ++ [("id", .nat id)])
  | _ => .object body

def unreadable : Json :=
  .object [versionField,
    ("error", .object [("code", .integer (-32700)), ("message", .string "Parse error")]),
    ("id", .null)]

def frame (value : Json) : String :=
  let body := value.compact
  "Content-Length: " ++ toString body.utf8ByteSize ++ "\r\n\r\n" ++ body

def contentLength? (line : String) : Option Nat :=
  let text := line.toList
  let name := text.takeWhile (· != ':')
  if name.map Char.toLower = "content-length".toList then
    (String.ofList (Text.trim (text.drop (name.length + 1)))).toNat?
  else none

end PropertyInsertion.Service

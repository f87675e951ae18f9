import PropertyInsertion.Json.Printer
import PropertyInsertion.Text.Unseen
import PropertyInsertion.Uri.Basic

/-!
# Shapes of parameters

A shape says which JSON values a parameter may be. Reading a value by its shape gives it in one form,
with records as objects, or the first fault in it: the fields of an object are looked at in the order
of their keys, and only then is a field missed.
-/

namespace PropertyInsertion

inductive Shape where
  | any
  | flag
  | text
  | uri
  | integer (name : String) (least greatest : Int)
  /-- Any number. -/
  | real
  /-- One of a few words. -/
  | word (words : List String)
  | list (item : Shape)
  /-- An object with any keys of one shape and values of another. -/
  | dictionary (key value : Shape)
  /-- Null is allowed too, and an object may do without the value. -/
  | optional (shape : Shape)
  /-- The value may be left out. -/
  | omissible (shape : Shape)
  /-- A truth value may stand in the place of the value. -/
  | orFlag (shape : Shape)
  /-- The first of several shapes that fits. -/
  | oneOf (name : String) (choices : List Shape)
  /-- Fields in an object, or their values alone in a list. -/
  | record (name : String) (fields : List (String × Shape))
  /-- Fields in an object that holds the fields of other shapes as well. -/
  | merged (name : String) (fields : List (String × Shape)) (parts : List Shape)

inductive ShapeError where
  | wrongType (found : Json) (expected : String)
  | wrongValue (found : Json) (expected : String)
  | unknownWord (found : String) (known : List String)
  | noChoice (name : String)
  | missingField (key : String)
  /-- A list in the place of a record has no item for a field. -/
  | tooShort (index : Nat) (name : String) (count : Nat)
  | tooLong (length : Nat)
  /-- A list in a merged part has more items than its record has fields. -/
  | tooLongPart (length count : Nat)
deriving Repr

namespace ShapeError

def escapeChar (c : Char) : List Char :=
  match c with
  | '"' => ['\\', '"']
  | '\\' => ['\\', '\\']
  | '\n' => ['\\', 'n']
  | '\r' => ['\\', 'r']
  | '\t' => ['\\', 't']
  | '\x00' => ['\\', '0']
  | c =>
    if Text.isUnseen c then ['\\', 'u', '\x7b'] ++ Nat.toDigits 16 c.toNat ++ ['\x7d'] else [c]

def quoted (text : String) : String :=
  "`" ++ text ++ "`"

/-- A value as a message names it. -/
def describe : Json → String
  | .null => "null"
  | .bool value => "boolean " ++ quoted (if value then "true" else "false")
  | .integer value => "integer " ++ quoted (toString value)
  | .float value => "floating point " ++ quoted (String.ofList value.toText)
  | .string value => "string " ++ String.ofList ('"' :: value.toList.flatMap escapeChar ++ ['"'])
  | .array _ => "sequence"
  | .object _ => "map"

def choice (words : List String) : String :=
  match words.map quoted with
  | [word] => word
  | [first, second] => first ++ " or " ++ second
  | words => "one of " ++ String.intercalate ", " words

def elements (count : Nat) : String :=
  toString count ++ if count = 1 then " element" else " elements"

def message : ShapeError → String
  | .wrongType found expected => "invalid type: " ++ describe found ++ ", expected " ++ expected
  | .wrongValue found expected => "invalid value: " ++ describe found ++ ", expected " ++ expected
  | .unknownWord found known =>
    "unknown variant " ++ quoted found ++ ", expected " ++ choice known
  | .noChoice name => "data did not match any variant of untagged enum " ++ name
  | .missingField key => "missing field " ++ quoted key
  | .tooShort index name count =>
    "invalid length " ++ toString index ++ ", expected struct " ++ name ++ " with " ++
      elements count
  | .tooLong length =>
    "invalid length " ++ toString length ++ ", expected fewer elements in array"
  | .tooLongPart length count =>
    "invalid length " ++ toString length ++ ", expected " ++ elements count ++ " in sequence"

end ShapeError

namespace Shape

/-- What a value is read as: its form, or the first fault in it. -/
abbrev Reading (α : Type) := Except ShapeError α

/-- An object of a record has to have a field of the shape. -/
def isNeeded : Shape → Bool
  | .optional _ | .omissible _ => false
  | _ => true

/-- A list of a record's values has to have one of the shape. -/
def hasPlace : Shape → Bool
  | .omissible _ => false
  | _ => true

def readFlag (value : Json) : Reading Json :=
  match value with
  | .bool _ => .ok value
  | _ => .error (.wrongType value "a boolean")

def readText (value : Json) : Reading Json :=
  match value with
  | .string _ => .ok value
  | _ => .error (.wrongType value "a string")

def readUri (value : Json) : Reading Json :=
  match value with
  | .string written =>
    match Uri.parse written with
    | .ok _ => .ok value
    | .error error => .error (.wrongValue value error.message)
  | _ => .error (.wrongType value "a string representing an URL")

def readInteger (name : String) (least greatest : Int) (value : Json) : Reading Json :=
  match value with
  | .integer number =>
    if least ≤ number ∧ number ≤ greatest then .ok value else .error (.wrongValue value name)
  | _ => .error (.wrongType value name)

def readReal (value : Json) : Reading Json :=
  match value with
  | .integer _ | .float _ => .ok value
  | _ => .error (.wrongType value "f32")

def knownWord (words : List String) (given : String) : Reading Json :=
  if words.contains given then .ok (.string given) else .error (.unknownWord given words)

/-- A word, or an object with the word as its only key and null under it. -/
def readWord (words : List String) (value : Json) : Reading Json :=
  match value with
  | .string given => knownWord words given
  | .object [(given, content)] => do
    let form ← knownWord words given
    match content with
    | .null => return form
    | _ => throw (.wrongType content "unit")
  | .object _ => .error (.wrongValue value "map with a single key")
  | _ => .error (.wrongType value "string or map")

/-- The first of the needed fields that an object does not have. -/
def missing? (fields : List (String × Shape)) (given : List (String × Json)) : Option String :=
  (fields.find? fun (key, shape) => shape.isNeeded && (given.lookup key).isNone).map (·.1)

def refuseMissing (fields : List (String × Shape)) (given : List (String × Json)) : Reading Unit :=
  match missing? fields given with
  | some key => .error (.missingField key)
  | none => .ok ()

mutual

/-- The form of a value of a shape, or its first fault; `part` says whether it belongs to a part that
is merged with others. -/
def read (part : Bool) : Shape → Json → Reading Json
  | .any, value => .ok value
  | .flag, value => readFlag value
  | .text, value => readText value
  | .uri, value => readUri value
  | .integer name least greatest, value => readInteger name least greatest value
  | .real, value => readReal value
  | .word words, value => readWord words value
  | .list item, value =>
    match value with
    | .array items => .array <$> items.mapM (read part item)
    | _ => .error (.wrongType value "a sequence")
  | .dictionary key item, value =>
    match value with
    | .object given => do
      let fields ← given.mapM fun (name, value) => do
        let _ ← read part key (.string name)
        return (name, ← read part item value)
      return .object fields
    | _ => .error (.wrongType value "a map")
  | .optional shape, value =>
    match value with
    | .null => .ok .null
    | _ => read part shape value
  | .omissible shape, value => read part shape value
  | .orFlag shape, value =>
    match value with
    | .bool _ => .ok value
    | _ => read part shape value
  | .oneOf name choices, value => readFirst name choices value
  | .record name fields, value =>
    match value with
    | .object given => do
      let read ← given.mapM fun (key, value) => return (key, ← readField part fields key value)
      refuseMissing fields given
      return .object read
    | .array items => .object <$> readItems part name fields.length fields 0 items
    | _ => .error (.wrongType value ("struct " ++ name))
  | .merged name fields parts, value =>
    match value with
    | .object given => do
      let read ← given.mapM fun (key, value) => return (key, ← readField part fields key value)
      refuseMissing fields given
      let others := given.filter fun (key, _) => (fields.lookup key).isNone
      readParts parts (.object others)
      return .object read
    | _ => .error (.wrongType value ("struct " ++ name))

/-- The form of the value of a field. Other fields may be there, with any values. -/
def readField (part : Bool) : List (String × Shape) → String → Json → Reading Json
  | [], _, value => .ok value
  | (key, shape) :: rest, given, value =>
    if key = given then read part shape value else readField part rest given value

/-- The fields of a record of `count` fields, from `index` on, with their values in a list. -/
def readItems (part : Bool) (name : String) (count : Nat) :
    List (String × Shape) → Nat → List Json → Reading (List (String × Json))
  | [], _, [] => .ok []
  | [], index, items =>
    .error (if part then .tooLongPart (index + items.length) index
      else .tooLong (index + items.length))
  | (_, shape) :: rest, index, [] =>
    if shape.hasPlace then .error (.tooShort index name count)
    else readItems part name count rest (index + 1) []
  | (key, shape) :: rest, index, item :: items => do
    let value ← read part shape item
    return (key, value) :: (← readItems part name count rest (index + 1) items)

/-- The form of a value by the first shape that it fits. -/
def readFirst (name : String) : List Shape → Json → Reading Json
  | [], _ => .error (.noChoice name)
  | shape :: rest, value =>
    match read true shape value with
    | .ok form => .ok form
    | .error _ => readFirst name rest value

/-- The parts of an object have their shapes. -/
def readParts : List Shape → Json → Reading Unit
  | [], _ => .ok ()
  | shape :: rest, value => do
    let _ ← read true shape value
    readParts rest value

end

end Shape

end PropertyInsertion

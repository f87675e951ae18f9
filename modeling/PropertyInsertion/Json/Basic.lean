import PropertyInsertion.Double.Basic

/-!
# JSON values

The values that settings, messages and printed plans are made of.
-/

namespace PropertyInsertion

/-- A JSON value. The fields of an object keep their order. -/
inductive Json where
  | null
  | bool (value : Bool)
  | integer (value : Int)
  /-- A number with a point or an exponent, or one that is too great for an integer. -/
  | float (value : Double)
  | string (value : String)
  | array (items : List Json)
  | object (fields : List (String × Json))
deriving Repr

namespace Json

def nat (n : Nat) : Json := .integer n

def orNull (value : Option Json) : Json := value.getD .null

def field? (key : String) : Json → Option Json
  | .object fields => fields.lookup key
  | _ => none

def string? : Json → Option String
  | .string value => some value
  | _ => none

def array? : Json → Option (List Json)
  | .array items => some items
  | _ => none

def stringField? (key : String) (value : Json) : Option String :=
  (value.field? key).bind string?

end Json

end PropertyInsertion

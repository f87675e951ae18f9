/-!
# Why a text is no URI
-/

namespace PropertyInsertion.Uri

inductive Error where
  | noScheme
  | emptyHost
  | invalidDomain
  /-- A character that no host may hold. -/
  | invalidCharacter
  /-- A host that ends in a number and is no address of four bytes. -/
  | invalidShortAddress
  /-- Brackets around what is no address of eight groups. -/
  | invalidLongAddress
  | invalidService
deriving DecidableEq, Repr

def Error.message : Error → String
  | .noScheme => "relative URL without a base"
  | .emptyHost => "empty host"
  | .invalidDomain => "invalid international domain name"
  | .invalidCharacter => "invalid domain character"
  | .invalidShortAddress => "invalid IPv4 address"
  | .invalidLongAddress => "invalid IPv6 address"
  | .invalidService => "invalid port number"

/-- The value, or the reason that there is none. -/
def orElse {α : Type} (value? : Option α) (error : Error) : Except Error α :=
  match value? with
  | some value => .ok value
  | none => .error error

end PropertyInsertion.Uri

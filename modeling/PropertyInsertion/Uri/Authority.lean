import PropertyInsertion.Host.Address
import PropertyInsertion.Host.Domain
import PropertyInsertion.Text.Utf8
import PropertyInsertion.Uri.Error
import PropertyInsertion.Uri.Percent

/-!
# Authorities of URIs

An authority names a host, with credentials in front of it and the number of a service behind it.
Hosts of files and web URIs are domains or addresses.
-/

namespace PropertyInsertion.Uri

/-- A host, and the authority around it as it is written. -/
structure Authority where
  host : Text
  written : Text
deriving DecidableEq, Repr

/-- The schemes of web URIs and the service numbers that go without saying. -/
def webSchemes : List (Text × Nat) :=
  [("http".toList, 80), ("https".toList, 443), ("ws".toList, 80), ("wss".toList, 443),
    ("ftp".toList, 21)]

/-- The normal form of a host; `domain` says whether it is a domain. A domain that ends in a number is
an address of four bytes, and a host in brackets is one of eight groups. -/
def hostOf (domain : Bool) (host : Text) : Except Error Text :=
  match host with
  | '[' :: rest => do
    if rest.getLast? ≠ some ']' then throw .invalidLongAddress
    let groups ← orElse (Host.longAddress? rest.dropLast) .invalidLongAddress
    return '[' :: Host.writeLongAddress groups ++ [']']
  | _ => do
    if domain then
      let name ← orElse ((Text.ofUtf8? (decode host)).bind Host.domain?) .invalidDomain
      if name.isEmpty then throw .emptyHost
      if Host.endsInNumber name then orElse (Host.shortAddress? name) .invalidShortAddress
      else return name
    else if host.any Host.isForbidden then throw .invalidCharacter
    else return encode isControl host

/-- The credentials and what follows them: the last at sign divides the two. -/
def splitCredentials (text : Text) : Text × Text :=
  (((text.reverse.dropWhile (· != '@')).drop 1).reverse,
    (text.reverse.takeWhile (· != '@')).reverse)

/-- Credentials as they are written, with the at sign. Empty ones are left out. -/
def writeCredentials (credentials : Text) : Text :=
  let user := credentials.takeWhile (· != ':')
  let password := credentials.drop (user.length + 1)
  if user.isEmpty && password.isEmpty then []
  else
    encode inUserInfo user ++
      (if password.isEmpty then [] else ':' :: encode inUserInfo password) ++ ['@']

/-- How much of a text is a host: all up to a colon that is not in brackets. -/
def hostLength (bracketed : Bool) : Text → Nat
  | [] => 0
  | c :: rest =>
    if c == ':' && !bracketed then 0
    else 1 + hostLength (c == '[' || (bracketed && c != ']')) rest

/-- A service number as it is written, with the colon, and what follows it. The default is left
out. A backslash may follow, which then starts a path. -/
def serviceOf (default : Option Nat) (text : Text) : Except Error (Text × Text) := do
  let digits := (text.drop 1).takeWhile Char.isDigit
  let rest := text.drop (1 + digits.length)
  let number := digits.foldl (fun n c => n * 10 + (c.toNat - '0'.toNat)) 0
  if rest.head?.any (· != '\\') || 65535 < number then throw .invalidService
  if digits.isEmpty || default == some number then return ([], rest)
  return (':' :: Nat.toDigits 10 number, rest)

/-- The authority that a text spells, and what follows it. A web URI has a host, and so has one with
credentials or a service number. -/
def authorityOf (scheme text : Text) : Except Error (Authority × Text) := do
  let default := webSchemes.lookup scheme
  let (credentials, location) := splitCredentials text
  let credentials := writeCredentials credentials
  let (host, service) := location.splitAt (hostLength false location)
  if host.isEmpty && (default.isSome || !credentials.isEmpty || !service.isEmpty) then
    throw .emptyHost
  let host ← hostOf default.isSome host
  let (service, rest) ← serviceOf default service
  return (⟨host, credentials ++ host ++ service⟩, rest)

end PropertyInsertion.Uri

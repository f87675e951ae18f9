import PropertyInsertion.File.Path
import PropertyInsertion.Uri.Authority
import PropertyInsertion.Uri.Path

/-!
# URIs

Documents are named by URIs in a normal form: the scheme is in lower case, `.` and `..` are resolved,
and what may not stand in a URI is percent-encoded.
-/

namespace PropertyInsertion

/-- A URI in normal form, by its parts. -/
structure Uri where
  scheme : Text
  authority : Option Uri.Authority
  /-- A path that starts with a slash has segments. -/
  path : Text
  query : Option Text
  fragment : Option Text
deriving DecidableEq, Repr

namespace Uri

def fileScheme : Text := "file".toList

def localHost : Text := "localhost".toList

/-- The text without control characters and spaces around it. -/
def trim (text : Text) : Text :=
  let outer (c : Char) : Bool := c.toNat ≤ 0x20
  ((text.dropWhile outer).reverse.dropWhile outer).reverse

def scheme? (text : Text) : Option (Text × Text) :=
  let name := text.takeWhile fun c => c.isAlphanum || c == '+' || c == '-' || c == '.'
  match text.drop name.length with
  | ':' :: rest => if name.head?.any Char.isAlpha then some (lower name, rest) else none
  | _ => none

def splitMark (mark : Char) (text : Text) : Text × Option Text :=
  let front := text.takeWhile (· != mark)
  match text.drop front.length with
  | [] => (front, none)
  | _ :: rest => (front, some rest)

/-- The written path that a text spells behind an authority. -/
def pathOf (lenient : Bool) (text : Text) : Text :=
  let walk := Walk.follow false {} ((dropSlash lenient text).splitOnP (isSlash lenient))
  writePath walk.segments

/-- The host and the path of a file behind two slashes. A drive belongs to the path, in the place of the
host too, and leaves no host. -/
def hostParts (text : Text) : Except Error (Text × Text) := do
  let front := unbroken (text.takeWhile (!isSlash true ·))
  let rest := text.dropWhile (!isSlash true ·)
  if isDrive front then return ([], writeFilePath (fileWalk text).segments)
  let host ← if front.isEmpty then pure [] else hostOf true front
  if host.isEmpty || host == localHost then return ([], writeFilePath (fileWalk rest).segments)
  let walk := fileWalk (dropSlash true rest)
  return (if walk.onDrive then [] else host, writeFilePath walk.segments)

/-- The host and the path of a file. -/
def fileParts (text : Text) : Except Error (Text × Text) :=
  let behind := dropSlash true text
  if behind.length < text.length ∧ behind.head?.any (isSlash true) then hostParts (behind.drop 1)
  else .ok ([], writeFilePath (fileWalk behind).segments)

/-- The authority and the path of a web URI. -/
def webParts (scheme text : Text) : Except Error (Authority × Text) := do
  let rest := text.dropWhile (isSlash true)
  let (authority, _) ← authorityOf scheme (rest.takeWhile (!isSlash true ·))
  return (authority, pathOf true (rest.dropWhile (!isSlash true ·)))

/-- The authority and the path of any other URI; `last` says whether nothing follows the path. An at
sign alone is an authority only at the end. -/
def otherParts (scheme text : Text) (last : Bool) : Except Error (Option Authority × Text) :=
  match text with
  | '/' :: '/' :: rest => do
    let front := rest.takeWhile (· != '/')
    if front = ['@'] ∧ !(last && front == rest) then throw .emptyHost
    let (authority, behind) ← authorityOf scheme front
    let path := behind ++ rest.drop front.length
    return (some authority, if path.isEmpty then [] else pathOf false path)
  | '/' :: _ => .ok (none, pathOf false text)
  | _ => .ok (none, encode isControl text)

/-- The normal form of the URI that a text spells. In the path of a file some breaks count. -/
def parse (input : String) : Except Error Uri := do
  let trimmed := trim input.toList
  let (scheme, behind) ← orElse (scheme? (unbroken trimmed)) .noScheme
  let file := scheme = fileScheme
  let text :=
    if file then breaksBehindColons '/' ((trimmed.dropWhile (· != ':')).drop 1) else behind
  let (text, fragment) := splitMark '#' text
  let (text, query) := splitMark '?' text
  let web := (webSchemes.lookup scheme).isSome
  let (authority, path) ←
    if file then (fileParts text).map fun (host, path) => (some ⟨host, host⟩, path)
    else if web then (webParts scheme text).map fun (authority, path) => (some authority, path)
    else otherParts scheme text (query.isNone && fragment.isNone)
  return {
    scheme, authority, path
    query := query.map fun text =>
      encode (if web || file then inWebQuery else inQuery) (unbroken text)
    fragment := fragment.map fun text => encode inFragment (unbroken text) }

def parse? (input : String) : Option Uri :=
  (parse input).toOption

/-- The written form of a URI. A path that starts with two slashes is kept apart from an
authority. -/
def toText (uri : Uri) : Text :=
  let authority := match uri.authority with
    | some authority => '/' :: '/' :: authority.written
    | none => if ['/', '/'].isPrefixOf uri.path then ['/', '.'] else []
  uri.scheme ++ ':' :: authority ++ uri.path ++ (uri.query.map ('?' :: ·)).getD [] ++
    (uri.fragment.map ('#' :: ·)).getD []

def toString (uri : Uri) : String :=
  String.ofList uri.toText

/-- The bytes of a path end in a drive, behind a slash at least. -/
def endsInDrive (bytes : List UInt8) : Bool :=
  match bytes.reverse with
  | mark :: letter :: _ :: _ => isDrive [Char.ofNat letter.toNat, Char.ofNat mark.toNat]
  | _ => false

/-- The path of a local file: the segments of the URI with their percent codes decoded. A drive ends
with a slash. -/
def filePath? (uri : Uri) : Option Path := do
  let isLocal := match uri.authority with
    | some authority => authority.host.isEmpty || authority.host == localHost
    | none => true
  if !isLocal then none
  let segments ← segmentsOf? uri.path
  let bytes := segments.flatMap fun segment => decode ('/' :: segment)
  return ⟨if endsInDrive bytes then bytes ++ [Path.slash] else bytes⟩

end Uri

end PropertyInsertion

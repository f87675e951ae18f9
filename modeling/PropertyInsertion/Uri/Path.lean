import PropertyInsertion.Uri.Percent

/-!
# Paths of URIs

Slashes divide a path into segments. In the normal form the segments `.` and `..`, however they are
spelled, are resolved.
-/

namespace PropertyInsertion.Uri

def lower (text : Text) : Text :=
  text.map Char.toLower

/-- The segment `.`, whose dot may be encoded. -/
def isHere (segment : Text) : Bool :=
  lower segment == ['.'] || lower segment == ['%', '2', 'e']

/-- The segment `..`, whose dots may be encoded. -/
def isAbove (segment : Text) : Bool :=
  match segment with
  | '.' :: rest => isHere rest
  | '%' :: a :: b :: rest => isHere ['%', a, b] && isHere rest
  | _ => false

/-- A letter and a colon or bar, which name a drive. -/
def isDrive : Text → Bool
  | [letter, mark] => letter.isAlpha && (mark == ':' || mark == '|')
  | _ => false

/-- A drive, alone or in front of a backslash. -/
def startsWithDrive (segment : Text) : Bool :=
  isDrive (segment.take 2) && (segment.drop 2).head?.all (· == '\\')

/-- A tab or a line end, which counts for nothing in a URI except behind a drive. -/
def isBreak (c : Char) : Bool :=
  c == '\t' || c == '\n' || c == '\r'

def unbroken (text : Text) : Text :=
  text.filter (!isBreak ·)

/-- The text without its breaks, except for one behind a colon; `last` is the character in front of
the text. -/
def breaksBehindColons (last : Char) : Text → Text
  | [] => []
  | c :: rest =>
    if isBreak c && last != ':' then breaksBehindColons last rest
    else c :: breaksBehindColons c rest

/-- A drive and the text that a break divides from it. -/
def brokenDrive? : Text → Option (Text × Text)
  | letter :: ':' :: mark :: rest =>
    if letter.isAlpha && isBreak mark then some ([letter, ':'], unbroken rest) else none
  | _ => none

/-- How far a path has been followed: its segments in normal form, and whether the first of them was
entered as a drive. -/
structure Walk where
  segments : List Text := []
  onDrive : Bool := false
deriving DecidableEq, Repr

namespace Walk

/-- The walk without its last segment. A drive stays. -/
def leave (walk : Walk) : Walk :=
  if walk.segments.getLast?.any startsWithDrive then walk
  else { walk with segments := walk.segments.dropLast }

def push (walk : Walk) (segment : Text) : Walk :=
  { walk with segments := walk.segments ++ [segment] }

/-- The walk with one more segment, encoded. A drive at the front of a file's path gets its colon, and
what a break divides from it is a segment of its own. -/
def enter (file : Bool) (walk : Walk) (segment : Text) : Walk :=
  let plain := unbroken segment
  if file && walk.segments.isEmpty then
    if isDrive plain then ⟨[plain.take 1 ++ [':']], true⟩
    else
      match brokenDrive? segment with
      | some (drive, rest) => (walk.push drive).push (encode inPath rest)
      | none => walk.push (encode inPath plain)
  else walk.push (encode inPath plain)

/-- The walk along more segments. A path that ends in `.` or `..` ends with an empty segment. -/
def follow (file : Bool) (walk : Walk) : List Text → Walk
  | [] => walk
  | segment :: rest =>
    if isAbove segment then
      if rest.isEmpty then walk.leave.push [] else follow file walk.leave rest
    else if isHere segment then
      if rest.isEmpty then walk.push [] else follow file walk rest
    else follow file (walk.enter file segment) rest

end Walk

/-- Slashes divide paths, and in files and web URIs backslashes do so too. -/
def isSlash (lenient : Bool) (c : Char) : Bool :=
  c == '/' || (lenient && c == '\\')

/-- The text behind one slash at its front. -/
def dropSlash (lenient : Bool) : Text → Text
  | [] => []
  | c :: rest => if isSlash lenient c then rest else c :: rest

/-- The walk along a file's path. -/
def fileWalk (text : Text) : Walk :=
  Walk.follow true {} (text.splitOnP (isSlash true))

def writePath (segments : List Text) : Text :=
  segments.flatMap ('/' :: ·)

/-- The written path of a file. Empty segments at its front are left out. -/
def writeFilePath (segments : List Text) : Text :=
  match segments.dropWhile List.isEmpty with
  | [] => ['/']
  | segments => writePath segments

def segmentsOf? : Text → Option (List Text)
  | '/' :: rest => some (rest.splitOn '/')
  | _ => none

end PropertyInsertion.Uri

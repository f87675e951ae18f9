import PropertyInsertion.File.Path

/-!
# Files

Files are seen as a function from a path to a text, which can fail.
-/

namespace PropertyInsertion

inductive ReadError where
  | notFound
  | isDirectory
  | notDirectory
  /-- The bytes of the file are not UTF-8. -/
  | notText
  /-- The path, or a part of it, is longer than the system takes. -/
  | nameTooLong
  /-- The path holds a NUL, which ends a path for the system. -/
  | nulInPath
  /-- Any other failure, in the words of the system. -/
  | failed (cause : String)
deriving DecidableEq, Repr

def ReadError.message : ReadError → String
  | .notFound => "No such file or directory (os error 2)"
  | .isDirectory => "Is a directory (os error 21)"
  | .notDirectory => "Not a directory (os error 20)"
  | .notText => "stream did not contain valid UTF-8"
  | .nameTooLong => "File name too long (os error 36)"
  | .nulInPath => "file name contained an unexpected NUL byte"
  | .failed cause => cause

/-- The files that a program can read, by path. -/
abbrev Files := Path → Except ReadError Text

namespace Path

/-- Why the system takes no such path, wherever its files are. -/
def refusal? (path : Path) : Option ReadError :=
  if path.bytes.contains 0 then some .nulInPath
  else if path.bytes.isEmpty then some .notFound
  else if 4096 ≤ path.bytes.length then some .nameTooLong
  else none

/-- The most bytes that a part of a path has. -/
def longestPart : Nat := 255

end Path

end PropertyInsertion

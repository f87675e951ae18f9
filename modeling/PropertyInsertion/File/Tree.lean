import PropertyInsertion.File.Basic

/-!
# A tree of files

A finite tree of files and directories, and reading from it by path. Every part of a path but the
last has to lead through a directory.
-/

namespace PropertyInsertion

inductive FileNode where
  | file (bytes : List UInt8)
  | directory

/-- The parts of an absolute path, which name a place in a tree. -/
abbrev FilePlace := List (List UInt8)

/-- The part that stays at a place, and the one that leads back from it. -/
def herePart : List UInt8 := [0x2E]

def abovePart : List UInt8 := [0x2E, 0x2E]

/-- Files and directories by the parts of their absolute paths. The directories on the way to a
listed place are there too. -/
structure FileTree where
  nodes : List (FilePlace × FileNode)

namespace FileTree

def node? (tree : FileTree) (place : FilePlace) : Option FileNode :=
  match tree.nodes.lookup place with
  | some node => some node
  | none =>
    if place.isEmpty || tree.nodes.any (fun (listed, _) => place.isPrefixOf listed) then
      some .directory
    else none

def walk (tree : FileTree) (place : FilePlace) : List (List UInt8) → Except ReadError FilePlace
  | [] => .ok place
  | part :: rest =>
    match tree.node? place with
    | some .directory =>
      if part = [] ∨ part = herePart then walk tree place rest
      else if part = abovePart then walk tree place.dropLast rest
      else if Path.longestPart < part.length then .error .nameTooLong
      else walk tree (place ++ [part]) rest
    | some (.file _) => .error .notDirectory
    | none => .error .notFound

/-- The text of the file at a path, seen from a place. -/
def read (tree : FileTree) (place : FilePlace) : Files := fun path => do
  if let some refusal := path.refusal? then throw refusal
  let start := if path.isAbsolute then [] else place
  match tree.node? (← tree.walk start path.parts) with
  | some (.file bytes) =>
    match Text.ofUtf8? bytes with
    | some text => return text
    | none => throw .notText
  | some .directory => throw .isDirectory
  | none => throw .notFound

end FileTree

end PropertyInsertion

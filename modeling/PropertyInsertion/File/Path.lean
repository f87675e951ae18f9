import PropertyInsertion.Text.Utf8

/-!
# Paths

A path is the bytes that the system knows it by, which need not be text. Slashes divide it into parts,
and it is absolute if it starts with one.
-/

namespace PropertyInsertion

structure Path where
  bytes : List UInt8
deriving DecidableEq, Repr

namespace Path

def ofString (text : String) : Path := ⟨text.toUTF8.toList⟩

/-- The path as it is shown. Bytes that are not text are replaced. -/
def toString (path : Path) : String :=
  String.ofList (Text.ofUtf8 path.bytes)

def slash : UInt8 := 0x2F

def isAbsolute (path : Path) : Bool :=
  path.bytes.head? == some slash

def parts (path : Path) : List (List UInt8) :=
  path.bytes.splitOn slash

/-- The path of `name` seen from `base`; an absolute path is the same from everywhere. -/
def join (base name : Path) : Path :=
  if name.isAbsolute || base.bytes.isEmpty then name
  else if base.bytes.getLast? == some slash then ⟨base.bytes ++ name.bytes⟩
  else ⟨base.bytes ++ slash :: name.bytes⟩

/-- The path of a name that is text, seen from `base`. -/
def child (base : Path) (name : String) : Path :=
  base.join (ofString name)

end Path

end PropertyInsertion

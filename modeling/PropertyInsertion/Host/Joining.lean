import PropertyInsertion.Host.Composition
import PropertyInsertion.Host.Table.Direction

/-!
# Joiners in domains

The joiner and the non-joiner cannot be seen, so a label may hold them only where they change how it
is written: behind a virama, and the non-joiner also between letters that would join.
-/

namespace PropertyInsertion.Host

open Text.CodePoint

def nonJoiner : Char := '\u200C'

def joiner : Char := '\u200D'

/-- The combining class of viramas. -/
def virama : Nat := 9

def isTransparent (c : Char) : Bool :=
  inSpans Table.nonspacing c.toNat || inSpans Table.transparent c.toNat

/-- The first character that joining does not pass over is in one of the tables. -/
def meets (tables : List (List Span)) (text : Text) : Bool :=
  (text.dropWhile isTransparent).head?.any fun c => tables.any (inSpans · c.toNat)

/-- A joiner is sound between what stands before it, the nearest first, and what follows it. -/
def isSoundJoiner (c : Char) (before after : Text) : Bool :=
  before.head?.any (combiningClass · == virama) ||
    (c == nonJoiner && meets [Table.leftJoining, Table.dualJoining] before &&
      meets [Table.rightJoining, Table.dualJoining] after)

/-- All joiners of a text are sound; `before` is what stands before it, the nearest first. -/
def joinersAgree (before : Text) : Text → Bool
  | [] => true
  | c :: rest =>
    (!(c == joiner || c == nonJoiner) || isSoundJoiner c before rest) &&
      joinersAgree (c :: before) rest

end PropertyInsertion.Host

import PropertyInsertion.Text.Hex

/-!
# Percent encoding

A character that may not stand in a part of a URI is written as its UTF-8 bytes, each as a percent
sign and two hexadecimal digits. Which characters these are depends on the part.
-/

namespace PropertyInsertion.Uri

def encodeByte (byte : UInt8) : Text :=
  ['%', Text.hexDigit (byte.toNat / 16), Text.hexDigit (byte.toNat % 16)]

/-- The text with every character of a class encoded. -/
def encode (escaped : Char → Bool) (text : Text) : Text :=
  text.flatMap fun c =>
    if escaped c then (String.utf8EncodeChar c).flatMap encodeByte else [c]

/-- The bytes of a text with its percent codes decoded; a percent sign without two digits stands for
itself. -/
def decode : Text → List UInt8
  | [] => []
  | '%' :: high :: low :: rest =>
    match Text.hexDigit? high, Text.hexDigit? low with
    | some h, some l => UInt8.ofNat (h * 16 + l) :: decode rest
    | _, _ => UInt8.ofNat '%'.toNat :: decode (high :: low :: rest)
  | c :: rest => String.utf8EncodeChar c ++ decode rest

/-- A control character, or one that is not ASCII. -/
def isControl (c : Char) : Bool :=
  c.toNat < 0x20 || 0x7F ≤ c.toNat

def inFragment (c : Char) : Bool :=
  isControl c || [' ', '"', '<', '>', '\x60'].contains c

def inPath (c : Char) : Bool :=
  inFragment c || ['#', '?', '{', '}'].contains c

def inUserInfo (c : Char) : Bool :=
  inPath c || ['/', ':', ';', '=', '@', '[', '\\', ']', '^', '|'].contains c

def inQuery (c : Char) : Bool :=
  isControl c || [' ', '"', '#', '<', '>'].contains c

def inWebQuery (c : Char) : Bool :=
  inQuery c || c == '\x27'

end PropertyInsertion.Uri

import PropertyInsertion.Text.Basic

/-!
# UTF-8

Bytes are read as text, or refused, or read with a replacement for what is not text.
-/

namespace PropertyInsertion.Text

def ofUtf8? (bytes : List UInt8) : Option Text :=
  (String.fromUTF8? (ByteArray.mk bytes.toArray)).map String.toList

/-- What the first byte of a character outside ASCII says about the bytes behind it. -/
structure Lead where
  /-- The part of the character's number in the first byte. -/
  bits : Nat
  /-- How many bytes follow. -/
  count : Nat
  /-- The range of the first of them. -/
  low : UInt8
  high : UInt8

def Lead.ofByte? (byte : UInt8) : Option Lead :=
  let low : UInt8 := if byte = 0xE0 then 0xA0 else if byte = 0xF0 then 0x90 else 0x80
  let high : UInt8 := if byte = 0xED then 0x9F else if byte = 0xF4 then 0x8F else 0xBF
  if 0xC2 ≤ byte ∧ byte < 0xE0 then some ⟨byte.toNat - 0xC0, 1, low, high⟩
  else if 0xE0 ≤ byte ∧ byte < 0xF0 then some ⟨byte.toNat - 0xE0, 2, low, high⟩
  else if 0xF0 ≤ byte ∧ byte < 0xF5 then some ⟨byte.toNat - 0xF0, 3, low, high⟩
  else none

/-- The bytes at the front, `count` at most, that can follow a first byte. -/
def followers (low high : UInt8) : Nat → List UInt8 → List UInt8
  | count + 1, byte :: rest =>
    if low ≤ byte ∧ byte ≤ high then byte :: followers 0x80 0xBF count rest else []
  | _, _ => []

/-- Bytes as text. Bytes that begin a character without ending it are replaced together, and every
other byte that is not text is replaced by itself. -/
def ofUtf8 : List UInt8 → Text
  | [] => []
  | byte :: rest =>
    if byte < 0x80 then Char.ofNat byte.toNat :: ofUtf8 rest
    else
      match Lead.ofByte? byte with
      | none => '\uFFFD' :: ofUtf8 rest
      | some lead =>
        let taken := followers lead.low lead.high lead.count rest
        let number := taken.foldl (fun n follower => n * 64 + follower.toNat % 64) lead.bits
        let c := if taken.length = lead.count then Char.ofNat number else '\uFFFD'
        c :: ofUtf8 (rest.drop taken.length)
termination_by bytes => bytes.length
decreasing_by all_goals (simp only [List.length_cons, List.length_drop]; omega)

end PropertyInsertion.Text

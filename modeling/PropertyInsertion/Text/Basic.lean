import PropertyInsertion.Text.CodePoint

/-!
# Text

Text is a list of characters. This module fixes the character classes, trimming, and search for a
fixed mark; everything above it cuts and joins text through these operations.
-/

namespace PropertyInsertion

/-- Text as its characters, so that cutting, searching and joining are list operations. -/
abbrev Text := List Char

namespace Text

/-- White space of any script. -/
def isBlank (c : Char) : Bool :=
  CodePoint.inSpans CodePoint.whiteSpace c.toNat

/-- An alphabetic character of any script. Below `0x80` these are the Latin letters. -/
def isLetter (c : Char) : Bool :=
  if c.toNat < 0x80 then c.isAlpha else CodePoint.inSpans CodePoint.alphabetic c.toNat

/-- A numeric character of any script: a decimal digit, a letter number, a fraction and so on. -/
def isNumeral (c : Char) : Bool :=
  if c.toNat < 0x80 then c.isDigit
  else CodePoint.inSpans CodePoint.decimalNumber c.toNat ||
    CodePoint.inSpans CodePoint.otherNumber c.toNat

/-- The zero-width joiner and non-joiner, which may stand inside a word. -/
def isJoinControl (c : Char) : Bool :=
  c.toNat == 0x200C || c.toNat == 0x200D

/-- A character that words are made of: letters, marks, decimal digits, connectors and joiners. Words
keep to Unicode 16. -/
def isWordChar (c : Char) : Bool :=
  if c.toNat < 0x80 then c.isAlphanum || c == '_'
  else !CodePoint.inSpans CodePoint.recent c.toNat &&
    (CodePoint.inSpans CodePoint.alphabetic c.toNat ||
      CodePoint.inSpans CodePoint.mark c.toNat ||
      CodePoint.inSpans CodePoint.decimalNumber c.toNat ||
      CodePoint.inSpans CodePoint.connector c.toNat ||
      isJoinControl c)

def trimStart (text : Text) : Text :=
  text.dropWhile isBlank

def trimEnd (text : Text) : Text :=
  (text.reverse.dropWhile isBlank).reverse

def trim (text : Text) : Text :=
  trimStart (trimEnd text)

def leadingBlanks (text : Text) : Text :=
  text.takeWhile isBlank

/-- Nothing but blanks; the empty text counts. -/
def allBlank (text : Text) : Bool :=
  text.all isBlank

/-- The mark ends the text once trailing blanks are left out. -/
def closesWith (mark text : Text) : Bool :=
  mark.isSuffixOf (trimEnd text)

/-- The test holds at some place of the text, that is, for what follows there. -/
def holdsAt (test : Text → Bool) : Text → Bool
  | [] => test []
  | c :: rest => test (c :: rest) || holdsAt test rest

/-- The mark stands somewhere in the text. -/
def occursIn (mark text : Text) : Bool :=
  holdsAt mark.isPrefixOf text

/-- What stands before and after the first occurrence of the mark. -/
def cut? (mark : Text) : Text → Option (Text × Text)
  | [] => if mark.isEmpty then some ([], []) else none
  | c :: rest =>
    if mark.isPrefixOf (c :: rest) then some ([], (c :: rest).drop mark.length)
    else (cut? mark rest).map fun (before, after) => (c :: before, after)

/-- A test holds somewhere in a text exactly if the text splits into a head and a tail with it. -/
theorem holdsAt_iff {test : Text → Bool} {text : Text} :
    holdsAt test text = true ↔ ∃ head tail, text = head ++ tail ∧ test tail = true := by
  induction text with
  | nil =>
    refine ⟨fun h => ⟨[], [], rfl, h⟩, ?_⟩
    rintro ⟨head, tail, hsplit, htest⟩
    obtain ⟨-, rfl⟩ := List.append_eq_nil_iff.mp hsplit.symm
    exact htest
  | cons c rest ih =>
    rw [holdsAt, Bool.or_eq_true, ih]
    constructor
    · rintro (h | ⟨head, tail, rfl, htest⟩)
      · exact ⟨[], c :: rest, rfl, h⟩
      · exact ⟨c :: head, tail, rfl, htest⟩
    · rintro ⟨head, tail, hsplit, htest⟩
      cases head with
      | nil => exact Or.inl (by rwa [hsplit])
      | cons d head =>
        obtain ⟨-, rfl⟩ := List.cons.inj hsplit
        exact Or.inr ⟨head, tail, rfl, htest⟩

/-- The two sides of a cut, with the mark between them, are the text. -/
theorem cut?_eq_some {mark text before after : Text} (h : cut? mark text = some (before, after)) :
    text = before ++ mark ++ after := by
  induction text generalizing before with
  | nil =>
    rw [cut?] at h
    split at h
    next hmark =>
      obtain ⟨rfl, rfl⟩ := Prod.mk.inj (Option.some.inj h)
      simp [List.isEmpty_iff.mp hmark]
    next => contradiction
  | cons c rest ih =>
    rw [cut?] at h
    split at h
    next hstart =>
      obtain ⟨rfl, rfl⟩ := Prod.mk.inj (Option.some.inj h)
      obtain ⟨tail, htail⟩ := List.isPrefixOf_iff_prefix.mp hstart
      rw [← htail]
      simp
    next =>
      obtain ⟨⟨head, tail⟩, hcut, hpair⟩ := Option.map_eq_some_iff.mp h
      obtain ⟨rfl, rfl⟩ := Prod.mk.inj hpair
      simp [ih hcut]

end Text

end PropertyInsertion

import PropertyInsertion.Text.Basic

/-!
# Reading off the front of a text

A reader takes something off the front of a text and says what is left, which is always shorter. So a
reader that calls itself on what is left comes to an end.
-/

namespace PropertyInsertion

/-- Something read off the front of a text. -/
structure Read (α : Type) (text : Text) where
  value : α
  rest : Text
  shorter : rest.length < text.length

namespace Read

variable {α β γ : Type} {text inner : Text} {c : Char}

def map (f : α → β) (read : Read α text) : Read β text :=
  ⟨f read.value, read.rest, read.shorter⟩

/-- What was read off a shorter text, seen from the longer one. -/
def within (read : Read α inner) (h : inner.length ≤ text.length) : Read α text :=
  ⟨read.value, read.rest, Nat.lt_of_lt_of_le read.shorter h⟩

/-- The first character, read for what it stands for. -/
def first (value : α) : Read α (c :: text) :=
  ⟨value, text, Nat.lt_succ_self _⟩

/-- What was read behind a character, with that character read too. -/
def behind (read : Read α text) : Read α (c :: text) :=
  read.within (Nat.le_succ _)

/-- Two things read one behind the other, made into one. -/
def join (f : α → β → γ) (read : Read α text) (next : Read β read.rest) : Read γ text :=
  ⟨f read.value next.value, next.rest, Nat.lt_trans next.shorter read.shorter⟩

end Read

/-- The characters at the front that pass a test, if there are any. -/
def Text.run? (test : Char → Bool) (text : Text) : Option (Read Text text) :=
  let front := text.takeWhile test
  if h : front.length = 0 then none
  else some ⟨front, text.drop front.length, by
    have : front.length ≤ text.length := (List.takeWhile_sublist _).length_le
    rw [List.length_drop]
    omega⟩

end PropertyInsertion

import PropertyInsertion.Snippet.Basic

/-!
# Rendering snippets as plain text

Written snippets are read into tokens, and tokens are expanded to the text that a user sees before
typing: a placeholder shows its default, an echo the first default given for its stop, and an
escaped character stands for itself. What cannot be read as a stop is literal text.
-/

namespace PropertyInsertion.Snippet

inductive Token where
  | char (c : Char)
  | placeholder (stop : Nat) (default : Text)
  | echo (stop : Nat)
deriving DecidableEq, Repr

/-- Stops are 32-bit numbers; a greater one counts as the greatest. -/
def greatestStop : Nat := Nat.pow 2 32 - 1

def stopNumber (digits : Text) : Nat :=
  digits.foldl (fun n d => min (n * 10 + (d.toNat - '0'.toNat)) greatestStop) 0

/-- A backslash in front of such a character makes it literal. -/
def isEscapable (c : Char) : Bool :=
  c == '$' || c == '\\' || c == '}'

/-- The default of a placeholder, up to the first closing brace that is not escaped, and what
follows that brace. -/
def default? : Text → Option (Text × Text)
  | [] => none
  | '}' :: rest => some ([], rest)
  | '\\' :: c :: rest =>
    if isEscapable c then (default? rest).map fun (default, after) => (c :: default, after)
    else (default? (c :: rest)).map fun (default, after) => ('\\' :: default, after)
  | c :: rest => (default? rest).map fun (default, after) => (c :: default, after)

/-- A stop in braces, read behind its opening brace, and what follows it. -/
def bracedStop? (text : Text) : Option (Token × Text) :=
  let digits := text.takeWhile Char.isDigit
  if digits.isEmpty then none
  else
    match text.drop digits.length with
    | '}' :: after => some (.echo (stopNumber digits), after)
    | ':' :: rest =>
      (default? rest).map fun (default, after) => (.placeholder (stopNumber digits) default, after)
    | _ => none

/-- A stop, read behind its dollar sign, and what follows it. -/
def stop? (text : Text) : Option (Token × Text) :=
  let digits := text.takeWhile Char.isDigit
  if digits.isEmpty then
    match text with
    | '{' :: inner => bracedStop? inner
    | _ => none
  else some (.echo (stopNumber digits), text.drop digits.length)

theorem default?_length {text default after : Text} (h : default? text = some (default, after)) :
    after.length ≤ text.length := by
  fun_induction default? text generalizing default with
  | case1 => contradiction
  | case2 rest => simp_all
  | case3 c rest _ ih =>
    obtain ⟨⟨default', after'⟩, hread, hpair⟩ := Option.map_eq_some_iff.mp h
    obtain ⟨-, rfl⟩ := Prod.mk.inj hpair
    exact Nat.le_trans (ih hread) (by simp; omega)
  | case4 c rest _ ih =>
    obtain ⟨⟨default', after'⟩, hread, hpair⟩ := Option.map_eq_some_iff.mp h
    obtain ⟨-, rfl⟩ := Prod.mk.inj hpair
    exact Nat.le_trans (ih hread) (by simp)
  | case5 c rest _ _ ih =>
    obtain ⟨⟨default', after'⟩, hread, hpair⟩ := Option.map_eq_some_iff.mp h
    obtain ⟨-, rfl⟩ := Prod.mk.inj hpair
    exact Nat.le_trans (ih hread) (by simp)

theorem bracedStop?_length {text after : Text} {token : Token}
    (h : bracedStop? text = some (token, after)) : after.length ≤ text.length := by
  unfold bracedStop? at h
  simp only at h
  generalize hdigits : text.takeWhile Char.isDigit = digits at h
  have hdrop : (text.drop digits.length).length ≤ text.length := by simp
  split at h
  · contradiction
  split at h
  next rest hrest =>
    obtain ⟨-, rfl⟩ := Prod.mk.inj (Option.some.inj h)
    rw [hrest] at hdrop
    exact Nat.le_trans (by simp) hdrop
  next rest hrest =>
    obtain ⟨⟨default, after'⟩, hread, hpair⟩ := Option.map_eq_some_iff.mp h
    obtain ⟨-, rfl⟩ := Prod.mk.inj hpair
    rw [hrest] at hdrop
    exact Nat.le_trans (default?_length hread) (Nat.le_trans (by simp) hdrop)
  next => contradiction

/-- A stop is read off the front of the text, so no more is left than was there. -/
theorem stop?_length {text after : Text} {token : Token} (h : stop? text = some (token, after)) :
    after.length ≤ text.length := by
  unfold stop? at h
  simp only at h
  split at h
  · split at h
    · exact Nat.le_trans (bracedStop?_length h) (by simp)
    · contradiction
  · obtain ⟨-, rfl⟩ := Prod.mk.inj (Option.some.inj h)
    simp

/-- A written snippet read from left to right. -/
def tokens : Text → List Token
  | [] => []
  | '\\' :: c :: rest =>
    if isEscapable c then .char c :: tokens rest else .char '\\' :: tokens (c :: rest)
  | '$' :: rest =>
    match h : stop? rest with
    | some (token, after) =>
      have := stop?_length h
      token :: tokens after
    | none => .char '$' :: tokens rest
  | c :: rest => .char c :: tokens rest
termination_by text => text.length

/-- The text that tokens show, given the defaults of the stops met so far. -/
def expand (defaults : List (Nat × Text)) : List Token → Text
  | [] => []
  | .char c :: rest => c :: expand defaults rest
  | .placeholder stop default :: rest => default ++ expand (defaults ++ [(stop, default)]) rest
  | .echo stop :: rest => (defaults.lookup stop).getD [] ++ expand defaults rest

/-- The text that a written snippet shows before the user types. -/
def render (written : Text) : Text :=
  expand [] (tokens written)

end PropertyInsertion.Snippet

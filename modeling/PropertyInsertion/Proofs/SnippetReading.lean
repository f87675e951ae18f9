import PropertyInsertion.Snippet.Render
import Mathlib.Data.List.Basic

/-!
# Reading written snippets back

A written snippet is read into the tokens of its pieces: literal text into its characters, a
placeholder, an echo or the final stop into one token each. This needs that the defaults of
placeholders hold no backslash and no closing brace, and that no digit follows the final stop, which
would be read as part of its number.
-/

namespace PropertyInsertion

namespace Snippet

/-! ### One step of reading -/

theorem tokens_escaped {c : Char} (rest : Text) (hc : isEscapable c = true) :
    tokens ('\\' :: c :: rest) = .char c :: tokens rest := by
  rw [tokens, if_pos hc]

theorem tokens_plain {c : Char} (rest : Text) (hbackslash : c ≠ '\\') (hdollar : c ≠ '$') :
    tokens (c :: rest) = .char c :: tokens rest := by
  rw [tokens]
  · exact fun _ _ h _ => hbackslash h
  · exact hdollar

theorem tokens_stop {rest after : Text} {token : Token} (h : stop? rest = some (token, after)) :
    tokens ('$' :: rest) = token :: tokens after := by
  rw [tokens]
  split
  next token' after' hread =>
    obtain ⟨rfl, rfl⟩ := Prod.mk.inj (Option.some.inj (hread.symm.trans h))
    rfl
  next hread => rw [h] at hread; contradiction

/-- Escaped text is read as its own characters, whatever follows it. -/
theorem tokens_escape_append (text rest : Text) :
    tokens (escape text ++ rest) = text.map .char ++ tokens rest := by
  induction text with
  | nil => rfl
  | cons c text ih =>
      rw [escape, List.flatMap_cons, List.append_assoc, List.map_cons, List.cons_append]
      rw [escape] at ih
      split
      next hspecial =>
        rcases hspecial with rfl | rfl
        · rw [List.cons_append, List.singleton_append, tokens_escaped _ (by decide), ih]
        · rw [List.cons_append, List.singleton_append, tokens_escaped _ (by decide), ih]
      next hplain =>
        obtain ⟨hdollar, hbackslash⟩ := not_or.mp hplain
        rw [List.singleton_append, tokens_plain _ hbackslash hdollar, ih]

/-! ### Stops -/

theorem isDigit_of_mem_stopDigits {stop : Nat} {c : Char} (h : c ∈ stopDigits stop) :
    c.isDigit = true :=
  Nat.isDigit_of_mem_toDigits (by decide) (by decide) h

theorem takeWhile_stopDigits (stop : Nat) (rest : Text)
    (hrest : rest.head?.all (!·.isDigit) = true) :
    (stopDigits stop ++ rest).takeWhile Char.isDigit = stopDigits stop := by
  rw [List.takeWhile_append_of_pos fun c hc => isDigit_of_mem_stopDigits hc]
  cases rest with
  | nil => simp
  | cons c rest =>
      have hc : c.isDigit = false := by simpa using hrest
      simp [hc]

theorem stopNumber_stopDigits {stop : Nat} (h : stop ≤ greatestStop) :
    stopNumber (stopDigits stop) = stop := by
  -- as long as the exact value stays within the limit, no step is cut
  have hcut : ∀ (digits : Text) (start : Nat),
      digits.foldl (fun n d => min (n * 10 + (d.toNat - '0'.toNat)) greatestStop)
          (min start greatestStop) =
        min (Nat.ofDigitChars 10 digits start) greatestStop := by
    intro digits
    induction digits with
    | nil => intro start; simp
    | cons d digits ih =>
        intro start
        rw [List.foldl_cons, Nat.ofDigitChars_cons, ← ih]
        congr 1
        omega
  have hstart := hcut (stopDigits stop) 0
  rw [Nat.zero_min, stopDigits, Nat.ofDigitChars_ten_toDigits, Nat.min_eq_left h] at hstart
  exact hstart

theorem default?_append {default : Text} (rest : Text) (hbackslash : '\\' ∉ default)
    (hbrace : '}' ∉ default) : default? (default ++ '}' :: rest) = some (default, rest) := by
  induction default with
  | nil => rw [List.nil_append, default?]
  | cons c default ih =>
      rw [List.mem_cons, not_or] at hbackslash hbrace
      rw [List.cons_append, default?, ih hbackslash.2 hbrace.2, Option.map_some]
      · exact fun h => hbrace.1 h.symm
      · exact fun _ _ h _ => hbackslash.1 h.symm

theorem stop?_placeholder {stop : Nat} {default : Text} (rest : Text) (hstop : stop ≤ greatestStop)
    (hbackslash : '\\' ∉ default) (hbrace : '}' ∉ default) :
    stop? ('{' :: (stopDigits stop ++ ':' :: (default ++ '}' :: rest))) =
      some (.placeholder stop default, rest) := by
  have hdigits := takeWhile_stopDigits stop (':' :: (default ++ '}' :: rest)) (by simp)
  have hne : (stopDigits stop).isEmpty = false := by simp [stopDigits]
  simp [stop?, bracedStop?, hdigits, hne, default?_append rest hbackslash hbrace,
    stopNumber_stopDigits hstop]

theorem stop?_echo {stop : Nat} (rest : Text) (hstop : stop ≤ greatestStop) :
    stop? ('{' :: (stopDigits stop ++ '}' :: rest)) = some (.echo stop, rest) := by
  have hdigits := takeWhile_stopDigits stop ('}' :: rest) (by simp)
  have hne : (stopDigits stop).isEmpty = false := by simp [stopDigits]
  simp [stop?, bracedStop?, hdigits, hne, stopNumber_stopDigits hstop]

theorem stop?_finalStop {rest : Text} (hrest : rest.head?.all (!·.isDigit) = true) :
    stop? ('0' :: rest) = some (.echo 0, rest) := by
  have hdigits : (('0' :: rest).takeWhile Char.isDigit) = ['0'] := by
    simpa [stopDigits] using takeWhile_stopDigits 0 rest hrest
  simp [stop?, hdigits, stopNumber]

end Snippet

/-! ### Whole snippets -/

/-- What a piece is read into. -/
def Piece.tokens : Piece → List Snippet.Token
  | .text literal => literal.map .char
  | .placeholder stop default => [.placeholder stop default]
  | .echo stop => [.echo stop]
  | .finalStop => [.echo 0]

namespace Snippet

/-- A snippet whose written form says no more than its pieces: stops fit their numbers, defaults
need no escape and no digit follows the final stop. -/
def Readable : Snippet → Prop
  | [] => True
  | .text _ :: rest => Readable rest
  | .placeholder stop default :: rest =>
    stop ≤ greatestStop ∧ '\\' ∉ default ∧ '}' ∉ default ∧ Readable rest
  | .echo stop :: rest => stop ≤ greatestStop ∧ Readable rest
  | .finalStop :: rest => (markup rest).head?.all (!·.isDigit) = true ∧ Readable rest

theorem markup_cons (piece : Piece) (rest : Snippet) :
    markup (piece :: rest) = piece.markup ++ markup rest := by
  rw [markup, markup, List.flatMap_cons]

/-- **Reading back.** The written form of a readable snippet is read into the tokens of its
pieces. -/
theorem tokens_markup {snippet : Snippet} (h : snippet.Readable) :
    tokens snippet.markup = snippet.flatMap Piece.tokens := by
  induction snippet with
  | nil => rw [markup, List.flatMap_nil, tokens, List.flatMap_nil]
  | cons piece rest ih =>
      rw [markup_cons, List.flatMap_cons]
      cases piece with
      | text literal => rw [Piece.markup, tokens_escape_append, ih h, Piece.tokens]
      | placeholder stop default =>
          obtain ⟨hstop, hbackslash, hbrace, hrest⟩ := h
          have hread := stop?_placeholder (markup rest) hstop hbackslash hbrace
          rw [Piece.tokens, ← ih hrest, List.singleton_append, ← tokens_stop hread]
          simp [Piece.markup]
      | echo stop =>
          obtain ⟨hstop, hrest⟩ := h
          have hread := stop?_echo (markup rest) hstop
          rw [Piece.tokens, ← ih hrest, List.singleton_append, ← tokens_stop hread]
          simp [Piece.markup]
      | finalStop =>
          obtain ⟨hdigit, hrest⟩ := h
          rw [Piece.tokens, ← ih hrest, List.singleton_append,
            ← tokens_stop (stop?_finalStop hdigit)]
          rfl

/-- The text that pieces show, given the defaults of the stops met so far. -/
def shown (defaults : List (Nat × Text)) : Snippet → Text
  | [] => []
  | .text literal :: rest => literal ++ shown defaults rest
  | .placeholder stop default :: rest => default ++ shown (defaults ++ [(stop, default)]) rest
  | .echo stop :: rest => (defaults.lookup stop).getD [] ++ shown defaults rest
  | .finalStop :: rest => (defaults.lookup 0).getD [] ++ shown defaults rest

theorem expand_chars (defaults : List (Nat × Text)) (literal : Text) (rest : List Token) :
    expand defaults (literal.map .char ++ rest) = literal ++ expand defaults rest := by
  induction literal with
  | nil => rfl
  | cons c literal ih => rw [List.map_cons, List.cons_append, expand, ih, List.cons_append]

theorem expand_tokens (defaults : List (Nat × Text)) (snippet : Snippet) :
    expand defaults (snippet.flatMap Piece.tokens) = shown defaults snippet := by
  induction snippet generalizing defaults with
  | nil => rfl
  | cons piece rest ih =>
      rw [List.flatMap_cons]
      cases piece with
      | text literal => rw [Piece.tokens, expand_chars, ih, shown]
      | placeholder stop default => rw [Piece.tokens, List.singleton_append, expand, ih, shown]
      | echo stop => rw [Piece.tokens, List.singleton_append, expand, ih, shown]
      | finalStop => rw [Piece.tokens, List.singleton_append, expand, ih, shown]

theorem render_markup {snippet : Snippet} (h : snippet.Readable) :
    render snippet.markup = shown [] snippet := by
  rw [render, tokens_markup h, expand_tokens]

end Snippet

/-! ### Snippets that show their own text only -/

/-- The text that a piece shows by itself. -/
def Piece.plain : Piece → Text
  | .text literal => literal
  | .placeholder _ default => default
  | .echo _ => []
  | .finalStop => []

/-- The piece shows nothing but its own text, and leaves the final stop without a default. -/
def Piece.isPlain : Piece → Bool
  | .text _ => true
  | .placeholder stop _ => stop != 0
  | .echo _ => false
  | .finalStop => true

namespace Snippet

theorem shown_eq_plain {snippet : Snippet} {defaults : List (Nat × Text)}
    (hplain : ∀ piece ∈ snippet, piece.isPlain = true) (hfinal : defaults.lookup 0 = none) :
    shown defaults snippet = snippet.flatMap Piece.plain := by
  induction snippet generalizing defaults with
  | nil => rfl
  | cons piece rest ih =>
      have hpiece := hplain piece List.mem_cons_self
      have hrest : ∀ other ∈ rest, other.isPlain = true := fun other hother =>
        hplain other (List.mem_cons_of_mem piece hother)
      rw [List.flatMap_cons]
      cases piece with
      | text literal => rw [shown, ih hrest hfinal, Piece.plain]
      | placeholder stop default =>
          rw [Piece.isPlain, bne_iff_ne] at hpiece
          have hstop : (0 == stop) = false := beq_false_of_ne hpiece.symm
          have hdefaults : (defaults ++ [(stop, default)]).lookup 0 = none := by
            rw [List.lookup_append, hfinal, Option.none_or, List.lookup_cons, hstop]
            rfl
          rw [shown, ih hrest hdefaults, Piece.plain]
      | echo stop => contradiction
      | finalStop => rw [shown, ih hrest hfinal, hfinal, Piece.plain, Option.getD_none]

end Snippet

end PropertyInsertion

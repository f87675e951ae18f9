import PropertyInsertion.Proofs.SnippetReading
import Mathlib.Data.List.Infix

/-!
# Rendering takes back what writing did

A written snippet shows the text of its pieces: literal text as it is, a placeholder as its default,
and an echo as the default of the first placeholder of its stop that stands in front of it. The
condition is on the pieces alone: what could be misread is a default that needs an escape, a stop
beyond the greatest one, and a digit behind the final stop.
-/

namespace PropertyInsertion

/-- The default that a piece gives to a stop. -/
def Piece.default? (stop : Nat) : Piece → Option Text
  | .placeholder other default => if other = stop then some default else none
  | _ => none

/-- The text that a piece shows behind earlier pieces. The final stop is an echo of stop zero. -/
def Piece.shownBehind (earlier : Snippet) : Piece → Text
  | .text literal => literal
  | .placeholder _ default => default
  | .echo stop => (earlier.findSome? (Piece.default? stop)).getD []
  | .finalStop => (earlier.findSome? (Piece.default? 0)).getD []

namespace Snippet

/-- What each piece shows behind the pieces in front of it, in turn. -/
def shownText (snippet : Snippet) : Text :=
  (snippet.zip snippet.inits).flatMap fun (piece, earlier) => piece.shownBehind earlier

/-- Empty texts aside, the snippet starts with a text whose first character is a digit. -/
def startsWithDigit (snippet : Snippet) : Bool :=
  match snippet.dropWhile (· == .text []) with
  | .text (c :: _) :: _ => c.isDigit
  | _ => false

structure Unambiguous (snippet : Snippet) : Prop where
  placeholder : ∀ stop default, .placeholder stop default ∈ snippet →
    stop ≤ greatestStop ∧ '\\' ∉ default ∧ '}' ∉ default
  echo : ∀ stop, .echo stop ∈ snippet → stop ≤ greatestStop
  finalStop : ∀ back, .finalStop :: back <:+ snippet → startsWithDigit back = false

/-! ### Digits at the front of written snippets -/

theorem isDigit_head?_escape (c : Char) (literal rest : Text) :
    (escape (c :: literal) ++ rest).head?.all (!·.isDigit) = !c.isDigit := by
  rw [escape, List.flatMap_cons]
  by_cases hspecial : c = '$' ∨ c = '\\'
  · rcases hspecial with rfl | rfl <;> rfl
  · simp [hspecial]

/-- Every piece but an empty text is written with its first character in front, or with a sign that
is no digit. -/
theorem isDigit_head?_markup (snippet : Snippet) :
    (markup snippet).head?.all (!·.isDigit) = !snippet.startsWithDigit := by
  induction snippet with
  | nil => rfl
  | cons piece rest ih =>
      rw [markup_cons]
      cases piece with
      | text literal =>
          cases literal with
          | nil =>
              have hskip : startsWithDigit (.text [] :: rest) = startsWithDigit rest := by
                simp [startsWithDigit]
              rw [hskip, ← ih]
              rfl
          | cons c literal =>
              rw [Piece.markup, isDigit_head?_escape]
              simp [startsWithDigit]
      | placeholder stop default => rfl
      | echo stop => rfl
      | finalStop => rfl

theorem Unambiguous.tail {piece : Piece} {rest : Snippet} (h : Unambiguous (piece :: rest)) :
    rest.Unambiguous where
  placeholder stop default hmem := h.placeholder stop default (List.mem_cons_of_mem piece hmem)
  echo stop hmem := h.echo stop (List.mem_cons_of_mem piece hmem)
  finalStop back hback := h.finalStop back (hback.trans (List.suffix_cons piece rest))

theorem readable_of_unambiguous {snippet : Snippet} (h : snippet.Unambiguous) :
    snippet.Readable := by
  induction snippet with
  | nil => trivial
  | cons piece rest ih =>
      have hrest := ih h.tail
      cases piece with
      | text literal => exact hrest
      | placeholder stop default =>
          obtain ⟨hstop, hbackslash, hbrace⟩ := h.placeholder stop default List.mem_cons_self
          exact ⟨hstop, hbackslash, hbrace, hrest⟩
      | echo stop => exact ⟨h.echo stop List.mem_cons_self, hrest⟩
      | finalStop =>
          refine ⟨?_, hrest⟩
          rw [isDigit_head?_markup, h.finalStop rest List.suffix_rfl]
          rfl

/-! ### The first defaults -/

/-- A table of defaults that gives every stop the default of its first placeholder. -/
def Records (defaults : List (Nat × Text)) (earlier : Snippet) : Prop :=
  ∀ stop, defaults.lookup stop = earlier.findSome? (Piece.default? stop)

theorem Records.placeholder {defaults : List (Nat × Text)} {earlier : Snippet}
    (h : Records defaults earlier) (stop : Nat) (default : Text) :
    Records (defaults ++ [(stop, default)]) (earlier ++ [.placeholder stop default]) := by
  intro other
  rw [List.lookup_append, List.findSome?_append, h other]
  congr 1
  by_cases hstop : stop = other
  · simp [Piece.default?, hstop]
  · have hother : (other == stop) = false := beq_false_of_ne (Ne.symm hstop)
    simp [Piece.default?, hstop, List.lookup_cons, hother]

theorem Records.skip {defaults : List (Nat × Text)} {earlier : Snippet}
    (h : Records defaults earlier) (piece : Piece) (hpiece : ∀ stop, piece.default? stop = none) :
    Records defaults (earlier ++ [piece]) := by
  intro other
  rw [List.findSome?_append, h other, List.findSome?_singleton, hpiece, Option.or_none]

/-- The table that a run over the pieces keeps holds the first defaults of the pieces behind it. -/
theorem shown_eq_of_records {defaults : List (Nat × Text)} {earlier : Snippet} (snippet : Snippet)
    (h : Records defaults earlier) :
    shown defaults snippet =
      (snippet.zip (snippet.inits.map (earlier ++ ·))).flatMap
        fun (piece, front) => piece.shownBehind front := by
  induction snippet generalizing defaults earlier with
  | nil => rfl
  | cons piece rest ih =>
      have hfronts : (rest.inits.map (piece :: ·)).map (earlier ++ ·) =
          rest.inits.map (earlier ++ [piece] ++ ·) := by
        rw [List.map_map]
        exact List.map_congr_left fun front _ => by simp
      rw [List.inits_cons, List.map_cons, List.zip_cons_cons, List.flatMap_cons, hfronts,
        List.append_nil]
      dsimp only
      cases piece with
      | text literal => rw [shown, ih (h.skip (.text literal) fun _ => rfl), Piece.shownBehind]
      | placeholder stop default =>
          rw [shown, ih (h.placeholder stop default), Piece.shownBehind]
      | echo stop => rw [shown, ih (h.skip (.echo stop) fun _ => rfl), Piece.shownBehind, h stop]
      | finalStop => rw [shown, ih (h.skip .finalStop fun _ => rfl), Piece.shownBehind, h 0]

theorem shown_eq_shownText (snippet : Snippet) : shown [] snippet = snippet.shownText := by
  have hnone : Records [] [] := fun _ => rfl
  rw [shown_eq_of_records snippet hnone, shownText]
  simp

/-- **Rendering inverts writing.** An unambiguous snippet, written and rendered, shows the text of
its pieces, and escaped text shows as it was. -/
theorem render_inverts_markup :
    (∀ snippet : Snippet, snippet.Unambiguous → render snippet.markup = snippet.shownText) ∧
      ∀ text, render (escape text) = text := by
  constructor
  · intro snippet h
    rw [render_markup (readable_of_unambiguous h), shown_eq_shownText]
  · intro text
    have hread := tokens_escape_append text []
    rw [List.append_nil, tokens, List.append_nil] at hread
    rw [render, hread]
    simpa [expand] using expand_chars [] text []

/-- Echoes in front of their placeholder, a second default, a default for the final stop, and empty
texts and signs of markup at the seams. -/
def echoing : Snippet :=
  [.echo 1, .text "\\".toList, .placeholder 1 "$a".toList, .text "\x7b1\x7d$".toList,
    .placeholder 1 ['b'], .echo 1, .finalStop, .text [], .text "$0".toList, .placeholder 0 ['c'],
    .finalStop, .text [], .echo 4294967295, .text ['0']]

theorem echoing_render_inverts_markup :
    echoing.Unambiguous ∧
      render echoing.markup = "\\$a\x7b1\x7d$b$a$0cc0".toList := by
  have hunambiguous : echoing.Unambiguous := by
    have htails : ∀ tail ∈ echoing.tails, tail.head? = some .finalStop →
        startsWithDigit tail.tail = false := by decide
    refine ⟨?_, ?_, ?_⟩
    · intro stop default hmem
      simp only [echoing, List.mem_cons, reduceCtorEq, Piece.placeholder.injEq, List.not_mem_nil,
        false_or, or_false] at hmem
      rcases hmem with ⟨rfl, rfl⟩ | ⟨rfl, rfl⟩ | ⟨rfl, rfl⟩ <;> decide
    · intro stop hmem
      simp only [echoing, List.mem_cons, reduceCtorEq, Piece.echo.injEq, List.not_mem_nil,
        false_or, or_false] at hmem
      rcases hmem with rfl | rfl | rfl <;> decide
    · intro back hback
      exact htails _ ((List.mem_tails _ _).mpr hback) rfl
  refine ⟨hunambiguous, ?_⟩
  rw [render_inverts_markup.1 echoing hunambiguous]
  decide

end Snippet

end PropertyInsertion

import PropertyInsertion.Proofs.PlanShape

/-!
# Nothing copied is markup

A written plan is read, from left to right, as escaped characters, placeholders for the name, the
final stop and plain characters, and in one way only. The marks of a plan are those of its pieces:
text that comes from the document or the settings is read as itself, character by character.
-/

namespace PropertyInsertion

namespace Plan

/-- What a written plan is made of. -/
inductive Mark where
  /-- A character behind a backslash. -/
  | escaped (c : Char)
  /-- A first stop with the requested name as its default. -/
  | placeholder
  | finalStop
  | plain (c : Char)
deriving DecidableEq, Repr

namespace Mark

/-- Only backslashes and dollar signs are escaped, and these always are. -/
def IsProper : Mark → Prop
  | .escaped c => c = '\\' ∨ c = '$'
  | .plain c => c ≠ '\\' ∧ c ≠ '$'
  | _ => True

def written (name : Text) : Mark → Text
  | .escaped c => ['\\', c]
  | .placeholder => ['$', '{', '1', ':'] ++ name ++ ['}']
  | .finalStop => ['$', '0']
  | .plain c => [c]

/-- The mark as the renderer of snippets takes it. -/
def token (name : Text) : Mark → Snippet.Token
  | .escaped c => .char c
  | .placeholder => .placeholder 1 name
  | .finalStop => .echo 0
  | .plain c => .char c

/-- A character of literal text. -/
def ofChar (c : Char) : Mark :=
  if c = '$' ∨ c = '\\' then .escaped c else .plain c

end Mark

/-- The text read from left to right as marks: all of it, with no digit behind a final stop. -/
structure Splits (name text : Text) (marks : List Mark) : Prop where
  proper : ∀ mark ∈ marks, mark.IsProper
  noDigit : ∀ front back, marks = front ++ .finalStop :: back →
    (back.flatMap (Mark.written name)).head?.all (!·.isDigit) = true
  complete : marks.flatMap (Mark.written name) = text

end Plan

/-- The marks of a piece; plans have no echoes. -/
def Piece.marks : Piece → List Plan.Mark
  | .text literal => literal.map Plan.Mark.ofChar
  | .placeholder _ _ => [.placeholder]
  | .echo _ => []
  | .finalStop => [.finalStop]

namespace Plan

open Code

/-! ### One way to read -/

theorem written_ne_nil (name : Text) (mark : Mark) : mark.written name ≠ [] := by
  cases mark <;> simp [Mark.written]

/-- The written forms of marks are told apart by their first two characters. -/
theorem mark_eq_of_written_append_eq {name rest rest' : Text} {mark other : Mark}
    (hmark : mark.IsProper) (hother : other.IsProper)
    (h : mark.written name ++ rest = other.written name ++ rest') :
    mark = other ∧ rest = rest' := by
  cases mark <;> cases other <;>
    simp only [Mark.written, Mark.IsProper, List.cons_append, List.nil_append, List.append_assoc,
      List.cons.injEq, List.append_cancel_left_eq] at h hmark hother <;> grind

theorem marks_eq_of_written_eq {name : Text} {marks others : List Mark}
    (hmarks : ∀ mark ∈ marks, mark.IsProper) (hothers : ∀ mark ∈ others, mark.IsProper)
    (h : marks.flatMap (Mark.written name) = others.flatMap (Mark.written name)) :
    marks = others := by
  induction marks generalizing others with
  | nil =>
      cases others with
      | nil => rfl
      | cons other others =>
          have hempty := (List.append_eq_nil_iff.mp h.symm).1
          exact absurd hempty (written_ne_nil name other)
  | cons mark marks ih =>
      cases others with
      | nil =>
          have hempty := (List.append_eq_nil_iff.mp h).1
          exact absurd hempty (written_ne_nil name mark)
      | cons other others =>
          rw [List.flatMap_cons, List.flatMap_cons] at h
          obtain ⟨rfl, hrest⟩ := mark_eq_of_written_append_eq (hmarks mark List.mem_cons_self)
            (hothers other List.mem_cons_self) h
          rw [ih (fun m hm => hmarks m (List.mem_cons_of_mem mark hm))
            (fun m hm => hothers m (List.mem_cons_of_mem mark hm)) hrest]

/-! ### The marks of pieces -/

theorem isProper_ofChar (c : Char) : (Mark.ofChar c).IsProper := by
  unfold Mark.ofChar
  split
  next h => exact h.symm
  next h => exact ⟨fun hc => h (Or.inr hc), fun hc => h (Or.inl hc)⟩

theorem ofChar_ne (c : Char) : Mark.ofChar c ≠ .placeholder ∧ Mark.ofChar c ≠ .finalStop := by
  unfold Mark.ofChar
  split <;> exact ⟨Mark.noConfusion, Mark.noConfusion⟩

theorem written_ofChar (name : Text) (literal : Text) :
    (literal.map Mark.ofChar).flatMap (Mark.written name) = Snippet.escape literal := by
  rw [List.flatMap_map, Snippet.escape]
  congr 1
  funext c
  unfold Mark.ofChar
  split <;> rfl

theorem token_ofChar (name : Text) (c : Char) : (Mark.ofChar c).token name = .char c := by
  unfold Mark.ofChar
  split <;> rfl

section Pieces

variable {name : Text} {snippet : Snippet}
  (hpieces : ∀ piece ∈ snippet,
    (∃ literal, piece = .text literal) ∨ piece = nameStop name ∨ piece = .finalStop)

include hpieces

theorem isProper_marks : ∀ mark ∈ snippet.flatMap Piece.marks, mark.IsProper := by
  intro mark hmark
  obtain ⟨piece, hpiece, hmark⟩ := List.mem_flatMap.mp hmark
  obtain ⟨literal, rfl⟩ | rfl | rfl := hpieces piece hpiece
  · obtain ⟨c, -, rfl⟩ := List.mem_map.mp hmark
    exact isProper_ofChar c
  · rw [List.mem_singleton.mp hmark]
    trivial
  · rw [List.mem_singleton.mp hmark]
    trivial

theorem written_marks :
    (snippet.flatMap Piece.marks).flatMap (Mark.written name) = snippet.markup := by
  rw [List.flatMap_assoc, Snippet.markup]
  refine List.flatMap_congr fun piece hpiece => ?_
  obtain ⟨literal, rfl⟩ | rfl | rfl := hpieces piece hpiece
  · exact written_ofChar name literal
  · have hdigits : Snippet.stopDigits 1 = ['1'] := rfl
    simp [Piece.marks, nameStop, Mark.written, Piece.markup, hdigits]
  · rfl

theorem token_marks :
    (snippet.flatMap Piece.marks).map (Mark.token name) = snippet.flatMap Piece.tokens := by
  rw [List.map_flatMap]
  refine List.flatMap_congr fun piece hpiece => ?_
  obtain ⟨literal, rfl⟩ | rfl | rfl := hpieces piece hpiece
  · rw [Piece.marks, Piece.tokens, List.map_map]
    exact List.map_congr_left fun c _ => token_ofChar name c
  · rfl
  · rfl

end Pieces

theorem notMem_marks_texts (texts : List Text) {mark : Mark}
    (hmark : mark = .placeholder ∨ mark = .finalStop) :
    mark ∉ (texts.map Piece.text).flatMap Piece.marks := by
  intro hmem
  obtain ⟨piece, hpiece, hmem⟩ := List.mem_flatMap.mp hmem
  obtain ⟨literal, -, rfl⟩ := List.mem_map.mp hpiece
  obtain ⟨c, -, hc⟩ := List.mem_map.mp hmem
  rcases hmark with rfl | rfl
  · exact (ofChar_ne c).1 hc
  · exact (ofChar_ne c).2 hc

/-- The marks of an assignment behind its indentation. -/
def assignmentMarks : List Mark :=
  thisArrow.map Mark.ofChar ++ [.placeholder] ++ gets.map Mark.ofChar ++
    [.placeholder, .plain ';', .finalStop]

/-- The marks of a plan: two placeholders among literal characters, then those of the assignment,
and literal characters on a new line. -/
theorem exists_marks_of_assigns {settings : Settings} {name : Text} {snippet : Snippet}
    (h : Assigns settings name snippet) :
    ∃ front back : List Mark,
      snippet.flatMap Piece.marks = front ++ assignmentMarks ++ .plain '\n' :: back ∧
      front.count .placeholder = 2 ∧ .finalStop ∉ front ∧ .placeholder ∉ back ∧
      .finalStop ∉ back := by
  obtain ⟨texts, between, inner, back, blockIndent, behind, rfl⟩ := h
  refine ⟨(texts.map Piece.text).flatMap Piece.marks ++ Mark.placeholder ::
      ((between.map Piece.text).flatMap Piece.marks ++ Mark.placeholder ::
        (((inner ++ [newline ++ blockIndent ++ settings.indent]).map Piece.text).flatMap
          Piece.marks)),
    ((behind :: back).map Piece.text).flatMap Piece.marks, ?_, ?_, ?_, ?_, ?_⟩
  · simp [assignment, assignmentMarks, nameStop, Piece.marks, Mark.ofChar]
  · have hzero : ∀ others : List Text,
        ((others.map Piece.text).flatMap Piece.marks).count Mark.placeholder = 0 := fun others =>
      List.count_eq_zero.mpr (notMem_marks_texts others (Or.inl rfl))
    rw [List.count_append, List.count_cons_self, List.count_append, List.count_cons_self, hzero,
      hzero, hzero]
  · have hfinal := fun others : List Text => notMem_marks_texts others (Or.inr rfl)
    simp only [List.mem_append, List.mem_cons, hfinal, reduceCtorEq, or_self, not_false_eq_true]
  · exact notMem_marks_texts _ (Or.inl rfl)
  · exact notMem_marks_texts _ (Or.inr rfl)

/-- **Hygiene.** A written plan is read in exactly one way. It has four placeholders for the name
and one final stop, which stands behind the assignment; every character of its literal pieces is
read as itself. -/
theorem text_splits_uniquely {content : Text} {settings : Settings} {name : Text} {plan : Plan}
    (h : ofText content settings name = .ok plan) :
    ∃ marks : List Mark,
      (∀ others, Splits name plan.text others ↔ others = marks) ∧
      marks = plan.snippet.flatMap Piece.marks ∧
      Snippet.tokens plan.text = marks.map (Mark.token name) ∧
      marks.count .placeholder = 4 ∧ marks.count .finalStop = 1 ∧
      ∃ front back, marks = front ++ assignmentMarks ++ back ∧ .placeholder ∉ back := by
  have hassigns := assigns_of_ofText h
  have hpieces : ∀ piece ∈ plan.snippet,
      (∃ literal, piece = .text literal) ∨ piece = nameStop name ∨ piece = .finalStop :=
    fun _ hpiece => piece_of_assigns hassigns hpiece
  have hproper := isProper_marks hpieces
  have hwritten := written_marks hpieces
  have hreadable := readable_of_assigns (isPropertyName_of_ofText h) hassigns
  have htokens : Snippet.tokens plan.text =
      (plan.snippet.flatMap Piece.marks).map (Mark.token name) := by
    rw [text, Snippet.tokens_markup hreadable, token_marks hpieces]
  obtain ⟨front, back, hmarks, hcount, hfront, hback, hbackFinal⟩ :=
    exists_marks_of_assigns hassigns
  have hplaceholders : assignmentMarks.count .placeholder = 2 := by decide
  have hfinals : assignmentMarks.count .finalStop = 1 := by decide
  refine ⟨plan.snippet.flatMap Piece.marks, ?_, rfl, htokens, ?_, ?_, front, .plain '\n' :: back,
    hmarks, by simpa using hback⟩
  · intro others
    constructor
    · intro hsplit
      exact marks_eq_of_written_eq hsplit.proper hproper (hsplit.complete.trans hwritten.symm)
    · rintro rfl
      refine ⟨hproper, ?_, hwritten⟩
      intro front' back' hsplit
      -- the final stop is the last mark of the assignment, and there is no other
      have hcut : assignmentMarks = assignmentMarks.dropLast ++ [.finalStop] := by decide
      have hnotMem : .finalStop ∉ front ++ assignmentMarks.dropLast := by
        have hdropLast : .finalStop ∉ assignmentMarks.dropLast := by decide
        simp [hfront, hdropLast]
      have hbehind : .finalStop ∉ Mark.plain '\n' :: back := by simpa using hbackFinal
      rw [hmarks, hcut, ← List.append_assoc, List.append_assoc, List.singleton_append,
        List.append_cons_inj_of_notMem hnotMem hbehind] at hsplit
      rw [← hsplit.2.2]
      rfl
  · rw [hmarks, List.count_append, List.count_append, hcount, hplaceholders,
      List.count_cons_of_ne (by decide), List.count_eq_zero.mpr hback]
  · rw [hmarks, List.count_append, List.count_append, List.count_eq_zero.mpr hfront, hfinals,
      List.count_cons_of_ne (by decide), List.count_eq_zero.mpr hbackFinal]

/-- A constructor with a docblock, a default and an indentation full of markup. -/
def markupLike : Text :=
  ("class A \x7b\n /** $\x7b1:a\x7d */\n function __construct($a = '\\\\') \x7b\n" ++
    "  $0;\n \x7d\n\x7d").toList

theorem markupLike_splits_uniquely :
    ∃ plan marks, ofText markupLike ⟨.private, .public, "\\$".toList⟩ ['b'] = .ok plan ∧
      (∀ others, Splits ['b'] plan.text others ↔ others = marks) ∧
      marks.count .placeholder = 4 ∧ marks.count .finalStop = 1 := by
  have hok : (ofText markupLike ⟨.private, .public, "\\$".toList⟩ ['b']).isOk = true := by
    decide +kernel
  cases hplan : ofText markupLike ⟨.private, .public, "\\$".toList⟩ ['b'] with
  | error cause =>
      rw [hplan] at hok
      contradiction
  | ok plan =>
      obtain ⟨marks, hunique, -, -, hplaceholders, hfinal, -⟩ := text_splits_uniquely hplan
      exact ⟨plan, marks, rfl, hunique, hplaceholders, hfinal⟩

end Plan

end PropertyInsertion

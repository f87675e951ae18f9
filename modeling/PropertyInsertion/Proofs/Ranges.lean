import PropertyInsertion.Proofs.Recognition
import PropertyInsertion.Proofs.PlanShape

/-!
# Lines and ranges of a view

What planning reads from a view: single lines, stretches of lines, the first line that passes a
test, and the first line of a constructor. For a document each of them is said in terms of its list
of lines.
-/

namespace PropertyInsertion

namespace View

/-! ### Lines -/

theorem lineOrError_eq_ok_iff {view : View} {number : Nat} {line : Text} :
    view.lineOrError number = .ok line ↔ view.lineText? number = some line := by
  unfold lineOrError
  cases view.lineText? number <;> simp

theorem shows_cons_iff {view : View} {number : Nat} {line : Text} {lines : List Text} :
    view.Shows number (line :: lines) ↔
      view.lineText? number = some line ∧ view.Shows (number + 1) lines := by
  refine ⟨fun h => ⟨h.head, h.tail⟩, ?_⟩
  rintro ⟨hhead, htail⟩ i other hother
  cases i with
  | zero =>
      obtain rfl : line = other := by simpa using hother
      exact hhead
  | succ i =>
      rw [Nat.add_comm i 1, ← Nat.add_assoc]
      exact htail i other (by simpa using hother)

theorem linesOrError_eq_ok_iff {view : View} {first count : Nat} {lines : List Text} :
    view.linesOrError first count = .ok lines ↔ lines.length = count ∧ view.Shows first lines := by
  induction count generalizing first lines with
  | zero =>
      rw [linesOrError, Except.ok.injEq, eq_comm, List.length_eq_zero_iff]
      refine ⟨fun h => ⟨h, ?_⟩, fun h => h.1⟩
      rw [h]
      exact fun i line hline => absurd hline (by simp)
  | succ count ih =>
      simp only [linesOrError, bind_eq_ok_iff, pure_eq_ok_iff, lineOrError_eq_ok_iff, ih]
      constructor
      · rintro ⟨line, hline, rest, ⟨hlength, hrest⟩, rfl⟩
        exact ⟨by rw [List.length_cons, hlength], shows_cons_iff.mpr ⟨hline, hrest⟩⟩
      · rintro ⟨hlength, hshows⟩
        obtain ⟨line, rest, rfl⟩ := List.exists_cons_of_length_eq_add_one hlength
        obtain ⟨hline, hrest⟩ := shows_cons_iff.mp hshows
        exact ⟨line, hline, rest, ⟨Nat.succ.inj hlength, hrest⟩, rfl⟩

theorem firstLine?_eq_some_iff {view : View} {test : Text → Bool} {start number : Nat} :
    view.firstLine? test start = some number ↔
      (start ≤ number ∧ number < view.lineCount) ∧
        (∃ line, view.lineText? number = some line ∧ test line = true) ∧
        ∀ other line, start ≤ other → other < number → view.lineText? other = some line →
          test line = false := by
  rw [firstLine?, List.find?_range'_eq_some, List.mem_range'_1, Option.any_eq_true]
  constructor
  · rintro ⟨htest, ⟨hstart, hcount⟩, hbefore⟩
    refine ⟨⟨hstart, by omega⟩, htest, ?_⟩
    intro other line hle hlt hline
    simpa [hline] using hbefore other hle hlt
  · rintro ⟨⟨hstart, hcount⟩, htest, hbefore⟩
    refine ⟨htest, ⟨hstart, by omega⟩, ?_⟩
    intro other hle hlt
    cases hline : view.lineText? other with
    | none => rfl
    | some line => simp [hbefore other line hle hlt hline]

/-! ### The first line of a constructor -/

theorem find?_reverse_range'_eq_some_iff {test : Nat → Bool} {first count number : Nat} :
    (List.range' first count).reverse.find? test = some number ↔
      test number = true ∧ (first ≤ number ∧ number < first + count) ∧
        ∀ other, number < other → other < first + count → test other = false := by
  have hsorted := List.pairwise_lt_range' (s := first) (n := count)
  rw [List.find?_eq_some_iff_append]
  refine and_congr_right fun _ => ?_
  constructor
  · rintro ⟨back, front, hsplit, hback⟩
    have hrange : List.range' first count = front.reverse ++ number :: back.reverse := by
      rw [← List.reverse_reverse (List.range' first count), hsplit]
      simp
    have hmem : number ∈ List.range' first count := by
      rw [hrange]
      simp
    refine ⟨List.mem_range'_1.mp hmem, ?_⟩
    intro other hlt hbound
    have hother : other ∈ List.range' first count :=
      List.mem_range'_1.mpr ⟨by have := (List.mem_range'_1.mp hmem).1; omega, hbound⟩
    rw [hrange] at hother hsorted
    rw [List.pairwise_append] at hsorted
    rcases List.mem_append.mp hother with hfront | hrest
    · have := hsorted.2.2 other hfront number List.mem_cons_self
      omega
    · rcases List.mem_cons.mp hrest with rfl | hrest
      · omega
      · simpa using hback other (List.mem_reverse.mp hrest)
  · rintro ⟨hbounds, hlast⟩
    obtain ⟨front, back, hsplit⟩ := List.append_of_mem (List.mem_range'_1.mpr hbounds)
    refine ⟨back.reverse, front.reverse, by rw [hsplit]; simp, ?_⟩
    intro other hother
    have hback : other ∈ back := List.mem_reverse.mp hother
    have hmem : other ∈ List.range' first count := by
      rw [hsplit]
      simp [hback]
    rw [hsplit, List.pairwise_append, List.pairwise_cons] at hsorted
    simp [hlast other (hsorted.2.1.1 other hback) (List.mem_range'_1.mp hmem).2]

theorem docblockStart?_eq_some_iff {view : View} {lowest above start : Nat}
    (hlowest : lowest ≤ above) :
    view.docblockStart? lowest above = some start ↔
      (∃ line, view.lineText? start = some line ∧ opensDocblock (start == above) line = true) ∧
        (lowest ≤ start ∧ start ≤ above) ∧
        ∀ other line, start < other → other ≤ above → view.lineText? other = some line →
          opensDocblock (other == above) line = false := by
  have hcount : lowest + (above + 1 - lowest) = above + 1 := by omega
  rw [docblockStart?, find?_reverse_range'_eq_some_iff, hcount, Option.any_eq_true]
  refine and_congr_right fun _ => and_congr (by omega) ?_
  constructor
  · intro h other line hlt hle hline
    simpa [hline] using h other hlt (by omega)
  · intro h other hlt hle
    cases hline : view.lineText? other with
    | none => rfl
    | some line => simp [h other line hlt (by omega) hline]

/-- A constructor starts on its own line, unless that follows a comment with an opening line. -/
theorem constructorRange?_cases {view : View} {number lowerBound : Nat} {range : Range}
    (h : view.constructorRange? number lowerBound = some range) :
    (∃ line, view.lineText? number = some line ∧ range = .ofLine number line) ∨
      ∃ start line, view.lineText? start = some line ∧ range = .ofLine start line ∧ 0 < number ∧
        (view.lineText? (number - 1)).any (Text.closesWith ['*', '/']) = true ∧
        view.docblockStart? (min lowerBound (number - 1)) (number - 1) = some start := by
  rw [constructorRange?] at h
  obtain ⟨own, hown, h⟩ := Option.bind_eq_some_iff.mp h
  obtain ⟨line, hline, rfl⟩ := Option.map_eq_some_iff.mp hown
  have hself : ∃ line', view.lineText? number = some line' ∧
      Range.ofLine number line = .ofLine number line' := ⟨line, hline, rfl⟩
  split at h
  next =>
    rw [← Option.some.inj h]
    exact Or.inl hself
  next hnumber =>
    dsimp only at h
    split at h
    next hcomment =>
      cases hstart : view.docblockStart? (min lowerBound (number - 1)) (number - 1) with
      | none =>
          rw [hstart] at h
          rw [← Option.some.inj h]
          exact Or.inl hself
      | some start =>
          obtain ⟨⟨first, hfirst, -⟩, -, -⟩ :=
            (docblockStart?_eq_some_iff (Nat.min_le_right _ _)).mp hstart
          have hrange : view.lineRange? start = some (.ofLine start first) := by
            rw [lineRange?, hfirst, Option.map_some]
          rw [hstart, Option.bind_some, hrange] at h
          rw [← Option.some.inj h]
          exact Or.inr ⟨start, first, hfirst, rfl, Nat.pos_of_ne_zero hnumber, hcomment, rfl⟩
    next =>
      rw [← Option.some.inj h]
      exact Or.inl hself

theorem constructorRange?_of_docblock {view : View} {number lowerBound start : Nat}
    {signature first : Text} (hsignature : view.lineText? number = some signature)
    (hnumber : 0 < number)
    (hcomment : (view.lineText? (number - 1)).any (Text.closesWith ['*', '/']) = true)
    (hstart : view.docblockStart? (min lowerBound (number - 1)) (number - 1) = some start)
    (hfirst : view.lineText? start = some first) :
    view.constructorRange? number lowerBound = some (.ofLine start first) := by
  simp [constructorRange?, lineRange?, hsignature, hcomment, hstart, hfirst,
    Nat.pos_iff_ne_zero.mp hnumber]

theorem constructorRange?_of_not_comment {view : View} {number lowerBound : Nat} {signature : Text}
    (hsignature : view.lineText? number = some signature)
    (hcomment : (view.lineText? (number - 1)).any (Text.closesWith ['*', '/']) = false) :
    view.constructorRange? number lowerBound = some (.ofLine number signature) := by
  simp [constructorRange?, lineRange?, hsignature, hcomment]

end View

namespace Document

theorem eq_of_shows {doc : Document} {first : Nat} {lines : List Text}
    (h : doc.view.Shows first lines) : lines = (doc.lines.drop first).take lines.length := by
  refine List.ext_getElem? fun i => ?_
  rw [List.getElem?_take, List.getElem?_drop]
  by_cases hi : i < lines.length
  · have hline := h i lines[i] (List.getElem?_eq_getElem hi)
    rw [view_lineText?, lineText?] at hline
    rw [if_pos hi, hline, List.getElem?_eq_getElem hi]
  · rw [if_neg hi, List.getElem?_eq_none (Nat.not_lt.mp hi)]

theorem textIn_ofLine {doc : Document} {number : Nat} {line : Text}
    (h : doc.lineText? number = some line) : doc.textIn (.ofLine number line) = line := by
  obtain ⟨hnumber, -⟩ := List.getElem?_eq_some_iff.mp h
  have hmin : min number (doc.lineCount - 1) = number := by
    rw [lineCount]
    omega
  have hone : (doc.lines.drop number).take 1 = [line] := by
    rw [List.take_one, List.head?_drop]
    exact congrArg Option.toList h
  have hwithin : Text.within (.ofLine number line) line number = line := by
    simp [Text.within, Range.ofLine, Text.indexOfColumn_width, Text.indexOfColumn]
  simp only [textIn, Range.ofLine, hmin, Nat.add_sub_cancel_left, hone] at hwithin ⊢
  simp [hwithin]

end Document

/-! ### Docblocks -/

/-- Lines that a constructor below them takes for its docblock: the first one opens it, no later one
opens another, and the last one ends a comment. -/
structure IsDocblock (lines : List Text) : Prop where
  opens : ∀ (i : Nat) (line : Text), lines[i]? = some line →
    View.opensDocblock (i + 1 == lines.length) line = (i == 0)
  ends : ∀ line : Text, lines.getLast? = some line → Text.closesWith ['*', '/'] line = true

theorem docblock_index {docblock : List Text} (hne : docblock ≠ []) (above : List Text) (i : Nat) :
    (above.length + i == (above ++ docblock).length - 1) = (i + 1 == docblock.length) := by
  have hpos := List.length_pos_iff.mpr hne
  rw [Bool.eq_iff_iff, beq_iff_eq, beq_iff_eq, List.length_append]
  omega

section Docblock

variable {doc : Document} {above docblock below : List Text} {signature : Text} {lowerBound : Nat}
  (hlines : doc.lines = above ++ docblock ++ signature :: below) (hne : docblock ≠ [])

include hlines hne

theorem docblock_last_shown {line : Text} (hlast : docblock.getLast? = some line) :
    doc.view.lineText? ((above ++ docblock).length - 1) = some line := by
  have hpos := List.length_pos_iff.mpr hne
  rw [List.getLast?_eq_getElem?] at hlast
  have hshown := Document.view_shows hlines (docblock.length - 1) line hlast
  rwa [← Nat.add_sub_assoc hpos, ← List.length_append] at hshown

/-- A constructor that starts above its signature starts with a docblock. -/
theorem isDocblock_of_range {range : Range}
    (hrange : doc.view.constructorRange? (above ++ docblock).length lowerBound = some range)
    (hstart : range.start.line = above.length) :
    IsDocblock docblock ∧ min lowerBound ((above ++ docblock).length - 1) ≤ above.length := by
  have hpos := List.length_pos_iff.mpr hne
  have hshows := Document.view_shows hlines
  rcases View.constructorRange?_cases hrange with
    ⟨line, -, rfl⟩ | ⟨start, line, hline, rfl, -, hcomment, hfound⟩
  · have hlength : (above ++ docblock).length = above.length := hstart
    rw [List.length_append] at hlength
    omega
  · obtain rfl : start = above.length := hstart
    obtain ⟨⟨first, hfirst, hopens⟩, hbounds, hothers⟩ :=
      (View.docblockStart?_eq_some_iff (Nat.min_le_right _ _)).mp hfound
    refine ⟨⟨?_, ?_⟩, hbounds.1⟩
    · intro i other hother
      have hshown := hshows i other hother
      have hi := (List.getElem?_eq_some_iff.mp hother).1
      rw [← docblock_index hne]
      cases i with
      | zero =>
          obtain rfl : first = other := Option.some.inj (hfirst.symm.trans hshown)
          exact hopens
      | succ i =>
          refine hothers _ other (by omega) ?_ hshown
          rw [List.length_append]
          omega
    · intro other hother
      rw [docblock_last_shown hlines hne hother] at hcomment
      exact hcomment

/-- A docblock that is not above the lower bound is found again. -/
theorem range_of_isDocblock (hdocblock : IsDocblock docblock)
    (hbound : min lowerBound ((above ++ docblock).length - 1) ≤ above.length) :
    ∃ first, doc.view.constructorRange? (above ++ docblock).length lowerBound =
      some (.ofLine above.length first) := by
  have hpos := List.length_pos_iff.mpr hne
  have hshows := Document.view_shows hlines
  obtain ⟨first, rest, rfl⟩ := List.exists_cons_of_ne_nil hne
  obtain ⟨last, hlast⟩ : ∃ last, (first :: rest).getLast? = some last :=
    ⟨_, List.getLast?_eq_some_getLast hne⟩
  have hsignature : doc.view.lineText? (above ++ first :: rest).length = some signature := by
    have hsplit : doc.lines = (above ++ first :: rest) ++ [signature] ++ below := by
      rw [hlines]
      simp
    exact (Document.view_shows hsplit).head
  refine ⟨first, View.constructorRange?_of_docblock hsignature ?_ ?_ ?_ hshows.head⟩
  · rw [List.length_append]
    omega
  · rw [docblock_last_shown hlines hne hlast]
    exact hdocblock.ends last hlast
  · refine (View.docblockStart?_eq_some_iff (Nat.min_le_right _ _)).mpr
      ⟨⟨first, hshows.head, ?_⟩, ⟨hbound, ?_⟩, ?_⟩
    · have hindex := docblock_index hne above 0
      rw [Nat.add_zero] at hindex
      rw [hindex]
      exact hdocblock.opens 0 first rfl
    · rw [List.length_append]
      omega
    · intro other line hlt hle hline
      rw [List.length_append] at hle
      obtain ⟨i, rfl⟩ := Nat.exists_eq_add_of_lt hlt
      have hi : i + 1 < (first :: rest).length := by omega
      have hother := hshows (i + 1) _ (List.getElem?_eq_getElem hi)
      rw [Nat.add_assoc] at hline
      have hsame := Option.some.inj (hother.symm.trans hline)
      rw [Nat.add_assoc, docblock_index hne]
      exact hdocblock.opens (i + 1) line (by rw [List.getElem?_eq_getElem hi, hsame])

end Docblock

end PropertyInsertion

import PropertyInsertion.Proofs.Offsets

/-!
# Ranges past the end of a document

A position below the last line stands for the end of the document. The text of a range keeps to this
where the range stops, but not where it starts: a start below the last line counts as the start of
that line. So such a range shows the last line up to its stop, and shows what stands between the
positions that its ends stand for only if that is nothing.
-/

namespace PropertyInsertion

theorem Text.indexOfColumn_eq_zero_iff {column : Nat} {text : Text} :
    indexOfColumn column text = 0 ↔ column = 0 ∨ text = [] := by
  cases column with
  | zero => simp [indexOfColumn]
  | succ column => cases text <;> simp [indexOfColumn]

theorem Text.width_eq_zero_iff {text : Text} : width text = 0 ↔ text = [] := by
  refine ⟨fun hzero => ?_, fun hnil => by rw [hnil]; rfl⟩
  have hall := indexOfColumn_width text
  rw [hzero, indexOfColumn] at hall
  exact List.length_eq_zero_iff.mp hall.symm

namespace Document

variable (doc : Document)

/-- The last line; a document without lines has an empty one. -/
def lastText : Text :=
  doc.lines.getLast?.getD []

/-- The end of the last line's text. -/
def finish : Position :=
  ⟨doc.lineCount - 1, doc.lastText.width⟩

/-- A position below the last line stands for the end of the document. -/
def clamp (place : Position) : Position :=
  if place.line < doc.lineCount then place else doc.finish

def clampRange (range : Range) : Range :=
  ⟨doc.clamp range.start, doc.clamp range.stop⟩

variable {doc}

theorem eq_lastText {line : Text} (h : doc.lineText? (doc.lineCount - 1) = some line) :
    line = doc.lastText := by
  rw [lineText?, lineCount, ← List.getLast?_eq_getElem?] at h
  rw [lastText, h, Option.getD_some]

theorem clamp_of_lt {place : Position} (h : place.line < doc.lineCount) :
    doc.clamp place = place :=
  if_pos h

theorem clamp_of_le {place : Position} (h : doc.lineCount ≤ place.line) :
    doc.clamp place = doc.finish :=
  if_neg (Nat.not_lt.mpr h)

theorem clamp_eq_last {place : Position} (h : doc.lineCount - 1 ≤ place.line) :
    doc.clamp place = ⟨doc.lineCount - 1, (doc.clamp place).column⟩ := by
  by_cases hplace : place.line < doc.lineCount
  · have hline : place.line = doc.lineCount - 1 := by omega
    rw [clamp_of_lt hplace, ← hline]
  · rw [clamp_of_le (Nat.not_lt.mp hplace)]
    rfl

/-- A position on or below a last line with text stands for the start of that line exactly if it is
there. -/
theorem column_clamp_eq_zero_iff {place : Position} (hlast : doc.lastText ≠ [])
    (h : doc.lineCount - 1 ≤ place.line) :
    (doc.clamp place).column = 0 ↔ place ≤ ⟨doc.lineCount - 1, 0⟩ := by
  have hlines : doc.lines ≠ [] := by
    intro hnil
    rw [lastText, hnil] at hlast
    contradiction
  have hcount : 0 < doc.lineCount := List.length_pos_iff.mpr hlines
  rw [Position.le_iff]
  by_cases hplace : place.line < doc.lineCount
  · rw [clamp_of_lt hplace]
    dsimp only
    omega
  · rw [clamp_of_le (Nat.not_lt.mp hplace), finish, Text.width_eq_zero_iff]
    refine iff_of_false hlast ?_
    dsimp only
    omega

/-! ### The ends of a range -/

/-- The text of a range depends only on the lines that it reaches and on its part of each line. -/
theorem textIn_congr {range range' : Range}
    (hstart : min range.start.line (doc.lineCount - 1) = min range'.start.line (doc.lineCount - 1))
    (hstop : min range.stop.line (doc.lineCount - 1) = min range'.stop.line (doc.lineCount - 1))
    (hwithin : ∀ number line, doc.lineText? number = some line →
      line.within range number = line.within range' number) :
    doc.textIn range = doc.textIn range' := by
  simp only [textIn, hstart, hstop]
  refine congrArg _ (List.map_congr_left ?_)
  rintro ⟨line, number⟩ hentry
  obtain ⟨hle, hline⟩ := List.mk_mem_zipIdx_iff_le_and_getElem?_sub.mp hentry
  obtain ⟨hcount, -⟩ := List.getElem?_eq_some_iff.mp hline
  rw [List.length_take] at hcount
  rw [List.getElem?_take_of_lt (by omega), List.getElem?_drop, Nat.add_sub_cancel' hle] at hline
  exact hwithin number line hline

/-- A stop below the last line is the end of the document. -/
theorem textIn_clamp_stop (start stop : Position) :
    doc.textIn ⟨start, doc.clamp stop⟩ = doc.textIn ⟨start, stop⟩ := by
  by_cases hstop : stop.line < doc.lineCount
  · rw [clamp_of_lt hstop]
  · rw [clamp_of_le (Nat.not_lt.mp hstop)]
    refine textIn_congr rfl (by dsimp only [finish]; omega) fun number line hline => ?_
    have hnumber := lineText?_isSome_iff.mp ⟨line, hline⟩
    have hne : number ≠ stop.line := by omega
    by_cases hlast : number = doc.lineCount - 1
    · subst hlast
      have hwidth : Text.indexOfColumn doc.lastText.width line = line.length := by
        rw [← eq_lastText hline, Text.indexOfColumn_width]
      simp [Text.within, finish, hne, hwidth]
    · simp [Text.within, finish, hlast, hne]

/-- A start below the last line is the start of that line, and not the end of the document. -/
theorem textIn_start_past {start : Position} (stop : Position)
    (hstart : doc.lineCount ≤ start.line) :
    doc.textIn ⟨start, stop⟩ = doc.textIn ⟨⟨doc.lineCount - 1, 0⟩, stop⟩ := by
  refine textIn_congr (by dsimp only; omega) rfl fun number line hline => ?_
  have hnumber := lineText?_isSome_iff.mp ⟨line, hline⟩
  have hne : number ≠ start.line := by omega
  simp [Text.within, hne, Text.indexOfColumn]

/-! ### The last line -/

theorem textIn_eq_nil {range : Range} (hstart : range.stop.line < range.start.line)
    (hstop : range.stop.line < doc.lineCount - 1) : doc.textIn range = [] := by
  have hcount : min range.stop.line (doc.lineCount - 1) + 1 -
      min range.start.line (doc.lineCount - 1) = 0 := by omega
  simp [textIn, hcount]

theorem textIn_last (doc : Document) (column column' : Nat) :
    doc.textIn ⟨⟨doc.lineCount - 1, column⟩, ⟨doc.lineCount - 1, column'⟩⟩ =
      (doc.lastText.take (Text.indexOfColumn column' doc.lastText)).drop
        (Text.indexOfColumn column doc.lastText) := by
  obtain ⟨lines⟩ := doc
  rcases List.eq_nil_or_concat' lines with rfl | ⟨front, line, rfl⟩
  · simp [textIn, lastText]
  · simp [textIn, lastText, lineCount, Text.within]

/-- Behind the end of the document there is nothing. -/
theorem textIn_finish (doc : Document) (stop : Position) :
    doc.textIn ⟨doc.finish, doc.clamp stop⟩ = [] := by
  rcases Nat.lt_or_ge stop.line (doc.lineCount - 1) with hstop | hstop
  · rw [textIn_clamp_stop]
    exact textIn_eq_nil hstop hstop
  · rw [clamp_eq_last hstop, finish, textIn_last, Text.indexOfColumn_width]
    exact List.drop_eq_nil_of_le (List.length_take_le' _ _)

/-- A start below the last line shows nothing only if there is nothing in that line to show. -/
theorem textIn_lastLine_eq_nil_iff (doc : Document) (stop : Position) :
    doc.textIn ⟨⟨doc.lineCount - 1, 0⟩, doc.clamp stop⟩ = [] ↔
      doc.lastText = [] ∨ stop ≤ ⟨doc.lineCount - 1, 0⟩ := by
  rcases Nat.lt_or_ge stop.line (doc.lineCount - 1) with hstop | hstop
  · rw [textIn_clamp_stop]
    exact iff_of_true (textIn_eq_nil hstop hstop) (Or.inr (Or.inl hstop))
  · rw [clamp_eq_last hstop, textIn_last, Text.indexOfColumn, List.drop_zero, List.take_eq_nil_iff,
      Text.indexOfColumn_eq_zero_iff, or_assoc, or_self, or_comm]
    refine or_congr_right' fun hne => ?_
    exact column_clamp_eq_zero_iff hne hstop

/-- **Ranges past the end.** A start below the last line counts as the start of that line and a stop
below it as its end. So the text is that between the positions which the two ends stand for exactly
if the range starts on a line of the document, or nothing stands in the last line before its stop:
that line is empty, or the range stops where it starts or above it. -/
theorem textIn_clampRange_iff (doc : Document) (range : Range) :
    doc.textIn range = doc.textIn
      ⟨if range.start.line < doc.lineCount then range.start else ⟨doc.lineCount - 1, 0⟩,
        doc.clamp range.stop⟩ ∧
    (doc.textIn range = doc.textIn (doc.clampRange range) ↔
      range.start.line < doc.lineCount ∨ doc.lastText = [] ∨
        range.stop ≤ ⟨doc.lineCount - 1, 0⟩) := by
  obtain ⟨start, stop⟩ := range
  rw [clampRange, ← textIn_clamp_stop]
  by_cases hstart : start.line < doc.lineCount
  · rw [if_pos hstart, clamp_of_lt hstart]
    exact ⟨rfl, iff_of_true rfl (Or.inl hstart)⟩
  · have hpast := Nat.not_lt.mp hstart
    rw [if_neg hstart, textIn_start_past _ hpast, clamp_of_le hpast, or_iff_right hstart,
      textIn_finish, textIn_lastLine_eq_nil_iff]
    exact ⟨rfl, Iff.rfl⟩

/-- A range that starts and stops below the last line shows all of that line. -/
theorem belowLast_textIn_whole_line :
    (ofText "one\ntwo".toList).textIn ⟨⟨9, 0⟩, ⟨9, 0⟩⟩ = "two".toList ∧
    (ofText "one\ntwo".toList).clampRange ⟨⟨9, 0⟩, ⟨9, 0⟩⟩ = ⟨⟨1, 3⟩, ⟨1, 3⟩⟩ ∧
    (ofText "one\ntwo".toList).textIn ⟨⟨1, 3⟩, ⟨1, 3⟩⟩ = [] := by
  decide +kernel

end Document

end PropertyInsertion

import PropertyInsertion.Document.Edit
import Mathlib.Data.List.Basic

/-!
# Content as its lines

A content is its pieces between line feeds, and a document drops the carriage return of each piece.
Here the two are tied together: where a line starts and stops in the content, what an edit between
two lines leaves in place, and which lines a content put together from lines has.
-/

namespace PropertyInsertion

namespace Document

theorem lineText?_isSome_iff {doc : Document} {number : Nat} :
    (∃ line, doc.lineText? number = some line) ↔ number < doc.lineCount := by
  simp [lineText?, lineCount, ← Option.isSome_iff_exists]

theorem lineCount_ofText (content : Text) :
    (ofText content).lineCount = (Text.linePieces content).length := by
  simp [lineCount, ofText]

end Document

namespace Text

/-- Lines, each with a line feed behind it. -/
def breaksAfter (lines : List Text) : Text :=
  lines.flatMap (· ++ ['\n'])

/-- Lines, each with a line feed in front of it. -/
def breaksBefore (lines : List Text) : Text :=
  lines.flatMap ('\n' :: ·)

@[simp] theorem breaksAfter_nil : breaksAfter [] = [] := rfl

@[simp] theorem breaksAfter_cons (line : Text) (lines : List Text) :
    breaksAfter (line :: lines) = line ++ '\n' :: breaksAfter lines := by
  simp [breaksAfter]

@[simp] theorem breaksAfter_append (front back : List Text) :
    breaksAfter (front ++ back) = breaksAfter front ++ breaksAfter back := by
  simp [breaksAfter]

@[simp] theorem breaksBefore_nil : breaksBefore [] = [] := rfl

@[simp] theorem breaksBefore_cons (line : Text) (lines : List Text) :
    breaksBefore (line :: lines) = '\n' :: line ++ breaksBefore lines := by
  simp [breaksBefore]

theorem append_breaksBefore_break (text : Text) (lines : List Text) (rest : Text) :
    text ++ breaksBefore lines ++ '\n' :: rest = breaksAfter (text :: lines) ++ rest := by
  induction lines generalizing text with
  | nil => simp
  | cons line lines ih =>
      have hrest := ih line
      simp only [List.append_assoc] at hrest
      simp [hrest]

/-- Lines in front of a line end in a break each, lines behind it start with one. -/
theorem append_breaksBefore_cons (text : Text) (front : List Text) (line : Text)
    (back : List Text) :
    text ++ breaksBefore (front ++ line :: back) =
      breaksAfter (text :: front) ++ (line ++ breaksBefore back) := by
  rw [← append_breaksBefore_break]
  simp [breaksBefore]

/-- Joining lines by line feeds, seen from any one of them. -/
theorem intercalate_around (front back : List Text) (line : Text) :
    List.intercalate ['\n'] (front ++ line :: back) =
      breaksAfter front ++ line ++ breaksBefore back := by
  induction front with
  | nil =>
      induction back generalizing line with
      | nil => simp
      | cons next back ih =>
          have hrest := ih next
          rw [List.nil_append] at hrest
          rw [List.nil_append, List.intercalate_cons_cons, hrest]
          simp
  | cons first front ih =>
      obtain ⟨next, rest, hrest⟩ : ∃ next rest, front ++ line :: back = next :: rest :=
        List.exists_cons_of_ne_nil (by simp)
      rw [List.cons_append, hrest, List.intercalate_cons_cons, ← hrest, ih]
      simp

/-! ### Pieces between line feeds -/

theorem linePieces_ne_nil (content : Text) : linePieces content ≠ [] :=
  List.splitOn_ne_nil '\n' content

theorem intercalate_linePieces (content : Text) :
    List.intercalate ['\n'] (linePieces content) = content :=
  List.intercalate_splitOn '\n'

theorem newline_notMem_of_mem_linePieces {content piece : Text}
    (hpiece : piece ∈ linePieces content) : '\n' ∉ piece := by
  induction content generalizing piece with
  | nil =>
      have hempty : piece = [] := by simpa [linePieces] using hpiece
      simp [hempty]
  | cons c content ih =>
      rw [linePieces, List.splitOn_cons_eq_if_modifyHead] at hpiece
      split at hpiece
      next =>
        rcases List.mem_cons.mp hpiece with rfl | hrest
        · simp
        · exact ih hrest
      next hc =>
        obtain ⟨first, rest, hsplit⟩ := List.exists_cons_of_ne_nil (linePieces_ne_nil content)
        rw [linePieces] at hsplit
        rw [hsplit, List.modifyHead_cons] at hpiece
        rcases List.mem_cons.mp hpiece with rfl | hrest
        · have hfirst : '\n' ∉ first := ih (by rw [linePieces, hsplit]; exact List.mem_cons_self)
          simpa [hfirst] using fun h : '\n' = c => hc (by simp [← h])
        · exact ih (by rw [linePieces, hsplit]; exact List.mem_cons_of_mem _ hrest)

theorem linePieces_break {line : Text} (hline : '\n' ∉ line) (rest : Text) :
    linePieces (line ++ '\n' :: rest) = line :: linePieces rest :=
  List.splitOn_append_cons_self_of_not_mem hline rest

theorem linePieces_breaksAfter_append {lines : List Text} (hlines : ∀ line ∈ lines, '\n' ∉ line)
    (rest : Text) : linePieces (breaksAfter lines ++ rest) = lines ++ linePieces rest := by
  induction lines with
  | nil => simp
  | cons line lines ih =>
      rw [breaksAfter_cons, List.append_assoc, List.cons_append,
        linePieces_break (hlines line List.mem_cons_self),
        ih fun other hother => hlines other (List.mem_cons_of_mem line hother), List.cons_append]

theorem linePieces_append_breaksBefore {line : Text} {lines : List Text} (hline : '\n' ∉ line)
    (hlines : ∀ other ∈ lines, '\n' ∉ other) :
    linePieces (line ++ breaksBefore lines) = line :: lines := by
  have hjoin := intercalate_around [] lines line
  rw [List.nil_append, breaksAfter_nil, List.nil_append] at hjoin
  rw [← hjoin]
  refine List.splitOn_intercalate '\n' ?_ (List.cons_ne_nil line lines)
  intro other hother
  rcases List.mem_cons.mp hother with rfl | hother
  · exact hline
  · exact hlines other hother

/-! ### Carriage returns -/

theorem dropReturn_concat (text : Text) : dropReturn (text ++ ['\r']) = text := by
  simp [dropReturn]

theorem dropReturn_of_ne {c : Char} (text : Text) (hc : c ≠ '\r') :
    dropReturn (text ++ [c]) = text ++ [c] := by
  simp [dropReturn, hc]

theorem dropReturn_append_cons {c : Char} (text rest : Text) (hc : c ≠ '\r') :
    dropReturn (text ++ c :: rest) = text ++ c :: dropReturn rest := by
  rcases List.eq_nil_or_concat' rest with rfl | ⟨front, last, rfl⟩
  · exact dropReturn_of_ne text hc
  · have hsplit : text ++ c :: (front ++ [last]) = (text ++ c :: front) ++ [last] := by simp
    by_cases hlast : last = '\r'
    · rw [hsplit, hlast, dropReturn_concat, dropReturn_concat]
    · rw [hsplit, dropReturn_of_ne _ hlast, dropReturn_of_ne _ hlast]
      simp

@[simp] theorem dropReturn_nil : dropReturn [] = [] := rfl

theorem dropReturn_cases (piece : Text) :
    piece = dropReturn piece ∨ piece = dropReturn piece ++ ['\r'] := by
  rcases List.eq_nil_or_concat' piece with rfl | ⟨front, last, rfl⟩
  · exact Or.inl rfl
  · by_cases hlast : last = '\r'
    · rw [hlast, dropReturn_concat]
      exact Or.inr rfl
    · rw [dropReturn_of_ne front hlast]
      exact Or.inl rfl

theorem mem_of_mem_dropReturn {piece : Text} {c : Char} (h : c ∈ dropReturn piece) : c ∈ piece := by
  rcases dropReturn_cases piece with hpiece | hpiece
  · exact hpiece ▸ h
  · rw [hpiece]
    exact List.mem_append_left _ h

/-- The text without any carriage returns at its end. -/
def dropReturns (text : Text) : Text :=
  (text.reverse.dropWhile (· == '\r')).reverse

theorem dropReturns_dropReturn (text : Text) :
    dropReturns (dropReturn text) = dropReturns text := by
  rcases dropReturn_cases text with h | h
  · rw [← h]
  · conv_rhs => rw [h]
    simp [dropReturns]

theorem newline_notMem_of_mem_lines {content line : Text}
    (hline : line ∈ (Document.ofText content).lines) : '\n' ∉ line := by
  obtain ⟨piece, hpiece, rfl⟩ := List.mem_map.mp hline
  exact fun h => newline_notMem_of_mem_linePieces hpiece (mem_of_mem_dropReturn h)

theorem newline_notMem_of_lineText? {content line : Text} {number : Nat}
    (hline : (Document.ofText content).lineText? number = some line) : '\n' ∉ line :=
  newline_notMem_of_mem_lines (List.mem_of_getElem? hline)

/-! ### Content around a line -/

/-- The content in front of a line. -/
def beforeLine (number : Nat) (content : Text) : Text :=
  breaksAfter ((linePieces content).take number)

/-- The content from the start of a line on. -/
def fromLine (number : Nat) (content : Text) : Text :=
  List.intercalate ['\n'] ((linePieces content).drop number)

/-- The content behind the text of a line: the end of that line, then the lines below it. -/
def behindLine (number : Nat) (content : Text) : Text :=
  match (linePieces content).drop number with
  | [] => []
  | piece :: below => piece.drop (dropReturn piece).length ++ breaksBefore below

theorem exists_linePieces_around {content : Text} {number : Nat}
    (h : number < (linePieces content).length) :
    ∃ above piece below, linePieces content = above ++ piece :: below ∧ above.length = number := by
  refine ⟨(linePieces content).take number, (linePieces content)[number],
    (linePieces content).drop (number + 1), ?_, ?_⟩
  · rw [← List.drop_eq_getElem_cons h, List.take_append_drop]
  · rw [List.length_take, Nat.min_eq_left (Nat.le_of_lt h)]

/-- A line is a piece without its carriage return. -/
theorem exists_around_of_lineText? {content line : Text} {number : Nat}
    (h : (Document.ofText content).lineText? number = some line) :
    ∃ above piece below, linePieces content = above ++ piece :: below ∧ above.length = number ∧
      dropReturn piece = line := by
  rw [Document.lineText?, Document.ofText, List.getElem?_map] at h
  obtain ⟨piece, hpiece, rfl⟩ := Option.map_eq_some_iff.mp h
  obtain ⟨hnumber, -⟩ := List.getElem?_eq_some_iff.mp hpiece
  obtain ⟨above, piece', below, hsplit, rfl⟩ := exists_linePieces_around hnumber
  obtain rfl : piece' = piece := by simpa [hsplit] using hpiece
  exact ⟨above, piece', below, hsplit, rfl, rfl⟩

section Around

variable {content piece : Text} {above below : List Text}
  (hsplit : linePieces content = above ++ piece :: below)

include hsplit

theorem eq_around : content = breaksAfter above ++ piece ++ breaksBefore below := by
  rw [← intercalate_around, ← hsplit, intercalate_linePieces]

theorem beforeLine_around : beforeLine above.length content = breaksAfter above := by
  rw [beforeLine, hsplit, List.take_left]

theorem fromLine_around : fromLine above.length content = piece ++ breaksBefore below := by
  have hjoin := intercalate_around [] below piece
  rw [fromLine, hsplit, List.drop_left]
  simpa using hjoin

theorem behindLine_around :
    behindLine above.length content =
      piece.drop (dropReturn piece).length ++ breaksBefore below := by
  rw [behindLine, hsplit, List.drop_left]

end Around

theorem beforeLine_append_fromLine {content : Text} {number : Nat}
    (h : number < (linePieces content).length) :
    beforeLine number content ++ fromLine number content = content := by
  obtain ⟨above, piece, below, hsplit, rfl⟩ := exists_linePieces_around h
  rw [beforeLine_around hsplit, fromLine_around hsplit, ← List.append_assoc, ← eq_around hsplit]

theorem beforeLine_length_le {upper lower : Nat} (h : upper ≤ lower) (content : Text) :
    (beforeLine upper content).length ≤ (beforeLine lower content).length := by
  obtain ⟨between, hbetween⟩ := List.take_prefix_take_left (l := linePieces content) h
  rw [beforeLine, beforeLine, ← hbetween, breaksAfter_append, List.length_append]
  exact Nat.le_add_right _ _

theorem fromLine_eq_append_behindLine {content line : Text} {number : Nat}
    (h : (Document.ofText content).lineText? number = some line) :
    fromLine number content = line ++ behindLine number content := by
  obtain ⟨above, piece, below, hsplit, rfl, rfl⟩ := exists_around_of_lineText? h
  rw [fromLine_around hsplit, behindLine_around hsplit, ← List.append_assoc]
  congr 1
  rcases dropReturn_cases piece with hreturn | hreturn
  · rw [← hreturn, List.drop_length, List.append_nil]
  · conv_lhs => rw [hreturn]
    conv_rhs => rw [hreturn, dropReturn_concat, List.drop_left]

theorem append_behindLine {content line : Text} {number : Nat}
    (h : (Document.ofText content).lineText? number = some line) :
    content.beforeLine number ++ line ++ content.behindLine number = content := by
  have hnumber := Document.lineText?_isSome_iff.mp ⟨line, h⟩
  rw [Document.lineCount_ofText] at hnumber
  rw [List.append_assoc, ← fromLine_eq_append_behindLine h, beforeLine_append_fromLine hnumber]

theorem exists_between_lines {content line : Text} {first last : Nat} (hle : first ≤ last)
    (hline : (Document.ofText content).lineText? last = some line) :
    ∃ between, content = content.beforeLine first ++ between ++ content.behindLine last := by
  obtain ⟨more, hmore⟩ := List.take_prefix_take_left (l := linePieces content) hle
  refine ⟨breaksAfter more ++ line, ?_⟩
  have hbefore : content.beforeLine last = content.beforeLine first ++ breaksAfter more := by
    rw [beforeLine, beforeLine, ← breaksAfter_append, hmore]
  conv_lhs => rw [← append_behindLine hline, hbefore]
  simp only [List.append_assoc]

end Text

/-! ### Offsets and edits -/

namespace Position

theorem offsetAmong_around (above below : List Text) (piece : Text) (column : Nat) :
    offsetAmong (above ++ piece :: below) above.length column =
      (Text.breaksAfter above).length + Text.indexOfColumn column (Text.dropReturn piece) := by
  induction above with
  | nil => simp [offsetAmong]
  | cons first above ih =>
      obtain ⟨next, rest, hrest⟩ : ∃ next rest, above ++ piece :: below = next :: rest :=
        List.exists_cons_of_ne_nil (by simp)
      rw [hrest] at ih
      rw [List.cons_append, hrest, List.length_cons, offsetAmong, ih, Text.breaksAfter_cons,
        List.length_append, List.length_cons]
      omega

theorem offset_eq {content line : Text} {number : Nat} (column : Nat)
    (h : (Document.ofText content).lineText? number = some line) :
    offset content ⟨number, column⟩ =
      (Text.beforeLine number content).length + Text.indexOfColumn column line := by
  obtain ⟨above, piece, below, hsplit, rfl, rfl⟩ := Text.exists_around_of_lineText? h
  rw [offset, hsplit, offsetAmong_around, Text.beforeLine_around hsplit]

end Position

namespace Edit

theorem apply_insert {content : Text} {number : Nat} (text : Text)
    (h : number < (Document.ofText content).lineCount) :
    apply ⟨.empty ⟨number, 0⟩, text⟩ content =
      content.beforeLine number ++ text ++ content.fromLine number := by
  obtain ⟨line, hline⟩ := Document.lineText?_isSome_iff.mpr h
  have hoffset := Position.offset_eq 0 hline
  rw [Document.lineCount_ofText] at h
  have hcut := Text.beforeLine_append_fromLine h
  rw [Text.indexOfColumn, Nat.add_zero] at hoffset
  simp only [apply, Range.empty, hoffset, Nat.max_self]
  conv_lhs => rw [← hcut]
  rw [List.take_left' (by rw [hcut]), List.drop_left' (by rw [hcut])]

/-- An edit from the start of one line to the end of another keeps what stands in front of the one
and behind the other. -/
theorem apply_lines {content line : Text} {first last : Nat} (text : Text) (hle : first ≤ last)
    (hline : (Document.ofText content).lineText? last = some line) :
    apply ⟨⟨⟨first, 0⟩, ⟨last, line.width⟩⟩, text⟩ content =
      content.beforeLine first ++ text ++ content.behindLine last := by
  have hlast := Document.lineText?_isSome_iff.mp ⟨line, hline⟩
  obtain ⟨top, htop⟩ := Document.lineText?_isSome_iff.mpr (Nat.lt_of_le_of_lt hle hlast)
  have hstart := Position.offset_eq 0 htop
  have hstop := Position.offset_eq line.width hline
  rw [Text.indexOfColumn, Nat.add_zero] at hstart
  rw [Text.indexOfColumn_width] at hstop
  have hle' := Text.beforeLine_length_le hle content
  have hmax : max ((content.beforeLine last).length + line.length)
      (content.beforeLine first).length = (content.beforeLine last ++ line).length := by
    rw [List.length_append]
    omega
  rw [Document.lineCount_ofText] at hlast
  have hcutStart := Text.beforeLine_append_fromLine (Nat.lt_of_le_of_lt hle hlast)
  have hcutStop := Text.append_behindLine hline
  simp only [apply, hstart, hstop, hmax]
  congr 1
  · congr 1
    conv_lhs => rw [← hcutStart]
    exact List.take_left' (by rw [hcutStart])
  · conv_lhs => rw [← hcutStop]
    exact List.drop_left' (by rw [hcutStop])

end Edit

end PropertyInsertion

import PropertyInsertion.Proofs.Pieces

/-!
# Offsets and local edits

Positions are ordered by line and then by column, and offsets follow that order. In front of a
position the bytes are counted from line to line; a column inside a wide character, behind the end
of its line or on a line that does not exist still leads to a byte between two characters. So an
edit of any range cuts the bytes of a text at two places in order, and an edit of lines that exist
leaves all other lines as they were.
-/

namespace PropertyInsertion

instance : LE Position :=
  ⟨fun p q => p.line < q.line ∨ p.line = q.line ∧ p.column ≤ q.column⟩

instance (p q : Position) : Decidable (p ≤ q) :=
  inferInstanceAs (Decidable (_ ∨ _))

theorem Position.le_iff {p q : Position} :
    p ≤ q ↔ p.line < q.line ∨ p.line = q.line ∧ p.column ≤ q.column :=
  Iff.rfl

theorem Position.line_le_of_le {p q : Position} (h : p ≤ q) : p.line ≤ q.line := by
  rcases h with h | h <;> omega

/-! ### Lines and line feeds -/

namespace Text

theorem indexOfColumn_mono {column column' : Nat} (h : column ≤ column') (text : Text) :
    indexOfColumn column text ≤ indexOfColumn column' text := by
  induction text generalizing column column' with
  | nil => cases column <;> simp [indexOfColumn]
  | cons c rest ih =>
      cases column with
      | zero => simp [indexOfColumn]
      | succ column =>
          cases column' with
          | zero => omega
          | succ column' =>
              rw [indexOfColumn, indexOfColumn]
              exact Nat.succ_le_succ (ih (by omega))

theorem length_linePieces (text : Text) : (linePieces text).length = text.count '\n' + 1 := by
  induction text with
  | nil => rfl
  | cons c text ih =>
      rw [linePieces] at ih
      rw [linePieces, List.splitOn_cons_eq_if_modifyHead]
      by_cases hc : c = '\n'
      · simp [hc, ih]
      · simp [hc, ih]

theorem linePieces_append_lines (text : Text) {lines : List Text}
    (hlines : ∀ line ∈ lines, '\n' ∉ line) :
    linePieces (text ++ breaksBefore lines) = linePieces text ++ lines := by
  cases lines with
  | nil => simp
  | cons line lines =>
      have hrest := linePieces_append_breaksBefore (hlines line List.mem_cons_self)
        fun other hother => hlines other (List.mem_cons_of_mem line hother)
      rw [breaksBefore_cons, List.cons_append, linePieces, List.splitOn_append_cons_self,
        ← linePieces, ← linePieces, hrest]

theorem length_dropReturn_le (piece : Text) : (dropReturn piece).length ≤ piece.length := by
  unfold dropReturn
  split <;> simp

theorem indexOfColumn_dropReturn_le (column : Nat) (piece : Text) :
    indexOfColumn column (dropReturn piece) ≤ piece.length :=
  Nat.le_trans (indexOfColumn_le_length column _) (length_dropReturn_le piece)

end Text

/-! ### Offsets -/

namespace Position

/-- The text in front of a position that a line has. -/
theorem take_offset_around {content piece : Text} {above below : List Text}
    (hsplit : Text.linePieces content = above ++ piece :: below) (column : Nat) :
    content.take (offset content ⟨above.length, column⟩) =
      Text.breaksAfter above ++ piece.take (Text.indexOfColumn column (Text.dropReturn piece)) := by
  have hindex := Text.indexOfColumn_dropReturn_le column piece
  rw [offset, hsplit, offsetAmong_around]
  conv_lhs => rw [Text.eq_around hsplit, List.append_assoc]
  rw [List.take_length_add_append, List.take_append_of_le_length hindex]

theorem drop_offset_around {content piece : Text} {above below : List Text}
    (hsplit : Text.linePieces content = above ++ piece :: below) (column : Nat) :
    content.drop (offset content ⟨above.length, column⟩) =
      piece.drop (Text.indexOfColumn column (Text.dropReturn piece)) ++
        Text.breaksBefore below := by
  have hindex := Text.indexOfColumn_dropReturn_le column piece
  rw [offset, hsplit, offsetAmong_around]
  conv_lhs => rw [Text.eq_around hsplit, List.append_assoc]
  rw [List.drop_length_add_append, List.drop_append_of_le_length hindex]

theorem offsetAmong_of_length_le {pieces : List Text} {line : Nat} (column : Nat)
    (hne : pieces ≠ []) (h : pieces.length ≤ line) :
    offsetAmong pieces line column = (List.intercalate ['\n'] pieces).length := by
  fun_induction offsetAmong pieces line column with
  | case1 => contradiction
  | case2 piece rest column => simp at h
  | case3 piece line column => simp
  | case4 piece more rest line column ih =>
      rw [ih (by simp) (by simpa using h), List.intercalate_cons_cons]
      simp
      omega

theorem offset_of_lineCount_le {content : Text} {position : Position}
    (h : (Document.ofText content).lineCount ≤ position.line) :
    position.offset content = content.length := by
  rw [Document.lineCount_ofText] at h
  rw [offset, offsetAmong_of_length_le _ (Text.linePieces_ne_nil content) h,
    Text.intercalate_linePieces]

theorem offset_le_length (content : Text) (position : Position) :
    position.offset content ≤ content.length := by
  obtain ⟨number, column⟩ := position
  by_cases hnumber : number < (Document.ofText content).lineCount
  · obtain ⟨line, hline⟩ := Document.lineText?_isSome_iff.mpr hnumber
    have hlength := congrArg List.length (Text.append_behindLine hline)
    have hindex := Text.indexOfColumn_le_length column line
    rw [List.length_append, List.length_append] at hlength
    rw [offset_eq column hline]
    omega
  · exact Nat.le_of_eq (offset_of_lineCount_le (Nat.le_of_not_lt hnumber))

/-- Offsets on a line are not beyond the start of any later line. -/
theorem offset_le_beforeLine {content : Text} {number later : Nat} (column : Nat)
    (hlt : number < later) (hlater : later < (Document.ofText content).lineCount) :
    offset content ⟨number, column⟩ ≤ (content.beforeLine later).length := by
  obtain ⟨line, hline⟩ := Document.lineText?_isSome_iff.mpr (Nat.lt_trans hlt hlater)
  obtain ⟨above, piece, below, hsplit, rfl, rfl⟩ := Text.exists_around_of_lineText? hline
  have hnext : content.beforeLine (above.length + 1) = Text.breaksAfter (above ++ [piece]) := by
    rw [Text.beforeLine, hsplit, List.take_length_add_append]
    rfl
  calc offset content ⟨above.length, column⟩
      = (Text.breaksAfter above).length +
          Text.indexOfColumn column (Text.dropReturn piece) := by
        rw [offset, hsplit, offsetAmong_around]
    _ ≤ (Text.breaksAfter above).length + piece.length :=
        Nat.add_le_add_left (Text.indexOfColumn_dropReturn_le column piece) _
    _ ≤ (content.beforeLine (above.length + 1)).length := by
        rw [hnext]
        simp
    _ ≤ (content.beforeLine later).length := Text.beforeLine_length_le hlt content

/-- **Offsets keep the order of positions.** -/
theorem offset_mono {p q : Position} (h : p ≤ q) (content : Text) :
    p.offset content ≤ q.offset content := by
  obtain ⟨number, column⟩ := p
  obtain ⟨number', column'⟩ := q
  by_cases hcount : number' < (Document.ofText content).lineCount
  · obtain ⟨line, hline⟩ := Document.lineText?_isSome_iff.mpr hcount
    rw [offset_eq column' hline]
    rcases le_iff.mp h with hlt | ⟨rfl, hcolumn⟩
    · exact Nat.le_trans (offset_le_beforeLine column hlt hcount) (Nat.le_add_right _ _)
    · rw [offset_eq column hline]
      exact Nat.add_le_add_left (Text.indexOfColumn_mono hcolumn line) _
  -- Behind the last line all positions have the offset of the end.
  · have hend : offset content ⟨number', column'⟩ = content.length :=
      offset_of_lineCount_le (Nat.le_of_not_lt hcount)
    rw [hend]
    exact offset_le_length content _

end Position

/-! ### Bytes -/

namespace Text

/-- The offset, in bytes, stands between two characters of the text or at one of its ends. -/
def IsBoundary (text : Text) (offset : Nat) : Prop :=
  String.Pos.Raw.IsValid (String.ofList text) ⟨offset⟩

theorem total_utf8Size (text : Text) : total Char.utf8Size text = text.utf8Encode.size := by
  induction text with
  | nil => rfl
  | cons c rest ih =>
      rw [total, ih, List.utf8Encode_cons, ByteArray.size_append, List.utf8Encode_singleton,
        List.size_toByteArray, String.length_utf8EncodeChar]

theorem isBoundary_take (text : Text) (n : Nat) :
    text.IsBoundary (text.take n).utf8Encode.size := by
  rw [IsBoundary, String.Pos.Raw.isValid_ofList]
  refine ⟨n, ?_⟩
  rw [← String.size_toByteArray, String.toByteArray_ofList]

theorem utf8Encode_slice (text : Text) {m n : Nat} (h : m ≤ n) :
    ((text.take n).drop m).utf8Encode =
      text.utf8Encode.extract (text.take m).utf8Encode.size (text.take n).utf8Encode.size := by
  have hfront : text.take n = text.take m ++ (text.take n).drop m := by
    conv_lhs => rw [← List.take_append_drop m (text.take n)]
    rw [List.take_take, Nat.min_eq_left h]
  have hsplit : text = text.take m ++ ((text.take n).drop m ++ text.drop n) := by
    rw [← List.append_assoc, ← hfront, List.take_append_drop]
  have hsize : (text.take n).utf8Encode.size =
      (text.take m).utf8Encode.size + ((text.take n).drop m).utf8Encode.size := by
    conv_lhs => rw [hfront]
    rw [List.utf8Encode_append, ByteArray.size_append]
  conv_rhs => rw [hsize, hsplit, List.utf8Encode_append, List.utf8Encode_append, ← hsplit]
  -- Both ends of the extract as a distance behind the front part.
  rw [← Nat.add_zero (text.take m).utf8Encode.size, Nat.add_assoc, Nat.zero_add,
    ByteArray.extract_append_size_add, ByteArray.extract_append_eq_left rfl]

theorem size_utf8Encode_take_mono (text : Text) {m n : Nat} (h : m ≤ n) :
    (text.take m).utf8Encode.size ≤ (text.take n).utf8Encode.size := by
  obtain ⟨between, hbetween⟩ := List.take_prefix_take_left (l := text) h
  rw [← hbetween, List.utf8Encode_append, ByteArray.size_append]
  exact Nat.le_add_right _ _

end Text

/-! ### The walk over the bytes -/

namespace Text

theorem total_append (measure : Char → Nat) (front back : Text) :
    total measure (front ++ back) = total measure front + total measure back := by
  induction front with
  | nil => simp [total]
  | cons c front ih => rw [List.cons_append, total, total, ih, Nat.add_assoc]

/-- A column stands behind the same characters whether they or their bytes are counted. -/
theorem byteOfColumn_eq (column : Nat) (line : Text) :
    byteOfColumn column line = total Char.utf8Size (line.take (indexOfColumn column line)) := by
  fun_induction byteOfColumn column line with
  | case1 line => simp [indexOfColumn, total]
  | case2 column => simp [total]
  | case3 column c rest ih => rw [indexOfColumn, List.take_succ_cons, total, ih]

theorem take_dropReturn (piece : Text) (column : Nat) :
    piece.take (indexOfColumn column (dropReturn piece)) =
      (dropReturn piece).take (indexOfColumn column (dropReturn piece)) := by
  rcases dropReturn_cases piece with hpiece | hpiece
  · rw [← hpiece]
  · conv_lhs => rw [hpiece, dropReturn_concat]
    exact List.take_append_of_le_length (indexOfColumn_le_length column _)

end Text

namespace Position

theorem byteAmong?_around (seen : Nat) (above below : List Text) (piece : Text) (column : Nat) :
    byteAmong? seen (above ++ piece :: below) above.length column =
      some (seen + Text.total Char.utf8Size (Text.breaksAfter above) +
        Text.byteOfColumn column (Text.dropReturn piece)) := by
  -- Every piece above adds to the bytes seen, so the induction is for any number of them.
  induction above generalizing seen with
  | nil => rfl
  | cons first above ih =>
      have hbreak : Text.total Char.utf8Size ('\n' :: Text.breaksAfter above) =
          1 + Text.total Char.utf8Size (Text.breaksAfter above) := rfl
      rw [List.cons_append, List.length_cons, byteAmong?, ih, Text.breaksAfter_cons,
        Text.total_append, hbreak]
      simp only [Nat.add_assoc]

theorem byteAmong?_eq_none (seen : Nat) {pieces : List Text} {line : Nat} (column : Nat)
    (h : pieces.length ≤ line) : byteAmong? seen pieces line column = none := by
  fun_induction byteAmong? seen pieces line column with
  | case1 => rfl
  | case2 seen piece rest column => simp at h
  | case3 seen piece rest line column ih => exact ih (by simpa using h)

/-- **The walk over the bytes ends where the characters in front of the position end.** -/
theorem byteOffset_eq (content : Text) (position : Position) :
    position.byteOffset content = (content.take (position.offset content)).utf8Encode.size := by
  obtain ⟨number, column⟩ := position
  rw [← Text.total_utf8Size]
  by_cases hnumber : number < (Document.ofText content).lineCount
  · obtain ⟨line, hline⟩ := Document.lineText?_isSome_iff.mpr hnumber
    obtain ⟨above, piece, below, hsplit, rfl, rfl⟩ := Text.exists_around_of_lineText? hline
    rw [take_offset_around hsplit, Text.total_append, Text.take_dropReturn,
      ← Text.byteOfColumn_eq, byteOffset, hsplit, byteAmong?_around, Option.getD_some,
      Nat.zero_add]
  -- Past the last line the walk has no line to stop on.
  · have hend := Nat.le_of_not_lt hnumber
    rw [offset_of_lineCount_le hend, List.take_length, byteOffset,
      byteAmong?_eq_none 0 column (by rwa [Document.lineCount_ofText] at hend), Option.getD_none]

end Position

/-! ### Bytes of positions -/

theorem Position.isBoundary_byteOffset (content : Text) (position : Position) :
    content.IsBoundary (position.byteOffset content) := by
  rw [byteOffset_eq]
  exact Text.isBoundary_take content _

theorem Position.byteOffset_le_size (content : Text) (position : Position) :
    position.byteOffset content ≤ content.utf8Encode.size := by
  have hmono := Text.size_utf8Encode_take_mono content (offset_le_length content position)
  rwa [List.take_length, ← byteOffset_eq] at hmono

theorem Position.byteOffset_mono {p q : Position} (h : p ≤ q) (content : Text) :
    p.byteOffset content ≤ q.byteOffset content := by
  rw [byteOffset_eq, byteOffset_eq]
  exact Text.size_utf8Encode_take_mono content (offset_mono h content)

namespace Edit

variable (edit : Edit) (content : Text)

/-- Where the edit cuts the bytes of the content. -/
def startByte : Nat := edit.range.start.byteOffset content

/-- Where the bytes of the content go on behind the edit. -/
def stopByte : Nat := max (edit.range.stop.byteOffset content) (edit.startByte content)

/-- The bytes of the content are cut at two places in order, each between two characters, and the
text of the edit goes between the parts. -/
structure CutsBytes : Prop where
  ordered : edit.startByte content ≤ edit.stopByte content
  bounded : edit.stopByte content ≤ content.utf8Encode.size
  start : content.IsBoundary (edit.startByte content)
  stop : content.IsBoundary (edit.stopByte content)
  bytes : (edit.apply content).utf8Encode =
    content.utf8Encode.extract 0 (edit.startByte content) ++ edit.text.utf8Encode ++
      content.utf8Encode.extract (edit.stopByte content) content.utf8Encode.size

/-- The lines above and below the range are the old ones. Those below it move by the line feeds of
the edit's text, less the line feeds in the range. -/
structure KeepsLines : Prop where
  above : ∀ n < edit.range.start.line,
    (Document.ofText (edit.apply content)).lineText? n = (Document.ofText content).lineText? n
  below : ∀ n, edit.range.stop.line < n →
    (Document.ofText (edit.apply content)).lineText?
        (n + edit.text.count '\n' - (edit.range.stop.line - edit.range.start.line)) =
      (Document.ofText content).lineText? n
  count : ((Document.ofText (edit.apply content)).lineCount : Int) =
    (Document.ofText content).lineCount + edit.text.count '\n' -
      (edit.range.stop.line - edit.range.start.line)

/-! ### The bytes of an edited text -/

/-- The later of two offsets in characters is the later one in bytes. -/
theorem stopByte_eq :
    edit.stopByte content =
      (content.take (max (edit.range.stop.offset content)
        (edit.range.start.offset content))).utf8Encode.size := by
  have hmono := fun {m n : Nat} => Text.size_utf8Encode_take_mono content (m := m) (n := n)
  rw [stopByte, startByte, Position.byteOffset_eq, Position.byteOffset_eq]
  rcases Nat.le_total (edit.range.stop.offset content) (edit.range.start.offset content) with h | h
  · rw [Nat.max_eq_right h, Nat.max_eq_right (hmono h)]
  · rw [Nat.max_eq_left h, Nat.max_eq_left (hmono h)]

theorem cutsBytes : edit.CutsBytes content where
  ordered := Nat.le_max_right _ _
  bounded := Nat.max_le.mpr
    ⟨Position.byteOffset_le_size content _, Position.byteOffset_le_size content _⟩
  start := Position.isBoundary_byteOffset content _
  stop := by
    rw [stopByte_eq]
    exact Text.isBoundary_take content _
  bytes := by
    have hfront := Text.utf8Encode_slice content (Nat.zero_le (edit.range.start.offset content))
    have hmax : max (edit.range.stop.offset content) (edit.range.start.offset content) ≤
        content.length :=
      Nat.max_le.mpr ⟨Position.offset_le_length content _, Position.offset_le_length content _⟩
    have hback := Text.utf8Encode_slice content hmax
    rw [List.drop_zero, List.take_zero, List.utf8Encode_nil, ByteArray.size_empty] at hfront
    rw [List.take_length] at hback
    rw [apply, List.utf8Encode_append, List.utf8Encode_append, stopByte_eq, ← hback, startByte,
      Position.byteOffset_eq, ← hfront]

/-! ### The lines of an edited text -/

variable {edit content}

/-- Between the lines above and below the range stand those of the edit's text, with what is left of
the first and the last line of the range at its ends. -/
theorem exists_linePieces_apply (hle : edit.range.start ≤ edit.range.stop)
    (hstop : edit.range.stop.line < (Document.ofText content).lineCount) :
    ∃ front back : Text, '\n' ∉ front ∧ '\n' ∉ back ∧
      Text.linePieces (edit.apply content) =
        (Text.linePieces content).take edit.range.start.line ++
          (Text.linePieces (front ++ edit.text ++ back) ++
            (Text.linePieces content).drop (edit.range.stop.line + 1)) := by
  obtain ⟨⟨⟨startLine, startColumn⟩, ⟨stopLine, stopColumn⟩⟩, text⟩ := edit
  dsimp only at hstop
  have hlines : startLine ≤ stopLine := Position.line_le_of_le hle
  obtain ⟨startText, hstart⟩ :=
    Document.lineText?_isSome_iff.mpr (Nat.lt_of_le_of_lt hlines hstop)
  obtain ⟨stopText, hstop⟩ := Document.lineText?_isSome_iff.mpr hstop
  obtain ⟨above, first, rest, hfirst, rfl, -⟩ := Text.exists_around_of_lineText? hstart
  obtain ⟨rest', last, below, hlast, rfl, -⟩ := Text.exists_around_of_lineText? hstop
  have hpiece : ∀ piece ∈ Text.linePieces content, '\n' ∉ piece :=
    fun piece => Text.newline_notMem_of_mem_linePieces
  refine ⟨first.take (Text.indexOfColumn startColumn (Text.dropReturn first)),
    last.drop (Text.indexOfColumn stopColumn (Text.dropReturn last)), ?_, ?_, ?_⟩
  · exact fun h => hpiece first (by rw [hfirst]; simp) (List.mem_of_mem_take h)
  · exact fun h => hpiece last (by rw [hlast]; simp) (List.mem_of_mem_drop h)
  · have habove : (Text.linePieces content).take above.length = above := by
      rw [hfirst, List.take_left]
    have hbelow : (Text.linePieces content).drop (rest'.length + 1) = below := by
      rw [hlast, List.drop_length_add_append]
      rfl
    have happly : apply ⟨⟨⟨above.length, startColumn⟩, ⟨rest'.length, stopColumn⟩⟩, text⟩ content =
        Text.breaksAfter above ++
          (first.take (Text.indexOfColumn startColumn (Text.dropReturn first)) ++ text ++
            last.drop (Text.indexOfColumn stopColumn (Text.dropReturn last)) ++
            Text.breaksBefore below) := by
      rw [apply, Nat.max_eq_left (Position.offset_mono hle content),
        Position.take_offset_around hfirst, Position.drop_offset_around hlast]
      simp only [List.append_assoc]
    rw [happly, habove, hbelow, Text.linePieces_breaksAfter_append, Text.linePieces_append_lines]
    · exact fun line hline => hpiece line (by rw [hlast]; simp [hline])
    · exact fun line hline => hpiece line (by rw [hfirst]; simp [hline])

theorem keepsLines (hle : edit.range.start ≤ edit.range.stop)
    (hstop : edit.range.stop.line < (Document.ofText content).lineCount) :
    edit.KeepsLines content := by
  obtain ⟨front, back, hfront, hback, hpieces⟩ := exists_linePieces_apply hle hstop
  have hlines := Position.line_le_of_le hle
  rw [Document.lineCount_ofText] at hstop
  have htop : ((Text.linePieces content).take edit.range.start.line).length =
      edit.range.start.line := by
    rw [List.length_take]
    omega
  have hmiddle : (Text.linePieces (front ++ edit.text ++ back)).length =
      edit.text.count '\n' + 1 := by
    rw [Text.length_linePieces, List.count_append, List.count_append,
      List.count_eq_zero.mpr hfront, List.count_eq_zero.mpr hback]
    omega
  refine ⟨?_, ?_, ?_⟩
  · intro n hn
    simp only [Document.lineText?, Document.ofText, List.getElem?_map, hpieces]
    rw [List.getElem?_append_left (by omega), List.getElem?_take_of_lt hn]
  · intro n hn
    simp only [Document.lineText?, Document.ofText, List.getElem?_map, hpieces]
    rw [List.getElem?_append_right (by omega), List.getElem?_append_right (by omega),
      List.getElem?_drop]
    congr 2
    omega
  · rw [Document.lineCount_ofText, Document.lineCount_ofText, hpieces, List.length_append,
      List.length_append, htop, hmiddle, List.length_drop]
    omega

/-- **Offsets are safe and edits are local.** The bytes counted in front of positions in order are in
order, within the content and up to a place between characters. So every edit cuts the bytes of the
content at two such places, and an edit of lines that the content has keeps all other lines. -/
theorem safe_and_local (content : Text) :
    (∀ p q : Position, p ≤ q →
      p.byteOffset content ≤ q.byteOffset content ∧
      q.byteOffset content ≤ content.utf8Encode.size ∧
      content.IsBoundary (p.byteOffset content) ∧ content.IsBoundary (q.byteOffset content)) ∧
    (∀ edit : Edit, edit.CutsBytes content) ∧
    ∀ edit : Edit, edit.range.start ≤ edit.range.stop →
      edit.range.stop.line < (Document.ofText content).lineCount → edit.KeepsLines content := by
  refine ⟨?_, fun edit => cutsBytes edit content, fun edit => keepsLines⟩
  intro p q hle
  exact ⟨Position.byteOffset_mono hle content, Position.byteOffset_le_size content q,
    Position.isBoundary_byteOffset content p, Position.isBoundary_byteOffset content q⟩

/-- A text with a character of two columns and four bytes, and lines that end in different ways. -/
def mixedLines : Text := "a𝄞b\r\né\r\r\nc\n".toList

/-- An edit from the middle of the wide character to behind the end of the next line. -/
def acrossLines : Edit := ⟨⟨⟨0, 2⟩, ⟨1, 9⟩⟩, "x\ny\n".toList⟩

theorem acrossLines_safe_and_local :
    acrossLines.range.start ≤ acrossLines.range.stop ∧
    acrossLines.range.start.byteOffset mixedLines = 5 ∧
    acrossLines.range.stop.byteOffset mixedLines = 11 ∧
    mixedLines.IsBoundary 5 ∧ mixedLines.IsBoundary 11 ∧
    acrossLines.CutsBytes mixedLines ∧ acrossLines.KeepsLines mixedLines := by
  have hle : acrossLines.range.start ≤ acrossLines.range.stop := by decide
  have hcount : acrossLines.range.stop.line < (Document.ofText mixedLines).lineCount := by
    decide +kernel
  have hstart : acrossLines.range.start.byteOffset mixedLines = 5 := by decide +kernel
  have hstop : acrossLines.range.stop.byteOffset mixedLines = 11 := by decide +kernel
  obtain ⟨hoffsets, hcuts, hkeeps⟩ := safe_and_local mixedLines
  obtain ⟨-, -, hfirst, hlast⟩ := hoffsets _ _ hle
  rw [hstart] at hfirst
  rw [hstop] at hlast
  exact ⟨hle, hstart, hstop, hfirst, hlast, hcuts acrossLines, hkeeps acrossLines hle hcount⟩

end Edit

end PropertyInsertion

import PropertyInsertion.Proofs.Offsets
import PropertyInsertion.Proofs.Ranges

/-!
# The text of a range is a stretch of the content

Recognition and planning read a document through its lines, and edits are made on the content with
its line ends. The two agree: the text of a range is what stands in the content between the offsets
of its ends, with a line feed for every line end.
-/

namespace PropertyInsertion

namespace Text

/-- The text with a line feed for every carriage return and line feed. -/
def unifyBreaks : Text → Text
  | [] => []
  | '\r' :: '\n' :: rest => '\n' :: unifyBreaks rest
  | c :: rest => c :: unifyBreaks rest

/-- What ends a line: its carriage return, and the line feed in front of the next line. -/
def lineEnd (number : Nat) (content : Text) : Text :=
  match (linePieces content).drop number with
  | [] => []
  | piece :: below => piece.drop (dropReturn piece).length ++ if below.isEmpty then [] else ['\n']

/-! ### Carriage returns in front of line feeds -/

theorem unifyBreaks_cons {c : Char} {rest : Text} (h : c = '\r' → rest.head? ≠ some '\n') :
    unifyBreaks (c :: rest) = c :: unifyBreaks rest := by
  rw [unifyBreaks]
  rintro tail hc rfl
  exact h hc rfl

theorem unifyBreaks_of_notMem {text : Text} (h : '\n' ∉ text) : unifyBreaks text = text := by
  fun_induction unifyBreaks text with
  | case1 => rfl
  | case2 rest => simp at h
  | case3 c rest _ ih =>
      rw [List.mem_cons, not_or] at h
      rw [ih h.2]

theorem dropReturn_append {back : Text} (front : Text) (hback : back ≠ []) :
    dropReturn (front ++ back) = front ++ dropReturn back := by
  obtain ⟨init, last, rfl⟩ := (List.eq_nil_or_concat' back).resolve_left hback
  rw [← List.append_assoc]
  by_cases hlast : last = '\r'
  · rw [hlast, dropReturn_concat, dropReturn_concat]
  · rw [dropReturn_of_ne _ hlast, dropReturn_of_ne _ hlast, List.append_assoc]

theorem dropReturn_drop (piece : Text) (n : Nat) :
    dropReturn (piece.drop n) = (dropReturn piece).drop n := by
  by_cases hn : n < piece.length
  · have hne : piece.drop n ≠ [] := by
      intro hnil
      have := List.drop_eq_nil_iff.mp hnil
      omega
    have hsplit := dropReturn_append (piece.take n) hne
    rw [List.take_append_drop] at hsplit
    rw [hsplit, List.drop_left' (by rw [List.length_take]; omega)]
  · have hlength := length_dropReturn_le piece
    rw [List.drop_eq_nil_of_le (by omega), List.drop_eq_nil_of_le (by omega), dropReturn_nil]

/-- A piece and its line feed become the line and a line feed. -/
theorem unifyBreaks_break {piece : Text} (hpiece : '\n' ∉ piece) (rest : Text) :
    unifyBreaks (piece ++ '\n' :: rest) = dropReturn piece ++ '\n' :: unifyBreaks rest := by
  induction piece with
  | nil => rfl
  | cons c piece ih =>
      rw [List.mem_cons, not_or] at hpiece
      -- A carriage return goes only where the piece ends.
      cases piece with
      | nil =>
          by_cases hc : c = '\r'
          · rw [hc]
            rfl
          · have hline := dropReturn_of_ne [] hc
            rw [List.nil_append] at hline
            rw [List.singleton_append, unifyBreaks_cons fun h => absurd h hc, hline]
            rfl
      | cons d piece =>
          have hd : d ≠ '\n' := fun h => hpiece.2 (h ▸ List.mem_cons_self)
          have hline := dropReturn_append [c] (List.cons_ne_nil d piece)
          rw [List.singleton_append] at hline
          rw [List.cons_append, unifyBreaks_cons fun _ => by simpa using hd, ih hpiece.2, hline]
          rfl

theorem unifyBreaks_breaksAfter_append {pieces : List Text}
    (hpieces : ∀ piece ∈ pieces, '\n' ∉ piece) (rest : Text) :
    unifyBreaks (breaksAfter pieces ++ rest) =
      breaksAfter (pieces.map dropReturn) ++ unifyBreaks rest := by
  induction pieces with
  | nil => rfl
  | cons piece pieces ih =>
      have hrest := ih fun other hother => hpieces other (List.mem_cons_of_mem piece hother)
      rw [breaksAfter_cons, List.append_assoc, List.cons_append,
        unifyBreaks_break (hpieces piece List.mem_cons_self), hrest, List.map_cons,
        breaksAfter_cons, List.append_assoc, List.cons_append]

end Text

/-- What stands in the content between the ends of the range. -/
def Range.slice (range : Range) (content : Text) : Text :=
  (content.take (range.stop.offset content)).drop (range.start.offset content)

/-! ### A range on one line -/

section OneLine

variable {content piece : Text} {above below : List Text}
  (hsplit : Text.linePieces content = above ++ piece :: below) (column column' : Nat)

include hsplit

theorem Range.slice_line :
    slice ⟨⟨above.length, column⟩, ⟨above.length, column'⟩⟩ content =
      ((Text.dropReturn piece).take (Text.indexOfColumn column' (Text.dropReturn piece))).drop
        (Text.indexOfColumn column (Text.dropReturn piece)) := by
  rw [slice, Position.take_offset_around hsplit, Text.take_dropReturn, Position.offset, hsplit,
    Position.offsetAmong_around, List.drop_length_add_append]

theorem Document.textIn_line :
    (ofText content).textIn ⟨⟨above.length, column⟩, ⟨above.length, column'⟩⟩ =
      ((Text.dropReturn piece).take (Text.indexOfColumn column' (Text.dropReturn piece))).drop
        (Text.indexOfColumn column (Text.dropReturn piece)) := by
  have hcount : (ofText content).lineCount = above.length + 1 + below.length := by
    rw [lineCount_ofText, hsplit, List.length_append, List.length_cons]
    omega
  have hline : ((ofText content).lines.drop above.length).take 1 = [Text.dropReturn piece] := by
    rw [ofText, hsplit, ← List.map_drop, List.drop_left]
    rfl
  have hlast : min above.length ((ofText content).lineCount - 1) = above.length := by omega
  simp only [textIn, hlast, Nat.add_sub_cancel_left, hline]
  simp [Text.within]

end OneLine

/-! ### A range across lines -/

/-- Lines that a range neither starts nor stops on are in it whole. -/
theorem zipIdx_within_between (range : Range) {number : Nat} (lines : List Text)
    (hstart : range.start.line < number) (hstop : number + lines.length ≤ range.stop.line) :
    ((lines.zipIdx number).map fun (line, n) => line.within range n) = lines := by
  have hwhole : ∀ entry ∈ lines.zipIdx number, entry.1.within range entry.2 = entry.1 := by
    rintro ⟨line, n⟩ hentry
    obtain ⟨hle, hlt, -⟩ := List.mem_zipIdx hentry
    have hfirst : n ≠ range.start.line := by omega
    have hlast : n ≠ range.stop.line := by omega
    simp [Text.within, hfirst, hlast]
  calc (lines.zipIdx number).map (fun (line, n) => line.within range n)
      = (lines.zipIdx number).map Prod.fst := List.map_congr_left hwhole
    _ = lines := List.zipIdx_map_fst number lines

section Lines

variable {content first last : Text} {above middle below : List Text}
  (hsplit : Text.linePieces content = above ++ first :: (middle ++ last :: below))
  (column column' : Nat)

include hsplit

theorem Range.slice_lines :
    slice ⟨⟨above.length, column⟩, ⟨above.length + 1 + middle.length, column'⟩⟩ content =
      Text.breaksAfter (first.drop (Text.indexOfColumn column (Text.dropReturn first)) :: middle) ++
        (Text.dropReturn last).take (Text.indexOfColumn column' (Text.dropReturn last)) := by
  have hindex := Text.indexOfColumn_dropReturn_le column first
  have hlast : Text.linePieces content = (above ++ first :: middle) ++ last :: below := by
    rw [hsplit]
    simp
  have hlength : above.length + 1 + middle.length = (above ++ first :: middle).length := by
    rw [List.length_append, List.length_cons]
    omega
  rw [slice, hlength, Position.take_offset_around hlast, Text.take_dropReturn, Position.offset,
    hsplit, Position.offsetAmong_around, Text.breaksAfter_append, List.append_assoc,
    List.drop_length_add_append, Text.breaksAfter_cons, Text.breaksAfter_cons, List.append_assoc,
    List.drop_append_of_le_length hindex, List.append_assoc]

theorem Document.textIn_lines :
    (ofText content).textIn
        ⟨⟨above.length, column⟩, ⟨above.length + 1 + middle.length, column'⟩⟩ =
      Text.breaksAfter ((Text.dropReturn first).drop
          (Text.indexOfColumn column (Text.dropReturn first)) :: middle.map Text.dropReturn) ++
        (Text.dropReturn last).take (Text.indexOfColumn column' (Text.dropReturn last)) := by
  have hcount : (ofText content).lineCount = above.length + 1 + middle.length + 1 +
      below.length := by
    rw [lineCount_ofText, hsplit]
    simp only [List.length_append, List.length_cons]
    omega
  have hlines : ((ofText content).lines.drop above.length).take (middle.length + 2) =
      Text.dropReturn first :: (middle.map Text.dropReturn ++ [Text.dropReturn last]) := by
    have htake : (middle ++ last :: below).take (middle.length + 1) = middle ++ [last] :=
      List.take_length_add_append 1
    rw [ofText, hsplit, ← List.map_drop, List.drop_left, ← List.map_take, List.take_succ_cons,
      htake]
    simp
  have hfirst : min above.length ((ofText content).lineCount - 1) = above.length := by omega
  have hstop : min (above.length + 1 + middle.length) ((ofText content).lineCount - 1) =
      above.length + 1 + middle.length := by omega
  have hsteps : above.length + 1 + middle.length + 1 - above.length = middle.length + 2 := by omega
  have hbetween := zipIdx_within_between
    ⟨⟨above.length, column⟩, ⟨above.length + 1 + middle.length, column'⟩⟩
    (middle.map Text.dropReturn) (Nat.lt_succ_self above.length) (by rw [List.length_map])
  simp only [textIn, hfirst, hstop, hsteps, hlines, List.zipIdx_cons, List.zipIdx_append,
    List.map_cons, List.map_append, hbetween, List.length_map, List.zipIdx_nil, List.map_nil]
  have hjoin := Text.intercalate_around
    ((Text.dropReturn first).drop (Text.indexOfColumn column (Text.dropReturn first)) ::
      middle.map Text.dropReturn) []
    ((Text.dropReturn last).take (Text.indexOfColumn column' (Text.dropReturn last)))
  rw [Text.breaksBefore_nil, List.append_nil] at hjoin
  have hne : above.length ≠ above.length + 1 + middle.length := by omega
  rw [← hjoin]
  simp [Text.within, hne, hne.symm]

end Lines

namespace Document

variable {content : Text} {range : Range}

theorem textIn_eq_unifyBreaks_slice (hle : range.start ≤ range.stop)
    (hstop : range.stop.line < (ofText content).lineCount) :
    (ofText content).textIn range = (range.slice content).unifyBreaks := by
  obtain ⟨⟨first, column⟩, ⟨last, column'⟩⟩ := range
  obtain ⟨line, hline⟩ := lineText?_isSome_iff.mpr hstop
  replace hle : first < last ∨ first = last ∧ column ≤ column' := hle
  obtain ⟨front, piece, below, hsplit, rfl, -⟩ := Text.exists_around_of_lineText? hline
  have hpieces : ∀ piece ∈ Text.linePieces content, '\n' ∉ piece :=
    fun piece => Text.newline_notMem_of_mem_linePieces
  have hpiece : '\n' ∉ Text.dropReturn piece := fun h =>
    hpieces piece (by rw [hsplit]; simp) (Text.mem_of_mem_dropReturn h)
  rcases hle with hlt | ⟨rfl, -⟩
  -- The first line of the range is one of those above its last line, and cuts them in two.
  · obtain ⟨above, top, middle, rfl, rfl⟩ : ∃ above top middle,
        front = above ++ top :: middle ∧ above.length = first :=
      ⟨front.take first, front[first], front.drop (first + 1),
        by rw [← List.drop_eq_getElem_cons hlt, List.take_append_drop],
        by rw [List.length_take, Nat.min_eq_left (Nat.le_of_lt hlt)]⟩
    rw [List.append_assoc, List.cons_append] at hsplit
    have hlength : (above ++ top :: middle).length = above.length + 1 + middle.length := by
      rw [List.length_append, List.length_cons]
      omega
    rw [hlength, textIn_lines hsplit, Range.slice_lines hsplit,
      Text.unifyBreaks_breaksAfter_append, List.map_cons, Text.dropReturn_drop,
      Text.unifyBreaks_of_notMem]
    · exact fun h => hpiece (List.mem_of_mem_take h)
    · intro other hother hbreak
      rcases List.mem_cons.mp hother with rfl | hmem
      · exact hpieces top (by rw [hsplit]; simp) (List.mem_of_mem_drop hbreak)
      · exact hpieces other (by rw [hsplit]; simp [hmem]) hbreak
  · rw [textIn_line hsplit, Range.slice_line hsplit, Text.unifyBreaks_of_notMem]
    exact fun h => hpiece (List.mem_of_mem_take (List.mem_of_mem_drop h))

end Document

/-! ### The end of a line -/

theorem Text.behindLine_eq_lineEnd_append {content line : Text} {number : Nat}
    (h : (Document.ofText content).lineText? number = some line) :
    content.behindLine number = content.lineEnd number ++ content.fromLine (number + 1) := by
  obtain ⟨above, piece, below, hsplit, rfl, -⟩ := exists_around_of_lineText? h
  have hbelow : (linePieces content).drop (above.length + 1) = below := by
    rw [hsplit, List.drop_length_add_append]
    rfl
  rw [behindLine_around hsplit, lineEnd, hsplit, List.drop_left, fromLine, hbelow,
    List.append_assoc]
  congr 1
  cases below with
  | nil => rfl
  | cons next rest =>
      have hjoin := intercalate_around [] rest next
      rw [List.nil_append, breaksAfter_nil, List.nil_append] at hjoin
      rw [hjoin]
      simp

theorem Text.lineEnd_cases (number : Nat) (content : Text) :
    content.lineEnd number ∈ [[], ['\n'], ['\r'], ['\r', '\n']] := by
  unfold lineEnd
  split
  next => simp
  next piece below _ =>
    rcases dropReturn_cases piece with h | h
    · rw [← h, List.drop_length]
      split <;> simp
    · rw [h, dropReturn_concat, List.drop_left]
      split <;> simp

/-- **The text of a range and the content agree.** A range of lines that the content has shows what
stands between its ends in the content, in characters as in bytes, with every line end as a line
feed. So a line's range shows the line, and an edit of it replaces the line's text only. -/
theorem Document.textIn_agrees_with_content (content : Text) :
    (∀ range : Range, range.start ≤ range.stop →
      range.stop.line < (ofText content).lineCount →
      (ofText content).textIn range = (range.slice content).unifyBreaks ∧
      (range.slice content).utf8Encode = content.utf8Encode.extract
        (range.start.byteOffset content) (range.stop.byteOffset content)) ∧
    ∀ number line, (ofText content).lineText? number = some line →
      (ofText content).textIn (.ofLine number line) = line ∧
      content.lineEnd number ∈ [[], ['\n'], ['\r'], ['\r', '\n']] ∧
      content = content.beforeLine number ++ line ++
        (content.lineEnd number ++ content.fromLine (number + 1)) ∧
      ∀ text, Edit.apply ⟨.ofLine number line, text⟩ content =
        content.beforeLine number ++ text ++
          (content.lineEnd number ++ content.fromLine (number + 1)) := by
  constructor
  · intro range hle hstop
    refine ⟨textIn_eq_unifyBreaks_slice hle hstop, ?_⟩
    rw [Range.slice, Position.byteOffset_eq, Position.byteOffset_eq]
    exact Text.utf8Encode_slice content (Position.offset_mono hle content)
  · intro number line hline
    rw [← Text.behindLine_eq_lineEnd_append hline]
    exact ⟨textIn_ofLine hline, Text.lineEnd_cases number content,
      (Text.append_behindLine hline).symm, fun text => Edit.apply_lines text (Nat.le_refl _) hline⟩

/-- Lines that end in all ways, one of them with two carriage returns. -/
def Document.endings : Text := "a𝄞\r\r\nb\rc\r\n\né\r".toList

theorem Document.endings_textIn_agrees_with_content :
    (ofText endings).textIn ⟨⟨0, 2⟩, ⟨3, 1⟩⟩ = "\r\nb\rc\n\né".toList ∧
    (ofText endings).textIn ⟨⟨0, 2⟩, ⟨3, 1⟩⟩ =
      (Range.slice ⟨⟨0, 2⟩, ⟨3, 1⟩⟩ endings).unifyBreaks ∧
    Edit.apply ⟨.ofLine 1 "b\rc".toList, ['x']⟩ endings =
      endings.beforeLine 1 ++ ['x'] ++ (endings.lineEnd 1 ++ endings.fromLine 2) := by
  obtain ⟨hranges, hlines⟩ := textIn_agrees_with_content endings
  have hcount : 3 < (ofText endings).lineCount := by decide +kernel
  have hline : (ofText endings).lineText? 1 = some "b\rc".toList := by decide +kernel
  obtain ⟨htext, -⟩ := hranges ⟨⟨0, 2⟩, ⟨3, 1⟩⟩ (by decide) hcount
  obtain ⟨-, -, -, hedit⟩ := hlines 1 _ hline
  exact ⟨by decide +kernel, htext, hedit ['x']⟩

end PropertyInsertion

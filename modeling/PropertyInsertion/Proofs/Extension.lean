import PropertyInsertion.Proofs.BlockMerge
import PropertyInsertion.Proofs.Blocks
import Mathlib.Data.List.Forall2

/-!
# One insertion into a constructor with its own lines

An insertion turns a block into a longer one, and the text after the edit has that block again: none
of the generated lines is taken for a signature, a closing line or a class header, and the docblock
is still found below the class header.
-/

namespace PropertyInsertion

open Code Declarations

namespace Block

/-- An empty line, if a member follows directly. -/
def gapLines (below : List Text) : List Text :=
  if below.head?.any fun line => !line.allBlank && !Text.closesWith ['}'] line then [[]] else []

/-- The block with one property more. -/
def extend (settings : Settings) (name : Text) (block : Block) : Block where
  above := block.above ++ [declarationLine settings name, []]
  docblock := block.docblock.map Text.dropReturn
  group := { withParameter block.group name with after := Text.dropReturn block.group.after }
  body := block.body.map Text.dropReturn ++
    [assignmentLine block.closing.leadingBlanks settings name]
  closing := block.closing.trimEnd
  below := gapLines block.below ++ block.below

end Block

/-! ### Lines without their carriage returns and blanks -/

theorem Declarations.closes_dropReturn (seen : Bool) (line : Text) :
    closes seen (Text.dropReturn line) = closes seen line := by
  rw [closes, closes, Line.inlineBody?_isSome_dropReturn, Line.isConstructorSignature_dropReturn,
    Line.isNestedClose_dropReturn]

theorem Declarations.staysOpen_map_dropReturn (seen : Bool) (lines : List Text) :
    staysOpen seen (lines.map Text.dropReturn) = staysOpen seen lines := by
  induction lines generalizing seen with
  | nil => rfl
  | cons line lines ih =>
      rw [List.map_cons, staysOpen, staysOpen, closes_dropReturn,
        Line.isConstructorSignature_dropReturn, ih]

theorem Declarations.isInner_dropReturn (line : Text) :
    isInner (Text.dropReturn line) = isInner line := by
  rw [isInner, isInner, Line.isConstructorSignature_dropReturn, Line.isNestedClose_dropReturn]

theorem Line.isConstructorSignature_trimEnd (line : Text) :
    Line.isConstructorSignature line.trimEnd = Line.isConstructorSignature line := by
  obtain ⟨blanks, hblank, hline⟩ := Text.exists_eq_trimEnd_append line
  have hmark : Line.constructorMark = "function __construc".toList ++ ['t'] := rfl
  conv_rhs => rw [hline]
  rw [Bool.eq_iff_iff, Line.isConstructorSignature_iff, Line.isConstructorSignature_iff, hmark,
    Text.infix_append_blank_iff (by decide) hblank]

theorem Line.isNestedClose_trimEnd {line : Text} (h : Line.isNestedClose line = true) :
    Line.isNestedClose line.trimEnd = true := by
  have hends := Line.closesWith_of_isNestedClose h
  obtain ⟨front, blanks, -, hline, htrim⟩ := Text.exists_trimEnd_eq_concat (by decide) hends
  have hhead : line.trimEnd.head? = line.head? := by
    rw [htrim, hline]
    cases front <;> rfl
  rw [Line.isNestedClose, hhead, Text.closesWith_trimEnd]
  exact h

theorem Text.allBlank_leadingBlanks (text : Text) : (Text.leadingBlanks text).allBlank = true :=
  List.all_takeWhile

theorem IsDocblock.map_dropReturn {lines : List Text} (h : IsDocblock lines) :
    IsDocblock (lines.map Text.dropReturn) := by
  constructor
  · intro i line hline
    rw [List.getElem?_map] at hline
    obtain ⟨old, hold, rfl⟩ := Option.map_eq_some_iff.mp hline
    rw [Line.opensDocblock_dropReturn, List.length_map]
    exact h.opens i old hold
  · intro line hline
    rw [List.getLast?_map] at hline
    obtain ⟨old, hold, rfl⟩ := Option.map_eq_some_iff.mp hline
    rw [Text.closesWith_dropReturn]
    exact h.ends old hold

/-! ### A declaration in front of a constructor -/

/-- The lines in front of a constructor, with the declaration as the last of them. -/
def declaredAbove (settings : Settings) (name : Text) (above : List Text) : List Text :=
  above ++ [declarationLine settings name, []]

section Declared

variable {settings : Settings} {name : Text} {above docblock : List Text}
  {signature signature' : Text} (hindent : settings.indentsByBlanks = true)
  (hname : isPropertyName name = true)

theorem length_declaredAbove (settings : Settings) (name : Text) (above : List Text) :
    (declaredAbove settings name above).length = above.length + 2 := by
  simp [declaredAbove]

include hindent hname

theorem staysOpen_declared (h : staysOpen false (above ++ docblock) = true) :
    staysOpen false (declaredAbove settings name above ++ docblock.map Text.dropReturn) =
      true := by
  have hinner : ∀ line ∈ [declarationLine settings name, []], isInner line = true := by
    simp only [List.forall_mem_cons, List.not_mem_nil, false_imp_iff, implies_true, and_true]
    refine ⟨isInner_iff.mpr ⟨isConstructorSignature_declarationLine hindent hname,
      isNestedClose_declarationLine⟩, by decide⟩
  have hnone : [declarationLine settings name, []].any Line.isConstructorSignature = false := by
    simp only [List.any_eq_false, Bool.not_eq_true]
    exact fun line hline => (isInner_iff.mp (hinner line hline)).1
  rw [staysOpen_append, Bool.and_eq_true] at h
  rw [declaredAbove, List.append_assoc, staysOpen_append, staysOpen_append, h.1,
    staysOpen_of_isInner _ hinner, staysOpen_map_dropReturn, hnone, Bool.or_false]
  exact h.2

/-- The class line above the docblock does not move, and one in it moves along with it. -/
theorem lowerBound_declared_le
    (hheader : Line.isClassHeader signature' = true → Line.isClassHeader signature = true ∧
      (Text.closesWith ['{'] signature = true → Text.closesWith ['{'] signature' = true)) :
    lowerBound (declaredAbove settings name above ++ docblock.map Text.dropReturn) signature' ≤
      lowerBound (above ++ docblock) signature + 2 := by
  have halike : List.Forall₂ (fun line line' => Line.isClassHeader line' = true →
      Line.isClassHeader line = true ∧
        (Text.closesWith ['{'] line = true → Text.closesWith ['{'] line' = true))
      (docblock ++ [signature]) (docblock.map Text.dropReturn ++ [signature']) := by
    refine List.rel_append ?_ (.cons hheader .nil)
    refine List.forall₂_map_right_iff.mpr (List.forall₂_same.mpr fun line _ => ?_)
    rw [Line.isClassHeader_dropReturn, Text.closesWith_dropReturn]
    exact fun h => ⟨h, id⟩
  have hskip : classLineFrom above.length (classLineFrom 0 none above)
      [declarationLine settings name, []] = classLineFrom 0 none above := by
    have hempty : Line.isClassHeader [] = false := by decide
    simp [classLineFrom, isClassHeader_declarationLine hindent hname, hempty]
  have hdeclared : classLineFrom 0 none (declaredAbove settings name above) =
      classLineFrom 0 none above := by
    rw [declaredAbove, classLineFrom_append, Nat.zero_add, hskip]
  have hnew : classLineFrom 0 none
      (declaredAbove settings name above ++ (docblock.map Text.dropReturn ++ [signature'])) =
      classLineFrom (above.length + 2) (classLineFrom 0 none above)
        (docblock.map Text.dropReturn ++ [signature']) := by
    rw [classLineFrom_append 0 none (declaredAbove settings name above), hdeclared,
      length_declaredAbove, Nat.zero_add]
  have hold : classLineFrom 0 none (above ++ docblock ++ [signature]) =
      classLineFrom above.length (classLineFrom 0 none above) (docblock ++ [signature]) := by
    rw [List.append_assoc, classLineFrom_append, Nat.zero_add]
  have hfound : (classLineFrom 0 none above).getD 0 ≤ 0 + above.length :=
    classLineFrom_le (Nat.le_refl 0)
  rw [lowerBound, lowerBound, List.append_assoc, hnew, hold]
  exact classLineFrom_shift_le halike (by omega) (by omega)

/-- A constructor below a declaration starts with the docblock that it started with. -/
theorem exists_range_declared {doc doc' : Document} {below below' : List Text} {range : Range}
    (hlines : doc.lines = above ++ docblock ++ signature :: below)
    (hlines' : doc'.lines = declaredAbove settings name above ++ docblock.map Text.dropReturn ++
      signature' :: below')
    (hheader : Line.isClassHeader signature' = true → Line.isClassHeader signature = true ∧
      (Text.closesWith ['{'] signature = true → Text.closesWith ['{'] signature' = true))
    (hrange : doc.view.constructorRange? (above ++ docblock).length
      (lowerBound (above ++ docblock) signature) = some range)
    (hstart : range.start.line = above.length) :
    ∃ range', doc'.view.constructorRange?
        (declaredAbove settings name above ++ docblock.map Text.dropReturn).length
        (lowerBound (declaredAbove settings name above ++ docblock.map Text.dropReturn)
          signature') = some range' ∧
      range'.start.line = (declaredAbove settings name above).length := by
  by_cases hempty : docblock = []
  · -- the empty line below the declaration ends no comment
    subst hempty
    have hsplit : doc'.lines = (above ++ [declarationLine settings name]) ++ [[], signature'] ++
        below' := by
      rw [hlines', declaredAbove]
      simp
    have hshows := Document.view_shows hsplit
    have hnumber : (above ++ [declarationLine settings name]).length + 1 =
        (declaredAbove settings name above).length := by
      simp [declaredAbove]
    have hsignature := hshows 1 _ rfl
    have hcomment : (doc'.view.lineText? ((declaredAbove settings name above).length - 1)).any
        (Text.closesWith ['*', '/']) = false := by
      rw [← hnumber, Nat.add_sub_cancel, hshows.head]
      decide
    rw [hnumber] at hsignature
    simp only [List.map_nil, List.append_nil]
    exact ⟨_, View.constructorRange?_of_not_comment hsignature hcomment, rfl⟩
  · obtain ⟨hdocblock, hbound⟩ := isDocblock_of_range hlines hempty hrange hstart
    have hne : docblock.map Text.dropReturn ≠ [] := by simpa using hempty
    have hpos := List.length_pos_iff.mpr hempty
    have hlower : lowerBound (declaredAbove settings name above ++ docblock.map Text.dropReturn)
        signature' ≤ lowerBound (above ++ docblock) signature + 2 :=
      lowerBound_declared_le hindent hname hheader
    have hnew : min (lowerBound (declaredAbove settings name above ++
        docblock.map Text.dropReturn) signature')
        ((declaredAbove settings name above ++ docblock.map Text.dropReturn).length - 1) ≤
        (declaredAbove settings name above).length := by
      rw [List.length_append, List.length_map, length_declaredAbove]
      rw [List.length_append] at hbound
      omega
    obtain ⟨first, hfirst⟩ := range_of_isDocblock hlines' hne hdocblock.map_dropReturn hnew
    exact ⟨_, hfirst, rfl⟩

end Declared

/-! ### The longer block is taken for what it is -/

section Extend

variable {settings : Settings} {name : Text} {block : Block}
  (hindent : settings.indentsByBlanks = true) (hname : isPropertyName name = true)

theorem Block.extend_line :
    (block.extend settings name).group.line =
      Text.dropReturn (withParameter block.group name).line :=
  (dropReturn_line _).symm

include hindent hname

theorem Block.Reads.extend (h : block.Reads) : (block.extend settings name).Reads := by
  constructor
  · exact staysOpen_declared hindent hname h.staysOpen
  · rw [Block.extend_line, Line.isConstructorSignature_dropReturn,
      isConstructorSignature_withParameter hname]
    exact h.isSignature
  · rw [Block.extend_line, Line.inlineBody?_isSome_dropReturn, Bool.eq_false_iff]
    intro hinline
    have hold := inlineBody?_of_withParameter hname hinline
    rw [h.notInline] at hold
    contradiction
  · intro line hline
    rcases List.mem_append.mp hline with hline | hline
    · obtain ⟨old, hold, rfl⟩ := List.mem_map.mp hline
      rw [isInner_dropReturn]
      exact h.body old hold
    · rw [List.mem_singleton.mp hline]
      exact isInner_assignmentLine (Text.allBlank_leadingBlanks _) hindent hname
  · exact (Line.isConstructorSignature_trimEnd _).trans h.closingNotSignature
  · exact Line.isNestedClose_trimEnd h.closes

theorem Document.HasBlock.extend {doc doc' : Document} (h : doc.HasBlock block)
    (hlines : doc'.lines = (block.extend settings name).lines) :
    doc'.HasBlock (block.extend settings name) := by
  obtain ⟨hold, hparentheses, hreads, range, hrange, hstart⟩ := hasBlock_iff.mp h
  have hheader : Line.isClassHeader (block.extend settings name).group.line = true →
      Line.isClassHeader block.group.line = true ∧
        (Text.closesWith ['{'] block.group.line = true →
          Text.closesWith ['{'] (block.extend settings name).group.line = true) := by
    rw [Block.extend_line, Line.isClassHeader_dropReturn, Text.closesWith_dropReturn,
      isClassHeader_withParameter hname, closesWith_withParameter (by decide) (by decide)]
    exact fun h => ⟨h, id⟩
  refine hasBlock_iff.mpr ⟨hlines, ⟨hparentheses.1, ?_⟩, hreads.extend hindent hname,
    exists_range_declared hindent hname hold hlines hheader hrange hstart⟩
  exact notMem_inside_withParameter hname hparentheses.2 (by decide) (by decide)

end Extend

/-! ### The text after the edit has the lines of the longer block -/

/-- The closing line and what follows it, where `rest` is what is left of the old line end. -/
theorem closing_tail_lines {closing rest : Text} {below : List Text}
    (hends : Text.closesWith ['}'] closing = true) (hclosing : '\n' ∉ closing)
    (hrest : rest = [] ∨ rest = ['\r']) (hbelow : ∀ line ∈ below, '\n' ∉ line) :
    (Text.linePieces (closing.trimEnd ++ (Plan.gap (below.map Text.dropReturn).head? ++
      (rest ++ Text.breaksBefore below)))).map Text.dropReturn =
      closing.trimEnd ::
        (Block.gapLines (below.map Text.dropReturn) ++ below.map Text.dropReturn) := by
  obtain ⟨front, blanks, -, hline, htrim⟩ := Text.exists_trimEnd_eq_concat (by decide) hends
  have htrimmed : '\n' ∉ closing.trimEnd := by
    rw [hline] at hclosing
    rw [htrim]
    simp_all
  have hbreak : '\n' ∉ rest := by
    rcases hrest with rfl | rfl <;> decide
  have hreturn : Text.dropReturn rest = [] := by
    rcases hrest with rfl | rfl <;> decide
  rw [Plan.gap, Block.gapLines]
  split
  · have hlines := Text.linePieces_append_breaksBefore hbreak hbelow
    rw [List.singleton_append, Text.linePieces_break htrimmed, hlines, List.map_cons, List.map_cons,
      hreturn, htrim, Text.dropReturn_of_ne front (by decide)]
    rfl
  · have hjoined : '\n' ∉ closing.trimEnd ++ rest := by simp [htrimmed, hbreak]
    have hlines := Text.linePieces_append_breaksBefore hjoined hbelow
    rw [List.nil_append, ← List.append_assoc, hlines, List.map_cons, htrim, List.append_assoc,
      List.singleton_append, Text.dropReturn_append_cons front rest (by decide), hreturn,
      List.nil_append]

/-- The lines of a text in which the lines from `start` to `number` are replaced by others, the last
of which closes a block. -/
theorem lines_of_replacement {content closing line : Text} {lines : List Text} {number : Nat}
    (start : Nat) (hline : (Document.ofText content).lineText? number = some line)
    (hends : Text.closesWith ['}'] closing = true) (hclosing : '\n' ∉ closing)
    (hlines : ∀ line ∈ lines, '\n' ∉ line) :
    (Document.ofText (content.beforeLine start ++ (Text.breaksAfter lines ++ closing.trimEnd ++
      Plan.gap ((Document.ofText content).lineText? (number + 1))) ++
      content.behindLine number)).lines =
      (Document.ofText content).lines.take start ++ lines.map Text.dropReturn ++
        closing.trimEnd :: (Block.gapLines ((Document.ofText content).lines.drop (number + 1)) ++
          (Document.ofText content).lines.drop (number + 1)) := by
  obtain ⟨above, piece, below, hsplit, rfl, -⟩ := Text.exists_around_of_lineText? hline
  have hbelow : (Document.ofText content).lines.drop (above.length + 1) =
      below.map Text.dropReturn := by
    rw [Document.ofText, hsplit, List.map_append, List.map_cons, ← List.drop_drop,
      List.drop_left' (List.length_map _)]
    rfl
  have hnext : (Document.ofText content).lineText? (above.length + 1) =
      (below.map Text.dropReturn).head? := by
    rw [Document.lineText?, ← hbelow, List.head?_drop]
  have hrest : piece.drop (Text.dropReturn piece).length = [] ∨
      piece.drop (Text.dropReturn piece).length = ['\r'] := by
    rcases Text.dropReturn_cases piece with hsame | hreturn
    · exact Or.inl (by rw [← hsame, List.drop_length])
    · refine Or.inr ?_
      conv_lhs => rw [hreturn]
      rw [Text.dropReturn_concat, List.drop_left]
  have hpieces : ∀ line ∈ Text.linePieces content, '\n' ∉ line :=
    fun line hline => Text.newline_notMem_of_mem_linePieces hline
  have hunder : ∀ line ∈ below, '\n' ∉ line :=
    fun line hline => hpieces line (by rw [hsplit]; simp [hline])
  have htail := closing_tail_lines hends hclosing hrest hunder
  have hfree : ∀ line ∈ (Text.linePieces content).take start ++ lines, '\n' ∉ line :=
    List.forall_mem_append.mpr
      ⟨fun line hline => hpieces line (List.mem_of_mem_take hline), hlines⟩
  have htext := Text.linePieces_breaksAfter_append hfree
    (closing.trimEnd ++ (Plan.gap (below.map Text.dropReturn).head? ++
      (piece.drop (Text.dropReturn piece).length ++ Text.breaksBefore below)))
  rw [hnext, hbelow, Text.behindLine_around hsplit, Text.beforeLine, Document.ofText]
  simp only [Text.breaksAfter_append, List.append_assoc] at htext ⊢
  rw [htext]
  simp only [List.map_append, htail, List.map_take, Document.ofText]

section Lines

variable {content : Text} {settings : Settings} {name : Text} {block : Block}

/-- The lines that an insertion writes in front of the closing line. -/
def mergedLines (settings : Settings) (name : Text) (block : Block) : List Text :=
  [declarationLine settings name, []] ++ block.docblock ++ (withParameter block.group name).line ::
    (block.body ++ [assignmentLine block.closing.leadingBlanks settings name])

theorem Plan.mergedBlock_eq (settings : Settings) (name : Text) (block : Block) :
    Plan.mergedBlock settings name block.docblock block.group block.body block.closing =
      Text.breaksAfter (mergedLines settings name block) ++ block.closing.trimEnd := by
  have hjoin := Text.append_breaksBefore_break (withParameter block.group name).line
    (block.body ++ [assignmentLine block.closing.leadingBlanks settings name]) block.closing.trimEnd
  have hbefore : ∀ front back : List Text,
      Text.breaksBefore (front ++ back) = Text.breaksBefore front ++ Text.breaksBefore back := by
    intro front back
    simp [Text.breaksBefore]
  rw [mergedLines, Text.breaksAfter_append, List.append_assoc, ← hjoin, Plan.mergedBlock, hbefore]
  simp

theorem newline_notMem_mergedLines (hlines : ∀ line ∈ block.lines, '\n' ∉ line)
    (hindent : settings.indentsByBlanks = true) (hname : isPropertyName name = true) :
    ∀ line ∈ mergedLines settings name block, '\n' ∉ line := by
  simp only [Block.lines, Block.front, List.forall_mem_append, List.forall_mem_cons] at hlines
  obtain ⟨⟨-, hdocblock⟩, hgroup, hbody, hclosing, -⟩ := hlines
  have hleading : '\n' ∉ block.closing.leadingBlanks :=
    fun h => hclosing (List.takeWhile_subset _ h)
  simp only [mergedLines, List.forall_mem_append, List.forall_mem_cons, List.not_mem_nil,
    false_imp_iff, implies_true, and_true]
  exact ⟨⟨⟨newline_notMem_declarationLine hindent hname, not_false⟩, hdocblock⟩,
    newline_notMem_withParameter hname hgroup, hbody,
    newline_notMem_assignmentLine hindent hname hleading⟩

theorem Block.lines_around_closing (block : Block) :
    block.lines =
      (block.front ++ block.group.line :: block.body) ++ block.closing :: block.below := by
  rw [Block.lines]
  simp

theorem Block.length_above_closing (block : Block) :
    (block.front ++ block.group.line :: block.body).length =
      block.front.length + 1 + block.body.length := by
  rw [List.length_append, List.length_cons]
  omega

theorem Document.HasBlock.lineText?_closing {doc : Document} (h : doc.HasBlock block) :
    doc.lineText? (block.front.length + 1 + block.body.length) = some block.closing := by
  rw [Document.lineText?, h.lines, block.lines_around_closing, ← block.length_above_closing,
    List.getElem?_append_right (Nat.le_refl _), Nat.sub_self]
  rfl

theorem extend_lines_eq (settings : Settings) (name : Text) (block : Block) :
    (block.extend settings name).lines =
      block.above ++ (mergedLines settings name block).map Text.dropReturn ++
        block.closing.trimEnd :: (Block.gapLines block.below ++ block.below) := by
  rw [Block.lines, Block.extend_line, Block.front]
  simp [mergedLines, Block.extend, dropReturn_declarationLine, dropReturn_assignmentLine]

/-- **The text after the edit has the lines of the longer block.** -/
theorem lines_of_merge (h : (Document.ofText content).HasBlock block)
    (hindent : settings.indentsByBlanks = true) (hname : isPropertyName name = true) :
    (Document.ofText (content.beforeLine block.above.length ++
      (Plan.mergedBlock settings name block.docblock block.group block.body block.closing ++
        Plan.gap ((Document.ofText content).lineText?
          (block.front.length + 1 + block.body.length + 1))) ++
      content.behindLine (block.front.length + 1 + block.body.length))).lines =
      (block.extend settings name).lines := by
  have hlines : ∀ line ∈ block.lines, '\n' ∉ line := by
    intro line hline
    rw [← h.lines] at hline
    exact Text.newline_notMem_of_mem_lines hline
  have hclosing := h.lineText?_closing
  have habove : block.lines.take block.above.length = block.above := by
    rw [Block.lines, Block.front, List.append_assoc, List.take_left]
  have hbelow : block.lines.drop (block.front.length + 1 + block.body.length + 1) =
      block.below := by
    rw [block.lines_around_closing, ← block.length_above_closing, ← List.drop_drop, List.drop_left]
    rfl
  have hends := Line.closesWith_of_isNestedClose (hasBlock_iff.mp h).2.2.1.closes
  rw [Plan.mergedBlock_eq, lines_of_replacement _ hclosing hends (hlines _ (by simp [Block.lines]))
    (newline_notMem_mergedLines hlines hindent hname), h.lines, habove, hbelow, extend_lines_eq]

/-! ### One insertion -/

/-- The signature of a block, as planning reads it. The docblock must not hold a signature. -/
theorem signature_of_hasBlock {ctor : Constructor}
    (h : (Document.ofText content).HasBlock block)
    (hdocblock : ∀ line ∈ block.docblock, Line.isConstructorSignature line = false)
    (hctor : (scan (Document.ofText content).view).constructor? = some ctor)
    (hstart : ctor.range.start.line = block.above.length) (hline : ctor.line = block.front.length) :
    Plan.signature (Document.ofText content).view ctor =
      .ok ⟨block.front.length, block.group.line, block.docblock⟩ := by
  obtain ⟨hlines, -, hreads, -⟩ := hasBlock_iff.mp h
  have hlength : block.front.length = block.above.length + block.docblock.length := by
    rw [Block.front, List.length_append]
  have hsplit : (Document.ofText content).lines = block.front ++ [block.group.line] ++
      (block.body ++ block.closing :: block.below) := by
    rw [hlines, Block.lines]
    simp
  have hsignature := (Document.view_shows hsplit).head
  have hshows : (Document.ofText content).view.Shows block.above.length block.docblock :=
    Document.view_shows hlines
  by_cases hempty : block.docblock = []
  · have hno : ctor.hasDocblock = false := by
      simp [Constructor.hasDocblock, hstart, hline, hlength, hempty]
    obtain ⟨line, htext, hrange⟩ := (Plan.range_of_scan hctor).2.2 hno
    have hsame : ctor.range.start.line = block.front.length := by
      rw [hstart, hlength, hempty, List.length_nil, Nat.add_zero]
    rw [hsame] at htext hrange
    rw [Document.view_lineText?, htext] at hsignature
    obtain rfl := Option.some.inj hsignature
    rw [Plan.signature_of_no_docblock hno, hsame, hempty, hrange]
    exact congrArg (fun text => Except.ok (Plan.Signature.mk _ text _))
      (Document.textIn_ofLine htext)
  · have hpos := List.length_pos_iff.mpr hempty
    have hhas : ctor.hasDocblock = true := by
      rw [Constructor.hasDocblock, hstart, hline, hlength, decide_eq_true_eq]
      omega
    rw [Plan.signature_eq_ok_iff_of_docblock hhas, hstart]
    dsimp only
    refine ⟨View.firstLine?_eq_some_iff.mpr ⟨⟨by omega, ?_⟩,
      ⟨_, hsignature, hreads.isSignature⟩, ?_⟩, View.linesOrError_eq_ok_iff.mpr ⟨by omega, hshows⟩,
      View.lineOrError_eq_ok_iff.mpr hsignature⟩
    · change block.front.length < (Document.ofText content).lines.length
      rw [hsplit]
      simp
    · intro number line hle hlt hshown
      obtain ⟨i, rfl⟩ := Nat.exists_eq_add_of_le hle
      have hi : i < block.docblock.length := by omega
      have hother := hshows i _ (List.getElem?_eq_getElem hi)
      rw [Option.some.inj (hshown.symm.trans hother)]
      exact hdocblock _ (List.getElem_mem hi)

/-- **One insertion.** It succeeds for every property name, and the text after the edit has the
longer block. -/
theorem exists_plan_of_hasBlock (h : (Document.ofText content).HasBlock block)
    (hdocblock : ∀ line ∈ block.docblock, Line.isConstructorSignature line = false)
    (hindent : settings.indentsByBlanks = true) (hname : isPropertyName name = true) :
    ∃ plan, Plan.ofText content settings name = .ok plan ∧
      (Document.ofText (plan.edit.apply content)).HasBlock (block.extend settings name) := by
  obtain ⟨ctor, hctor, hstart, hline, hclosing⟩ := h.found
  have hsig := signature_of_hasBlock h hdocblock hctor hstart hline
  have hlines : (Document.ofText content).lines =
      block.front ++ block.group.line :: (block.body ++ block.closing :: block.below) := h.lines
  have hgroup : Line.parentheses? block.group.line = some block.group := by
    refine (Line.parentheses?_eq_some_iff ?_).mpr ⟨rfl, h.parentheses⟩
    exact Text.newline_notMem_of_mem_lines (by rw [hlines]; simp)
  have hbody : (Document.ofText content).stretch (block.front.length + 1)
      (block.front.length + 1 + block.body.length) = block.body := by
    have hsplit : (Document.ofText content).lines = (block.front ++ [block.group.line]) ++
        (block.body ++ block.closing :: block.below) := by
      rw [hlines]
      simp
    rw [Document.stretch, hsplit, List.drop_left' (by simp), Nat.add_sub_cancel_left,
      List.take_left]
  obtain ⟨plan, hplan, happly⟩ := Plan.exists_plan_of_block hname hctor hclosing hsig hgroup
    (by dsimp only; omega) h.lineText?_closing
  refine ⟨plan, hplan, h.extend hindent hname ?_⟩
  rw [happly, hstart, hbody]
  exact lines_of_merge h hindent hname

end Lines

end PropertyInsertion

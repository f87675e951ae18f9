import PropertyInsertion.Proofs.Extension
import PropertyInsertion.Proofs.InlineMerge

/-!
# Reading an opened constructor again

A constructor on one line is opened up into a block: its signature, a brace, its body and the
assignment, and a closing brace, each on a line of its own under the indentation of the signature.
A pass over the new text reads these lines like any others. It finds the block again exactly if the
signature was indented, so that the new closing brace is, and if the body neither ends with a brace
nor holds a signature, so that its line is taken for neither. Further insertions then extend the
block.
-/

namespace PropertyInsertion

open Code Declarations

theorem Text.head?_leadingBlanks (line : Text) :
    (Text.leadingBlanks line).head? = line.head?.filter Text.isBlank := by
  cases line with
  | nil => rfl
  | cons c rest =>
      by_cases hc : Text.isBlank c = true <;> simp [Text.leadingBlanks, Option.filter_some, hc]

namespace Line

theorem isConstructorSignature_blank_append {blanks : Text} (line : Text)
    (hblank : blanks.allBlank = true) :
    isConstructorSignature (blanks ++ line) = isConstructorSignature line := by
  have hmark : constructorMark = 'f' :: "unction __construct".toList := rfl
  rw [Bool.eq_iff_iff, isConstructorSignature_iff, isConstructorSignature_iff, hmark,
    Text.infix_blank_append_iff (by decide) hblank]

theorem isConstructorSignature_trim (line : Text) :
    isConstructorSignature line.trim = isConstructorSignature line := by
  obtain ⟨blanks, hblank, htrim⟩ := Text.exists_trimEnd_eq_append_trim line
  rw [← isConstructorSignature_trimEnd line, htrim, isConstructorSignature_blank_append _ hblank]

/-- The constructor on this line, whose body this is, is found again once it is opened up. -/
structure Reopens (line body : Text) : Prop where
  indented : line.head? = some ' ' ∨ line.head? = some '\t'
  noBrace : Text.closesWith ['}'] body = false
  noSignature : isConstructorSignature body = false

/-! ### The signature without its body -/

/-- What is left of the line in front of the brace. -/
def Parentheses.cutAt (group : Parentheses) (between : Text) : Parentheses :=
  { group with after := between.trimEnd }

section CutAt

variable {group : Parentheses} {between : Text}

theorem cutAt_line (group : Parentheses) (between : Text) :
    (group.cutAt between).line = (group.opening ++ between).trimEnd := by
  have hsplit : group.opening ++ between =
      (group.before ++ '(' :: group.inside) ++ ')' :: between := by
    simp [Parentheses.opening]
  rw [hsplit, Text.trimEnd_append_cons _ _ (by decide)]
  simp [Parentheses.cutAt, Parentheses.line]

variable (hopens : OpensBodyBehind group.line (group.opening ++ between))

include hopens

theorem cutAt_line_prefix : (group.cutAt between).line <+: group.line := by
  obtain ⟨⟨rest, hline⟩, -⟩ := hopens
  obtain ⟨blanks, -, hfront⟩ := Text.exists_eq_trimEnd_append (group.opening ++ between)
  rw [cutAt_line, hline]
  refine ⟨blanks ++ '{' :: rest, ?_⟩
  conv_rhs => rw [hfront]
  rw [List.append_assoc]

theorem isConstructorSignature_cutAt :
    isConstructorSignature (group.cutAt between).line = true := by
  obtain ⟨-, head, more, hfront, -⟩ := hopens
  rw [cutAt_line, isConstructorSignature_trimEnd, isConstructorSignature_iff, hfront]
  exact ⟨head, more, rfl⟩

/-- The first brace behind the signature's words is cut off. -/
theorem inlineBody?_cutAt : (inlineBody? (group.cutAt between).line).isSome = false := by
  rw [Bool.eq_false_iff, Ne, inlineBody?_isSome_iff_braces]
  rintro ⟨-, left, right, hline, earlier, later, rfl⟩
  obtain ⟨rest, hrest⟩ := cutAt_line_prefix hopens
  obtain ⟨-, head, more, hfront, hbrace, hfirst⟩ := hopens
  have hhead : head.length ≤ earlier.length := by
    refine hfirst earlier (later ++ '{' :: right ++ rest) ?_
    rw [← hrest, hline]
    simp
  -- so the brace stands behind the first signature, where there is none
  obtain ⟨blanks, -, hblanks⟩ := Text.exists_eq_trimEnd_append (group.opening ++ between)
  rw [← cutAt_line, hline, hfront] at hblanks
  have hsplit : head ++ constructorMark ++ more =
      (earlier ++ constructorMark ++ later) ++ '{' :: (right ++ blanks) := by
    rw [hblanks]
    simp
  refine hbrace ?_
  rcases List.append_eq_append_iff.mp hsplit with ⟨gone, -, hmore⟩ | ⟨gone, hleft, hmore⟩
  · rw [hmore]
    simp
  · have hlength := congrArg List.length hleft
    simp only [List.length_append] at hlength
    obtain rfl : gone = [] := List.eq_nil_of_length_eq_zero (by omega)
    rw [List.nil_append] at hmore
    rw [← hmore]
    exact List.mem_cons_self

end CutAt

end Line

/-! ### The lines of an opened body -/

namespace Plan

theorem isInner_brace {indent : Text} (hblank : indent.allBlank = true) :
    isInner (indent ++ ['{']) = true := by
  have hletter := Text.notMem_of_allBlank hblank (c := 'f') (by decide)
  exact isInner_iff.mpr ⟨Line.isConstructorSignature_of_notMem 'f' (by decide) (by simp [hletter]),
    Line.isNestedClose_concat indent (by decide) (by decide)⟩

theorem not_isConstructorSignature_closing {indent : Text} (hblank : indent.allBlank = true) :
    Line.isConstructorSignature (indent ++ ['}']) = false := by
  have hletter := Text.notMem_of_allBlank hblank (c := 'f') (by decide)
  exact Line.isConstructorSignature_of_notMem 'f' (by decide) (by simp [hletter])

/-- The emitted brace is taken for a closing line exactly if the signature is indented. -/
theorem isNestedClose_leadingBlanks_iff (line : Text) :
    Line.isNestedClose (line.leadingBlanks ++ ['}']) = true ↔
      line.head? = some ' ' ∨ line.head? = some '\t' := by
  have hhead : ∀ c, Text.isBlank c = true →
      ((line.leadingBlanks ++ ['}']).head? = some c ↔ line.head? = some c) := by
    intro c hc
    rw [List.head?_append, Text.head?_leadingBlanks]
    cases line.head? with
    | none => simpa using fun h : '}' = c => absurd hc (h ▸ by decide)
    | some d =>
        by_cases hd : Text.isBlank d = true
        · simp [Option.filter_some, hd]
        · have hne : d ≠ c := fun h => hd (h ▸ hc)
          simpa [Option.filter_some, hd, hne] using fun h : '}' = c => absurd hc (h ▸ by decide)
  rw [Line.isNestedClose, Text.closesWith_concat _ (by decide), Bool.and_eq_true, Bool.or_eq_true,
    beq_iff_eq, beq_iff_eq, hhead ' ' (by decide), hhead '\t' (by decide)]
  simp

section OpenedBody

variable {settings : Settings} {name line body : Text} (hindent : settings.indentsByBlanks = true)
  (hname : isPropertyName name = true) (hline : line.head? = some ' ' ∨ line.head? = some '\t')

include hindent hline

theorem isInner_bodyLine_iff :
    isInner (line.leadingBlanks ++ settings.indent ++ body.trim) = true ↔
      Text.closesWith ['}'] body = false ∧ Line.isConstructorSignature body = false := by
  have hblank : (line.leadingBlanks ++ settings.indent).allBlank = true := by
    rw [Text.allBlank, List.all_append, Bool.and_eq_true]
    exact ⟨Text.allBlank_leadingBlanks line, Settings.allBlank_indent hindent⟩
  have hhead : (line.leadingBlanks ++ settings.indent ++ body.trim).head? = line.head? := by
    rw [List.append_assoc, List.head?_append, Text.head?_leadingBlanks]
    rcases hline with h | h <;> rw [h] <;> rfl
  have hindented : (line.head? == some ' ' || line.head? == some '\t') = true := by
    rcases hline with h | h <;> rw [h] <;> rfl
  rw [isInner_iff, Line.isConstructorSignature_blank_append _ hblank,
    Line.isConstructorSignature_trim, Line.isNestedClose, hhead, hindented, Bool.true_and,
    Text.closesWith_blank_append _ (by decide) hblank, Text.closesWith_trim _ (by decide), and_comm]

include hname

/-- None of the lines above the emitted brace ends the constructor, and none holds a signature,
exactly if the body does neither. -/
theorem forall_isInner_openedBody_iff :
    (∀ inner ∈ openedBody settings name line.leadingBlanks body, isInner inner = true) ↔
      Text.closesWith ['}'] body = false ∧ Line.isConstructorSignature body = false := by
  have hblank := Text.allBlank_leadingBlanks line
  have hassignment := isInner_assignmentLine hblank hindent hname
  rw [← isInner_bodyLine_iff hindent hline]
  by_cases hempty : body.trim = []
  · have hnothing : Text.closesWith ['}'] body = false ∧
        Line.isConstructorSignature body = false := by
      rw [← Text.closesWith_trim _ (by decide), ← Line.isConstructorSignature_trim, hempty]
      decide
    refine iff_of_true ?_ ((isInner_bodyLine_iff hindent hline).mpr hnothing)
    simp [openedBody, hempty, isInner_brace hblank, hassignment]
  · simp [openedBody, hempty, isInner_brace hblank, hassignment]

end OpenedBody

end Plan

/-! ### The block -/

/-- The block that a constructor on one line is opened up into. -/
def Block.opened (settings : Settings) (name : Text) (above docblock : List Text)
    (group : Line.Parentheses) (between body : Text) (below : List Text) : Block where
  above := declaredAbove settings name above
  docblock := docblock.map Text.dropReturn
  group := withParameter (group.cutAt between) name
  body := Plan.openedBody settings name group.line.leadingBlanks body
  closing := group.line.leadingBlanks ++ ['}']
  below := Block.gapLines below ++ below

section Opened

variable {settings : Settings} {name between body : Text} {above docblock below : List Text}
  {group : Line.Parentheses} (hindent : settings.indentsByBlanks = true)
  (hname : isPropertyName name = true) (hstays : staysOpen false (above ++ docblock) = true)
  (hopens : Line.OpensBodyBehind group.line (group.opening ++ between))

include hindent hname hstays hopens

/-- The parts of the block are taken for what they are exactly if the old line allows it. -/
theorem reads_opened_iff :
    (Block.opened settings name above docblock group between body below).Reads ↔
      Line.Reopens group.line body := by
  constructor
  · intro h
    have hindented := (Plan.isNestedClose_leadingBlanks_iff group.line).mp h.closes
    obtain ⟨hbrace, hsignature⟩ :=
      (Plan.forall_isInner_openedBody_iff hindent hname hindented).mp h.body
    exact ⟨hindented, hbrace, hsignature⟩
  · rintro ⟨hindented, hbrace, hsignature⟩
    have hblank := Text.allBlank_leadingBlanks group.line
    constructor
    · exact staysOpen_declared hindent hname hstays
    · exact (isConstructorSignature_withParameter hname).trans
        (Line.isConstructorSignature_cutAt hopens)
    · rw [Bool.eq_false_iff]
      intro hinline
      have hold := inlineBody?_of_withParameter hname hinline
      rw [Line.inlineBody?_cutAt hopens] at hold
      contradiction
    · exact (Plan.forall_isInner_openedBody_iff hindent hname hindented).mpr ⟨hbrace, hsignature⟩
    · exact Plan.not_isConstructorSignature_closing hblank
    · exact (Plan.isNestedClose_leadingBlanks_iff group.line).mpr hindented

/-- A text with the lines of the block has the block, docblock included. -/
theorem hasBlock_opened {doc doc' : Document} {range : Range} {blanks : Text}
    (hlines : doc.lines = above ++ docblock ++ group.line :: below)
    (hlines' : doc'.lines =
      (Block.opened settings name above docblock group between body below).lines)
    (hparentheses : '(' ∉ group.before ∧ ')' ∉ group.inside)
    (hafter : group.after = between ++ '{' :: (body ++ '}' :: blanks))
    (hblank : blanks.allBlank = true)
    (hrange : doc.view.constructorRange? (above ++ docblock).length
      (lowerBound (above ++ docblock) group.line) = some range)
    (hstart : range.start.line = above.length) (hreopens : Line.Reopens group.line body) :
    doc'.HasBlock (Block.opened settings name above docblock group between body below) := by
  have hheader : Line.isClassHeader (withParameter (group.cutAt between) name).line = true →
      Line.isClassHeader group.line = true ∧ (Text.closesWith ['{'] group.line = true →
        Text.closesWith ['{'] (withParameter (group.cutAt between) name).line = true) := by
    intro hnew
    rw [isClassHeader_withParameter hname, Line.isClassHeader_iff] at hnew
    obtain ⟨c, hword, hmark⟩ := hnew
    refine ⟨Line.isClassHeader_iff.mpr
      ⟨c, hword, hmark.trans (Line.cutAt_line_prefix hopens).isInfix⟩, fun hcloses => ?_⟩
    -- the old line ends with the closing brace of its body
    have hsplit : group.line = (group.before ++ '(' :: (group.inside ++ ')' ::
        (between ++ '{' :: body))) ++ '}' :: blanks := by
      simp [Line.Parentheses.line, hafter]
    rw [hsplit, Text.closesWith_behind _ _ (by decide) (by decide) (by decide)] at hcloses
    have hnone := Text.closesWith_blank_append (c := '{') [] (by decide) hblank
    rw [List.append_nil, hcloses] at hnone
    contradiction
  refine hasBlock_iff.mpr ⟨hlines', ⟨hparentheses.1, ?_⟩,
    (reads_opened_iff hindent hname hstays hopens).mpr hreopens,
    exists_range_declared hindent hname hlines hlines' hheader hrange hstart⟩
  exact notMem_inside_withParameter hname hparentheses.2 (by decide) (by decide)

end Opened

/-! ### The text after the edit -/

namespace Text

theorem ne_return_of_not_blank {c : Char} (hc : isBlank c = false) : c ≠ '\r' := by
  rintro rfl
  exact absurd hc (by decide)

theorem dropReturn_trimEnd (text : Text) : dropReturn (trimEnd text) = trimEnd text := by
  rcases List.eq_nil_or_concat' (trimEnd text) with hnil | ⟨front, c, hconcat⟩
  · rw [hnil, dropReturn_nil]
  · have hc := isBlank_of_trimEnd_eq_concat hconcat
    rw [hconcat, dropReturn_of_ne _ (ne_return_of_not_blank hc)]

theorem dropReturn_append_trim {body : Text} (text : Text) (h : trim body ≠ []) :
    dropReturn (text ++ trim body) = text ++ trim body := by
  obtain ⟨front, c, hc, htrim⟩ := exists_trim_eq_concat h
  rw [htrim, ← List.append_assoc, dropReturn_of_ne _ (ne_return_of_not_blank hc)]

end Text

namespace Plan

theorem dropReturn_openedBody (settings : Settings) (name indent body : Text) :
    (openedBody settings name indent body).map Text.dropReturn =
      openedBody settings name indent body := by
  have hbrace := Text.dropReturn_of_ne (c := '{') indent (by decide)
  by_cases hempty : body.trim = []
  · simp [openedBody, hempty, hbrace, dropReturn_assignmentLine]
  · have hbody := Text.dropReturn_append_trim (indent ++ settings.indent) hempty
    simp only [List.append_assoc] at hbody
    simp [openedBody, hempty, hbrace, hbody, dropReturn_assignmentLine]

theorem dropReturn_cutAt (group : Line.Parentheses) (between name : Text) :
    Text.dropReturn (withParameter (group.cutAt between) name).line =
      (withParameter (group.cutAt between) name).line := by
  rw [dropReturn_line]
  exact congrArg (fun after => ({ withParameter group name with after } : Line.Parentheses).line)
    (Text.dropReturn_trimEnd between)

theorem newline_notMem_openedBody {settings : Settings} {name indent body : Text}
    (hindent : settings.indentsByBlanks = true) (hname : isPropertyName name = true)
    (hnewline : '\n' ∉ indent) (hbody : '\n' ∉ body) :
    ∀ line ∈ openedBody settings name indent body, '\n' ∉ line := by
  have htrim : '\n' ∉ body.trim := fun h => hbody ((Text.trim_infix body).subset h)
  have hassignment := newline_notMem_assignmentLine hindent hname hnewline
  have hsettings := newline_notMem_indent hindent
  by_cases hempty : body.trim = [] <;>
    simp [openedBody, hempty, hnewline, hassignment, hsettings, htrim]

/-! ### One insertion -/

variable {content : Text} {settings : Settings} {name : Text} {plan : Plan} {ctor : Constructor}
  {number : Nat}

theorem eq_line_of_inline (hctor : (scan (Document.ofText content).view).constructor? = some ctor)
    (hclosing : ctor.closingLine = some number)
    (hnumber : IsParameterLine (Document.ofText content) ctor number) : number = ctor.line :=
  Nat.le_antisymm (isParameterLine_le hctor hnumber).2
    ((order_of_scan hctor).2.2 number hclosing).1

/-- The lines in front of the signature, cut where the constructor starts. -/
theorem front_of_scan {doc : Document} {line : Text}
    (hctor : (scan doc.view).constructor? = some ctor)
    (hline : doc.lineText? ctor.line = some line) {above docblock : List Text}
    (habove : above = doc.lines.take ctor.range.start.line)
    (hdocblock : docblock = doc.stretch ctor.range.start.line ctor.line) :
    doc.lines = above ++ docblock ++ line :: doc.lines.drop (ctor.line + 1) ∧
      ctor.range.start.line = above.length ∧ ctor.line = (above ++ docblock).length ∧
      staysOpen false (above ++ docblock) = true ∧
      doc.view.constructorRange? (above ++ docblock).length
        (lowerBound (above ++ docblock) line) = some ctor.range := by
  obtain ⟨front, signature, below, hlocated⟩ := scan_constructor?_eq_some_iff.mp hctor
  have hstart := (range_of_scan hctor).2.1
  have hfront : above ++ docblock = front := by
    rw [habove, hdocblock, Document.stretch, ← List.take_add, Nat.add_sub_cancel' hstart,
      hlocated.line, hlocated.lines, List.take_left]
  obtain rfl : line = signature := by
    rw [hlocated.line, Document.lineText?_around hlocated.lines] at hline
    exact (Option.some.inj hline).symm
  have hbelow : doc.lines.drop (ctor.line + 1) = below := by
    rw [hlocated.line, hlocated.lines, ← List.drop_drop, List.drop_left]
    rfl
  rw [hfront, hbelow]
  refine ⟨hlocated.lines, ?_, hlocated.line, hlocated.staysOpen, hlocated.range⟩
  rw [habove, List.length_take, hlocated.lines, Nat.min_eq_left]
  rw [List.length_append, ← hlocated.line]
  omega

theorem withParameter_cutAt_line (group : Line.Parentheses) (between name : Text) :
    (withParameter (group.cutAt between) name).line =
      (withParameter group name).opening ++ between.trimEnd :=
  (Line.Parentheses.opening_append_after _).symm

/-- The lines that are written in front of the emitted brace. -/
def openedFront (settings : Settings) (name : Text) (docblock : List Text)
    (group : Line.Parentheses) (between body : Text) : List Text :=
  [declarationLine settings name, []] ++ docblock ++
    (withParameter (group.cutAt between) name).line ::
      openedBody settings name group.line.leadingBlanks body

/-- From the parentheses on, the opened constructor is the lines of its body behind what is left of
its signature. -/
theorem breaksAfter_openedFront (settings : Settings) (name : Text) (docblock : List Text)
    (group : Line.Parentheses) (between body : Text) :
    Text.breaksAfter (openedFront settings name docblock group between body) ++
        (group.line.leadingBlanks ++ ['}']).trimEnd =
      Text.breaksAfter (declarationLine settings name :: [] :: docblock) ++
        (withParameter group name).opening ++ (between.trimEnd ++
          Text.breaksBefore (openedLines settings name group.line.leadingBlanks body)) := by
  rw [openedFront, Text.breaksAfter_append, List.append_assoc, List.append_assoc,
    ← List.append_assoc (withParameter group name).opening, ← withParameter_cutAt_line,
    openedLines, Text.append_breaksBefore_cons, Text.trimEnd_concat _ (by decide),
    Text.breaksBefore_nil, List.append_nil]
  rfl

theorem opened_lines_eq (settings : Settings) (name : Text) (above docblock : List Text)
    (group : Line.Parentheses) (between body : Text) (below : List Text) :
    (Block.opened settings name above docblock group between body below).lines =
      above ++ (openedFront settings name docblock group between body).map Text.dropReturn ++
        (group.line.leadingBlanks ++ ['}']).trimEnd :: (Block.gapLines below ++ below) := by
  rw [Text.trimEnd_concat _ (by decide)]
  simp [Block.lines, Block.front, Block.opened, openedFront, declaredAbove,
    dropReturn_declarationLine, dropReturn_cutAt, dropReturn_openedBody]

theorem newline_notMem_openedFront {docblock : List Text} {group : Line.Parentheses}
    {between body blanks : Text} (hindent : settings.indentsByBlanks = true)
    (hname : isPropertyName name = true) (hdocblock : ∀ line ∈ docblock, '\n' ∉ line)
    (hgroup : '\n' ∉ group.line)
    (hafter : group.after = between ++ '{' :: (body ++ '}' :: blanks))
    (hopens : Line.OpensBodyBehind group.line (group.opening ++ between)) :
    ∀ line ∈ openedFront settings name docblock group between body, '\n' ∉ line := by
  have hcut : '\n' ∉ (group.cutAt between).line :=
    fun h => hgroup ((Line.cutAt_line_prefix hopens).subset h)
  have hleading : '\n' ∉ group.line.leadingBlanks := fun h => hgroup (List.takeWhile_subset _ h)
  have hbody : '\n' ∉ body := by
    intro h
    refine hgroup ?_
    rw [← group.opening_append_after, hafter]
    simp [h]
  have hinner := newline_notMem_openedBody hindent hname hleading hbody
  simp only [openedFront, List.forall_mem_append, List.forall_mem_cons, List.not_mem_nil,
    false_imp_iff, implies_true, and_true]
  exact ⟨⟨⟨newline_notMem_declarationLine hindent hname, not_false⟩, hdocblock⟩,
    newline_notMem_withParameter hname hcut, hinner⟩

/-- **The text after the edit has the lines of the block.** The signature line is cut at its first
parentheses and at the braces of its body. -/
theorem exists_lines_of_inline (hindent : settings.indentsByBlanks = true)
    (hplan : ofText content settings name = .ok plan)
    (hctor : (scan (Document.ofText content).view).constructor? = some ctor)
    (hclosing : ctor.closingLine = some number)
    (hnumber : IsParameterLine (Document.ofText content) ctor number) :
    ∃ (group : Line.Parentheses) (between body blanks : Text),
      (Document.ofText content).lineText? number = some group.line ∧
      ('(' ∉ group.before ∧ ')' ∉ group.inside) ∧
      group.after = between ++ '{' :: (body ++ '}' :: blanks) ∧ blanks.allBlank = true ∧
      Line.OpensBodyBehind group.line (group.opening ++ between) ∧
      Line.inlineBody? group.line = some ⟨group.opening ++ between, body⟩ ∧
      (Document.ofText (plan.edit.apply content)).lines =
        (Block.opened settings name ((Document.ofText content).lines.take ctor.range.start.line)
          ((Document.ofText content).stretch ctor.range.start.line number) group between body
          ((Document.ofText content).lines.drop (number + 1))).lines := by
  have hname := isPropertyName_of_ofText hplan
  obtain ⟨closing, sig, group, snippet, hclosing', hsig, hgroup, hbody, happly⟩ :=
    exists_apply_of_merge hplan hctor
  obtain ⟨hnumber', htext, -⟩ := signature_of_scan hctor hsig
  obtain rfl : number = closing := Option.some.inj (hclosing.symm.trans hclosing')
  obtain rfl : number = sig.line := isParameterLine_unique hnumber hnumber'
  have hnewline := Text.newline_notMem_of_lineText? htext
  obtain ⟨hline, hparentheses⟩ := (Line.parentheses?_eq_some_iff hnewline).mp hgroup
  change sig.text = group.line at hline
  rw [if_pos rfl] at hbody
  obtain ⟨inline, hinline, hstop, -⟩ := inlineBlock_eq_ok_iff.mp hbody
  have hplain := plain_inlineBlock hinline hbody
  rw [hline] at htext hinline hplain hnewline
  obtain ⟨blanks, hblank, hhead, hafter, hopens⟩ :=
    Line.exists_after_eq_of_inlineBody? hinline hstop
  rw [hhead] at hopens
  refine ⟨group, inline.head.drop group.stop, inline.body, blanks, htext, hparentheses, hafter,
    hblank, hopens, by rw [← hhead, hinline], ?_⟩
  have hdocblock : ∀ line ∈ (Document.ofText content).stretch ctor.range.start.line sig.line,
      '\n' ∉ line := fun line hmem =>
    Text.newline_notMem_of_mem_lines (List.mem_of_mem_drop (List.mem_of_mem_take hmem))
  have hbrace : '\n' ∉ group.line.leadingBlanks ++ ['}'] := by
    have hleading : '\n' ∉ group.line.leadingBlanks :=
      fun h => hnewline (List.takeWhile_subset _ h)
    simp [hleading]
  have hends : Text.closesWith ['}'] (group.line.leadingBlanks ++ ['}']) = true := by
    rw [Text.closesWith_concat _ (by decide), beq_self_eq_true]
  have hlines := lines_of_replacement ctor.range.start.line htext hends hbrace
    (newline_notMem_openedFront hindent hname hdocblock hnewline hafter hopens)
  rw [← opened_lines_eq, breaksAfter_openedFront] at hlines
  rw [← hlines, happly, hplain, mergedUpTo, mergedAbove]
  simp only [List.append_assoc]

/-- **An opened constructor is found again** with its signature and the emitted brace as its closing
line exactly if the signature is indented by a space or a tab and its body neither ends with a brace
nor holds a signature. Every further insertion then succeeds and extends the block by an assignment
at the end of its body. -/
theorem opened_found_again_iff (hindent : settings.indentsByBlanks = true)
    (hplan : ofText content settings name = .ok plan)
    (hctor : (scan (Document.ofText content).view).constructor? = some ctor)
    (hclosing : ctor.closingLine = some number)
    (hnumber : IsParameterLine (Document.ofText content) ctor number) :
    ∃ (group : Line.Parentheses) (between body blanks : Text) (block : Block),
      (Document.ofText content).lineText? number = some group.line ∧
      '(' ∉ group.before ∧ ')' ∉ group.inside ∧
      group.after = between ++ '{' :: (body ++ '}' :: blanks) ∧ blanks.allBlank = true ∧
      Line.OpensBodyBehind group.line (group.opening ++ between) ∧
      Line.inlineBody? group.line = some ⟨group.opening ++ between, body⟩ ∧
      block = .opened settings name
        ((Document.ofText content).lines.take ctor.range.start.line)
        ((Document.ofText content).stretch ctor.range.start.line number) group between body
        ((Document.ofText content).lines.drop (number + 1)) ∧
      (Document.ofText (plan.edit.apply content)).lines = block.lines ∧
      block.front.length = number + 2 ∧
      ((∃ found,
          (scan (Document.ofText (plan.edit.apply content)).view).constructor? = some found ∧
          found.line = block.front.length ∧
          found.closingLine = some (block.front.length + 1 + block.body.length)) ↔
        Line.Reopens group.line body) ∧
      (Line.Reopens group.line body →
        (Document.ofText (plan.edit.apply content)).HasBlock block ∧
        ∀ settings' name', settings'.indentsByBlanks = true → isPropertyName name' = true →
          ∃ plan', ofText (plan.edit.apply content) settings' name' = .ok plan' ∧
            (Document.ofText (plan'.edit.apply (plan.edit.apply content))).HasBlock
              (block.extend settings' name')) := by
  have hname := isPropertyName_of_ofText hplan
  obtain ⟨group, between, body, blanks, hline, hparentheses, hafter, hblank, hopens, hinline,
    hlines⟩ := exists_lines_of_inline hindent hplan hctor hclosing hnumber
  obtain rfl := eq_line_of_inline hctor hclosing hnumber
  generalize habove : (Document.ofText content).lines.take ctor.range.start.line = above at hlines ⊢
  generalize hdocblock : (Document.ofText content).stretch ctor.range.start.line ctor.line =
    docblock at hlines ⊢
  obtain ⟨hold, hstart, hfront, hstays, hrange⟩ :=
    front_of_scan hctor hline habove.symm hdocblock.symm
  have hreads : (Block.opened settings name above docblock group between body
      ((Document.ofText content).lines.drop (ctor.line + 1))).Reads ↔
      Line.Reopens group.line body := reads_opened_iff hindent hname hstays hopens
  have hblock := hasBlock_opened hindent hname hstays hopens hold hlines hparentheses hafter hblank
    hrange hstart
  refine ⟨group, between, body, blanks, _, hline, hparentheses.1, hparentheses.2, hafter, hblank,
    hopens, hinline, rfl, hlines, ?_, ⟨?_, ?_⟩, ?_⟩
  · rw [hfront]
    simp [Block.front, Block.opened, declaredAbove]
    omega
  · rintro ⟨found, hfound, hfoundLine, hfoundClosing⟩
    exact hreads.mp (reads_of_scan hlines hfound hfoundLine hfoundClosing).1
  · intro hreopens
    obtain ⟨found, hfound, -, hfoundLine, hfoundClosing⟩ := (hblock hreopens).found
    exact ⟨found, hfound, hfoundLine, hfoundClosing⟩
  · intro hreopens
    refine ⟨hblock hreopens, fun settings' name' hindent' hname' => ?_⟩
    refine exists_plan_of_hasBlock (hblock hreopens) ?_ hindent' hname'
    -- a signature in the docblock would take the next parameter
    have hfree := (isParameterLine_eq_line_iff hctor hnumber).mp rfl
    rw [hdocblock] at hfree
    intro line hmem
    obtain ⟨old, hold, rfl⟩ := List.mem_map.mp hmem
    rw [Line.isConstructorSignature_dropReturn]
    exact hfree old hold

theorem documentedInline_found_again :
    ∃ (plan : Plan) (block : Block), ofText documentedInline {} ['b'] = .ok plan ∧
      block.front.length = 4 ∧
      (Document.ofText (plan.edit.apply documentedInline)).HasBlock block ∧
      ∃ plan', ofText (plan.edit.apply documentedInline) {} ['c'] = .ok plan' ∧
        (Document.ofText (plan'.edit.apply (plan.edit.apply documentedInline))).HasBlock
          (block.extend {} ['c']) := by
  have hrun : (ofText documentedInline {} ['b']).toOption.isSome = true ∧
      (scan (Document.ofText documentedInline).view).constructor? =
        some ⟨2, ⟨⟨1, 0⟩, ⟨1, 10⟩⟩, some 2⟩ ∧
      (∀ line ∈ (Document.ofText documentedInline).stretch 1 2,
        Line.isConstructorSignature line = false) ∧
      ((Document.ofText documentedInline).lineText? 2).all (fun line => line.head? == some ' ') =
        true ∧
      (((Document.ofText documentedInline).lineText? 2).bind Line.inlineBody?).all
        (fun inline => !Text.closesWith ['}'] inline.body &&
          !Line.isConstructorSignature inline.body) = true := by decide +kernel
  obtain ⟨hsome, hctor, hdocblock, hhead, hbody⟩ := hrun
  obtain ⟨plan, hplan⟩ := Option.isSome_iff_exists.mp hsome
  rw [toOption_eq_some_iff] at hplan
  obtain ⟨sig, hsig, -⟩ := exists_signature_of_scan hctor
  have hnumber := (signature_of_scan hctor hsig).1
  rw [(isParameterLine_eq_line_iff hctor hnumber).mpr hdocblock] at hnumber
  obtain ⟨group, between, body, blanks, block, hline, -, -, -, -, -, hinline, -, -, hfront, -,
    hagain⟩ := opened_found_again_iff (by decide) hplan hctor rfl hnumber
  have hreopens : Line.Reopens group.line body := by
    rw [hline, Option.bind_some, hinline] at hbody
    rw [hline] at hhead
    simp only [Option.all_some, Bool.and_eq_true, Bool.not_eq_true', beq_iff_eq] at hbody hhead
    exact ⟨Or.inl hhead, hbody.1, hbody.2⟩
  obtain ⟨hblock, hnext⟩ := hagain hreopens
  exact ⟨plan, block, hplan, hfront, hblock, hnext {} ['c'] (by decide) (by decide +kernel)⟩

/-- A constructor on one line that is not indented. -/
def unindented : Text :=
  "class A \x7b\nfunction __construct() \x7b\x7d\n\x7d".toList

/-- The emitted brace is not taken for a closing line, and the next insertion is refused. -/
theorem unindented_not_found_again :
    (scan (Document.ofText unindented).view).constructor? =
      some ⟨1, ⟨⟨1, 0⟩, ⟨1, 25⟩⟩, some 1⟩ ∧
    ∃ text, (ofText unindented {} ['b']).toOption.map (fun plan => plan.edit.apply unindented) =
        some text ∧
      text = ("class A \x7b\n\tprivate $b;\n\nfunction __construct($b)\n\x7b\n" ++
        "\t$this->b = $b;\n\x7d\n\x7d").toList ∧
      (scan (Document.ofText text).view).constructor? =
        some ⟨3, ⟨⟨3, 0⟩, ⟨3, 24⟩⟩, none⟩ ∧
      ofText text {} ['c'] = .error (.unterminatedConstructor 3) := by
  refine ⟨by decide +kernel, _, ?_, rfl, by decide +kernel, by decide +kernel⟩
  decide +kernel

end Plan

end PropertyInsertion

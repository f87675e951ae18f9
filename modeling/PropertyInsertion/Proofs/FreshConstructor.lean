import PropertyInsertion.Proofs.Blocks

/-!
# A class gets its constructor

The plan for a class without a constructor inserts one block of lines and changes nothing else. A
pass over the new text finds the new property last, and below it the new constructor and no other.
-/

namespace PropertyInsertion.Plan

open Code Declarations

/-! ### The inserted text -/

/-- An empty line, if other members stand above. -/
def leadLines (decls : Declarations) : List Text :=
  if decls.lastPropertyLine.isSome || decls.traitUseLine.isSome then [[]] else []

theorem leadLines_eq_replicate (decls : Declarations) :
    leadLines decls = List.replicate (leadLines decls).length [] := by
  unfold leadLines
  split <;> rfl

theorem eq_nil_of_mem_leadLines {decls : Declarations} {line : Text} (h : line ∈ leadLines decls) :
    line = [] := by
  rw [leadLines_eq_replicate] at h
  exact List.eq_of_mem_replicate h

/-- The inserted lines down to the assignment. -/
def freshLines (decls : Declarations) (settings : Settings) (name : Text) : List Text :=
  leadLines decls ++ [declarationLine settings name, [],
    (withParameter (freshGroup settings) name).line, settings.indent ++ ['{'],
    assignmentLine settings.indent settings name]

theorem plain_freshSnippet (decls : Declarations) (settings : Settings) (name here next : Text) :
    (freshSnippet decls settings name here next).flatMap Piece.plain =
      Text.breaksAfter (freshLines decls settings name) ++
        (settings.indent ++ '}' :: padding here next) := by
  rw [freshSnippet, freshLines, leadLines]
  simp only [List.flatMap_append, plain_declaration, plain_freshConstructor]
  split <;> simp [Piece.plain, newline]

theorem apply_fresh_eq {content : Text} {settings : Settings} {name : Text} {plan : Plan}
    (hnone : (scan (Document.ofText content).view).constructor? = none)
    (hplan : ofText content settings name = .ok plan) :
    ∃ number here, plan.target = .insert ⟨number, 0⟩ ∧
      (Document.ofText content).lineText? number = some here ∧
      plan.edit.apply content =
        content.beforeLine number ++
          (Text.breaksAfter (freshLines (scan (Document.ofText content).view) settings name) ++
            (settings.indent ++ '}' ::
              padding here (((Document.ofText content).lineText? (number + 1)).getD []))) ++
          content.fromLine number := by
  obtain ⟨-, ⟨-, hfresh⟩ | ⟨ctor, hctor, -⟩⟩ := ofDeclarations_eq_ok_iff.mp hplan
  · obtain ⟨number, here, -, hhere, rfl⟩ := fresh_eq_ok_iff.mp hfresh
    rw [Document.view_lineText?] at hhere
    refine ⟨number, here, rfl, hhere, ?_⟩
    have hnumber := Document.lineText?_isSome_iff.mp ⟨here, hhere⟩
    rw [edit_eq hplan, plain_freshSnippet, Document.view_lineText?,
      Document.lineBelow_view (Nat.le_of_lt hnumber)]
    exact Edit.apply_insert _ hnumber
  · rw [hnone] at hctor
    contradiction

/-! ### The lines of the new text -/

/-- The closing brace takes the place of a blank line in front of the end of the class, stands
directly above a blank line or the end of a block, or gets an empty line below it. -/
theorem padding_cases (here next : Text) :
    (padding here next = [] ∧ here.allBlank = true ∧ Text.closesWith ['}'] next = true) ∨
      (padding here next = newline ∧
        (here.allBlank = true ∨ Text.closesWith ['}'] here = true)) ∨
      padding here next = blankLine := by
  unfold padding
  by_cases hblank : here.allBlank = true
  · by_cases hnext : Text.closesWith ['}'] next = true
    · exact Or.inl ⟨by rw [if_pos hblank, if_pos hnext], hblank, hnext⟩
    · exact Or.inr (Or.inl ⟨by rw [if_pos hblank, if_neg hnext], Or.inl hblank⟩)
  · by_cases hend : Text.closesWith ['}'] here = true
    · exact Or.inr (Or.inl ⟨by rw [if_neg hblank, if_pos hend], Or.inr hend⟩)
    · exact Or.inr (Or.inr (by rw [if_neg hblank, if_neg hend]))

theorem exists_closing_lines {settings : Settings} {piece : Text} {below : List Text}
    (hindent : settings.indentsByBlanks = true) (hpieces : ∀ line ∈ piece :: below, '\n' ∉ line) :
    ∃ (blanks next : Text) (rest : List Text), blanks.allBlank = true ∧
      (Text.linePieces (settings.indent ++ '}' ::
          padding (Text.dropReturn piece) ((below.map Text.dropReturn).head?.getD []) ++
        (piece ++ Text.breaksBefore below))).map Text.dropReturn =
          (settings.indent ++ '}' :: blanks) :: next :: rest ∧
      (next.allBlank = true ∨ Text.closesWith ['}'] next = true) ∧
      ∀ line ∈ next :: rest, line = [] ∨ line ∈ (piece :: below).map Text.dropReturn := by
  have hbreak := newline_notMem_indent hindent
  have hpiece := hpieces piece List.mem_cons_self
  have hbelow : ∀ line ∈ below, '\n' ∉ line :=
    fun line hline => hpieces line (List.mem_cons_of_mem piece hline)
  -- the brace on a line of its own, with `extra` lines behind it
  have hown : ∀ extra : List Text, (∀ line ∈ extra, '\n' ∉ line) →
      (Text.linePieces (Text.breaksAfter ((settings.indent ++ ['}']) :: extra) ++
        (piece ++ Text.breaksBefore below))).map Text.dropReturn =
          (settings.indent ++ ['}']) :: (extra ++ piece :: below).map Text.dropReturn := by
    intro extra hextra
    rw [Text.linePieces_breaksAfter_append, Text.linePieces_append_breaksBefore hpiece hbelow,
      List.cons_append, List.map_cons, Text.dropReturn_of_ne _ (by decide)]
    intro line hline
    rcases List.mem_cons.mp hline with rfl | hline
    · simpa using hbreak
    · exact hextra line hline
  rcases padding_cases (Text.dropReturn piece) ((below.map Text.dropReturn).head?.getD []) with
    ⟨hpadding, hblank, hnext⟩ | ⟨hpadding, hhere⟩ | hpadding
  · cases below with
    | nil => exact absurd hnext (by decide)
    | cons next below =>
        refine ⟨Text.dropReturn piece, Text.dropReturn next, below.map Text.dropReturn, hblank, ?_,
          Or.inr (by simpa using hnext), ?_⟩
        · have hjoined : '\n' ∉ settings.indent ++ '}' :: piece := by simp [hbreak, hpiece]
          have hsplit := Text.linePieces_append_breaksBefore hjoined hbelow
          simp only [hpadding, List.append_assoc, List.cons_append, List.nil_append] at hsplit ⊢
          rw [hsplit, List.map_cons, Text.dropReturn_append_cons _ _ (by decide), List.map_cons]
        · exact fun line hline => Or.inr (List.mem_cons_of_mem _ hline)
  · refine ⟨[], Text.dropReturn piece, below.map Text.dropReturn, rfl, ?_, hhere,
      fun line hline => Or.inr hline⟩
    have hlines := hown [] (by simp)
    simp only [hpadding, newline, Text.breaksAfter_cons, Text.breaksAfter_nil, List.append_assoc,
      List.cons_append, List.nil_append] at hlines ⊢
    rw [hlines, List.map_cons]
  · refine ⟨[], [], (piece :: below).map Text.dropReturn, rfl, ?_, Or.inl rfl,
      fun line hline => List.mem_cons.mp hline⟩
    have hlines := hown [[]] (by simp)
    simp only [hpadding, blankLine, Text.breaksAfter_cons, Text.breaksAfter_nil, List.append_assoc,
      List.cons_append, List.nil_append] at hlines ⊢
    rw [hlines, List.map_cons, Text.dropReturn_nil]

section New

variable {content : Text} {settings : Settings} {name : Text} {plan : Plan}

theorem newline_notMem_freshLines (decls : Declarations)
    (hindent : settings.indentsByBlanks = true) (hname : isPropertyName name = true) :
    ∀ line ∈ freshLines decls settings name, '\n' ∉ line := by
  have hlead : ∀ line ∈ leadLines decls, '\n' ∉ line := by
    intro line hline
    rw [eq_nil_of_mem_leadLines hline]
    exact List.not_mem_nil
  have hopening : '\n' ∉ settings.indent ++ ['{'] := by
    simpa using newline_notMem_indent hindent
  simp only [freshLines, List.forall_mem_append, List.forall_mem_cons, List.not_mem_nil,
    false_imp_iff, implies_true, and_true]
  exact ⟨hlead, newline_notMem_declarationLine hindent hname, not_false,
    newline_notMem_withParameter hname (newline_notMem_freshGroup hindent), hopening,
    newline_notMem_assignmentLine hindent hname (newline_notMem_indent hindent)⟩

theorem dropReturn_freshLines (decls : Declarations) :
    (freshLines decls settings name).map Text.dropReturn = freshLines decls settings name := by
  have hlead : (leadLines decls).map Text.dropReturn = leadLines decls := by
    rw [leadLines_eq_replicate, List.map_replicate, Text.dropReturn_nil]
  rw [freshLines, List.map_append, hlead, List.map_cons, List.map_cons, List.map_cons,
    List.map_cons, List.map_cons, List.map_nil, dropReturn_declarationLine,
    dropReturn_assignmentLine, dropReturn_line, Text.dropReturn_of_ne _ (by decide)]
  rfl

theorem exists_fresh_lines (hindent : settings.indentsByBlanks = true)
    (hnone : (scan (Document.ofText content).view).constructor? = none)
    (hplan : ofText content settings name = .ok plan) :
    ∃ (number : Nat) (blanks next : Text) (rest : List Text),
      plan.target = .insert ⟨number, 0⟩ ∧ number < (Document.ofText content).lineCount ∧
      (∃ block, plan.edit.apply content =
        content.beforeLine number ++ block ++ content.fromLine number) ∧
      blanks.allBlank = true ∧
      (Document.ofText (plan.edit.apply content)).lines =
        (Document.ofText content).lines.take number ++
          freshLines (scan (Document.ofText content).view) settings name ++
          (settings.indent ++ '}' :: blanks) :: next :: rest ∧
      (next.allBlank = true ∨ Text.closesWith ['}'] next = true) ∧
      ∀ line ∈ next :: rest, line = [] ∨ line ∈ (Document.ofText content).lines := by
  obtain ⟨number, here, htarget, hhere, happly⟩ := apply_fresh_eq hnone hplan
  have hnumber := Document.lineText?_isSome_iff.mp ⟨here, hhere⟩
  have hname := isPropertyName_of_ofText hplan
  rw [Document.lineCount_ofText] at hnumber
  obtain ⟨above, piece, below, hsplit, rfl⟩ := Text.exists_linePieces_around hnumber
  have hmem : ∀ line ∈ above ++ piece :: below, '\n' ∉ line := by
    intro line hline
    rw [← hsplit] at hline
    exact Text.newline_notMem_of_mem_linePieces hline
  rw [List.forall_mem_append] at hmem
  have hlines : (Document.ofText content).lines =
      above.map Text.dropReturn ++ (piece :: below).map Text.dropReturn := by
    rw [Document.ofText, hsplit, List.map_append]
  obtain ⟨blanks, next, rest, hblank, hclosing, hnext, hrest⟩ :=
    exists_closing_lines hindent hmem.2
  refine ⟨above.length, blanks, next, rest, htarget, ?_, ⟨_, happly⟩, hblank, ?_, hnext, ?_⟩
  · rw [Document.lineCount_ofText]
    exact hnumber
  · have hpiece : here = Text.dropReturn piece := by
      rw [Document.lineText?, hlines] at hhere
      simpa using hhere.symm
    have hfollowing : (Document.ofText content).lineText? (above.length + 1) =
        (below.map Text.dropReturn).head? := by
      rw [Document.lineText?, hlines, List.getElem?_append_right (by simp), List.head?_eq_getElem?]
      simp
    have hfresh : ∀ line ∈ above ++ freshLines (scan (Document.ofText content).view) settings name,
        '\n' ∉ line :=
      List.forall_mem_append.mpr ⟨hmem.1, newline_notMem_freshLines _ hindent hname⟩
    have htext := Text.linePieces_breaksAfter_append hfresh (settings.indent ++ '}' ::
      padding (Text.dropReturn piece) ((below.map Text.dropReturn).head?.getD []) ++
        (piece ++ Text.breaksBefore below))
    rw [Text.breaksAfter_append] at htext
    rw [happly, hpiece, hfollowing, Text.beforeLine_around hsplit, Text.fromLine_around hsplit,
      hlines, List.take_left' (by simp), Document.ofText]
    simp only [List.append_assoc] at htext hclosing ⊢
    rw [htext, List.map_append, List.map_append, dropReturn_freshLines, hclosing]
  · intro line hline
    rw [hlines]
    exact (hrest line hline).imp_right (List.mem_append_right _)

/-! ### What a pass over the new text finds -/

/-- A new constructor below `above`. -/
def freshBlock (settings : Settings) (name : Text) (above : List Text) (blanks : Text)
    (below : List Text) : Block where
  above := above ++ [declarationLine settings name, []]
  docblock := []
  group := withParameter (freshGroup settings) name
  body := [settings.indent ++ ['{'], assignmentLine settings.indent settings name]
  closing := settings.indent ++ '}' :: blanks
  below := below

theorem freshBlock_lines (settings : Settings) (name : Text) (above : List Text) (blanks : Text)
    (below : List Text) :
    (freshBlock settings name above blanks below).lines =
      above ++ [declarationLine settings name, [], (withParameter (freshGroup settings) name).line,
        settings.indent ++ ['{'], assignmentLine settings.indent settings name,
        settings.indent ++ '}' :: blanks] ++ below := by
  simp [Block.lines, Block.front, freshBlock]

variable {doc : Document} {above below : List Text} {blanks : Text}
  (hindent : settings.indentsByBlanks = true) (hname : isPropertyName name = true)
  (hblank : blanks.allBlank = true)
  (habove : ∀ line ∈ above, Line.isConstructorSignature line = false)
  (hlines : doc.lines = (freshBlock settings name above blanks below).lines)

section Reads

include hindent hname habove

theorem not_signature_front :
    ∀ line ∈ (freshBlock settings name above blanks below).front,
      Line.isConstructorSignature line = false := by
  intro line hline
  simp only [Block.front, freshBlock, List.append_nil, List.mem_append, List.mem_cons,
    List.not_mem_nil, or_false] at hline
  rcases hline with hline | rfl | rfl
  · exact habove line hline
  · exact isConstructorSignature_declarationLine hindent hname
  · decide

include hblank

theorem reads_freshBlock : (freshBlock settings name above blanks below).Reads := by
  obtain ⟨hsignature, hcloses, -⟩ := closingLine_facts hindent hblank
  refine ⟨staysOpen_of_no_signature (not_signature_front hindent hname habove), ?_, ?_, ?_,
    hsignature, hcloses⟩
  · exact (isConstructorSignature_withParameter hname).trans
      (isConstructorSignature_freshGroup settings)
  · rw [Bool.eq_false_iff]
    intro hinline
    have hfresh := inlineBody?_of_withParameter hname hinline
    rw [inlineBody?_freshGroup] at hfresh
    contradiction
  · intro line hline
    simp only [freshBlock, List.mem_cons, List.not_mem_nil, or_false] at hline
    rcases hline with rfl | rfl
    · exact isInner_openingLine hindent
    · exact isInner_assignmentLine (Settings.allBlank_indent hindent) hindent hname

include hlines

/-- A pass finds the new constructor on its own line, since an empty line stands above it. -/
theorem hasBlock_freshBlock : doc.HasBlock (freshBlock settings name above blanks below) := by
  have hbefore : '(' ∉ (freshGroup settings).before := by
    refine List.mem_append.not.mpr (not_or.mpr
      ⟨notMem_modifiers hindent _ (by decide) (by decide) ?_, by decide⟩)
    cases settings.constructorVisibility <;> decide
  have hinside : ')' ∉ (withParameter (freshGroup settings) name).inside :=
    notMem_inside_withParameter hname List.not_mem_nil (by decide) (by decide)
  have hshows := Document.view_shows (hlines.trans (freshBlock_lines _ _ _ _ _))
  have hlength : (freshBlock settings name above blanks below).front.length = above.length + 2 := by
    simp [Block.front, freshBlock]
  have hempty : (doc.view.lineText? ((freshBlock settings name above blanks below).front.length -
      1)).any (Text.closesWith ['*', '/']) = false := by
    have habove : (freshBlock settings name above blanks below).front.length - 1 =
        above.length + 1 := by omega
    rw [habove, hshows 1 [] rfl]
    decide
  have hsignature := hshows 2 _ rfl
  rw [← hlength] at hsignature
  refine hasBlock_iff.mpr ⟨hlines, ⟨hbefore, hinside⟩,
    reads_freshBlock hindent hname hblank habove, _,
    View.constructorRange?_of_not_comment hsignature hempty, ?_⟩
  rw [hlength]
  simp [Range.ofLine, freshBlock]

theorem lastPropertyLine_freshBlock : (scan doc.view).lastPropertyLine = some above.length := by
  have hnoted : (freshBlock settings name above blanks below).front ++
      (freshBlock settings name above blanks below).group.line ::
        (freshBlock settings name above blanks below).body ++
      [(freshBlock settings name above blanks below).closing] =
      above ++ ([declarationLine settings name] ++ [[],
        (withParameter (freshGroup settings) name).line, settings.indent ++ ['{'],
        assignmentLine settings.indent settings name, settings.indent ++ '}' :: blanks]) := by
    simp [Block.front, freshBlock]
  have hshows := Document.view_shows (hlines.trans (freshBlock_lines _ _ _ _ _))
  have hend : doc.view.propertyEnd? above.length = some above.length := by
    refine View.firstLine?_eq_some_iff.mpr ⟨⟨Nat.le_refl _, ?_⟩,
      ⟨_, hshows.head, closesWith_declarationLine⟩, ?_⟩
    · change above.length < doc.lines.length
      rw [hlines, freshBlock_lines]
      simp
    · intro other line hle hlt
      omega
  rw [(hasBlock_freshBlock hindent hname hblank habove hlines).scan_eq, hnoted, noteLines_append,
    noteLines_append, noteLines_lastPropertyLine, noteLines, noteLines, noteLine_lastPropertyLine,
    if_pos isProperty_declarationLine, Nat.zero_add, hend, Option.some_or]
  simp only [List.forall_mem_cons, List.not_mem_nil, false_imp_iff, implies_true, and_true]
  exact ⟨by decide, isProperty_freshLine hindent hname,
    isProperty_of_notMem (dollar_notMem_openingLine hindent),
    isProperty_assignmentLine (Settings.allBlank_indent hindent) hindent hname,
    (closingLine_facts hindent hblank).2.2⟩

theorem countP_freshBlock (hbelow : ∀ line ∈ below, Line.isConstructorSignature line = false) :
    doc.lines.countP Line.isConstructorSignature = 1 := by
  have hreads : (freshBlock settings name above blanks below).Reads :=
    reads_freshBlock hindent hname hblank habove
  have hbody : ∀ line ∈ (freshBlock settings name above blanks below).body,
      Line.isConstructorSignature line = false :=
    fun line hline => (isInner_iff.mp (hreads.body line hline)).1
  have hzero : ∀ {lines : List Text}, (∀ line ∈ lines, Line.isConstructorSignature line = false) →
      lines.countP Line.isConstructorSignature = 0 := by
    intro lines h
    exact List.countP_eq_zero.mpr fun line hline => by rw [h line hline]; exact Bool.false_ne_true
  rw [hlines, Block.lines, List.countP_append, List.countP_cons, List.countP_append,
    List.countP_cons, hzero (not_signature_front hindent hname habove), hzero hbody,
    hreads.isSignature, hreads.closingNotSignature]
  have hrest : (freshBlock settings name above blanks below).below.countP
      Line.isConstructorSignature = 0 := hzero hbelow
  rw [hrest]
  rfl

end Reads

theorem exists_freshBlock (hindent : settings.indentsByBlanks = true)
    (hnone : (scan (Document.ofText content).view).constructor? = none)
    (hplan : ofText content settings name = .ok plan) :
    ∃ (number : Nat) (above rest : List Text) (blanks next : Text),
      plan.target = .insert ⟨number, 0⟩ ∧ number < (Document.ofText content).lineCount ∧
      (∃ block, plan.edit.apply content =
        content.beforeLine number ++ block ++ content.fromLine number) ∧
      above = (Document.ofText content).lines.take number ++
        leadLines (scan (Document.ofText content).view) ∧
      above.length = number + (leadLines (scan (Document.ofText content).view)).length ∧
      blanks.allBlank = true ∧
      (Document.ofText (plan.edit.apply content)).lines =
        (freshBlock settings name above blanks (next :: rest)).lines ∧
      (next.allBlank = true ∨ Text.closesWith ['}'] next = true) ∧
      (∀ line ∈ above, Line.isConstructorSignature line = false) ∧
      ∀ line ∈ next :: rest, Line.isConstructorSignature line = false := by
  obtain ⟨number, blanks, next, rest, htarget, hnumber, hblock, hblank, hlines, hnext, hrest⟩ :=
    exists_fresh_lines hindent hnone hplan
  have hold := scan_constructor?_eq_none_iff.mp hnone
  have hempty : Line.isConstructorSignature [] = false := by decide
  refine ⟨number, _, rest, blanks, next, htarget, hnumber, hblock, rfl, ?_, hblank, ?_, hnext, ?_,
    ?_⟩
  · rw [Document.lineCount] at hnumber
    rw [List.length_append, List.length_take, Nat.min_eq_left (Nat.le_of_lt hnumber)]
  · rw [hlines]
    simp [Block.lines, Block.front, freshBlock, freshLines]
  · intro line hline
    rcases List.mem_append.mp hline with hline | hline
    · exact hold line (List.mem_of_mem_take hline)
    · rw [eq_nil_of_mem_leadLines hline]
      exact hempty
  · intro line hline
    rcases hrest line hline with rfl | hmem
    · exact hempty
    · exact hold line hmem

end New

theorem freshGroup_line_eq (settings : Settings) (name : Text) :
    (withParameter (freshGroup settings) name).line = settings.indent ++
      settings.constructorVisibility.keyword.toList ++ " function __construct($".toList ++ name ++
      [')'] := by
  have hmark : " function __construct($".toList = space ++ Line.constructorMark ++ ['(', '$'] := by
    decide
  rw [hmark]
  simp [withParameter, freshGroup, Line.Parentheses.line, Text.allBlank]

/-- **A new constructor is inserted whole, and nothing else changes.** With `k` the line it goes in
front of and `d` the number of empty lines above it, a pass over the new text finds the property and
the constructor that were inserted, and a blank line or the end of a block below them. -/
theorem apply_fresh_constructor {content : Text} {settings : Settings} {name : Text} {plan : Plan}
    {place : Position} {new : Document} {k d : Nat} (hindent : settings.indentsByBlanks = true)
    (hnone : (scan (Document.ofText content).view).constructor? = none)
    (hplan : ofText content settings name = .ok plan) (htarget : plan.target = .insert place)
    (hk : k = place.line) (hnew : new = Document.ofText (plan.edit.apply content))
    (hd : d = if (scan (Document.ofText content).view).lastPropertyLine.isSome ||
      (scan (Document.ofText content).view).traitUseLine.isSome then 1 else 0) :
    (∃ block, plan.edit.apply content = content.beforeLine k ++ block ++ content.fromLine k ∧
      content = content.beforeLine k ++ content.fromLine k) ∧
    new.lines.countP Line.isConstructorSignature = 1 ∧
    (scan new.view).lastPropertyLine = some (k + d) ∧
    (∃ ctor, (scan new.view).constructor? = some ctor ∧ ctor.line = k + d + 2 ∧
      ctor.hasDocblock = false ∧ ctor.closingLine = some (k + d + 5)) ∧
    new.lineText? (k + d + 2) = some (settings.indent ++
      settings.constructorVisibility.keyword.toList ++ " function __construct($".toList ++ name ++
      [')']) ∧
    new.lineText? (k + d + 3) = some (settings.indent ++ ['{']) ∧
    new.lineText? (k + d + 4) = some (settings.indent ++ settings.indent ++ "$this->".toList ++
      name ++ " = $".toList ++ name ++ [';']) ∧
    (∃ blanks : Text, blanks.allBlank = true ∧
      new.lineText? (k + d + 5) = some (settings.indent ++ '}' :: blanks)) ∧
    (d = 1 → new.lineText? (k + d - 1) = some []) ∧
    ∃ next, new.lineText? (k + d + 6) = some next ∧
      (next.allBlank = true ∨ Text.closesWith ['}'] next = true) := by
  have hname := isPropertyName_of_ofText hplan
  obtain ⟨number, above, rest, blanks, next, hplace, hnumber, ⟨block, hblock⟩, habove, hlength,
    hblank, hlines, hnext, hsignature, hbelow⟩ := exists_freshBlock hindent hnone hplan
  rw [htarget, Target.insert.injEq] at hplace
  obtain rfl : k = number := by rw [hk, hplace]
  have hlead : (leadLines (scan (Document.ofText content).view)).length = d := by
    rw [hd, leadLines]
    split <;> rfl
  rw [hlead] at hlength
  rw [← hnew] at hlines
  have hfound := (hasBlock_freshBlock hindent hname hblank hsignature hlines).found
  have hlast := lastPropertyLine_freshBlock hindent hname hblank hsignature hlines
  have hshows := Document.view_shows (hlines.trans (freshBlock_lines _ _ _ _ _))
  simp only [View.Shows, Document.view_lineText?, hlength] at hshows
  refine ⟨⟨block, hblock, ?_⟩, countP_freshBlock hindent hname hblank hsignature hlines hbelow, ?_,
    ?_, ?_, hshows 3 _ rfl, hshows 4 _ rfl, ⟨blanks, hblank, hshows 5 _ rfl⟩, ?_, next, ?_, hnext⟩
  · rw [Document.lineCount_ofText] at hnumber
    exact (Text.beforeLine_append_fromLine hnumber).symm
  · rw [hlast, hlength]
  · obtain ⟨ctor, hctor, hstart, hctorLine, hclosing⟩ := hfound
    have hfront : (freshBlock settings name above blanks (next :: rest)).front.length =
        k + d + 2 := by
      simp [Block.front, freshBlock, hlength]
    have habove : (freshBlock settings name above blanks (next :: rest)).above.length =
        k + d + 2 := by
      simp [freshBlock, hlength]
    rw [hfront] at hctorLine hclosing
    refine ⟨ctor, hctor, hctorLine, ?_, hclosing⟩
    simp [Constructor.hasDocblock, hstart, habove, hctorLine]
  · rw [← freshGroup_line_eq]
    exact hshows 2 _ rfl
  · intro hone
    have hempty := leadLines_eq_replicate (scan (Document.ofText content).view)
    rw [hlead, hone, List.replicate_one] at hempty
    rw [hempty] at habove
    rw [freshBlock_lines, habove, List.append_assoc] at hlines
    have htake : ((Document.ofText content).lines.take k).length = k := by
      rw [habove, List.length_append, List.length_singleton] at hlength
      omega
    have hshown := (Document.view_shows hlines).head
    rw [htake, Document.view_lineText?] at hshown
    rw [hone, Nat.add_sub_cancel, hshown]
  · rw [← hlength, Document.lineText?, hlines, freshBlock_lines]
    simp

/-- A class with a trait and a property, a line of blanks below them, and carriage returns. -/
def withMembers : Text :=
  "class A\r\n\x7b\r\n use B;\r\n private $a = 1;\r\n  \r\n\x7d\r\n".toList

theorem withMembers_apply_fresh :
    ∃ plan, ofText withMembers {} ['b'] = .ok plan ∧ plan.target = .insert ⟨4, 0⟩ ∧
      (Document.ofText (plan.edit.apply withMembers)).lines.countP Line.isConstructorSignature = 1 ∧
      (scan (Document.ofText (plan.edit.apply withMembers)).view).lastPropertyLine = some 5 ∧
      ∃ ctor, (scan (Document.ofText (plan.edit.apply withMembers)).view).constructor? = some ctor ∧
        ctor.line = 7 ∧ ctor.hasDocblock = false ∧ ctor.closingLine = some 10 := by
  have hok : (ofText withMembers {} ['b']).toOption.map target = some (.insert ⟨4, 0⟩) := by
    decide +kernel
  have hnone : (scan (Document.ofText withMembers).view).constructor? = none := by decide +kernel
  have hlead : 1 = if (scan (Document.ofText withMembers).view).lastPropertyLine.isSome ||
      (scan (Document.ofText withMembers).view).traitUseLine.isSome then 1 else 0 := by
    decide +kernel
  cases hplan : ofText withMembers {} ['b'] with
  | error cause =>
      rw [hplan] at hok
      contradiction
  | ok plan =>
      rw [hplan] at hok
      have htarget : plan.target = .insert ⟨4, 0⟩ := Option.some.inj hok
      obtain ⟨-, hcount, hlast, hctor, -⟩ :=
        apply_fresh_constructor (by decide) hnone hplan htarget rfl rfl hlead
      exact ⟨plan, rfl, htarget, hcount, hlast, hctor⟩

end PropertyInsertion.Plan

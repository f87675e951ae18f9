import PropertyInsertion.Proofs.Recognition
import PropertyInsertion.Proofs.PlanShape

/-!
# Generated lines and what they are taken for

Every insertion writes a declaration, a parameter and an assignment. Here they are lines of text,
and each of them is taken for what it is meant to be and for nothing else, for every property name
and every indentation of spaces and tabs.
-/

namespace PropertyInsertion

namespace Line.Parentheses

def line (group : Parentheses) : Text :=
  group.before ++ '(' :: (group.inside ++ ')' :: group.after)

/-- The line up to the end of the parentheses. -/
def opening (group : Parentheses) : Text :=
  group.before ++ '(' :: (group.inside ++ [')'])

theorem opening_append_after (group : Parentheses) : group.opening ++ group.after = group.line := by
  simp [opening, line]

end Line.Parentheses

namespace Code

def declarationLine (settings : Settings) (name : Text) : Text :=
  settings.indent ++ settings.visibility.keyword.toList ++ space ++ '$' :: (name ++ [';'])

def assignmentLine (blockIndent : Text) (settings : Settings) (name : Text) : Text :=
  blockIndent ++ settings.indent ++ thisArrow ++ name ++ gets ++ name ++ [';']

/-- The parentheses with one parameter more. -/
def withParameter (group : Line.Parentheses) (name : Text) : Line.Parentheses :=
  { group with
    inside := (if group.inside.allBlank then [] else group.inside ++ [',', ' ']) ++ '$' :: name }

/-- The parentheses of a new constructor's signature, which has no parameter yet. -/
def freshGroup (settings : Settings) : Line.Parentheses where
  before := settings.indent ++ settings.constructorVisibility.keyword.toList ++ space ++
    Line.constructorMark
  inside := []
  after := []

section Plain

variable (settings : Settings) (name : Text)

theorem plain_declaration :
    (declaration settings name).flatMap Piece.plain =
      Text.breaksAfter [declarationLine settings name, []] := by
  simp [declaration, declarationLine, nameStop, Piece.plain, blankLine]

theorem plain_assignment (blockIndent : Text) :
    (assignment blockIndent settings name).flatMap Piece.plain =
      '\n' :: assignmentLine blockIndent settings name := by
  simp [assignment, assignmentLine, nameStop, Piece.plain, newline]

theorem plain_parameterList (group : Line.Parentheses) :
    (Plan.parameterList group name).flatMap Piece.plain = (withParameter group name).opening := by
  simp [Plan.parameterList, withParameter, Line.Parentheses.opening, nameStop, Piece.plain]

theorem plain_freshConstructor :
    (Plan.freshConstructor settings name).flatMap Piece.plain =
      Text.breaksAfter [(withParameter (freshGroup settings) name).line, settings.indent ++ ['{'],
        assignmentLine settings.indent settings name] ++ (settings.indent ++ ['}']) := by
  rw [Plan.freshConstructor, List.flatMap_append, List.flatMap_append, plain_assignment]
  simp [freshGroup, withParameter, Line.Parentheses.line, nameStop, Piece.plain, newline,
    Text.allBlank]

end Plain

/-! ### What the lines are taken for -/

end Code

namespace Settings

/-- The indentation is not empty and made of spaces and tabs. -/
def indentsByBlanks (settings : Settings) : Bool :=
  !settings.indent.isEmpty && settings.indent.all fun c => c == ' ' || c == '\t'

variable {settings : Settings}

theorem notMem_indent (h : settings.indentsByBlanks = true) {c : Char} (hspace : c ≠ ' ')
    (htab : c ≠ '\t') : c ∉ settings.indent := by
  intro hc
  rw [indentsByBlanks, Bool.and_eq_true] at h
  simpa [hspace, htab] using List.all_eq_true.mp h.2 c hc

theorem exists_indent_eq_cons (h : settings.indentsByBlanks = true) :
    ∃ c rest, settings.indent = c :: rest ∧ (c = ' ' ∨ c = '\t') := by
  rw [indentsByBlanks, Bool.and_eq_true] at h
  cases hindent : settings.indent with
  | nil => simp [hindent] at h
  | cons c rest =>
      refine ⟨c, rest, rfl, ?_⟩
      simpa using List.all_eq_true.mp h.2 c (by rw [hindent]; exact List.mem_cons_self)

theorem allBlank_indent (h : settings.indentsByBlanks = true) :
    settings.indent.allBlank = true := by
  rw [indentsByBlanks, Bool.and_eq_true] at h
  refine List.all_eq_true.mpr fun c hc => ?_
  have hblank := List.all_eq_true.mp h.2 c hc
  rw [Bool.or_eq_true, beq_iff_eq, beq_iff_eq] at hblank
  rcases hblank with rfl | rfl <;> decide

end Settings

theorem Text.notMem_of_allBlank {blanks : Text} (h : blanks.allBlank = true) {c : Char}
    (hc : Text.isBlank c = false) : c ∉ blanks := by
  intro hmem
  rw [List.all_eq_true.mp h c hmem] at hc
  contradiction

theorem Text.closesWith_concat {c d : Char} (text : Text) (hd : Text.isBlank d = false) :
    Text.closesWith [c] (text ++ [d]) = (c == d) := by
  rw [Text.closesWith, Text.trimEnd_concat text hd, Bool.eq_iff_iff, List.isSuffixOf_iff_suffix,
    beq_iff_eq]
  constructor
  · rintro ⟨front, hfront⟩
    simpa using (List.append_inj' hfront rfl).2
  · rintro rfl
    exact List.suffix_append text [c]

/-- What a text closes with is decided behind any other character that is not blank. -/
theorem Text.closesWith_behind {c d : Char} (text rest : Text) (hc : Text.isBlank c = false)
    (hd : Text.isBlank d = false) (hne : d ≠ c) :
    Text.closesWith [c] (text ++ d :: rest) = Text.closesWith [c] rest := by
  rw [Bool.eq_iff_iff, Text.closesWith_singleton_iff hc, Text.closesWith_singleton_iff hc]
  constructor
  · rintro ⟨front, blanks, hblank, hsplit⟩
    have hmark : front ++ [c] ++ blanks = text ++ d :: rest := by
      rw [hsplit]
      simp
    rcases Text.split_at_barrier (by simpa using hne) (by simp) hmark with
      ⟨between, -, hblanks⟩ | ⟨between, hrest, -⟩
    · exact absurd (by rw [hblanks]; simp) (Text.notMem_of_allBlank hblank hd)
    · exact ⟨between, blanks, hblank, by rw [hrest]; simp⟩
  · rintro ⟨front, blanks, hblank, rfl⟩
    exact ⟨text ++ d :: front, blanks, hblank, by simp⟩

theorem Line.isNestedClose_concat {d : Char} (text : Text) (hd : Text.isBlank d = false)
    (hne : d ≠ '}') : Line.isNestedClose (text ++ [d]) = false := by
  rw [Line.isNestedClose, Text.closesWith_concat text hd, Bool.and_eq_false_iff]
  exact Or.inr (by simpa using hne.symm)

theorem Line.isConstructorSignature_of_notMem {line : Text} (c : Char)
    (hmark : c ∈ Line.constructorMark) (hline : c ∉ line) :
    Line.isConstructorSignature line = false := by
  rw [Bool.eq_false_iff, Ne, Line.isConstructorSignature_iff]
  exact Text.not_infix_of_notMem c hmark hline

theorem Line.notMem_classMark {c d : Char} (hword : Text.isWordChar c = true)
    (hclass : d ∉ Line.classWord) (hd : Text.isWordChar d = false) : d ∉ Line.classWord ++ [c] := by
  rw [List.mem_append, List.mem_singleton, not_or]
  refine ⟨hclass, fun h => ?_⟩
  rw [h, hword] at hd
  contradiction

namespace Code

section Lines

variable {settings : Settings} {name : Text}

theorem space_notMem_name (hname : isPropertyName name = true) : ' ' ∉ name :=
  notMem_name hname (by decide)

theorem notMem_modifiers (hindent : settings.indentsByBlanks = true) (visibility : Visibility)
    {c : Char} (hspace : c ≠ ' ') (htab : c ≠ '\t') (hkeyword : c ∉ visibility.keyword.toList) :
    c ∉ settings.indent ++ visibility.keyword.toList ++ space := by
  have hc := Settings.notMem_indent hindent hspace htab
  simp [hc, hkeyword, space, hspace]

/-! #### The declaration -/

section Declaration

variable (hindent : settings.indentsByBlanks = true) (hname : isPropertyName name = true)

include hindent hname

theorem isConstructorSignature_declarationLine :
    Line.isConstructorSignature (declarationLine settings name) = false := by
  rw [Bool.eq_false_iff, Ne, Line.isConstructorSignature_iff, declarationLine,
    Text.infix_barrier_iff (by decide) (by decide), not_or]
  constructor
  · refine Text.not_infix_of_notMem '_' (by decide)
      (notMem_modifiers hindent settings.visibility (by decide) (by decide) ?_)
    cases settings.visibility <;> decide
  · refine Text.not_infix_of_notMem ' ' (by decide) ?_
    simpa using space_notMem_name hname

theorem isClassHeader_declarationLine :
    Line.isClassHeader (declarationLine settings name) = false := by
  rw [Bool.eq_false_iff, Ne, Line.isClassHeader_iff]
  rintro ⟨c, hword, hoccurs⟩
  have hdollar : '$' ∉ Line.classWord ++ [c] :=
    Line.notMem_classMark hword (by decide) (by decide)
  rw [declarationLine, Text.infix_barrier_iff hdollar (by simp)] at hoccurs
  rcases hoccurs with hleft | hright
  · refine Text.not_infix_of_notMem 's' (List.mem_append_left _ (by decide))
      (notMem_modifiers hindent settings.visibility (by decide) (by decide) ?_) hleft
    cases settings.visibility <;> decide
  · refine Text.not_infix_of_notMem ' ' (List.mem_append_left _ (by decide)) ?_ hright
    simpa using space_notMem_name hname

omit hindent hname

theorem declarationLine_eq_concat (settings : Settings) (name : Text) :
    ∃ front, declarationLine settings name = front ++ [';'] :=
  ⟨settings.indent ++ settings.visibility.keyword.toList ++ space ++ '$' :: name, by
    simp [declarationLine]⟩

theorem isNestedClose_declarationLine :
    Line.isNestedClose (declarationLine settings name) = false := by
  obtain ⟨front, hfront⟩ := declarationLine_eq_concat settings name
  rw [hfront]
  exact Line.isNestedClose_concat front (by decide) (by decide)

theorem closesWith_declarationLine :
    Text.closesWith [';'] (declarationLine settings name) = true := by
  obtain ⟨front, hfront⟩ := declarationLine_eq_concat settings name
  rw [hfront, Text.closesWith_concat front (by decide)]
  rfl

theorem isProperty_declarationLine : Line.isProperty (declarationLine settings name) = true := by
  refine Line.isProperty_iff.mpr
    ⟨settings.visibility.keyword.toList ++ [' ', '$'], ?_, settings.indent, name ++ [';'], ?_⟩
  · cases settings.visibility <;> decide
  · simp [declarationLine, space]

end Declaration

/-! #### The assignment -/

section Assignment

variable {blockIndent : Text} (hblock : blockIndent.allBlank = true)
  (hindent : settings.indentsByBlanks = true) (hname : isPropertyName name = true)

theorem assignmentLine_eq_concat (blockIndent : Text) (settings : Settings) (name : Text) :
    ∃ front, assignmentLine blockIndent settings name = front ++ [';'] :=
  ⟨blockIndent ++ settings.indent ++ thisArrow ++ name ++ gets ++ name, rfl⟩

/-- The assignment around the characters that no mark has. -/
theorem assignmentLine_eq_around (blockIndent : Text) (settings : Settings) (name : Text) :
    assignmentLine blockIndent settings name =
      (blockIndent ++ settings.indent ++ ['$', 't', 'h', 'i', 's', '-']) ++ '>' ::
        ((name ++ [' ']) ++ '=' :: (' ' :: '$' :: (name ++ [';']))) := by
  have harrow : thisArrow = ['$', 't', 'h', 'i', 's', '-', '>'] := by decide
  have hgets : gets = [' ', '=', ' ', '$'] := by decide
  rw [assignmentLine, harrow, hgets]
  simp

theorem isNestedClose_assignmentLine (blockIndent : Text) :
    Line.isNestedClose (assignmentLine blockIndent settings name) = false := by
  obtain ⟨front, hfront⟩ := assignmentLine_eq_concat blockIndent settings name
  rw [hfront]
  exact Line.isNestedClose_concat front (by decide) (by decide)

include hblock hindent

theorem notMem_this {c : Char} (hblank : Text.isBlank c = false)
    (hthis : c ∉ ['$', 't', 'h', 'i', 's', '-']) :
    c ∉ blockIndent ++ settings.indent ++ ['$', 't', 'h', 'i', 's', '-'] := by
  have hleft := Text.notMem_of_allBlank hblock hblank
  have hright := Text.notMem_of_allBlank (Settings.allBlank_indent hindent) hblank
  rw [List.mem_append, List.mem_append, not_or, not_or]
  exact ⟨⟨hleft, hright⟩, hthis⟩

include hname

theorem isConstructorSignature_assignmentLine :
    Line.isConstructorSignature (assignmentLine blockIndent settings name) = false := by
  have hspace := space_notMem_name hname
  rw [Bool.eq_false_iff, Ne, Line.isConstructorSignature_iff, assignmentLine_eq_around,
    Text.infix_barrier_iff (c := '>') (by decide) (by decide),
    Text.infix_barrier_iff (c := '=') (by decide) (by decide)]
  rintro (hleft | hmiddle | hright)
  · exact Text.not_infix_of_notMem 'c' (by decide)
      (notMem_this hblock hindent (by decide) (by decide)) hleft
  · rcases List.infix_concat_iff.mp hmiddle with hend | hinside
    · -- the mark does not end with a space
      rcases List.suffix_concat_iff.mp hend with hempty | ⟨front, hfront, -⟩
      · exact absurd hempty (by decide)
      · have hlast := congrArg List.getLast? hfront
        rw [List.getLast?_concat] at hlast
        exact absurd hlast (by decide)
    · exact Text.not_infix_of_notMem ' ' (by decide) hspace hinside
  · rcases List.infix_cons_iff.mp hright with hstart | hinside
    · rcases List.prefix_cons_iff.mp hstart with hempty | ⟨back, hback, -⟩
      · exact absurd hempty (by decide)
      · have hfirst := congrArg List.head? hback
        rw [List.head?_cons] at hfirst
        exact absurd hfirst (by decide)
    · refine Text.not_infix_of_notMem ' ' (by decide) ?_ hinside
      simpa using hspace

theorem isProperty_assignmentLine :
    Line.isProperty (assignmentLine blockIndent settings name) = false := by
  have hspace := space_notMem_name hname
  have hdollar : '$' ∉ name := notMem_name hname (by decide)
  rw [Bool.eq_false_iff, Ne, Line.isProperty_iff]
  rintro ⟨mark, hmark, hoccurs⟩
  have hmarks : ∀ mark ∈ Line.propertyMarks, '>' ∉ mark ∧ '=' ∉ mark ∧ mark ≠ [] ∧ '$' ∈ mark ∧
      ' ' ∈ mark ∧ mark.head? ≠ some ' ' ∧ ('p' ∈ mark ∨ 'c' ∈ mark) := by
    decide
  obtain ⟨harrow, hequal, hne, hmarkDollar, hmarkSpace, hhead, hletter⟩ := hmarks mark hmark
  rw [assignmentLine_eq_around, Text.infix_barrier_iff harrow hne,
    Text.infix_barrier_iff hequal hne] at hoccurs
  rcases hoccurs with hleft | hmiddle | hright
  · rcases hletter with hp | hc
    · exact Text.not_infix_of_notMem 'p' hp
        (notMem_this hblock hindent (by decide) (by decide)) hleft
    · exact Text.not_infix_of_notMem 'c' hc
        (notMem_this hblock hindent (by decide) (by decide)) hleft
  · refine Text.not_infix_of_notMem '$' hmarkDollar ?_ hmiddle
    simpa using hdollar
  · rcases List.infix_cons_iff.mp hright with hstart | hinside
    · rcases List.prefix_cons_iff.mp hstart with hempty | ⟨back, hback, -⟩
      · exact hne hempty
      · exact hhead (by rw [hback]; rfl)
    · refine Text.not_infix_of_notMem ' ' hmarkSpace ?_ hinside
      simpa using hspace

end Assignment

/-! #### One parameter more -/

section Parameter

variable {group : Line.Parentheses}

/-- A mark with a space in it, and without the characters written around a parameter, is not made or
lost by a further parameter. -/
theorem infix_withParameter_iff {mark : Text} {c : Char} (hname : isPropertyName name = true)
    (hopen : '(' ∉ mark) (hclose : ')' ∉ mark) (hseparator : ',' ∉ mark) (hdollar : '$' ∉ mark)
    (hspace : ' ' ∈ mark) (hc : c ∈ mark) (hblank : Text.isBlank c = false) :
    mark <:+: (withParameter group name).line ↔ mark <:+: group.line := by
  have hne : mark ≠ [] := List.ne_nil_of_mem hc
  have hempty : ¬mark <:+: [] := Text.not_infix_of_notMem c hc (by simp)
  have hparameter : ¬mark <:+: '$' :: name := by
    have hsplit : '$' :: name = [] ++ '$' :: name := rfl
    rw [hsplit, Text.infix_barrier_iff hdollar hne, not_or]
    exact ⟨hempty, Text.not_infix_of_notMem ' ' hspace (space_notMem_name hname)⟩
  have hinside : mark <:+: (withParameter group name).inside ↔ mark <:+: group.inside := by
    by_cases hinside : group.inside.allBlank = true
    · have hnot : ¬mark <:+: group.inside :=
        Text.not_infix_of_notMem c hc (Text.notMem_of_allBlank hinside hblank)
      rw [withParameter, if_pos hinside, List.nil_append]
      exact iff_of_false hparameter hnot
    · have hcomma : ¬mark <:+: ' ' :: '$' :: name := by
        have hsplit : ' ' :: '$' :: name = [' '] ++ '$' :: name := rfl
        rw [hsplit, Text.infix_barrier_iff hdollar hne, not_or]
        refine ⟨Text.not_infix_of_notMem c hc ?_,
          Text.not_infix_of_notMem ' ' hspace (space_notMem_name hname)⟩
        rintro hmem
        rw [List.mem_singleton.mp hmem] at hblank
        exact absurd hblank (by decide)
      have hsplit : group.inside ++ [',', ' '] ++ '$' :: name =
          group.inside ++ ',' :: (' ' :: '$' :: name) := by simp
      rw [withParameter, if_neg hinside]
      dsimp only
      rw [hsplit, Text.infix_barrier_iff hseparator hne]
      exact or_iff_left hcomma
  rw [Line.Parentheses.line, Line.Parentheses.line, Text.infix_barrier_iff hopen hne,
    Text.infix_barrier_iff hclose hne, Text.infix_barrier_iff hopen hne,
    Text.infix_barrier_iff hclose hne, hinside]
  rfl

variable (hname : isPropertyName name = true)

include hname

theorem isConstructorSignature_withParameter :
    Line.isConstructorSignature (withParameter group name).line =
      Line.isConstructorSignature group.line := by
  rw [Bool.eq_iff_iff, Line.isConstructorSignature_iff, Line.isConstructorSignature_iff]
  exact infix_withParameter_iff (c := 'f') hname (by decide) (by decide) (by decide) (by decide)
    (by decide) (by decide) (by decide)

theorem isClassHeader_withParameter :
    Line.isClassHeader (withParameter group name).line = Line.isClassHeader group.line := by
  rw [Bool.eq_iff_iff, Line.isClassHeader_iff, Line.isClassHeader_iff]
  refine exists_congr fun w => and_congr_right fun hword => ?_
  refine infix_withParameter_iff (c := 'c') hname ?_ ?_ ?_ ?_ ?_ ?_ (by decide)
  · exact Line.notMem_classMark hword (by decide) (by decide)
  · exact Line.notMem_classMark hword (by decide) (by decide)
  · exact Line.notMem_classMark hword (by decide) (by decide)
  · exact Line.notMem_classMark hword (by decide) (by decide)
  · exact List.mem_append_left _ (by decide)
  · exact List.mem_append_left _ (by decide)

omit hname

theorem closesWith_withParameter {c : Char} (hc : Text.isBlank c = false) (hne : ')' ≠ c) :
    Text.closesWith [c] (withParameter group name).line = Text.closesWith [c] group.line := by
  have hline : ∀ group : Line.Parentheses,
      Text.closesWith [c] group.line = Text.closesWith [c] group.after := by
    intro group
    have hsplit : group.line = (group.before ++ '(' :: group.inside) ++ ')' :: group.after := by
      simp [Line.Parentheses.line]
    rw [hsplit, Text.closesWith_behind _ _ hc (by decide) hne]
  rw [hline, hline]
  rfl

include hname

theorem notMem_inside_withParameter {c : Char} (hinside : c ∉ group.inside)
    (hc : isNameChar c = false) (hmarks : c ∉ [',', ' ', '$']) :
    c ∉ (withParameter group name).inside := by
  have hmem := notMem_name hname hc
  rw [List.mem_cons, List.mem_cons, List.mem_singleton, not_or, not_or] at hmarks
  rw [withParameter]
  split <;> simp [hinside, hmem, hmarks]

theorem newline_notMem_withParameter (hline : '\n' ∉ group.line) :
    '\n' ∉ (withParameter group name).line := by
  rw [Line.Parentheses.line] at hline ⊢
  simp only [List.mem_append, List.mem_cons, not_or] at hline ⊢
  obtain ⟨hbefore, hopen, hinside, hclose, hafter⟩ := hline
  exact ⟨hbefore, hopen, notMem_inside_withParameter hname hinside (by decide) (by decide), hclose,
    hafter⟩

theorem brace_of_withParameter {left right : Text}
    (h : (withParameter group name).inside = left ++ ['{'] ++ right) :
    ∃ rest, group.inside = left ++ ['{'] ++ rest := by
  have hbrace : '{' ∉ name := notMem_name hname (by decide)
  rw [withParameter] at h
  dsimp only at h
  split at h
  next =>
    have hmem : '{' ∈ '$' :: name := by
      rw [List.nil_append] at h
      rw [h]
      simp
    simp [hbrace] at hmem
  next =>
    have hsplit : left ++ ['{'] ++ right = group.inside ++ ',' :: (' ' :: '$' :: name) := by
      rw [← h]
      simp
    rcases Text.split_at_barrier (by decide) (by simp) hsplit with
      ⟨rest, hinside, -⟩ | ⟨between, hparameter, -⟩
    · exact ⟨rest, hinside⟩
    · have hmem : '{' ∈ ' ' :: '$' :: name := by
        rw [hparameter]
        simp
      simp [hbrace] at hmem

theorem inlineBody?_of_withParameter
    (h : (Line.inlineBody? (withParameter group name).line).isSome = true) :
    (Line.inlineBody? group.line).isSome = true := by
  obtain ⟨hclose, left, right, hline, hmark⟩ := Line.inlineBody?_isSome_iff_braces.mp h
  rw [closesWith_withParameter (by decide) (by decide)] at hclose
  refine Line.inlineBody?_isSome_iff_braces.mpr ⟨hclose, ?_⟩
  have hbrace : left ++ ['{'] ++ right = group.before ++
      '(' :: ((withParameter group name).inside ++ ')' :: group.after) := by
    rw [List.append_assoc, List.singleton_append, ← hline]
    rfl
  -- the brace stands in front of the list, in it, or behind it
  rcases Text.split_at_barrier (by decide) (by simp) hbrace with
    ⟨between, hbefore, -⟩ | ⟨between, hbehind, rfl⟩
  · exact ⟨left, between ++ '(' :: (group.inside ++ ')' :: group.after),
      by rw [Line.Parentheses.line, hbefore]; simp, hmark⟩
  · rcases Text.split_at_barrier (by decide) (by simp) hbehind.symm with
      ⟨tail, hinside, -⟩ | ⟨tail, hafter, rfl⟩
    · obtain ⟨rest, hrest⟩ := brace_of_withParameter hname hinside
      exact ⟨group.before ++ '(' :: between, rest ++ ')' :: group.after,
        by rw [Line.Parentheses.line, hrest]; simp, hmark⟩
    · refine ⟨({ group with after := tail } : Line.Parentheses).line, right, ?_, ?_⟩
      · rw [Line.Parentheses.line, Line.Parentheses.line, hafter]
        simp
      · exact (infix_withParameter_iff (c := 'f') hname (by decide) (by decide) (by decide)
          (by decide) (by decide) (by decide) (by decide)).mp hmark

end Parameter

/-! #### A new constructor -/

theorem isProperty_of_notMem {line : Text} (hline : '$' ∉ line) : Line.isProperty line = false := by
  rw [Bool.eq_false_iff, Ne, Line.isProperty_iff]
  rintro ⟨mark, hmark, hoccurs⟩
  have hdollar : ∀ mark ∈ Line.propertyMarks, '$' ∈ mark := by decide
  exact Text.not_infix_of_notMem '$' (hdollar mark hmark) hline hoccurs

theorem isConstructorSignature_freshGroup (settings : Settings) :
    Line.isConstructorSignature (freshGroup settings).line = true := by
  refine Line.isConstructorSignature_iff.mpr
    ⟨settings.indent ++ settings.constructorVisibility.keyword.toList ++ space, ['(', ')'], ?_⟩
  simp [freshGroup, Line.Parentheses.line]

theorem inlineBody?_freshGroup (settings : Settings) :
    (Line.inlineBody? (freshGroup settings).line).isSome = false := by
  rw [Bool.eq_false_iff, Ne, Line.inlineBody?_isSome_iff_braces]
  rintro ⟨hclose, -⟩
  have hsplit : (freshGroup settings).line = ((freshGroup settings).before ++ ['(']) ++ [')'] := by
    simp [freshGroup, Line.Parentheses.line]
  rw [hsplit, Text.closesWith_concat _ (by decide)] at hclose
  contradiction

section Fresh

variable (hindent : settings.indentsByBlanks = true)

include hindent

theorem isProperty_freshLine (hname : isPropertyName name = true) :
    Line.isProperty (withParameter (freshGroup settings) name).line = false := by
  rw [Bool.eq_false_iff, Ne, Line.isProperty_iff]
  rintro ⟨mark, hmark, hoccurs⟩
  have hmarks : ∀ mark ∈ Line.propertyMarks, '(' ∉ mark ∧ mark ≠ [] ∧ '$' ∈ mark ∧ ' ' ∈ mark := by
    decide
  obtain ⟨hopen, hne, hdollar, hspace⟩ := hmarks mark hmark
  rw [Line.Parentheses.line, Text.infix_barrier_iff hopen hne] at hoccurs
  rcases hoccurs with hbefore | hbehind
  · refine Text.not_infix_of_notMem '$' hdollar ?_ hbefore
    refine List.mem_append.not.mpr (not_or.mpr
      ⟨notMem_modifiers hindent _ (by decide) (by decide) ?_, by decide⟩)
    cases settings.constructorVisibility <;> decide
  · refine Text.not_infix_of_notMem ' ' hspace ?_ hbehind
    simp [withParameter, freshGroup, Text.allBlank, space_notMem_name hname]

theorem dollar_notMem_openingLine : '$' ∉ settings.indent ++ ['{'] := by
  have hdollar := Settings.notMem_indent hindent (c := '$') (by decide) (by decide)
  simpa using hdollar

theorem isInner_openingLine : Declarations.isInner (settings.indent ++ ['{']) = true := by
  refine Declarations.isInner_iff.mpr ⟨?_, Line.isNestedClose_concat _ (by decide) (by decide)⟩
  have hletter := Settings.notMem_indent hindent (c := 'f') (by decide) (by decide)
  exact Line.isConstructorSignature_of_notMem 'f' (by decide) (by simpa using hletter)

theorem closingLine_facts {blanks : Text} (hblank : blanks.allBlank = true) :
    Line.isConstructorSignature (settings.indent ++ '}' :: blanks) = false ∧
      Line.isNestedClose (settings.indent ++ '}' :: blanks) = true ∧
      Line.isProperty (settings.indent ++ '}' :: blanks) = false := by
  have hclosing : ∀ c, Text.isBlank c = false → c ≠ '}' → c ∉ settings.indent ++ '}' :: blanks := by
    intro c hc hne
    have hleft : c ∉ settings.indent := by
      refine Settings.notMem_indent hindent ?_ ?_
      · exact fun h => absurd (h ▸ hc) (by decide)
      · exact fun h => absurd (h ▸ hc) (by decide)
    rw [List.mem_append, List.mem_cons, not_or, not_or]
    exact ⟨hleft, hne, Text.notMem_of_allBlank hblank hc⟩
  refine ⟨Line.isConstructorSignature_of_notMem 'f' (by decide)
    (hclosing 'f' (by decide) (by decide)), ?_,
    isProperty_of_notMem (hclosing '$' (by decide) (by decide))⟩
  obtain ⟨c, rest, hfirst, hc⟩ := Settings.exists_indent_eq_cons hindent
  have hends : Text.closesWith ['}'] (settings.indent ++ '}' :: blanks) = true :=
    (Text.closesWith_singleton_iff (by decide)).mpr ⟨settings.indent, blanks, hblank, rfl⟩
  rw [Line.isNestedClose, hends, hfirst, Bool.and_true]
  rcases hc with rfl | rfl <;> rfl

end Fresh

theorem isInner_assignmentLine {blockIndent : Text} (hblock : blockIndent.allBlank = true)
    (hindent : settings.indentsByBlanks = true) (hname : isPropertyName name = true) :
    Declarations.isInner (assignmentLine blockIndent settings name) = true :=
  Declarations.isInner_iff.mpr
    ⟨isConstructorSignature_assignmentLine hblock hindent hname, isNestedClose_assignmentLine _⟩

/-! #### Line feeds and carriage returns -/

section Breaks

variable (hindent : settings.indentsByBlanks = true) (hname : isPropertyName name = true)

theorem dropReturn_declarationLine (settings : Settings) (name : Text) :
    Text.dropReturn (declarationLine settings name) = declarationLine settings name := by
  obtain ⟨front, hfront⟩ := declarationLine_eq_concat settings name
  rw [hfront, Text.dropReturn_of_ne front (by decide)]

theorem dropReturn_assignmentLine (blockIndent : Text) (settings : Settings) (name : Text) :
    Text.dropReturn (assignmentLine blockIndent settings name) =
      assignmentLine blockIndent settings name := by
  obtain ⟨front, hfront⟩ := assignmentLine_eq_concat blockIndent settings name
  rw [hfront, Text.dropReturn_of_ne front (by decide)]

theorem dropReturn_line (group : Line.Parentheses) :
    Text.dropReturn group.line =
      ({ group with after := Text.dropReturn group.after } : Line.Parentheses).line := by
  have hsplit : ∀ group : Line.Parentheses,
      group.line = (group.before ++ '(' :: group.inside) ++ ')' :: group.after := by
    intro group
    simp [Line.Parentheses.line]
  rw [hsplit, hsplit, Text.dropReturn_append_cons _ _ (by decide)]

include hindent

theorem newline_notMem_indent : '\n' ∉ settings.indent :=
  Settings.notMem_indent hindent (by decide) (by decide)

theorem newline_notMem_freshGroup : '\n' ∉ (freshGroup settings).line := by
  have hleft : '\n' ∉ (freshGroup settings).before := by
    refine List.mem_append.not.mpr (not_or.mpr
      ⟨notMem_modifiers hindent _ (by decide) (by decide) ?_, by decide⟩)
    cases settings.constructorVisibility <;> decide
  rw [Line.Parentheses.line, List.mem_append, not_or]
  exact ⟨hleft, by simp [freshGroup]⟩

include hname

theorem newline_notMem_declarationLine : '\n' ∉ declarationLine settings name := by
  have hleft : '\n' ∉ settings.indent ++ settings.visibility.keyword.toList ++ space := by
    refine notMem_modifiers hindent _ (by decide) (by decide) ?_
    cases settings.visibility <;> decide
  have hright : '\n' ∉ name := notMem_name hname (by decide)
  rw [declarationLine, List.mem_append, not_or]
  exact ⟨hleft, by simpa using hright⟩

theorem newline_notMem_assignmentLine {blockIndent : Text} (hblock : '\n' ∉ blockIndent) :
    '\n' ∉ assignmentLine blockIndent settings name := by
  have hmiddle := newline_notMem_indent hindent
  have hright : '\n' ∉ name := notMem_name hname (by decide)
  rw [assignmentLine_eq_around]
  simp [hblock, hmiddle, hright]

end Breaks

end Lines

end Code

end PropertyInsertion

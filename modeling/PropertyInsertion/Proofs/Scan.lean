import PropertyInsertion.Declarations
import PropertyInsertion.Proofs.Search

/-!
# What a pass over the lines finds

A pass notes line after line and stops at the line that closes the constructor. The constructor it
finds is told by the lines alone: its signature is the last one above the stop, no line between the
two closes it, and its range depends on the class line noted by then. `scan_eq` says so in both
directions.
-/

namespace PropertyInsertion

namespace Declarations

/-! ### One line -/

section Note

variable (view : View) (number : Nat) (line : Text)

def noteIf (test : Bool) (kind : LineKind) (decls : Declarations) : Declarations :=
  if test then note view number line decls kind else decls

theorem noteLine_eq (decls : Declarations) :
    decls.noteLine view number line =
      noteIf view number line (Line.isNestedClose line) .nestedClose
        (noteIf view number line (Line.isConstructorSignature line) .constructorSignature
          (noteIf view number line (Line.isProperty line) .property
            (noteIf view number line (Line.isTraitUse line) .traitUse
              (noteIf view number line (Line.isClassHeader line)
                (.classHeader (Text.closesWith ['{'] line)) decls)))) := by
  have hother : ∀ found : List LineKind,
      (if found.isEmpty then [LineKind.other] else found).foldl (note view number line) decls =
        found.foldl (note view number line) decls := by
    intro found
    cases found <;> rfl
  have hone : ∀ (test : Bool) (kind : LineKind) (before : Declarations),
      (if test then [kind] else []).foldl (note view number line) before =
        noteIf view number line test kind before := by
    intro test kind before
    cases test <;> rfl
  rw [noteLine, Line.kinds, hother, List.foldl_append, List.foldl_append, List.foldl_append,
    List.foldl_append, hone, hone, hone, hone, hone]

variable {view number line}

theorem noteIf_classLine {test : Bool} {kind : LineKind} {decls : Declarations}
    (h : ∀ braceInline, kind ≠ .classHeader braceInline) :
    (noteIf view number line test kind decls).classLine = decls.classLine := by
  unfold noteIf
  split
  · cases kind with
    | classHeader braceInline => exact absurd rfl (h braceInline)
    | traitUse => rw [note]; split <;> rfl
    | constructorSignature => rw [note]; split <;> rfl
    | property => rfl
    | nestedClose => rfl
    | other => rfl
  · rfl

theorem noteLine_classLine (decls : Declarations) :
    (decls.noteLine view number line).classLine =
      if Line.isClassHeader line then
        some (if Text.closesWith ['{'] line then number else number + 1)
      else decls.classLine := by
  rw [noteLine_eq, noteIf_classLine (by simp), noteIf_classLine (by simp),
    noteIf_classLine (by simp), noteIf_classLine (by simp), noteIf]
  split <;> rfl

theorem noteIf_traitUseLine {test : Bool} {kind : LineKind} {decls : Declarations}
    (h : kind ≠ .traitUse) :
    (noteIf view number line test kind decls).traitUseLine = decls.traitUseLine := by
  unfold noteIf
  split
  · cases kind with
    | traitUse => exact absurd rfl h
    | constructorSignature => rw [note]; split <;> rfl
    | classHeader braceInline => rfl
    | property => rfl
    | nestedClose => rfl
    | other => rfl
  · rfl

/-- A trait use counts if a class is named above it or on its own line. -/
theorem noteLine_traitUseLine (decls : Declarations) :
    (decls.noteLine view number line).traitUseLine =
      if Line.isTraitUse line && (decls.noteLine view number line).classLine.isSome then some number
      else decls.traitUseLine := by
  rw [noteLine_eq, noteIf_classLine (by simp), noteIf_classLine (by simp),
    noteIf_classLine (by simp), noteIf_classLine (by simp), noteIf_traitUseLine (by simp),
    noteIf_traitUseLine (by simp), noteIf_traitUseLine (by simp),
    noteIf.eq_1 _ _ _ (Line.isTraitUse line)]
  split
  next huse =>
    rw [note, huse, Bool.true_and]
    split
    · rfl
    · exact noteIf_traitUseLine (by simp)
  next huse =>
    rw [Bool.eq_false_iff.mpr huse, Bool.false_and]
    exact noteIf_traitUseLine (by simp)

theorem noteIf_lastPropertyLine {test : Bool} {kind : LineKind} {decls : Declarations}
    (h : kind ≠ .property) :
    (noteIf view number line test kind decls).lastPropertyLine = decls.lastPropertyLine := by
  unfold noteIf
  split
  · cases kind with
    | property => exact absurd rfl h
    | traitUse => rw [note]; split <;> rfl
    | constructorSignature => rw [note]; split <;> rfl
    | classHeader braceInline => rfl
    | nestedClose => rfl
    | other => rfl
  · rfl

theorem noteLine_lastPropertyLine (decls : Declarations) :
    (decls.noteLine view number line).lastPropertyLine =
      if Line.isProperty line then (view.propertyEnd? number).or decls.lastPropertyLine
      else decls.lastPropertyLine := by
  rw [noteLine_eq, noteIf_lastPropertyLine (by simp), noteIf_lastPropertyLine (by simp), noteIf]
  split
  · rw [note, noteIf_lastPropertyLine (by simp), noteIf_lastPropertyLine (by simp)]
  · rw [noteIf_lastPropertyLine (by simp), noteIf_lastPropertyLine (by simp)]

theorem noteIf_constructor? {test : Bool} {kind : LineKind} {decls : Declarations}
    (hsignature : kind ≠ .constructorSignature) (hclose : kind ≠ .nestedClose) :
    (noteIf view number line test kind decls).constructor? = decls.constructor? := by
  unfold noteIf
  split
  · cases kind with
    | constructorSignature => exact absurd rfl hsignature
    | nestedClose => exact absurd rfl hclose
    | traitUse => rw [note]; split <;> rfl
    | property => rfl
    | classHeader braceInline => rfl
    | other => rfl
  · rfl

/-- A signature takes the place of any constructor noted before, and is not closed by a brace at
the end of its own line unless its body is inline. -/
theorem noteLine_constructor?_of_signature {decls : Declarations} {range : Range}
    (hsignature : Line.isConstructorSignature line = true)
    (hrange : view.constructorRange? number
      ((decls.noteLine view number line).classLine.getD 0) = some range) :
    (decls.noteLine view number line).constructor? =
      some ⟨number, range, if (Line.inlineBody? line).isSome then some number else none⟩ := by
  rw [noteLine_eq, noteIf_classLine (by simp), noteIf_classLine (by simp)] at hrange
  rw [noteLine_eq]
  generalize noteIf view number line (Line.isProperty line) .property _ = before at hrange ⊢
  have hnote : (noteIf view number line (Line.isConstructorSignature line)
      .constructorSignature before).constructor? =
        some ⟨number, range, if (Line.inlineBody? line).isSome then some number else none⟩ := by
    rw [noteIf, if_pos hsignature, note, hrange]
  rw [noteIf]
  split
  · rw [note, hnote]
    simp
  · exact hnote

theorem noteLine_constructor?_of_not_signature {decls : Declarations}
    (hsignature : Line.isConstructorSignature line = false) :
    (decls.noteLine view number line).constructor? =
      if Line.isNestedClose line then
        decls.constructor?.map fun ctor =>
          if ctor.line < number then { ctor with closingLine := some number } else ctor
      else decls.constructor? := by
  rw [noteLine_eq, hsignature]
  have hbefore : (noteIf view number line false .constructorSignature
      (noteIf view number line (Line.isProperty line) .property
        (noteIf view number line (Line.isTraitUse line) .traitUse
          (noteIf view number line (Line.isClassHeader line)
            (.classHeader (Text.closesWith ['{'] line)) decls)))).constructor? =
      decls.constructor? := by
    rw [noteIf, if_neg Bool.false_ne_true, noteIf_constructor? (by simp) (by simp),
      noteIf_constructor? (by simp) (by simp), noteIf_constructor? (by simp) (by simp)]
  rw [noteIf]
  split
  · rw [note, hbefore]
  · exact hbefore

end Note

end Declarations

/-! ### Views that show given lines -/

/-- The view shows these lines from line `number` on. -/
def View.Shows (view : View) (number : Nat) (lines : List Text) : Prop :=
  ∀ (i : Nat) (line : Text), lines[i]? = some line → view.lineText? (number + i) = some line

theorem View.Shows.head {view : View} {number : Nat} {line : Text} {rest : List Text}
    (h : view.Shows number (line :: rest)) : view.lineText? number = some line :=
  h 0 line rfl

theorem View.Shows.tail {view : View} {number : Nat} {line : Text} {rest : List Text}
    (h : view.Shows number (line :: rest)) : view.Shows (number + 1) rest := by
  intro i other hother
  rw [Nat.add_assoc, Nat.add_comm 1 i]
  exact h (i + 1) other (by simpa using hother)

theorem Document.view_shows {doc : Document} {above lines below : List Text}
    (h : doc.lines = above ++ lines ++ below) : doc.view.Shows above.length lines := by
  intro i line hline
  have hi : i < lines.length := (List.getElem?_eq_some_iff.mp hline).1
  rw [Document.view_lineText?, Document.lineText?, h, List.append_assoc,
    List.getElem?_append_right (Nat.le_add_right _ _), Nat.add_sub_cancel_left,
    List.getElem?_append_left hi, hline]

theorem View.exists_constructorRange? {view : View} {number : Nat} {line : Text} (lowerBound : Nat)
    (h : view.lineText? number = some line) :
    ∃ range, view.constructorRange? number lowerBound = some range := by
  rw [View.constructorRange?, View.lineRange?, h]
  simp only [Option.map_some, bind, Option.bind_some, pure]
  split
  · exact ⟨_, rfl⟩
  · split <;> exact ⟨_, rfl⟩

theorem Line.isConstructorSignature_of_inlineBody? {line : Text}
    (h : (Line.inlineBody? line).isSome = true) : Line.isConstructorSignature line = true := by
  rw [Line.inlineBody?] at h
  cases hcut : Text.cut? Line.constructorMark line with
  | none => simp [hcut] at h
  | some sides =>
      obtain ⟨before, after⟩ := sides
      rw [Line.isConstructorSignature, Text.occursIn_iff, Text.cut?_eq_some hcut]
      exact List.infix_append before Line.constructorMark after

theorem Line.inlineBody?_isSome_of_not_signature {line : Text}
    (h : Line.isConstructorSignature line = false) : (Line.inlineBody? line).isSome = false := by
  by_contra hsome
  rw [Line.isConstructorSignature_of_inlineBody? (Bool.of_not_eq_false hsome)] at h
  contradiction

namespace Declarations

/-! ### Passing over lines -/

/-- The lines noted one after the other, the first of them as line `number`. -/
def noteLines (view : View) : Nat → List Text → Declarations → Declarations
  | _, [], decls => decls
  | number, line :: rest, decls =>
    noteLines view (number + 1) rest (decls.noteLine view number line)

theorem noteLines_append (view : View) (number : Nat) (front back : List Text)
    (decls : Declarations) :
    noteLines view number (front ++ back) decls =
      noteLines view (number + front.length) back (noteLines view number front decls) := by
  induction front generalizing number decls with
  | nil => rfl
  | cons line front ih =>
      rw [List.cons_append, noteLines, ih, noteLines, List.length_cons, Nat.add_assoc,
        Nat.add_comm 1]

theorem noteLines_lastPropertyLine {view : View} {number : Nat} {lines : List Text}
    {decls : Declarations} (h : ∀ line ∈ lines, Line.isProperty line = false) :
    (noteLines view number lines decls).lastPropertyLine = decls.lastPropertyLine := by
  induction lines generalizing number decls with
  | nil => rfl
  | cons line lines ih =>
      rw [noteLines, ih fun other hother => h other (List.mem_cons_of_mem line hother),
        noteLine_lastPropertyLine, h line List.mem_cons_self]
      rfl

/-- The line closes a constructor, where `seen` says whether a signature stands above it. -/
def closes (seen : Bool) (line : Text) : Bool :=
  (Line.inlineBody? line).isSome ||
    (seen && !Line.isConstructorSignature line && Line.isNestedClose line)

/-- None of the lines closes a constructor. -/
def staysOpen : Bool → List Text → Bool
  | _, [] => true
  | seen, line :: rest =>
    !closes seen line && staysOpen (seen || Line.isConstructorSignature line) rest

theorem staysOpen_append (seen : Bool) (front back : List Text) :
    staysOpen seen (front ++ back) =
      (staysOpen seen front && staysOpen (seen || front.any Line.isConstructorSignature) back) := by
  induction front generalizing seen with
  | nil => simp [staysOpen]
  | cons line front ih => simp [staysOpen, ih, Bool.and_assoc, Bool.or_assoc]

theorem staysOpen_of_no_signature {lines : List Text}
    (h : ∀ line ∈ lines, Line.isConstructorSignature line = false) :
    staysOpen false lines = true := by
  induction lines with
  | nil => rfl
  | cons line lines ih =>
      have hline := h line List.mem_cons_self
      rw [staysOpen, closes, Line.inlineBody?_isSome_of_not_signature hline, hline]
      exact ih fun other hother => h other (List.mem_cons_of_mem line hother)

theorem staysOpen_or_exists_closes (seen : Bool) (lines : List Text) :
    staysOpen seen lines = true ∨
      ∃ front line rest, lines = front ++ line :: rest ∧ staysOpen seen front = true ∧
        closes (seen || front.any Line.isConstructorSignature) line = true := by
  induction lines generalizing seen with
  | nil => exact Or.inl rfl
  | cons line lines ih =>
      by_cases hline : closes seen line = true
      · exact Or.inr ⟨[], line, lines, rfl, rfl, by simpa using hline⟩
      · rcases ih (seen || Line.isConstructorSignature line) with hopen | ⟨front, next, rest, hrest⟩
        · exact Or.inl (by simp [staysOpen, hline, hopen])
        · obtain ⟨rfl, hopen, hnext⟩ := hrest
          refine Or.inr ⟨line :: front, next, rest, rfl, by simp [staysOpen, hline, hopen], ?_⟩
          rw [List.any_cons, ← Bool.or_assoc]
          exact hnext

/-- A pass that has come to line `number` without finding the end of a constructor. -/
structure Open (seen : Bool) (number : Nat) (decls : Declarations) : Prop where
  isSome_eq : decls.constructor?.isSome = seen
  notClosed : decls.isClosed = false
  above : ∀ ctor, decls.constructor? = some ctor → ctor.line < number

theorem open_empty : Open false 0 {} := ⟨rfl, rfl, nofun⟩

section Pass

variable {view : View} {number : Nat} {seen : Bool} {decls : Declarations}

theorem Open.noteLine {line : Text} (hopen : Open seen number decls)
    (hline : view.lineText? number = some line) (hcloses : closes seen line = false) :
    Open (seen || Line.isConstructorSignature line) (number + 1)
      (decls.noteLine view number line) := by
  rw [closes, Bool.or_eq_false_iff] at hcloses
  by_cases hsignature : Line.isConstructorSignature line = true
  · obtain ⟨range, hrange⟩ := View.exists_constructorRange?
      ((decls.noteLine view number line).classLine.getD 0) hline
    have hctor := noteLine_constructor?_of_signature hsignature hrange
    rw [hcloses.1] at hctor
    refine ⟨by simp [hctor, hsignature], by simp [isClosed, hctor], ?_⟩
    intro ctor hsome
    rw [hctor] at hsome
    rw [← Option.some.inj hsome]
    exact Nat.lt_succ_self number
  · rw [Bool.not_eq_true] at hsignature
    have hctor : (decls.noteLine view number line).constructor? = decls.constructor? := by
      rw [noteLine_constructor?_of_not_signature hsignature]
      split
      next hnested =>
        -- without a signature above there is nothing to close
        have hseen : seen = false := by simpa [hsignature, hnested] using hcloses.2
        have hnone : decls.constructor? = none := by
          rw [← Option.isNone_iff_eq_none, ← Option.not_isSome, hopen.isSome_eq, hseen]
          rfl
        rw [hnone, Option.map_none]
      next => rfl
    refine ⟨by rw [hctor, hopen.isSome_eq, hsignature, Bool.or_false], ?_, ?_⟩
    · rw [isClosed, hctor]
      exact hopen.notClosed
    · intro ctor hsome
      rw [hctor] at hsome
      exact Nat.lt_succ_of_lt (hopen.above ctor hsome)

theorem Open.isClosed_noteLine {line : Text} (hopen : Open seen number decls)
    (hline : view.lineText? number = some line) (hcloses : closes seen line = true) :
    (decls.noteLine view number line).isClosed = true := by
  rw [closes, Bool.or_eq_true, Bool.and_eq_true, Bool.and_eq_true] at hcloses
  rcases hcloses with hinline | ⟨⟨hseen, hsignature⟩, hnested⟩
  · obtain ⟨range, hrange⟩ := View.exists_constructorRange?
      ((decls.noteLine view number line).classLine.getD 0) hline
    have hctor := noteLine_constructor?_of_signature
      (Line.isConstructorSignature_of_inlineBody? hinline) hrange
    simp [isClosed, hctor, hinline]
  · rw [Bool.not_eq_true'] at hsignature
    obtain ⟨ctor, hctor⟩ := Option.isSome_iff_exists.mp (hopen.isSome_eq.trans hseen)
    have hnote : (decls.noteLine view number line).constructor? = _ :=
      noteLine_constructor?_of_not_signature hsignature
    rw [if_pos hnested, hctor, Option.map_some, if_pos (hopen.above ctor hctor)] at hnote
    simp [isClosed, hnote]

/-- Lines that close no constructor are noted, and the pass goes on behind them. -/
theorem Open.noteLines {lines : List Text} (hopen : Open seen number decls)
    (hlines : view.Shows number lines) (hstays : staysOpen seen lines = true) (count : Nat) :
    Open (seen || lines.any Line.isConstructorSignature) (number + lines.length)
        (noteLines view number lines decls) ∧
      scanFrom view (lines.length + count) number decls =
        scanFrom view count (number + lines.length) (noteLines view number lines decls) := by
  induction lines generalizing number seen decls with
  | nil =>
      rw [List.any_nil, Bool.or_false, List.length_nil, Nat.zero_add]
      exact ⟨hopen, rfl⟩
  | cons line lines ih =>
      rw [staysOpen, Bool.and_eq_true, Bool.not_eq_true'] at hstays
      have hstep := hopen.noteLine hlines.head hstays.1
      obtain ⟨hrest, hscan⟩ := ih hstep hlines.tail hstays.2
      have hlength : number + (line :: lines).length = number + 1 + lines.length := by
        rw [List.length_cons]
        omega
      rw [List.any_cons, ← Bool.or_assoc, hlength, Declarations.noteLines]
      refine ⟨hrest, ?_⟩
      rw [← hscan, List.length_cons, Nat.add_right_comm, scanFrom, hlines.head]
      simp only [hstep.notClosed, Bool.false_eq_true, if_false]

end Pass

variable {doc : Document}

theorem scan_of_staysOpen (h : staysOpen false doc.lines = true) :
    scan doc.view = noteLines doc.view 0 doc.lines {} := by
  have hsplit : doc.lines = [] ++ doc.lines ++ [] := by simp
  have hpass := (open_empty.noteLines (Document.view_shows hsplit) h 0).2
  rw [scanFrom] at hpass
  exact hpass

theorem scan_of_closes {front rest : List Text} {line : Text}
    (hlines : doc.lines = front ++ line :: rest) (hstays : staysOpen false front = true)
    (hcloses : closes (front.any Line.isConstructorSignature) line = true) :
    scan doc.view = noteLines doc.view 0 (front ++ [line]) {} := by
  have hfront : doc.view.Shows 0 front := by
    have hsplit : doc.lines = [] ++ front ++ line :: rest := by rw [hlines, List.nil_append]
    exact Document.view_shows hsplit
  have hline : doc.view.lineText? front.length = some line := by
    have hsplit : doc.lines = front ++ [line] ++ rest := by rw [hlines]; simp
    exact (Document.view_shows hsplit).head
  have hcount : doc.view.lineCount = front.length + (rest.length + 1) := by
    change doc.lines.length = _
    rw [hlines, List.length_append, List.length_cons]
  obtain ⟨hopen, hpass⟩ := open_empty.noteLines hfront hstays (rest.length + 1)
  rw [Bool.false_or, Nat.zero_add] at hopen
  have hclosed := hopen.isClosed_noteLine hline hcloses
  rw [Nat.zero_add, scanFrom, hline] at hpass
  simp only [hclosed, if_true] at hpass
  rw [scan, hcount, hpass, noteLines_append, Nat.zero_add]
  rfl

/-! ### The class line -/

/-- The class line after the lines from line `number` on, given the one found above them. -/
def classLineFrom : Nat → Option Nat → List Text → Option Nat
  | _, found, [] => found
  | number, found, line :: rest =>
    classLineFrom (number + 1)
      (if Line.isClassHeader line then
        some (if Text.closesWith ['{'] line then number else number + 1)
      else found) rest

theorem noteLines_classLine (view : View) (number : Nat) (lines : List Text)
    (decls : Declarations) :
    (noteLines view number lines decls).classLine = classLineFrom number decls.classLine lines := by
  induction lines generalizing number decls with
  | nil => rfl
  | cons line lines ih => rw [noteLines, ih, noteLine_classLine, classLineFrom]

theorem classLineFrom_append (number : Nat) (found : Option Nat) (front back : List Text) :
    classLineFrom number found (front ++ back) =
      classLineFrom (number + front.length) (classLineFrom number found front) back := by
  induction front generalizing number found with
  | nil => rfl
  | cons line front ih =>
      rw [List.cons_append, classLineFrom, ih, classLineFrom, List.length_cons, Nat.add_assoc,
        Nat.add_comm 1]

theorem classLineFrom_le {lines : List Text} {found : Option Nat} {number : Nat}
    (hfound : found.getD 0 ≤ number) :
    (classLineFrom number found lines).getD 0 ≤ number + lines.length := by
  induction lines generalizing number found with
  | nil => exact hfound
  | cons line lines ih =>
      rw [classLineFrom, List.length_cons, ← Nat.add_assoc, Nat.add_right_comm]
      refine ih ?_
      split
      · split <;> simp only [Option.getD_some] <;> omega
      · omega

/-- Lines that name no other classes than the lines `shift` further up give a class line that is
further down by no more than `shift`. -/
theorem classLineFrom_shift_le {lines lines' : List Text} {found found' : Option Nat}
    {number shift : Nat}
    (halike : List.Forall₂ (fun line line' => Line.isClassHeader line' = true →
      Line.isClassHeader line = true ∧
        (Text.closesWith ['{'] line = true → Text.closesWith ['{'] line' = true)) lines lines')
    (hfound : found'.getD 0 ≤ found.getD 0 + shift) (hnumber : found'.getD 0 ≤ number + shift) :
    (classLineFrom (number + shift) found' lines').getD 0 ≤
      (classLineFrom number found lines).getD 0 + shift := by
  induction halike generalizing number found found' with
  | nil => exact hfound
  | @cons line line' _ _ hline _ ih =>
      rw [classLineFrom, classLineFrom, Nat.add_right_comm number shift 1]
      by_cases hheader' : Line.isClassHeader line' = true
      · obtain ⟨hheader, hbrace⟩ := hline hheader'
        rw [if_pos hheader', if_pos hheader]
        refine ih ?_ ?_
        · by_cases hcloses : Text.closesWith ['{'] line = true
          · simp [hcloses, hbrace hcloses]
          · rw [if_neg hcloses]
            split <;> simp only [Option.getD_some] <;> omega
        · split <;> simp only [Option.getD_some] <;> omega
      · rw [if_neg hheader']
        refine ih ?_ (by omega)
        split
        · split <;> simp only [Option.getD_some] <;> omega
        · exact hfound

/-! ### The constructor -/

theorem noteLines_constructor? {view : View} {number : Nat} {lines : List Text}
    {decls : Declarations}
    (hsignature : ∀ line ∈ lines, Line.isConstructorSignature line = false)
    (hclose : decls.constructor? = none ∨ ∀ line ∈ lines, Line.isNestedClose line = false) :
    (noteLines view number lines decls).constructor? = decls.constructor? := by
  induction lines generalizing number decls with
  | nil => rfl
  | cons line lines ih =>
      have hline : (decls.noteLine view number line).constructor? = decls.constructor? := by
        rw [noteLine_constructor?_of_not_signature (hsignature line List.mem_cons_self)]
        rcases hclose with hnone | hclose
        · rw [hnone]
          split <;> rfl
        · rw [if_neg (by rw [hclose line List.mem_cons_self]; exact Bool.false_ne_true)]
      rw [noteLines, ih, hline]
      · exact fun other hother => hsignature other (List.mem_cons_of_mem line hother)
      · rw [hline]
        exact hclose.imp_right fun h other hother => h other (List.mem_cons_of_mem line hother)

theorem scan_constructor?_of_no_signature
    (h : ∀ line ∈ doc.lines, Line.isConstructorSignature line = false) :
    (scan doc.view).constructor? = none := by
  rw [scan_of_staysOpen (staysOpen_of_no_signature h), noteLines_constructor? h (Or.inl rfl)]

/-- The lower bound for the docblock of a signature below `front`. -/
def lowerBound (front : List Text) (signature : Text) : Nat :=
  (classLineFrom 0 none (front ++ [signature])).getD 0

theorem noteLines_constructor?_of_signature {view : View} {front : List Text} {signature : Text}
    {range : Range} (hsignature : Line.isConstructorSignature signature = true)
    (hrange : view.constructorRange? front.length (lowerBound front signature) = some range) :
    (noteLines view 0 (front ++ [signature]) {}).constructor? =
      some ⟨front.length, range,
        if (Line.inlineBody? signature).isSome then some front.length else none⟩ := by
  have hclass := noteLines_classLine view 0 (front ++ [signature]) {}
  rw [noteLines_append, Nat.zero_add, noteLines, noteLines] at hclass ⊢
  refine noteLine_constructor?_of_signature hsignature ?_
  rw [hclass]
  exact hrange

/-- A line of a constructor's body, as far as a pass can tell. -/
def isInner (line : Text) : Bool :=
  !Line.isConstructorSignature line && !Line.isNestedClose line

theorem isInner_iff {line : Text} :
    isInner line = true ↔
      Line.isConstructorSignature line = false ∧ Line.isNestedClose line = false := by
  rw [isInner, Bool.and_eq_true, Bool.not_eq_true', Bool.not_eq_true']

theorem staysOpen_of_isInner (seen : Bool) {lines : List Text}
    (h : ∀ line ∈ lines, isInner line = true) : staysOpen seen lines = true := by
  induction lines generalizing seen with
  | nil => rfl
  | cons line lines ih =>
      have hline := isInner_iff.mp (h line List.mem_cons_self)
      rw [staysOpen, closes, Line.inlineBody?_isSome_of_not_signature hline.1, hline.2,
        Bool.and_false, Bool.or_false, Bool.not_false, Bool.true_and]
      exact ih _ fun other hother => h other (List.mem_cons_of_mem line hother)

theorem isInner_of_staysOpen {lines : List Text} (hstays : staysOpen true lines = true)
    (hsignature : ∀ line ∈ lines, Line.isConstructorSignature line = false) :
    ∀ line ∈ lines, isInner line = true := by
  induction lines with
  | nil => exact fun line hline => absurd hline List.not_mem_nil
  | cons first lines ih =>
      have hfirst := hsignature first List.mem_cons_self
      rw [staysOpen, closes, hfirst, Bool.and_eq_true, Bool.or_false] at hstays
      have hopen : Line.isNestedClose first = false := by
        by_contra hnested
        rw [Bool.not_eq_false] at hnested
        simp [hnested] at hstays
      intro line hline
      rcases List.mem_cons.mp hline with rfl | hline
      · exact isInner_iff.mpr ⟨hfirst, hopen⟩
      · exact ih hstays.2 (fun other hother => hsignature other (List.mem_cons_of_mem first hother))
          line hline

/-- How a constructor with its signature on line `number` ends: on that line, at the line that
closes its body, or not at all. -/
inductive Ends (number : Nat) (signature : Text) (below : List Text) : Option Nat → Prop
  | inline (hinline : (Line.inlineBody? signature).isSome = true) :
    Ends number signature below (some number)
  | block (body : List Text) (closing : Text) (rest : List Text)
    (hinline : (Line.inlineBody? signature).isSome = false)
    (hbelow : below = body ++ closing :: rest) (hbody : ∀ line ∈ body, isInner line = true)
    (hsignature : Line.isConstructorSignature closing = false)
    (hclosing : Line.isNestedClose closing = true) :
    Ends number signature below (some (number + 1 + body.length))
  | never (hinline : (Line.inlineBody? signature).isSome = false)
    (hbody : ∀ line ∈ below, isInner line = true) : Ends number signature below none

/-- The constructor stands at `signature`, with `front` above it and `below` behind it. -/
structure Located (doc : Document) (ctor : Constructor) (front : List Text) (signature : Text)
    (below : List Text) : Prop where
  lines : doc.lines = front ++ signature :: below
  line : ctor.line = front.length
  staysOpen : staysOpen false front = true
  isSignature : Line.isConstructorSignature signature = true
  range : doc.view.constructorRange? front.length (lowerBound front signature) = some ctor.range
  ends : Ends front.length signature below ctor.closingLine

/-- The lines of a body do not end the constructor above them. -/
theorem staysOpen_of_body {front body : List Text} {signature : Text}
    (hstays : staysOpen false front = true)
    (hsignature : Line.isConstructorSignature signature = true)
    (hinline : (Line.inlineBody? signature).isSome = false)
    (hbody : ∀ line ∈ body, isInner line = true) :
    staysOpen false (front ++ signature :: body) = true := by
  rw [staysOpen_append, hstays, staysOpen, closes, hinline, hsignature]
  simpa using staysOpen_of_isInner true hbody

theorem scan_of_block {front body rest : List Text} {signature closing : Text}
    (hlines : doc.lines = front ++ signature :: (body ++ closing :: rest))
    (hstays : staysOpen false front = true)
    (hsignature : Line.isConstructorSignature signature = true)
    (hinline : (Line.inlineBody? signature).isSome = false)
    (hbody : ∀ line ∈ body, isInner line = true)
    (hclosingSignature : Line.isConstructorSignature closing = false)
    (hclosing : Line.isNestedClose closing = true) :
    scan doc.view = noteLines doc.view 0 (front ++ signature :: body ++ [closing]) {} := by
  have hsplit : doc.lines = (front ++ signature :: body) ++ closing :: rest := by
    rw [hlines]
    simp
  refine scan_of_closes hsplit (staysOpen_of_body hstays hsignature hinline hbody) ?_
  rw [closes, hclosingSignature, hclosing]
  simp [hsignature]

/-- The pass finds the constructor that stands where it is said to stand. -/
theorem Located.scan_eq {ctor : Constructor} {front below : List Text} {signature : Text}
    (h : Located doc ctor front signature below) : (scan doc.view).constructor? = some ctor := by
  obtain ⟨hlines, hline, hstays, hsignature, hrange, hends⟩ := h
  obtain ⟨line, range, closingLine⟩ := ctor
  obtain rfl : line = front.length := hline
  have hnoted := noteLines_constructor?_of_signature hsignature hrange
  have hinside : ∀ {body : List Text}, (∀ line ∈ body, isInner line = true) →
      (noteLines doc.view 0 (front ++ signature :: body) {}).constructor? =
        (noteLines doc.view 0 (front ++ [signature]) {}).constructor? := by
    intro body hbody
    have hsplit : front ++ signature :: body = (front ++ [signature]) ++ body := by simp
    rw [hsplit, noteLines_append, noteLines_constructor?]
    · exact fun line hmem => (isInner_iff.mp (hbody line hmem)).1
    · exact Or.inr fun line hmem => (isInner_iff.mp (hbody line hmem)).2
  cases hends with
  | inline hinline =>
      rw [scan_of_closes hlines hstays (by rw [closes, hinline, Bool.true_or]), hnoted, hinline]
      rfl
  | block body closing rest hinline hbelow hbody hclosingSignature hclosing =>
      rw [hbelow] at hlines
      rw [hinline] at hnoted
      have hinner := hnoted
      rw [← hinside hbody] at hinner
      rw [scan_of_block hlines hstays hsignature hinline hbody hclosingSignature hclosing,
        noteLines_append, noteLines, noteLines,
        noteLine_constructor?_of_not_signature hclosingSignature, if_pos hclosing, hinner]
      simp
      omega
  | never hinline hbody =>
      have hstaysAll : Declarations.staysOpen false doc.lines = true := by
        rw [hlines]
        exact staysOpen_of_body hstays hsignature hinline hbody
      rw [scan_of_staysOpen hstaysAll, hlines, hinside hbody, hnoted, hinline]
      rfl

theorem exists_last {test : Text → Bool} {lines : List Text} (h : lines.any test = true) :
    ∃ front line below, lines = front ++ line :: below ∧ test line = true ∧
      ∀ other ∈ below, test other = false := by
  have hsome : (lines.reverse.find? test).isSome = true := by simpa using h
  obtain ⟨line, hline⟩ := Option.isSome_iff_exists.mp hsome
  obtain ⟨htest, back, front, hsplit, hback⟩ := List.find?_eq_some_iff_append.mp hline
  refine ⟨front.reverse, line, back.reverse, ?_, htest, ?_⟩
  · rw [← List.reverse_reverse lines, hsplit]
    simp
  · intro other hother
    simpa using hback other (List.mem_reverse.mp hother)

theorem exists_located_of_ends {front below : List Text} {signature : Text} {ending : Option Nat}
    (hlines : doc.lines = front ++ signature :: below) (hstays : staysOpen false front = true)
    (hsignature : Line.isConstructorSignature signature = true)
    (hends : Ends front.length signature below ending) :
    ∃ ctor, Located doc ctor front signature below := by
  have hline : doc.view.lineText? front.length = some signature := by
    have hsplit : doc.lines = front ++ [signature] ++ below := by rw [hlines]; simp
    exact (Document.view_shows hsplit).head
  obtain ⟨range, hrange⟩ := View.exists_constructorRange? (lowerBound front signature) hline
  exact ⟨⟨front.length, range, ending⟩, hlines, rfl, hstays, hsignature, hrange, hends⟩

theorem exists_located (h : doc.lines.any Line.isConstructorSignature = true) :
    ∃ ctor front signature below, Located doc ctor front signature below := by
  rcases staysOpen_or_exists_closes false doc.lines with
    hstays | ⟨front, line, rest, hlines, hstays, hcloses⟩
  · -- no constructor is closed: the last signature starts the one that is found
    obtain ⟨front, signature, below, hlines, hsignature, hbelow⟩ := exists_last h
    rw [hlines, staysOpen_append, Bool.and_eq_true, staysOpen, Bool.and_eq_true, closes, hsignature,
      Bool.or_true] at hstays
    obtain ⟨hfront, hinline, hstaysBelow⟩ := hstays
    have hbody := isInner_of_staysOpen hstaysBelow hbelow
    obtain ⟨ctor, hctor⟩ := exists_located_of_ends hlines hfront hsignature
      (.never (by simpa using hinline) hbody)
    exact ⟨ctor, front, signature, below, hctor⟩
  · rw [Bool.false_or] at hcloses
    by_cases hsignature : Line.isConstructorSignature line = true
    · have hinline : (Line.inlineBody? line).isSome = true := by
        simpa [closes, hsignature] using hcloses
      obtain ⟨ctor, hctor⟩ := exists_located_of_ends hlines hstays hsignature (.inline hinline)
      exact ⟨ctor, front, line, rest, hctor⟩
    · rw [Bool.not_eq_true] at hsignature
      have hinline := Line.inlineBody?_isSome_of_not_signature hsignature
      rw [closes, hinline, hsignature, Bool.false_or, Bool.not_false, Bool.and_true,
        Bool.and_eq_true] at hcloses
      obtain ⟨above, signature, body, rfl, hfound, hbelow⟩ := exists_last hcloses.1
      rw [staysOpen_append, Bool.and_eq_true, staysOpen, Bool.and_eq_true, closes, hfound,
        Bool.or_true] at hstays
      obtain ⟨hfront, hsignatureInline, hstaysBelow⟩ := hstays
      have hsplit : doc.lines = above ++ signature :: (body ++ line :: rest) := by
        rw [hlines]
        simp
      obtain ⟨ctor, hctor⟩ := exists_located_of_ends hsplit hfront hfound
        (.block body line rest (by simpa using hsignatureInline) rfl
          (isInner_of_staysOpen hstaysBelow hbelow) hsignature hcloses.2)
      exact ⟨ctor, above, signature, body ++ line :: rest, hctor⟩

/-- **The constructor of a document.** A pass finds a constructor exactly where its signature is
the last one above the line that closes it. -/
theorem scan_constructor?_eq_some_iff {ctor : Constructor} :
    (scan doc.view).constructor? = some ctor ↔
      ∃ front signature below, Located doc ctor front signature below := by
  constructor
  · intro h
    by_cases hany : doc.lines.any Line.isConstructorSignature = true
    · obtain ⟨ctor', front, signature, below, hlocated⟩ := exists_located hany
      obtain rfl : ctor' = ctor := Option.some.inj (hlocated.scan_eq.symm.trans h)
      exact ⟨front, signature, below, hlocated⟩
    · rw [scan_constructor?_of_no_signature (by simpa using hany)] at h
      contradiction
  · rintro ⟨front, signature, below, hlocated⟩
    exact hlocated.scan_eq

theorem scan_constructor?_eq_none_iff :
    (scan doc.view).constructor? = none ↔
      ∀ line ∈ doc.lines, Line.isConstructorSignature line = false := by
  constructor
  · intro h
    by_contra hsome
    have hany : doc.lines.any Line.isConstructorSignature = true := by simpa using hsome
    obtain ⟨ctor, front, signature, below, hlocated⟩ := exists_located hany
    rw [hlocated.scan_eq] at h
    contradiction
  · exact scan_constructor?_of_no_signature

end Declarations

end PropertyInsertion

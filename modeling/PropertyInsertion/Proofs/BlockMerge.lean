import PropertyInsertion.Proofs.GeneratedLines
import PropertyInsertion.Proofs.Ranges

/-!
# Extending a constructor that has its own lines

The plan for a constructor that closes below its signature replaces it by its own text with a
declaration in front, a parameter more and an assignment more. The main statement spells out the
text after the edit, character by character.
-/

namespace PropertyInsertion

/-- The lines from line `first` down to the one above line `last`. -/
def Document.stretch (doc : Document) (first last : Nat) : List Text :=
  (doc.lines.drop first).take (last - first)

theorem Document.linesOrError_stretch {doc : Document} {first last : Nat}
    (hlast : last ≤ doc.lineCount) (hle : first ≤ last) :
    doc.view.linesOrError first (last - first) = .ok (doc.stretch first last) := by
  rw [View.linesOrError_eq_ok_iff, stretch]
  constructor
  · rw [List.length_take, List.length_drop]
    rw [lineCount] at hlast
    omega
  · intro i line hline
    rw [List.getElem?_take] at hline
    split at hline
    next =>
      rw [List.getElem?_drop] at hline
      rw [view_lineText?, lineText?, hline]
    next => contradiction

namespace Plan

open Code Declarations

/-! ### The signature -/

/-- The line that the parameter goes on: the first line of the constructor or, below a docblock,
the first line with a signature. -/
def IsParameterLine (doc : Document) (ctor : Constructor) (number : Nat) : Prop :=
  if ctor.hasDocblock then
    ctor.range.start.line ≤ number ∧
      (∃ line, doc.lineText? number = some line ∧ Line.isConstructorSignature line = true) ∧
      ∀ other line, ctor.range.start.line ≤ other → other < number →
        doc.lineText? other = some line → Line.isConstructorSignature line = false
  else number = ctor.range.start.line

theorem signature_eq_ok_iff_of_docblock {view : View} {ctor : Constructor} {sig : Signature}
    (h : ctor.hasDocblock = true) :
    signature view ctor = .ok sig ↔
      view.signatureLine? ctor.range.start.line = some sig.line ∧
        view.linesOrError ctor.range.start.line (sig.line - ctor.range.start.line) =
          .ok sig.docblock ∧
        view.lineOrError sig.line = .ok sig.text := by
  unfold signature
  rw [if_pos h]
  cases hline : view.signatureLine? ctor.range.start.line with
  | none => simp [throw_ne_ok]
  | some line =>
      simp only [bind_eq_ok_iff, pure_eq_ok_iff, Option.some.injEq]
      constructor
      · rintro ⟨docblock, hdocblock, text, htext, rfl⟩
        exact ⟨rfl, hdocblock, htext⟩
      · rintro ⟨rfl, hdocblock, htext⟩
        exact ⟨sig.docblock, hdocblock, sig.text, htext, rfl⟩

theorem signature_of_no_docblock {view : View} {ctor : Constructor}
    (h : ctor.hasDocblock = false) :
    signature view ctor = .ok ⟨ctor.range.start.line, view.textIn ctor.range, []⟩ := by
  unfold signature
  rw [if_neg (by rw [h]; exact Bool.false_ne_true)]
  rfl

section Site

variable {doc : Document} {ctor : Constructor}

/-- The range of a constructor starts at the start of a line, not below the signature, and without a
docblock it is the range of the signature. -/
theorem range_of_scan (hctor : (scan doc.view).constructor? = some ctor) :
    ctor.range.start.column = 0 ∧ ctor.range.start.line ≤ ctor.line ∧
      (ctor.hasDocblock = false →
        ∃ line, doc.lineText? ctor.range.start.line = some line ∧
          ctor.range = .ofLine ctor.range.start.line line) := by
  obtain ⟨front, signature, below, hlocated⟩ := scan_constructor?_eq_some_iff.mp hctor
  rcases View.constructorRange?_cases hlocated.range with
    ⟨line, hline, hrange⟩ | ⟨start, line, hline, hrange, hpos, -, hfound⟩
  · rw [hrange, hlocated.line]
    refine ⟨rfl, Nat.le_refl _, fun _ => ⟨line, ?_, rfl⟩⟩
    rw [← Document.view_lineText?]
    exact hline
  · obtain ⟨-, ⟨-, hstart⟩, -⟩ :=
      (View.docblockStart?_eq_some_iff (Nat.min_le_right _ _)).mp hfound
    have hlt : start < ctor.line := by
      rw [hlocated.line]
      omega
    refine ⟨by rw [hrange]; rfl, by rw [hrange]; exact Nat.le_of_lt hlt, fun hdocblock => ?_⟩
    rw [Constructor.hasDocblock, hrange] at hdocblock
    simp [Range.ofLine, hlt] at hdocblock

theorem signature_of_scan {sig : Signature} (hctor : (scan doc.view).constructor? = some ctor)
    (hsig : signature doc.view ctor = .ok sig) :
    IsParameterLine doc ctor sig.line ∧ doc.lineText? sig.line = some sig.text ∧
      sig.docblock = doc.stretch ctor.range.start.line sig.line ∧
      ctor.range.start.line ≤ sig.line := by
  by_cases hdocblock : ctor.hasDocblock = true
  · obtain ⟨hline, hlines, htext⟩ := (signature_eq_ok_iff_of_docblock hdocblock).mp hsig
    obtain ⟨⟨hstart, -⟩, hfound, hbefore⟩ := View.firstLine?_eq_some_iff.mp hline
    obtain ⟨hlength, hshows⟩ := View.linesOrError_eq_ok_iff.mp hlines
    have hshown := View.lineOrError_eq_ok_iff.mp htext
    rw [Document.view_lineText?] at hshown
    simp only [Document.view_lineText?] at hfound hbefore
    refine ⟨?_, hshown, ?_, hstart⟩
    · rw [IsParameterLine, if_pos hdocblock]
      exact ⟨hstart, hfound, hbefore⟩
    · rw [Document.stretch, ← hlength]
      exact Document.eq_of_shows hshows
  · rw [Bool.not_eq_true] at hdocblock
    rw [signature_of_no_docblock hdocblock, Except.ok.injEq] at hsig
    obtain ⟨line, hline, hrange⟩ := (range_of_scan hctor).2.2 hdocblock
    have htext : doc.view.textIn ctor.range = line := by
      rw [hrange]
      exact Document.textIn_ofLine hline
    rw [← hsig, htext]
    refine ⟨?_, hline, ?_, Nat.le_refl _⟩
    · rw [IsParameterLine, if_neg (by rw [hdocblock]; exact Bool.false_ne_true)]
    · simp [Document.stretch]

theorem closesWith_of_scan {closing : Nat} {line : Text}
    (hctor : (scan doc.view).constructor? = some ctor) (hclosing : ctor.closingLine = some closing)
    (hline : doc.lineText? closing = some line) : Text.closesWith ['}'] line = true := by
  obtain ⟨front, signature, below, hlocated⟩ := scan_constructor?_eq_some_iff.mp hctor
  have hends := hlocated.ends
  rw [hclosing] at hends
  rw [Document.lineText?, hlocated.lines] at hline
  cases hends with
  | inline hinline =>
      obtain rfl : signature = line := by simpa using hline
      exact Line.closesWith_of_inlineBody? hinline
  | block body last rest hinline hbelow hbody hsignature hlast =>
      have hindex : (front ++ signature :: below)[front.length + 1 + body.length]? = some last := by
        rw [hbelow, Nat.add_assoc, List.getElem?_append_right (Nat.le_add_right _ _),
          Nat.add_sub_cancel_left, Nat.add_comm 1, List.getElem?_cons_succ,
          List.getElem?_append_right (Nat.le_refl _), Nat.sub_self]
        rfl
      obtain rfl : last = line := Option.some.inj (hindex.symm.trans hline)
      exact Line.closesWith_of_isNestedClose hlast

end Site

/-! ### The text of the plan -/

/-- A constructor with a parameter more and an assignment more, and the declaration in front. -/
def mergedBlock (settings : Settings) (name : Text) (docblock : List Text)
    (group : Line.Parentheses) (body : List Text) (closing : Text) : Text :=
  Text.breaksAfter [declarationLine settings name, []] ++ Text.breaksAfter docblock ++
    (withParameter group name).line ++ Text.breaksBefore body ++
    Text.breaksBefore [assignmentLine closing.leadingBlanks settings name, closing.trimEnd]

theorem mergedBlock_eq_opening (settings : Settings) (name : Text) (docblock : List Text)
    (group : Line.Parentheses) (body : List Text) (closing : Text) :
    mergedBlock settings name docblock group body closing =
      Text.breaksAfter (declarationLine settings name :: [] :: docblock) ++
        (withParameter group name).opening ++ (group.after ++ Text.breaksBefore body ++
          Text.breaksBefore [assignmentLine closing.leadingBlanks settings name,
            closing.trimEnd]) := by
  rw [mergedBlock, ← (withParameter group name).opening_append_after]
  simp [withParameter]

/-- The line break in front of a line that is neither blank nor closes a block. -/
def gap (next : Option Text) : Text :=
  if next.any fun line => !line.allBlank && !Text.closesWith ['}'] line then ['\n'] else []

theorem separation_eq_gap {doc : Document} {closingLine : Nat} (h : closingLine < doc.lineCount) :
    separation doc.view closingLine = gap (doc.lineText? (closingLine + 1)) := by
  rw [separation, gap, Document.view_lineText?, Document.lineBelow_view (Nat.le_of_lt h)]
  cases doc.lineText? (closingLine + 1) with
  | none => rfl
  | some line =>
      by_cases hblank : line.allBlank = true <;>
        by_cases hclose : Text.closesWith ['}'] line = true <;> simp [hblank, hclose, newline]

/-- A merged constructor shows its docblock, its signature up to the new parameter, and its body. -/
theorem plain_mergeSnippet (settings : Settings) (name : Text) (docblock : List Text)
    (group : Line.Parentheses) (body : Snippet) (separation : Text) :
    (mergeSnippet settings name docblock group body separation).flatMap Piece.plain =
      Text.breaksAfter (declarationLine settings name :: [] :: docblock) ++
        (withParameter group name).opening ++ (body.flatMap Piece.plain ++ separation) := by
  have hdocblock : (docblock.map fun line => Piece.text (line ++ newline)).flatMap Piece.plain =
      Text.breaksAfter docblock := by
    simp [List.flatMap_map, Piece.plain, Text.breaksAfter, newline]
  simp only [mergeSnippet, List.flatMap_append, plain_declaration, hdocblock, plain_parameterList]
  simp [Piece.plain]

/-- The body of a constructor that closes below its signature, and the text it shows. -/
theorem exists_block {doc : Document} {sig : Signature} {closing : Nat} {line : Text}
    (settings : Settings) (name : Text) (group : Line.Parentheses) (hbelow : sig.line < closing)
    (hline : doc.lineText? closing = some line) (hends : Text.closesWith ['}'] line = true) :
    ∃ snippet, block doc.view settings name sig group closing = .ok snippet ∧
      snippet.flatMap Piece.plain =
        group.after ++ Text.breaksBefore (doc.stretch (sig.line + 1) closing) ++
          Text.breaksBefore [assignmentLine line.leadingBlanks settings name, line.trimEnd] := by
  have hcount := Document.lineText?_isSome_iff.mp ⟨line, hline⟩
  have hbody : doc.view.linesOrError (lineBelow doc.view.numbers sig.line)
      (closing - lineBelow doc.view.numbers sig.line) =
        .ok (doc.stretch (sig.line + 1) closing) := by
    rw [Document.lineBelow_view (by omega)]
    exact Document.linesOrError_stretch (Nat.le_of_lt hcount) hbelow
  have hlast : doc.view.lineOrError closing = .ok line :=
    View.lineOrError_eq_ok_iff.mpr (by rw [Document.view_lineText?, hline])
  have hlines : ((doc.stretch (sig.line + 1) closing).map fun line =>
      Piece.text (newline ++ line)).flatMap Piece.plain =
        Text.breaksBefore (doc.stretch (sig.line + 1) closing) := by
    simp [List.flatMap_map, Piece.plain, Text.breaksBefore, newline]
  refine ⟨_, block_eq_ok_iff.mpr ⟨_, line, hbody, hlast, rfl⟩, ?_⟩
  rw [← Text.leadingBlanks_trimEnd (by decide) hends, ← hlines]
  simp only [List.flatMap_append, plain_assignment]
  simp [Piece.plain, newline]

/-- The text after the edit of a plan that replaces a constructor. -/
theorem apply_mergeSnippet {content : Text} {settings : Settings} {name : Text} {plan : Plan}
    {ctor : Constructor} {docblock : List Text} {group : Line.Parentheses} {body : Snippet}
    {closing : Nat} {line : Text} {reveal : Position}
    (hplan : ofText content settings name = .ok plan)
    (hmade : plan = ⟨.replace ⟨ctor.range.start, (Range.ofLine closing line).stop⟩,
      mergeSnippet settings name docblock group body
        (separation (Document.ofText content).view closing), reveal⟩)
    (hcolumn : ctor.range.start.column = 0) (hle : ctor.range.start.line ≤ closing)
    (hline : (Document.ofText content).lineText? closing = some line) :
    plan.edit.apply content =
      content.beforeLine ctor.range.start.line ++
        (Text.breaksAfter (declarationLine settings name :: [] :: docblock) ++
          (withParameter group name).opening ++
            (body.flatMap Piece.plain ++
              gap ((Document.ofText content).lineText? (closing + 1)))) ++
        content.behindLine closing := by
  have hcount := Document.lineText?_isSome_iff.mp ⟨line, hline⟩
  have hrange : ctor.range.start = ⟨ctor.range.start.line, 0⟩ := congrArg (Position.mk _) hcolumn
  rw [edit_eq hplan, hmade, Target.range, hrange, plain_mergeSnippet, separation_eq_gap hcount]
  exact Edit.apply_lines _ hle hline

/-- The plan for a constructor that closes below its signature, and the text after its edit. -/
theorem exists_plan_of_block {content : Text} {settings : Settings} {name : Text}
    {ctor : Constructor} {sig : Signature} {group : Line.Parentheses} {closing : Nat} {line : Text}
    (hname : isPropertyName name = true)
    (hctor : (scan (Document.ofText content).view).constructor? = some ctor)
    (hclosing : ctor.closingLine = some closing)
    (hsig : signature (Document.ofText content).view ctor = .ok sig)
    (hgroup : Line.parentheses? sig.text = some group) (hbelow : sig.line < closing)
    (hline : (Document.ofText content).lineText? closing = some line) :
    ∃ plan, ofText content settings name = .ok plan ∧
      plan.edit.apply content =
        content.beforeLine ctor.range.start.line ++
          (mergedBlock settings name sig.docblock group
              ((Document.ofText content).stretch (sig.line + 1) closing) line ++
            gap ((Document.ofText content).lineText? (closing + 1))) ++
          content.behindLine closing := by
  obtain ⟨-, -, -, hstart⟩ := signature_of_scan hctor hsig
  have hends := closesWith_of_scan hctor hclosing hline
  obtain ⟨snippet, hblock, hplain⟩ := exists_block settings name group hbelow hline hends
  have hlast : (Document.ofText content).view.lineRange? closing = some (.ofLine closing line) := by
    rw [View.lineRange?, Document.view_lineText?, hline, Option.map_some]
  have hplan : ofText content settings name = .ok _ :=
    ofDeclarations_eq_ok_iff.mpr ⟨hname, Or.inr ⟨ctor, hctor, merge_eq_ok_iff.mpr
      ⟨closing, sig, group, snippet, _, hclosing, hsig, hgroup,
        by rw [if_neg (Nat.ne_of_gt hbelow)]; exact hblock, hlast, rfl⟩⟩⟩
  refine ⟨_, hplan, ?_⟩
  rw [apply_mergeSnippet hplan rfl (range_of_scan hctor).1 (by omega) hline, hplain,
    mergedBlock_eq_opening]
  simp only [List.append_assoc]

/-- **A block merge loses and reorders nothing.** The text after the edit is the old text in front
of the constructor, the constructor with its declaration, parameter and assignment, and the old text
behind its closing brace. -/
theorem apply_block_merge {content : Text} {settings : Settings} {name : Text} {plan : Plan}
    {range : Range} (hplan : ofText content settings name = .ok plan)
    (htarget : plan.target = .replace range) :
    ∃ ctor closing number,
      (scan (Document.ofText content).view).constructor? = some ctor ∧
      ctor.closingLine = some closing ∧
      IsParameterLine (Document.ofText content) ctor number ∧
      (number < closing →
        ∃ (group : Line.Parentheses) (line : Text),
          (Document.ofText content).lineText? number = some group.line ∧
          '(' ∉ group.before ∧ ')' ∉ group.inside ∧
          (Document.ofText content).lineText? closing = some line ∧
          (∃ old, content =
            content.beforeLine ctor.range.start.line ++ old ++ content.behindLine closing) ∧
          plan.edit.apply content =
            content.beforeLine ctor.range.start.line ++
              (mergedBlock settings name
                  ((Document.ofText content).stretch ctor.range.start.line number) group
                  ((Document.ofText content).stretch (number + 1) closing) line ++
                gap ((Document.ofText content).lineText? (closing + 1))) ++
              content.behindLine closing) := by
  obtain ⟨hname, ⟨-, hfresh⟩ | ⟨ctor, hctor, hmerge⟩⟩ := ofDeclarations_eq_ok_iff.mp hplan
  · obtain ⟨number, here, -, -, rfl⟩ := fresh_eq_ok_iff.mp hfresh
    contradiction
  · obtain ⟨closing, sig, group, body, last, hclosing, hsig, hgroup, -, hlast, -⟩ :=
      merge_eq_ok_iff.mp hmerge
    obtain ⟨hparameter, htext, hdocblock, hstart⟩ := signature_of_scan hctor hsig
    refine ⟨ctor, closing, sig.line, hctor, hclosing, hparameter, fun hbelow => ?_⟩
    obtain ⟨line, hline, -⟩ := Option.map_eq_some_iff.mp hlast
    rw [Document.view_lineText?] at hline
    obtain ⟨hsplit, hbefore, hinside⟩ :=
      (Line.parentheses?_eq_some_iff (Text.newline_notMem_of_lineText? htext)).mp hgroup
    obtain ⟨same, hsame, happly⟩ :=
      exists_plan_of_block hname hctor hclosing hsig hgroup hbelow hline
    obtain rfl : plan = same := Except.ok.inj (hplan.symm.trans hsame)
    refine ⟨group, line, by rw [htext, hsplit]; rfl, hbefore, hinside, hline, ?_, ?_⟩
    · exact Text.exists_between_lines (by omega) hline
    · rw [happly, hdocblock]

/-- A constructor with a docblock and a parameter, in a text with carriage returns, a wide character
and text that looks like markup. -/
def documented : Text :=
  ("class A \x7b\r\n /** $0 */\r\n function __construct($a = '𝄞') \x7b\r\n  $0;\r\n \x7d\r\n" ++
    " function b() \x7b\x7d\r\n\x7d").toList

theorem documented_constructor :
    (scan (Document.ofText documented).view).constructor? =
      some ⟨2, ⟨⟨1, 0⟩, ⟨1, 10⟩⟩, some 4⟩ := by
  decide +kernel

theorem documented_apply_block_merge :
    ∃ plan, ofText documented {} ['b'] = .ok plan ∧
      plan.target = .replace ⟨⟨1, 0⟩, ⟨4, 2⟩⟩ ∧
      ∃ (number : Nat) (group : Line.Parentheses) (line : Text), number < 4 ∧
        (Document.ofText documented).lineText? number = some group.line ∧
        plan.edit.apply documented =
          documented.beforeLine 1 ++
            (mergedBlock {} ['b'] ((Document.ofText documented).stretch 1 number) group
                ((Document.ofText documented).stretch (number + 1) 4) line ++
              gap ((Document.ofText documented).lineText? 5)) ++
            documented.behindLine 4 := by
  have hok : (ofText documented {} ['b']).toOption.map target =
      some (.replace ⟨⟨1, 0⟩, ⟨4, 2⟩⟩) := by decide +kernel
  have hsignature : ((Document.ofText documented).lineText? 2).any Line.isConstructorSignature =
      true := by decide +kernel
  cases hplan : ofText documented {} ['b'] with
  | error cause =>
      rw [hplan] at hok
      contradiction
  | ok plan =>
      rw [hplan] at hok
      have htarget : plan.target = .replace ⟨⟨1, 0⟩, ⟨4, 2⟩⟩ := Option.some.inj hok
      obtain ⟨ctor, closing, number, hfound, hclosing, hparameter, happly⟩ :=
        apply_block_merge hplan htarget
      obtain rfl := Option.some.inj (documented_constructor.symm.trans hfound)
      obtain rfl : 4 = closing := Option.some.inj hclosing
      have hbelow : number < 4 := by
        obtain ⟨-, -, hbefore⟩ := hparameter
        obtain ⟨line, hline, hsome⟩ := (Option.any_eq_true _ _).mp hsignature
        by_contra hnumber
        rw [hbefore 2 line (by decide) (by omega) hline] at hsome
        contradiction
      obtain ⟨group, line, hgroup, -, -, -, -, htext⟩ := happly hbelow
      exact ⟨plan, rfl, htarget, number, group, line, hbelow, hgroup, htext⟩

end Plan

end PropertyInsertion

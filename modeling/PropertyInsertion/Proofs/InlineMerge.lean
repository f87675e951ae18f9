import PropertyInsertion.Proofs.SignatureLine

/-!
# Opening up a constructor on one line

A constructor that closes on its signature line reads `before(inside)between{body}blanks`. The plan
for it puts the parameter into the parentheses and the body onto lines of its own, with the
assignment behind it. The first parentheses and the braces of the body are searched for apart; a
plan is made only where the braces open behind the parentheses, so that the two cuts fit together.
-/

namespace PropertyInsertion

open Code Declarations

namespace Line

/-- The line opens the body of its constructor behind `front`: no brace stands between the first
signature on the line and that place. -/
def OpensBodyBehind (line front : Text) : Prop :=
  (∃ rest, line = front ++ '{' :: rest) ∧
    ∃ head between, front = head ++ constructorMark ++ between ∧ '{' ∉ between ∧
      ∀ earlier later, line = earlier ++ constructorMark ++ later → head.length ≤ earlier.length

theorem Parentheses.length_opening (group : Parentheses) : group.opening.length = group.stop := by
  simp only [opening, stop, List.length_append, List.length_cons, List.length_nil]
  omega

/-- A body that opens behind the parentheses cuts what stands behind them. -/
theorem exists_after_eq_of_inlineBody? {group : Parentheses} {inline : InlineBody}
    (hinline : inlineBody? group.line = some inline) (hstop : group.stop ≤ inline.head.length) :
    ∃ blanks : Text, blanks.allBlank = true ∧
      inline.head = group.opening ++ inline.head.drop group.stop ∧
      group.after = inline.head.drop group.stop ++ '{' :: (inline.body ++ '}' :: blanks) ∧
      OpensBodyBehind group.line inline.head := by
  obtain ⟨before, between, blanks, hblank, hline, hbetween, hfirst, hhead⟩ :=
    exists_of_inlineBody?_eq_some hinline
  have hcut : group.line = inline.head ++ '{' :: (inline.body ++ '}' :: blanks) := by
    rw [hline, hhead]
    simp only [List.append_assoc]
  have hopening : group.opening <+: inline.head := by
    refine List.prefix_of_prefix_length_le ⟨group.after, group.opening_append_after⟩
      ⟨_, hcut.symm⟩ ?_
    rwa [group.length_opening]
  have hsplit : inline.head = group.opening ++ inline.head.drop group.stop := by
    rw [← group.length_opening]
    exact List.prefix_iff_eq_append.mp hopening |>.symm
  refine ⟨blanks, hblank, hsplit, ?_, ⟨_, hcut⟩, before, between, hhead, hbetween, hfirst⟩
  have hboth := group.opening_append_after.trans hcut
  rw [hsplit, List.append_assoc] at hboth
  exact List.append_cancel_left hboth

end Line

namespace Plan

/-- The lines of a body that stood on the signature line, under that line's indentation, down to the
assignment. -/
def openedBody (settings : Settings) (name indent body : Text) : List Text :=
  [indent ++ ['{']] ++
    (if body.trim.isEmpty then [] else [indent ++ settings.indent ++ body.trim]) ++
    [assignmentLine indent settings name]

/-- The same with the brace that closes the constructor. -/
def openedLines (settings : Settings) (name indent body : Text) : List Text :=
  openedBody settings name indent body ++ [indent ++ ['}']]

theorem plain_inlineBlock {settings : Settings} {name : Text} {sig : Signature}
    {group : Line.Parentheses} {inline : Line.InlineBody} {snippet : Snippet}
    (hinline : Line.inlineBody? sig.text = some inline)
    (hsnippet : inlineBlock settings name sig group = .ok snippet) :
    snippet.flatMap Piece.plain =
      Text.trimEnd (inline.head.drop group.stop) ++
        Text.breaksBefore (openedLines settings name sig.text.leadingBlanks inline.body) := by
  obtain ⟨same, hsame, -, rfl⟩ := inlineBlock_eq_ok_iff.mp hsnippet
  obtain rfl : inline = same := Option.some.inj (hinline.symm.trans hsame)
  by_cases hbody : (Text.trim inline.body).isEmpty = true
  · simp [hbody, openedLines, openedBody, Piece.plain, plain_assignment, newline]
  · simp [hbody, openedLines, openedBody, Piece.plain, plain_assignment, newline]

variable {content : Text} {settings : Settings} {name : Text} {plan : Plan} {ctor : Constructor}
  {number : Nat}

/-- **An inline merge loses nothing.** The line of a constructor that closes where it starts is cut
into its first parentheses, the body in braces and what stands around them, and the text after the
edit has all of it but the blanks at the cuts. -/
theorem apply_inline_merge (hplan : ofText content settings name = .ok plan)
    (hctor : (scan (Document.ofText content).view).constructor? = some ctor)
    (hclosing : ctor.closingLine = some number)
    (hnumber : IsParameterLine (Document.ofText content) ctor number) :
    ∃ (group : Line.Parentheses) (between body blanks : Text),
      (Document.ofText content).lineText? number = some group.line ∧
      '(' ∉ group.before ∧ ')' ∉ group.inside ∧
      group.after = between ++ '{' :: (body ++ '}' :: blanks) ∧ blanks.allBlank = true ∧
      Line.OpensBodyBehind group.line (group.opening ++ between) ∧
      content = content.beforeLine number ++ group.line ++ content.behindLine number ∧
      plan.edit.apply content =
        content.beforeLine ctor.range.start.line ++
          Text.breaksAfter (declarationLine settings name :: [] ::
            (Document.ofText content).stretch ctor.range.start.line number) ++
          (withParameter group name).opening ++ between.trimEnd ++
          Text.breaksBefore (openedLines settings name group.line.leadingBlanks body) ++
          gap ((Document.ofText content).lineText? (number + 1)) ++
          content.behindLine number := by
  obtain ⟨closing, sig, group, snippet, hclosing', hsig, hgroup, hbody, happly⟩ :=
    exists_apply_of_merge hplan hctor
  obtain ⟨hnumber', htext, -⟩ := signature_of_scan hctor hsig
  obtain rfl : number = closing := Option.some.inj (hclosing.symm.trans hclosing')
  obtain rfl : number = sig.line := isParameterLine_unique hnumber hnumber'
  obtain ⟨hsplit, hbefore, hinside⟩ :=
    (Line.parentheses?_eq_some_iff (Text.newline_notMem_of_lineText? htext)).mp hgroup
  have hline : sig.text = group.line := hsplit
  rw [if_pos rfl] at hbody
  obtain ⟨inline, hinline, hstop, -⟩ := inlineBlock_eq_ok_iff.mp hbody
  have hplain := plain_inlineBlock hinline hbody
  rw [hline] at htext hinline hplain
  obtain ⟨blanks, hblank, hhead, hafter, hopens⟩ :=
    Line.exists_after_eq_of_inlineBody? hinline hstop
  refine ⟨group, inline.head.drop group.stop, inline.body, blanks, htext, hbefore, hinside, hafter,
    hblank, ?_, (Text.append_behindLine htext).symm, ?_⟩
  · rwa [← hhead]
  · rw [happly, hplain, mergedUpTo, mergedAbove]
    simp only [List.append_assoc]

/-- A documented constructor on one line with braces in its body and blanks of several kinds around
them, in a text with carriage returns. -/
def documentedInline : Text :=
  ("class A \x7b\r\n /** $0 */\r\n" ++
    " function __construct( ): static  \x7b\u2003$a = '\x7b\x7d'; \x7d \t\r\n" ++
    " function b() \x7b\x7d\r\n\x7d").toList

theorem documentedInline_apply_inline_merge :
    ∃ plan, ofText documentedInline {} ['b'] = .ok plan ∧
      ∃ (group : Line.Parentheses) (between body blanks : Text),
        (Document.ofText documentedInline).lineText? 2 = some group.line ∧
        group.after = between ++ '{' :: (body ++ '}' :: blanks) ∧ blanks.allBlank = true ∧
        Line.OpensBodyBehind group.line (group.opening ++ between) ∧
        plan.edit.apply documentedInline =
          documentedInline.beforeLine 1 ++
            Text.breaksAfter (declarationLine {} ['b'] :: [] ::
              (Document.ofText documentedInline).stretch 1 2) ++
            (withParameter group ['b']).opening ++ between.trimEnd ++
            Text.breaksBefore (openedLines {} ['b'] group.line.leadingBlanks body) ++
            gap ((Document.ofText documentedInline).lineText? 3) ++
            documentedInline.behindLine 2 := by
  have hrun : (ofText documentedInline {} ['b']).toOption.isSome = true ∧
      (scan (Document.ofText documentedInline).view).constructor? =
        some ⟨2, ⟨⟨1, 0⟩, ⟨1, 10⟩⟩, some 2⟩ ∧
      ∀ line ∈ (Document.ofText documentedInline).stretch 1 2,
        Line.isConstructorSignature line = false := by decide +kernel
  obtain ⟨hsome, hctor, hdocblock⟩ := hrun
  obtain ⟨plan, hplan⟩ := Option.isSome_iff_exists.mp hsome
  rw [toOption_eq_some_iff] at hplan
  obtain ⟨sig, hsig, -⟩ := exists_signature_of_scan hctor
  have hnumber := (signature_of_scan hctor hsig).1
  rw [(isParameterLine_eq_line_iff hctor hnumber).mpr hdocblock] at hnumber
  obtain ⟨group, between, body, blanks, hline, -, -, hafter, hblank, hopens, -, happly⟩ :=
    apply_inline_merge hplan hctor rfl hnumber
  exact ⟨plan, hplan, group, between, body, blanks, hline, hafter, hblank, hopens, happly⟩

end Plan

end PropertyInsertion

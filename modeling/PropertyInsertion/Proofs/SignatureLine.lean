import PropertyInsertion.Proofs.BraceDepth
import PropertyInsertion.Proofs.Failures

/-!
# The line that gets the parameter

A pass keeps the last signature above the closing line. Below a docblock the signature is searched
for once more, from the first line of the docblock down, and that search takes the first one. The
two agree exactly if the docblock holds no signature. Where they do not, the parameter goes into the
comment.
-/

namespace PropertyInsertion

open Code Declarations

/-! ### Two searches for the signature -/

namespace Document

variable {doc : Document}

theorem mem_stretch_iff {first last : Nat} {line : Text} :
    line ∈ doc.stretch first last ↔ ∃ n, first ≤ n ∧ n < last ∧ doc.lineText? n = some line := by
  rw [stretch, List.mem_iff_getElem?]
  constructor
  · rintro ⟨i, hline⟩
    rw [List.getElem?_take] at hline
    split at hline
    next hi =>
      rw [List.getElem?_drop] at hline
      exact ⟨first + i, by omega, by omega, hline⟩
    next => contradiction
  · rintro ⟨n, hfirst, hlast, hline⟩
    refine ⟨n - first, ?_⟩
    rw [List.getElem?_take, if_pos (by omega), List.getElem?_drop, Nat.add_sub_cancel' hfirst]
    exact hline

theorem forall_mem_stretch_iff {test : Text → Bool} {first last : Nat} :
    (∀ line ∈ doc.stretch first last, test line = false) ↔
      ∀ n, first ≤ n → n < last → ¬doc.LineIs test n := by
  constructor
  · rintro h n hfirst hlast ⟨line, hline, htest⟩
    rw [h line (mem_stretch_iff.mpr ⟨n, hfirst, hlast, hline⟩)] at htest
    contradiction
  · intro h line hmem
    obtain ⟨n, hfirst, hlast, hline⟩ := mem_stretch_iff.mp hmem
    rw [← Bool.not_eq_true]
    exact fun htest => h n hfirst hlast ⟨line, hline, htest⟩

end Document

namespace Plan

section Scanned

variable {doc : Document} {ctor : Constructor} (hctor : (scan doc.view).constructor? = some ctor)

include hctor

theorem isGreatest_line :
    IsGreatest {n | ctor.range.start.line ≤ n ∧ doc.Reaches n ∧
      doc.LineIs Line.isConstructorSignature n} ctor.line := by
  obtain ⟨hmem, hlast⟩ := (scan_constructor?_iff_standsIn.mp hctor).line
  exact ⟨⟨(range_of_scan hctor).2.1, hmem⟩, fun n hn => hlast hn.2⟩

/-- What stands between the first line of a constructor and its signature is a docblock. -/
theorem isDocblock_of_scan (hdocblock : ctor.hasDocblock = true) :
    IsDocblock (doc.stretch ctor.range.start.line ctor.line) := by
  obtain ⟨front, signature, below, hlocated⟩ := scan_constructor?_eq_some_iff.mp hctor
  have hlt : ctor.range.start.line < front.length := by
    rw [← hlocated.line]
    simpa [Constructor.hasDocblock] using hdocblock
  have hstretch : doc.stretch ctor.range.start.line ctor.line =
      front.drop ctor.range.start.line := by
    rw [Document.stretch, hlocated.lines, hlocated.line, List.drop_append_of_le_length (by omega),
      List.take_left' (by rw [List.length_drop])]
  have hfront : front.take ctor.range.start.line ++ front.drop ctor.range.start.line = front :=
    List.take_append_drop _ _
  have hlength : (front.take ctor.range.start.line).length = ctor.range.start.line := by
    rw [List.length_take]
    omega
  have hlines : doc.lines = front.take ctor.range.start.line ++ front.drop ctor.range.start.line ++
      signature :: below := by rw [hfront, hlocated.lines]
  have hne : front.drop ctor.range.start.line ≠ [] := by
    intro hnil
    have := List.drop_eq_nil_iff.mp hnil
    omega
  have hrange := hlocated.range
  rw [← hfront] at hrange
  rw [hstretch]
  exact (isDocblock_of_range hlines hne hrange hlength.symm).1

/-- The parameter goes on the first line with a signature from the docblock on. -/
theorem isLeast_of_isParameterLine {number : Nat} (hnumber : IsParameterLine doc ctor number) :
    IsLeast {n | ctor.range.start.line ≤ n ∧ doc.LineIs Line.isConstructorSignature n} number := by
  obtain ⟨⟨hstart, -, hsignature⟩, -⟩ := isGreatest_line hctor
  by_cases hdocblock : ctor.hasDocblock = true
  · rw [IsParameterLine, if_pos hdocblock] at hnumber
    obtain ⟨hle, hline, hbefore⟩ := hnumber
    refine ⟨⟨hle, hline⟩, ?_⟩
    rintro n ⟨hn, line, hshown, htest⟩
    by_contra hlt
    rw [hbefore n line hn (by omega) hshown] at htest
    contradiction
  · rw [IsParameterLine, if_neg hdocblock] at hnumber
    have hsame : ctor.range.start.line = ctor.line := by
      have : ¬ctor.range.start.line < ctor.line := by
        simpa [Constructor.hasDocblock] using hdocblock
      omega
    rw [hnumber]
    exact ⟨⟨Nat.le_refl _, by rwa [hsame]⟩, fun n hn => hn.1⟩

theorem isParameterLine_le {number : Nat} (hnumber : IsParameterLine doc ctor number) :
    ctor.range.start.line ≤ number ∧ number ≤ ctor.line := by
  have hleast := isLeast_of_isParameterLine hctor hnumber
  obtain ⟨⟨hstart, -, hsignature⟩, -⟩ := isGreatest_line hctor
  exact ⟨hleast.1.1, hleast.2 ⟨hstart, hsignature⟩⟩

theorem isParameterLine_eq_line_iff {number : Nat} (hnumber : IsParameterLine doc ctor number) :
    number = ctor.line ↔ ∀ line ∈ doc.stretch ctor.range.start.line ctor.line,
      Line.isConstructorSignature line = false := by
  have hleast := isLeast_of_isParameterLine hctor hnumber
  obtain ⟨hstart, hle⟩ := isParameterLine_le hctor hnumber
  rw [Document.forall_mem_stretch_iff]
  constructor
  · rintro rfl n hn hlt hsignature
    have := hleast.2 ⟨hn, hsignature⟩
    omega
  · intro hnone
    by_contra hne
    exact hnone number hstart (by omega) hleast.1.2

end Scanned

end Plan

/-! ### The text up to the parameter -/

namespace Plan

/-- What a merge writes above line `number` of the old text, where the constructor starts on line
`start`: the lines in front, the declaration, and the lines of the constructor that come first. -/
def mergedAbove (content : Text) (settings : Settings) (name : Text) (start number : Nat) : Text :=
  content.beforeLine start ++ Text.breaksAfter (declarationLine settings name :: [] ::
    (Document.ofText content).stretch start number)

/-- The same down to the parameter, which goes on line `number`. -/
def mergedUpTo (content : Text) (settings : Settings) (name : Text) (start number : Nat)
    (group : Line.Parentheses) : Text :=
  mergedAbove content settings name start number ++ (withParameter group name).opening

variable {content : Text} {settings : Settings} {name : Text} {plan : Plan} {ctor : Constructor}

/-- The plan for a constructor that was found, and the text after its edit. -/
theorem exists_apply_of_merge (hplan : ofText content settings name = .ok plan)
    (hctor : (scan (Document.ofText content).view).constructor? = some ctor) :
    ∃ closing sig group body, ctor.closingLine = some closing ∧
      signature (Document.ofText content).view ctor = .ok sig ∧
      Line.parentheses? sig.text = some group ∧
      (if closing = sig.line then inlineBlock settings name sig group
        else block (Document.ofText content).view settings name sig group closing) = .ok body ∧
      plan.edit.apply content =
        mergedUpTo content settings name ctor.range.start.line sig.line group ++
          (body.flatMap Piece.plain ++ gap ((Document.ofText content).lineText? (closing + 1))) ++
          content.behindLine closing := by
  have hmerge := hplan
  rw [ofText_of_constructor (isPropertyName_of_ofText hplan) hctor] at hmerge
  obtain ⟨closing, sig, group, body, last, hclosing, hsig, hgroup, hbody, hlast, hmade⟩ :=
    merge_eq_ok_iff.mp hmerge
  refine ⟨closing, sig, group, body, hclosing, hsig, hgroup, hbody, ?_⟩
  obtain ⟨-, -, hdocblock, -⟩ := signature_of_scan hctor hsig
  obtain ⟨hcolumn, hfirst, -⟩ := range_of_scan hctor
  obtain ⟨-, -, horder⟩ := order_of_scan hctor
  obtain ⟨line, hline, rfl⟩ := Option.map_eq_some_iff.mp hlast
  rw [Document.view_lineText?] at hline
  rw [apply_mergeSnippet hplan hmade hcolumn (hfirst.trans (horder closing hclosing).1) hline,
    mergedUpTo, mergedAbove, ← hdocblock]
  simp only [List.append_assoc]

/-- Every plan for a constructor puts the parameter into the first parentheses of its line. -/
theorem exists_mergedUpTo (hplan : ofText content settings name = .ok plan)
    (hctor : (scan (Document.ofText content).view).constructor? = some ctor) :
    ∃ (number : Nat) (group : Line.Parentheses),
      IsParameterLine (Document.ofText content) ctor number ∧
      (Document.ofText content).lineText? number = some group.line ∧
      '(' ∉ group.before ∧ ')' ∉ group.inside ∧
      mergedUpTo content settings name ctor.range.start.line number group <+:
        plan.edit.apply content := by
  obtain ⟨closing, sig, group, body, -, hsig, hgroup, -, happly⟩ :=
    exists_apply_of_merge hplan hctor
  obtain ⟨hnumber, htext, -⟩ := signature_of_scan hctor hsig
  obtain ⟨hsplit, hbefore, hinside⟩ :=
    (Line.parentheses?_eq_some_iff (Text.newline_notMem_of_lineText? htext)).mp hgroup
  refine ⟨sig.line, group, hnumber, by rw [htext, hsplit]; rfl, hbefore, hinside, ?_⟩
  rw [happly, List.append_assoc]
  exact List.prefix_append _ _

/-- Behind the old parameters there is a comma, or the new parameter if there are none. -/
theorem eq_of_opening_starts_with {group : Line.Parentheses} {c : Char} {more rest : Text}
    (h : group.before ++ '(' :: (group.inside ++ c :: more) <+:
      (withParameter group name).opening ++ rest) :
    group.inside.allBlank = false ∧ c = ',' ∨ group.inside = [] ∧ c = '$' := by
  obtain ⟨tail, h⟩ := h
  simp only [Line.Parentheses.opening, withParameter, List.append_assoc, List.cons_append,
    List.append_cancel_left_eq, List.cons.injEq, true_and] at h
  by_cases hblank : group.inside.allBlank = true
  · right
    rw [if_pos hblank, List.nil_append] at h
    cases hinside : group.inside with
    | nil =>
        rw [hinside] at h
        exact ⟨rfl, (List.cons.inj h).1⟩
    | cons d inside =>
        -- a blank never starts a parameter
        rw [hinside] at h hblank
        obtain rfl : d = '$' := (List.cons.inj h).1
        exact absurd List.mem_cons_self (Text.notMem_of_allBlank hblank (by decide))
  · left
    rw [if_neg hblank, List.append_assoc] at h
    exact ⟨Bool.eq_false_iff.mpr hblank, (List.cons.inj (List.append_cancel_left h)).1⟩

/-- A text in which the lines down to `last` are the old ones has no parameter above that line. -/
theorem eq_of_starts_with_mergedAbove {start number last : Nat} {group : Line.Parentheses}
    {text : Text} (hstart : start ≤ number) (hle : number ≤ last)
    (hgroup : (Document.ofText content).lineText? number = some group.line)
    (hmerged : mergedUpTo content settings name start number group <+: text)
    (hstarts : mergedAbove content settings name start last <+: text) : number = last := by
  by_contra hne
  obtain ⟨rest, hrest⟩ := hmerged
  obtain ⟨rest', hrest'⟩ := hstarts
  rw [← hrest, mergedUpTo, mergedAbove, mergedAbove,
    Document.stretch_split hstart (by omega) hgroup] at hrest'
  simp only [Text.breaksAfter_cons, Text.breaksAfter_append, List.append_assoc, List.cons_append,
    List.append_cancel_left_eq, List.cons.injEq, true_and] at hrest'
  have hline : group.before ++ '(' :: (group.inside ++ ')' :: (group.after ++ '\n' ::
      (Text.breaksAfter ((Document.ofText content).stretch (number + 1) last) ++ rest'))) =
      (withParameter group name).opening ++ rest := by
    rw [← hrest', Line.Parentheses.line]
    simp
  rcases eq_of_opening_starts_with ⟨[], by rw [List.append_nil, hline]⟩ with ⟨-, hc⟩ | ⟨-, hc⟩ <;>
    exact absurd hc (by decide)

/-- **Where the parameter of a documented constructor goes.** The lines in front of the signature
are a docblock. The pass takes the last signature from its first line on, the plan the first one,
and they are the same exactly if no line of the docblock holds a signature. Every plan puts the
parameter on the line that it takes, which else is a line of the comment. -/
theorem signatureLine?_eq_line_iff
    (hctor : (scan (Document.ofText content).view).constructor? = some ctor)
    (hdocblock : ctor.hasDocblock = true) :
    IsDocblock ((Document.ofText content).stretch ctor.range.start.line ctor.line) ∧
    IsGreatest {n | ctor.range.start.line ≤ n ∧ (Document.ofText content).Reaches n ∧
      (Document.ofText content).LineIs Line.isConstructorSignature n} ctor.line ∧
    ∃ number,
      (Document.ofText content).view.signatureLine? ctor.range.start.line = some number ∧
      IsLeast {n | ctor.range.start.line ≤ n ∧
        (Document.ofText content).LineIs Line.isConstructorSignature n} number ∧
      number ≤ ctor.line ∧
      (number = ctor.line ↔
        ∀ line ∈ (Document.ofText content).stretch ctor.range.start.line ctor.line,
          Line.isConstructorSignature line = false) ∧
      ∀ settings name plan, ofText content settings name = .ok plan →
        ∃ group : Line.Parentheses,
          (Document.ofText content).lineText? number = some group.line ∧
          mergedUpTo content settings name ctor.range.start.line number group <+:
            plan.edit.apply content := by
  obtain ⟨sig, hsig, -⟩ := exists_signature_of_scan hctor
  have hnumber := (signature_of_scan hctor hsig).1
  refine ⟨isDocblock_of_scan hctor hdocblock, isGreatest_line hctor, sig.line,
    ((signature_eq_ok_iff_of_docblock hdocblock).mp hsig).1,
    isLeast_of_isParameterLine hctor hnumber, (isParameterLine_le hctor hnumber).2,
    isParameterLine_eq_line_iff hctor hnumber, ?_⟩
  intro settings name plan hplan
  obtain ⟨number, group, hother, hline, -, -, hstarts⟩ := exists_mergedUpTo hplan hctor
  rw [isParameterLine_unique hother hnumber] at hline hstarts
  exact ⟨group, hline, hstarts⟩

theorem documented_signatureLine?_eq_line :
    (Document.ofText documented).view.signatureLine? 1 = some 2 ∧
    ∃ (plan : Plan) (group : Line.Parentheses), ofText documented {} ['b'] = .ok plan ∧
      (Document.ofText documented).lineText? 2 = some group.line ∧
      mergedUpTo documented {} ['b'] 1 2 group <+: plan.edit.apply documented := by
  have hsome : (ofText documented {} ['b']).toOption.isSome = true ∧
      ∀ line ∈ (Document.ofText documented).stretch 1 2,
        Line.isConstructorSignature line = false := by decide +kernel
  obtain ⟨plan, hplan⟩ := Option.isSome_iff_exists.mp hsome.1
  rw [toOption_eq_some_iff] at hplan
  obtain ⟨-, -, number, hnumber, -, -, hagree, happly⟩ :=
    signatureLine?_eq_line_iff documented_constructor rfl
  obtain rfl : number = 2 := hagree.mpr hsome.2
  obtain ⟨group, hline, hstarts⟩ := happly {} ['b'] plan hplan
  exact ⟨hnumber, plan, group, hplan, hline, hstarts⟩

/-- A docblock that mentions a signature. -/
def mentioning : Text :=
  ("class A \x7b\n /**\n  * function __construct()\n  */\n function __construct($a) \x7b\n" ++
    " \x7d\n\x7d").toList

/-- The parameter goes into the comment. -/
theorem mentioning_searches_differ :
    (scan (Document.ofText mentioning).view).constructor? =
      some ⟨4, ⟨⟨1, 0⟩, ⟨1, 4⟩⟩, some 5⟩ ∧
    (Document.ofText mentioning).view.signatureLine? 1 = some 2 ∧
    (ofText mentioning {} ['b']).toOption.map (fun plan => plan.edit.apply mentioning) =
      some ("class A \x7b\n\tprivate $b;\n\n /**\n  * function __construct($b)\n  */\n" ++
        " function __construct($a) \x7b\n \t$this->b = $b;\n \x7d\n\x7d").toList := by
  decide +kernel

end Plan

end PropertyInsertion

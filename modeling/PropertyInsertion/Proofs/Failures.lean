import PropertyInsertion.Proofs.Anchors

/-!
# When planning fails

Each way in which planning can fail has one cause, said in terms of what a pass found and of the
text of one line. The main statement is that a plan is refused with an error exactly if its cause is
there, and made if none is. A signature that cannot be found is not among the causes, and no line of
a constructor that was found is missing.
-/

namespace PropertyInsertion

/-! ### Signatures that cannot be extended -/

namespace Line

/-- No opening parenthesis has a closing one behind it. -/
def LacksParentheses (line : Text) : Prop :=
  ∀ before inside after, line ≠ before ++ '(' :: (inside ++ ')' :: after)

/-- The first opening brace behind the first signature stands before the end of the first
parentheses. -/
def OpensInParentheses (line : Text) : Prop :=
  ∃ (before between rest : Text) (group : Parentheses),
    line = before ++ constructorMark ++ (between ++ '{' :: rest) ∧ '{' ∉ between ∧
    (∀ earlier later, line = earlier ++ constructorMark ++ later →
      before.length ≤ earlier.length) ∧
    line = group.line ∧ '(' ∉ group.before ∧ ')' ∉ group.inside ∧
    (before ++ constructorMark ++ between).length < group.stop

theorem parentheses?_isSome (before : Text) {inside after : Text}
    (hbreak : '\n' ∉ inside ++ ')' :: after) :
    (parentheses? (before ++ '(' :: (inside ++ ')' :: after))).isSome = true := by
  induction before with
  | nil =>
      obtain ⟨inside', after', hclosing⟩ := exists_closing? (by simp) hbreak
      rw [List.nil_append, parentheses?, if_pos rfl, hclosing]
      rfl
  | cons c before ih =>
      rw [List.cons_append, parentheses?]
      split
      · rfl
      · rw [Option.isSome_map, ih]

theorem parentheses?_eq_none_iff {line : Text} (hline : '\n' ∉ line) :
    parentheses? line = none ↔ LacksParentheses line := by
  constructor
  · rintro hnone before inside after rfl
    have hbreak : '\n' ∉ inside ++ ')' :: after := by
      intro hmem
      exact hline (List.mem_append_right _ (List.mem_cons_of_mem _ hmem))
    have hsome := parentheses?_isSome before hbreak
    rw [hnone] at hsome
    contradiction
  · intro hlacks
    cases hgroup : parentheses? line with
    | none => rfl
    | some group =>
        obtain ⟨hsplit, -, -⟩ := (parentheses?_eq_some_iff hline).mp hgroup
        exact absurd hsplit (hlacks _ _ _)

theorem takeWhile_ne_append {c : Char} {front : Text} (hc : c ∉ front) (rest : Text) :
    (front ++ c :: rest).takeWhile (· != c) = front := by
  rw [List.takeWhile_append_of_pos]
  · simp
  · intro d hd
    simpa using fun heq : d = c => hc (heq ▸ hd)

theorem opensInParentheses_iff {line : Text} {inline : InlineBody} {group : Parentheses}
    (hline : '\n' ∉ line) (hinline : inlineBody? line = some inline)
    (hgroup : parentheses? line = some group) :
    OpensInParentheses line ↔ inline.head.length < group.stop := by
  obtain ⟨before, between, blanks, -, hsplit, hbetween, hfirst, hhead⟩ :=
    exists_of_inlineBody?_eq_some hinline
  obtain ⟨hpair, hbefore, hinside⟩ := (parentheses?_eq_some_iff hline).mp hgroup
  rw [hhead]
  constructor
  · rintro ⟨before', between', rest', group', hsplit', hbetween', hfirst', hpair', hbefore',
      hinside', hlt⟩
    have hsame := (parentheses?_eq_some_iff hline).mpr ⟨hpair', hbefore', hinside'⟩
    obtain rfl : group' = group := Option.some.inj (hsame.symm.trans hgroup)
    have hlength : before'.length = before.length :=
      Nat.le_antisymm (hfirst' _ _ hsplit) (hfirst _ _ hsplit')
    have hjoin := hsplit'.symm.trans hsplit
    rw [List.append_assoc, List.append_assoc] at hjoin
    obtain ⟨rfl, hrest⟩ := List.append_inj hjoin hlength
    have hbetween_eq : between' = between := by
      rw [← takeWhile_ne_append hbetween' rest', List.append_cancel_left hrest,
        takeWhile_ne_append hbetween]
    rwa [← hbetween_eq]
  · intro hlt
    exact ⟨before, between, _, group, hsplit, hbetween, hfirst, hpair, hbefore, hinside, hlt⟩

end Line

/-! ### Where the signature of a constructor is -/

theorem Document.lineText?_eq_none_iff {doc : Document} {number : Nat} :
    doc.lineText? number = none ↔ doc.lineCount ≤ number :=
  List.getElem?_eq_none_iff

theorem View.exists_firstLine? {view : View} {test : Text → Bool} {start number : Nat} {line : Text}
    (hline : view.lineText? number = some line) (htest : test line = true)
    (hstart : start ≤ number) (hcount : number < view.lineCount) :
    ∃ first, view.firstLine? test start = some first ∧ first ≤ number := by
  have hsome : (view.firstLine? test start).isSome = true := by
    rw [View.firstLine?, List.find?_isSome]
    refine ⟨number, List.mem_range'_1.mpr ⟨hstart, by omega⟩, ?_⟩
    rw [hline, Option.any_some, htest]
  obtain ⟨first, hfirst⟩ := Option.isSome_iff_exists.mp hsome
  refine ⟨first, hfirst, ?_⟩
  by_contra hlt
  rw [(View.firstLine?_eq_some_iff.mp hfirst).2.2 number line hstart (by omega) hline] at htest
  contradiction

theorem Declarations.insertionLine_eq_none_iff {decls : Declarations} {numbers : Nat} :
    decls.insertionLine numbers = none ↔
      decls.classLine = none ∧ decls.traitUseLine = none ∧ decls.lastPropertyLine = none := by
  rw [insertionLine, Option.map_eq_none_iff, Option.or_eq_none_iff, Option.or_eq_none_iff]
  tauto

namespace Plan

open Declarations

section Signature

variable {doc : Document} {ctor : Constructor}

theorem isParameterLine_unique {number number' : Nat} (h : IsParameterLine doc ctor number)
    (h' : IsParameterLine doc ctor number') : number = number' := by
  unfold IsParameterLine at h h'
  split at h
  next hdocblock =>
    rw [if_pos hdocblock] at h'
    obtain ⟨hstart, ⟨line, hline, hsignature⟩, hbefore⟩ := h
    obtain ⟨hstart', ⟨line', hline', hsignature'⟩, hbefore'⟩ := h'
    rcases Nat.lt_trichotomy number number' with hlt | heq | hlt
    · rw [hbefore' number line hstart hlt hline] at hsignature
      contradiction
    · exact heq
    · rw [hbefore number' line' hstart' hlt hline'] at hsignature'
      contradiction
  next hdocblock =>
    rw [if_neg hdocblock] at h'
    rw [h, h']

/-- The signature of a constructor that was found is found again, not below it. -/
theorem exists_signature_of_scan (hctor : (scan doc.view).constructor? = some ctor) :
    ∃ sig, signature doc.view ctor = .ok sig ∧ sig.line ≤ ctor.line := by
  obtain ⟨hstart, hcount, -⟩ := order_of_scan hctor
  by_cases hdocblock : ctor.hasDocblock = true
  · obtain ⟨-, line, hline, hsignature⟩ := (scan_constructor?_iff_standsIn.mp hctor).line.1
    rw [← Document.view_lineText?] at hline
    obtain ⟨first, hfirst, hle⟩ := View.exists_firstLine? hline hsignature hstart hcount
    obtain ⟨⟨hfrom, -⟩, ⟨text, htext, -⟩, -⟩ := View.firstLine?_eq_some_iff.mp hfirst
    refine ⟨⟨first, text, doc.stretch ctor.range.start.line first⟩, ?_, hle⟩
    exact (signature_eq_ok_iff_of_docblock hdocblock).mpr
      ⟨hfirst, Document.linesOrError_stretch (hle.trans (Nat.le_of_lt hcount)) hfrom,
        View.lineOrError_eq_ok_iff.mpr htext⟩
  · rw [Bool.not_eq_true] at hdocblock
    exact ⟨_, signature_of_no_docblock hdocblock, hstart⟩

end Signature

/-! ### The causes -/

/-- Why no plan is made for a property name. -/
inductive FailsWith (doc : Document) (name : Text) : InsertError → Prop
  | invalidName (hname : isPropertyName name = false) : FailsWith doc name (.invalidName name)
  | classNotFound (hname : isPropertyName name = true)
    (hctor : (scan doc.view).constructor? = none) (hclass : (scan doc.view).classLine = none)
    (htrait : (scan doc.view).traitUseLine = none)
    (hproperty : (scan doc.view).lastPropertyLine = none) : FailsWith doc name .classNotFound
  | lineOutOfRange (line : Nat) (hname : isPropertyName name = true)
    (hctor : (scan doc.view).constructor? = none)
    (hline : (scan doc.view).insertionLine doc.view.numbers = some line)
    (hcount : doc.lineCount ≤ line) : FailsWith doc name (.lineOutOfRange line)
  | unterminated (ctor : Constructor) (hname : isPropertyName name = true)
    (hctor : (scan doc.view).constructor? = some ctor) (hclosing : ctor.closingLine = none) :
    FailsWith doc name (.unterminatedConstructor ctor.line)
  | malformed (ctor : Constructor) (closing number : Nat) (line : Text)
    (hname : isPropertyName name = true) (hctor : (scan doc.view).constructor? = some ctor)
    (hclosing : ctor.closingLine = some closing) (hnumber : IsParameterLine doc ctor number)
    (hline : doc.lineText? number = some line)
    (hparameters : Line.LacksParentheses line ∨ closing = number ∧ Line.OpensInParentheses line) :
    FailsWith doc name (.malformedSignature number)

section Merge

variable {view : View} {decls : Declarations} {ctor : Constructor} {settings : Settings}
  {name : Text} {closing : Nat} {sig : Signature} (hclosing : ctor.closingLine = some closing)
  (hsig : signature view ctor = .ok sig)

include hclosing hsig

theorem merge_of_no_parentheses (hnone : Line.parentheses? sig.text = none) :
    merge view decls ctor settings name = .error (.malformedSignature sig.line) := by
  rw [merge, hclosing]
  dsimp only
  rw [hsig]
  dsimp only [bind, Except.bind]
  rw [hnone]
  rfl

theorem merge_of_early_brace {group : Line.Parentheses} {inline : Line.InlineBody}
    (hgroup : Line.parentheses? sig.text = some group) (hsame : closing = sig.line)
    (hinline : Line.inlineBody? sig.text = some inline)
    (hearly : inline.head.length < group.stop) :
    merge view decls ctor settings name = .error (.malformedSignature sig.line) := by
  have hblock : inlineBlock settings name sig group = .error (.malformedSignature sig.line) := by
    rw [inlineBlock, hinline]
    dsimp only
    rw [if_pos hearly]
    rfl
  rw [merge, hclosing]
  dsimp only
  rw [hsig]
  dsimp only [bind, Except.bind]
  rw [hgroup]
  dsimp only
  rw [if_pos hsame, hblock]

end Merge

section Failures

variable {content : Text} {settings : Settings} {name : Text} {ctor : Constructor} {closing : Nat}

/-- The line of a signature that ends its constructor holds an inline body. -/
theorem exists_inlineBody? {doc : Document} {sig : Signature}
    (hctor : (scan doc.view).constructor? = some ctor)
    (hsig : signature doc.view ctor = .ok sig) (hclosing : ctor.closingLine = some sig.line) :
    ∃ inline, Line.inlineBody? sig.text = some inline := by
  obtain ⟨sig', hsig', hle⟩ := exists_signature_of_scan hctor
  obtain rfl : sig = sig' := Except.ok.inj (hsig.symm.trans hsig')
  obtain ⟨-, -, horder⟩ := order_of_scan hctor
  obtain ⟨hge, -, hinline⟩ := horder _ hclosing
  obtain ⟨-, htext, -⟩ := signature_of_scan hctor hsig
  have hsome := hinline.mp (Nat.le_antisymm hle hge)
  rw [Document.lineIs_iff htext] at hsome
  exact Option.isSome_iff_exists.mp hsome

theorem ofText_of_constructor (hname : isPropertyName name = true)
    (hctor : (scan (Document.ofText content).view).constructor? = some ctor) :
    ofText content settings name = merge (Document.ofText content).view
      (scan (Document.ofText content).view) ctor settings name := by
  simp [ofText, ofDeclarations, hname, hctor]

theorem ofText_of_no_constructor (hname : isPropertyName name = true)
    (hctor : (scan (Document.ofText content).view).constructor? = none) :
    ofText content settings name = fresh (Document.ofText content).view
      (scan (Document.ofText content).view) settings name := by
  simp [ofText, ofDeclarations, hname, hctor]

/-- Every cause has its error. -/
theorem error_of_failsWith {cause : InsertError}
    (h : FailsWith (Document.ofText content) name cause) :
    ofText content settings name = .error cause := by
  cases h with
  | invalidName hname => simp [ofText, ofDeclarations, hname]
  | classNotFound hname hctor hclass htrait hproperty =>
      rw [ofText_of_no_constructor hname hctor, fresh,
        insertionLine_eq_none_iff.mpr ⟨hclass, htrait, hproperty⟩]
      rfl
  | lineOutOfRange line hname hctor hline hcount =>
      have hmissing : (Document.ofText content).view.lineText? line = none := by
        rw [Document.view_lineText?, Document.lineText?_eq_none_iff.mpr hcount]
      rw [ofText_of_no_constructor hname hctor, fresh, hline]
      dsimp only
      rw [View.lineOrError, hmissing]
      rfl
  | unterminated ctor hname hctor hclosing =>
      rw [ofText_of_constructor hname hctor, merge, hclosing]
      rfl
  | malformed ctor closing number line hname hctor hclosing hnumber hline hparameters =>
      obtain ⟨sig, hsig, -⟩ := exists_signature_of_scan hctor
      obtain ⟨hparameter, htext, -⟩ := signature_of_scan hctor hsig
      obtain rfl : number = sig.line := isParameterLine_unique hnumber hparameter
      obtain rfl : line = sig.text := Option.some.inj (hline.symm.trans htext)
      have hbreak := Text.newline_notMem_of_lineText? hline
      rw [ofText_of_constructor hname hctor]
      cases hgroup : Line.parentheses? sig.text with
      | none => exact merge_of_no_parentheses hclosing hsig hgroup
      | some group =>
          rcases hparameters with hlacks | ⟨rfl, hopens⟩
          · rw [(Line.parentheses?_eq_none_iff hbreak).mpr hlacks] at hgroup
            contradiction
          · obtain ⟨inline, hinline⟩ := exists_inlineBody? hctor hsig hclosing
            exact merge_of_early_brace hclosing hsig hgroup rfl hinline
              ((Line.opensInParentheses_iff hbreak hinline hgroup).mp hopens)

theorem exists_plan_of_no_constructor {line : Nat} (hname : isPropertyName name = true)
    (hctor : (scan (Document.ofText content).view).constructor? = none)
    (hline : (scan (Document.ofText content).view).insertionLine
      (Document.ofText content).view.numbers = some line)
    (hcount : line < (Document.ofText content).lineCount) :
    ∃ plan, ofText content settings name = .ok plan := by
  obtain ⟨here, hhere⟩ := Document.lineText?_isSome_iff.mpr hcount
  rw [← Document.view_lineText?] at hhere
  exact ⟨_, ofDeclarations_eq_ok_iff.mpr
    ⟨hname, Or.inl ⟨hctor, fresh_eq_ok_iff.mpr ⟨line, here, hline, hhere, rfl⟩⟩⟩⟩

theorem exists_plan_of_constructor {sig : Signature} {group : Line.Parentheses}
    (hname : isPropertyName name = true)
    (hctor : (scan (Document.ofText content).view).constructor? = some ctor)
    (hclosing : ctor.closingLine = some closing)
    (hsig : signature (Document.ofText content).view ctor = .ok sig)
    (hgroup : Line.parentheses? sig.text = some group)
    (hinline : closing = sig.line → ¬Line.OpensInParentheses sig.text) :
    ∃ plan, ofText content settings name = .ok plan := by
  obtain ⟨sig', hsig', hle⟩ := exists_signature_of_scan hctor
  obtain rfl : sig = sig' := Except.ok.inj (hsig.symm.trans hsig')
  obtain ⟨-, -, horder⟩ := order_of_scan hctor
  obtain ⟨hge, hcount, -⟩ := horder closing hclosing
  obtain ⟨last, hlast⟩ := Document.lineText?_isSome_iff.mpr hcount
  rcases Nat.lt_or_ge sig.line closing with hlt | hnot
  · obtain ⟨plan, hplan⟩ := exists_plan_of_block hname hctor hclosing hsig hgroup hlt hlast
    exact ⟨plan, hplan.1⟩
  · obtain rfl : closing = sig.line := by omega
    obtain ⟨inline, hbody⟩ := exists_inlineBody? hctor hsig hclosing
    obtain ⟨-, htext, -⟩ := signature_of_scan hctor hsig
    have hlate := hinline rfl
    rw [Line.opensInParentheses_iff (Text.newline_notMem_of_lineText? htext) hbody hgroup,
      Nat.not_lt] at hlate
    have hrange : (Document.ofText content).view.lineRange? sig.line =
        some (.ofLine sig.line last) := by
      rw [View.lineRange?, Document.view_lineText?, hlast, Option.map_some]
    exact ⟨_, ofDeclarations_eq_ok_iff.mpr ⟨hname, Or.inr ⟨ctor, hctor, merge_eq_ok_iff.mpr
      ⟨sig.line, sig, group, _, _, hclosing, hsig, hgroup,
        by rw [if_pos rfl]; exact inlineBlock_eq_ok_iff.mpr ⟨inline, hbody, hlate, rfl⟩,
        hrange, rfl⟩⟩⟩⟩

/-- A plan is made unless there is a cause not to. -/
theorem exists_plan_or_failsWith (content : Text) (settings : Settings) (name : Text) :
    (∃ plan, ofText content settings name = .ok plan) ∨
      ∃ cause, FailsWith (Document.ofText content) name cause := by
  cases hname : isPropertyName name with
  | false => exact Or.inr ⟨_, .invalidName hname⟩
  | true =>
      cases hctor : (scan (Document.ofText content).view).constructor? with
      | none =>
          cases hline : (scan (Document.ofText content).view).insertionLine
            (Document.ofText content).view.numbers with
          | none =>
              obtain ⟨hclass, htrait, hproperty⟩ := insertionLine_eq_none_iff.mp hline
              exact Or.inr ⟨_, .classNotFound hname hctor hclass htrait hproperty⟩
          | some line =>
              rcases Nat.lt_or_ge line (Document.ofText content).lineCount with hcount | hcount
              · exact Or.inl (exists_plan_of_no_constructor hname hctor hline hcount)
              · exact Or.inr ⟨_, .lineOutOfRange line hname hctor hline hcount⟩
      | some ctor =>
          cases hclosing : ctor.closingLine with
          | none => exact Or.inr ⟨_, .unterminated ctor hname hctor hclosing⟩
          | some closing =>
              obtain ⟨sig, hsig, -⟩ := exists_signature_of_scan hctor
              obtain ⟨hnumber, htext, -⟩ := signature_of_scan hctor hsig
              have hmalformed := FailsWith.malformed ctor closing sig.line sig.text hname hctor
                hclosing hnumber htext
              cases hgroup : Line.parentheses? sig.text with
              | none =>
                  have hlacks := (Line.parentheses?_eq_none_iff
                    (Text.newline_notMem_of_lineText? htext)).mp hgroup
                  exact Or.inr ⟨_, hmalformed (Or.inl hlacks)⟩
              | some group =>
                  by_cases hopens : closing = sig.line ∧ Line.OpensInParentheses sig.text
                  · exact Or.inr ⟨_, hmalformed (Or.inr hopens)⟩
                  · exact Or.inl (exists_plan_of_constructor hname hctor hclosing hsig hgroup
                      fun hsame hin => hopens ⟨hsame, hin⟩)

theorem error_iff_failsWith {cause : InsertError} :
    ofText content settings name = .error cause ↔
      FailsWith (Document.ofText content) name cause := by
  refine ⟨fun hfails => ?_, error_of_failsWith⟩
  rcases exists_plan_or_failsWith content settings name with ⟨plan, hplan⟩ | ⟨cause', hcause⟩
  · rw [hplan] at hfails
    contradiction
  · rw [error_of_failsWith hcause] at hfails
    rwa [← Except.error.inj hfails]

end Failures

/-- **When planning fails.** It fails with an error exactly if the cause of that error is there, and
else gives a plan. A signature is never missing, nor is a line of a constructor that was found. -/
theorem ofText_eq_error_iff (content : Text) (settings : Settings) (name : Text) :
    (∀ cause, ofText content settings name = .error cause ↔
      FailsWith (Document.ofText content) name cause) ∧
    ((∃ plan, ofText content settings name = .ok plan) ↔
      ∀ cause, ¬FailsWith (Document.ofText content) name cause) ∧
    (∀ line, ofText content settings name ≠ .error (.signatureNotFound line)) ∧
    ∀ ctor line, (scan (Document.ofText content).view).constructor? = some ctor →
      ofText content settings name ≠ .error (.lineOutOfRange line) := by
  refine ⟨fun cause => error_iff_failsWith, ⟨?_, ?_⟩, ?_, ?_⟩
  · rintro ⟨plan, hplan⟩ cause hcause
    rw [error_of_failsWith hcause] at hplan
    contradiction
  · intro hnone
    exact (exists_plan_or_failsWith content settings name).resolve_right
      fun ⟨cause, hcause⟩ => hnone cause hcause
  · intro line hfails
    cases error_iff_failsWith.mp hfails
  · intro ctor line hctor hfails
    cases error_iff_failsWith.mp hfails with
    | lineOutOfRange _ _ hnone =>
        rw [hctor] at hnone
        contradiction

end Plan

end PropertyInsertion

import PropertyInsertion.Plan.Insertion
import PropertyInsertion.Proofs.SnippetReading

/-!
# What a plan is made of

When planning succeeds, and which snippet it then gives. Every plan declares the property, adds the
parameter and assigns it: four stops for the name with literal text between them, and the final
cursor behind the assignment. So what a plan shows is its literal text with the name filled in.
-/

namespace PropertyInsertion

theorem bind_eq_ok_iff {ε α β : Type} {x : Except ε α} {f : α → Except ε β} {b : β} :
    (x >>= f) = .ok b ↔ ∃ a, x = .ok a ∧ f a = .ok b := by
  cases x <;> simp [bind, Except.bind]

theorem throw_ne_ok {ε α : Type} (e : ε) (a : α) : (throw e : Except ε α) ≠ .ok a :=
  nofun

theorem pure_eq_ok_iff {ε α : Type} {a b : α} : (pure a : Except ε α) = .ok b ↔ b = a :=
  ⟨fun h => (Except.ok.inj h).symm, fun h => h ▸ rfl⟩

theorem toOption_eq_some_iff {ε α : Type} {x : Except ε α} {a : α} :
    x.toOption = some a ↔ x = .ok a := by
  cases x <;> simp [Except.toOption]

/-! ### Property names -/

/-- A character that a property name may hold. -/
def isNameChar (c : Char) : Bool :=
  c == '_' || Text.isLetter c || Text.isNumeral c

theorem isNameChar_of_mem {name : Text} (hname : isPropertyName name = true) {c : Char}
    (hc : c ∈ name) : isNameChar c = true := by
  cases name with
  | nil => contradiction
  | cons first rest =>
      rw [isPropertyName, Bool.and_eq_true] at hname
      rcases List.mem_cons.mp hc with rfl | hc
      · rw [isNameChar, hname.1, Bool.true_or]
      · exact List.all_eq_true.mp hname.2 c hc

theorem notMem_name {name : Text} (hname : isPropertyName name = true) {c : Char}
    (hc : isNameChar c = false) : c ∉ name := by
  intro hmem
  rw [isNameChar_of_mem hname hmem] at hc
  contradiction

namespace Plan

open Code

/-! ### When planning succeeds -/

theorem ofDeclarations_eq_ok_iff {view : View} {decls : Declarations} {settings : Settings}
    {name : Text} {plan : Plan} :
    ofDeclarations view decls settings name = .ok plan ↔
      isPropertyName name = true ∧
        ((decls.constructor? = none ∧ fresh view decls settings name = .ok plan) ∨
          ∃ ctor, decls.constructor? = some ctor ∧
            merge view decls ctor settings name = .ok plan) := by
  unfold ofDeclarations
  cases hctor : decls.constructor? <;> by_cases hname : isPropertyName name = true <;>
    simp [hname]

def freshSnippet (decls : Declarations) (settings : Settings) (name here next : Text) : Snippet :=
  [.text (if decls.lastPropertyLine.isSome || decls.traitUseLine.isSome then newline else [])] ++
    declaration settings name ++ freshConstructor settings name ++ [.text (padding here next)]

theorem fresh_eq_ok_iff {view : View} {decls : Declarations} {settings : Settings} {name : Text}
    {plan : Plan} :
    fresh view decls settings name = .ok plan ↔
      ∃ line here, decls.insertionLine view.numbers = some line ∧
        view.lineText? line = some here ∧
        plan = ⟨.insert ⟨line, 0⟩,
          freshSnippet decls settings name here
            ((view.lineText? (lineBelow view.numbers line)).getD []),
          ⟨line, 0⟩⟩ := by
  unfold fresh View.lineOrError
  cases hline : decls.insertionLine view.numbers with
  | none => simp [throw_ne_ok]
  | some line =>
      simp only [bind_eq_ok_iff, Option.some.injEq, exists_eq_left', exists_and_left]
      cases hhere : view.lineText? line with
      | none => simp
      | some here => simp [pure_eq_ok_iff, freshSnippet]

/-- The snippet of a constructor with one parameter more, given the rest of its signature and its
body. -/
def mergeSnippet (settings : Settings) (name : Text) (docblock : List Text)
    (group : Line.Parentheses) (body : Snippet) (separation : Text) : Snippet :=
  declaration settings name ++ docblock.map (fun line => .text (line ++ newline)) ++
    parameterList group name ++ body ++ [.text separation]

theorem merge_eq_ok_iff {view : View} {decls : Declarations} {ctor : Constructor}
    {settings : Settings} {name : Text} {plan : Plan} :
    merge view decls ctor settings name = .ok plan ↔
      ∃ closingLine sig group body last,
        ctor.closingLine = some closingLine ∧ signature view ctor = .ok sig ∧
        Line.parentheses? sig.text = some group ∧
        (if closingLine = sig.line then inlineBlock settings name sig group
          else block view settings name sig group closingLine) = .ok body ∧
        view.lineRange? closingLine = some last ∧
        plan = ⟨.replace ⟨ctor.range.start, last.stop⟩,
          mergeSnippet settings name sig.docblock group body (separation view closingLine),
          ⟨revealLine view decls ctor, 0⟩⟩ := by
  unfold merge
  cases hclosing : ctor.closingLine with
  | none => simp [throw_ne_ok]
  | some closingLine =>
      simp only [bind_eq_ok_iff, Option.some.injEq, exists_and_left, exists_eq_left']
      refine exists_congr fun sig => and_congr_right fun _ => ?_
      cases hgroup : Line.parentheses? sig.text with
      | none => simp [throw_ne_ok]
      | some group =>
          simp only [Option.some.injEq, exists_eq_left']
          -- both bodies are followed by the same last step
          split <;> rw [bind_eq_ok_iff] <;>
            refine exists_congr fun body => and_congr_right fun _ => ?_
          all_goals
            cases hlast : view.lineRange? closingLine with
            | none => simp [throw_ne_ok]
            | some last => simp [pure_eq_ok_iff, mergeSnippet]

theorem block_eq_ok_iff {view : View} {settings : Settings} {name : Text} {sig : Signature}
    {group : Line.Parentheses} {closingLine : Nat} {snippet : Snippet} :
    block view settings name sig group closingLine = .ok snippet ↔
      ∃ body closing,
        view.linesOrError (lineBelow view.numbers sig.line)
          (closingLine - lineBelow view.numbers sig.line) = .ok body ∧
        view.lineOrError closingLine = .ok closing ∧
        snippet = [.text group.after] ++ body.map (fun line => .text (newline ++ line)) ++
          assignment (Text.leadingBlanks (Text.trimEnd closing)) settings name ++
          [.text (newline ++ Text.trimEnd closing)] := by
  unfold block
  simp only [bind_eq_ok_iff, pure_eq_ok_iff, exists_and_left]

theorem inlineBlock_eq_ok_iff {settings : Settings} {name : Text} {sig : Signature}
    {group : Line.Parentheses} {snippet : Snippet} :
    inlineBlock settings name sig group = .ok snippet ↔
      ∃ inline, Line.inlineBody? sig.text = some inline ∧ group.stop ≤ inline.head.length ∧
        snippet = [.text (Text.trimEnd (inline.head.drop group.stop) ++ newline ++
              sig.text.leadingBlanks ++ ['{']),
            .text (if (Text.trim inline.body).isEmpty then []
              else newline ++ sig.text.leadingBlanks ++ settings.indent ++
                Text.trim inline.body)] ++
          assignment sig.text.leadingBlanks settings name ++
          [.text (newline ++ sig.text.leadingBlanks ++ ['}'])] := by
  unfold inlineBlock
  cases hinline : Line.inlineBody? sig.text with
  | none => simp [throw_ne_ok]
  | some inline =>
      by_cases hstop : inline.head.length < group.stop
      · simp [hstop, bind, Except.bind, Nat.not_le.mpr hstop]
      · simp [hstop, pure_eq_ok_iff, Nat.not_lt.mp hstop]

/-! ### The shape of a snippet -/

/-- The snippet stops at the name once in the declaration, once in the parameter list and twice in
the assignment, has literal text everywhere else, and goes on on a new line behind the
assignment. -/
def Assigns (settings : Settings) (name : Text) (snippet : Snippet) : Prop :=
  ∃ (front between inner back : List Text) (blockIndent behind : Text),
    snippet = front.map .text ++ nameStop name :: (between.map .text ++ nameStop name ::
      (inner.map .text ++ (assignment blockIndent settings name ++
        .text ('\n' :: behind) :: back.map .text)))

theorem assigns_freshSnippet (decls : Declarations) (settings : Settings) (name here next : Text) :
    Assigns settings name (freshSnippet decls settings name here next) := by
  refine ⟨[if decls.lastPropertyLine.isSome || decls.traitUseLine.isSome then newline else [],
      settings.indent ++ settings.visibility.keyword.toList ++ space ++ ['$']],
    [';' :: blankLine, settings.indent ++ settings.constructorVisibility.keyword.toList ++ space ++
      Line.constructorMark ++ ['(', '$']],
    [[')', '\n'], settings.indent ++ ['{']], [padding here next],
    settings.indent, settings.indent ++ ['}'], ?_⟩
  simp [freshSnippet, freshConstructor, declaration, newline]

/-- Texts, the assignment and a text on a new line, which every body of a constructor consists
of. -/
def Closes (settings : Settings) (name : Text) (body : Snippet) : Prop :=
  ∃ (inner : List Text) (blockIndent behind : Text),
    body = inner.map .text ++ (assignment blockIndent settings name ++ [.text ('\n' :: behind)])

theorem closes_inlineBlock {settings : Settings} {name : Text} {sig : Signature}
    {group : Line.Parentheses} {body : Snippet}
    (h : inlineBlock settings name sig group = .ok body) : Closes settings name body := by
  obtain ⟨inline, -, -, rfl⟩ := inlineBlock_eq_ok_iff.mp h
  refine ⟨[Text.trimEnd (inline.head.drop group.stop) ++ newline ++ sig.text.leadingBlanks ++ ['{'],
      if (Text.trim inline.body).isEmpty then []
      else newline ++ sig.text.leadingBlanks ++ settings.indent ++ Text.trim inline.body],
    sig.text.leadingBlanks, sig.text.leadingBlanks ++ ['}'], ?_⟩
  simp [newline]

theorem closes_block {view : View} {settings : Settings} {name : Text} {sig : Signature}
    {group : Line.Parentheses} {closingLine : Nat} {body : Snippet}
    (h : block view settings name sig group closingLine = .ok body) :
    Closes settings name body := by
  obtain ⟨lines, closing, -, -, rfl⟩ := block_eq_ok_iff.mp h
  refine ⟨group.after :: lines.map (newline ++ ·), Text.leadingBlanks (Text.trimEnd closing),
    Text.trimEnd closing, ?_⟩
  simp [newline, Function.comp_def]

theorem assigns_mergeSnippet {settings : Settings} {name : Text} (docblock : List Text)
    (group : Line.Parentheses) {body : Snippet} (separation : Text)
    (hbody : Closes settings name body) :
    Assigns settings name (mergeSnippet settings name docblock group body separation) := by
  obtain ⟨inner, blockIndent, behind, rfl⟩ := hbody
  refine ⟨[settings.indent ++ settings.visibility.keyword.toList ++ space ++ ['$']],
    (';' :: blankLine) :: docblock.map (· ++ newline) ++ [group.before ++ ['('],
      if group.inside.allBlank then [] else group.inside ++ [',', ' '], ['$']],
    [')'] :: inner, [separation], blockIndent, behind, ?_⟩
  simp [mergeSnippet, declaration, parameterList, newline]

/-- **The shape of every plan.** -/
theorem assigns_of_ofDeclarations {view : View} {decls : Declarations} {settings : Settings}
    {name : Text} {plan : Plan} (h : ofDeclarations view decls settings name = .ok plan) :
    Assigns settings name plan.snippet := by
  obtain ⟨-, ⟨-, hfresh⟩ | ⟨ctor, -, hmerge⟩⟩ := ofDeclarations_eq_ok_iff.mp h
  · obtain ⟨line, here, -, -, rfl⟩ := fresh_eq_ok_iff.mp hfresh
    exact assigns_freshSnippet _ settings name here _
  · obtain ⟨closingLine, sig, group, body, last, -, -, -, hbody, -, rfl⟩ :=
      merge_eq_ok_iff.mp hmerge
    refine assigns_mergeSnippet sig.docblock group _ ?_
    split at hbody
    · exact closes_inlineBlock hbody
    · exact closes_block hbody

theorem assigns_of_ofText {content : Text} {settings : Settings} {name : Text} {plan : Plan}
    (h : ofText content settings name = .ok plan) : Assigns settings name plan.snippet :=
  assigns_of_ofDeclarations h

theorem isPropertyName_of_ofText {content : Text} {settings : Settings} {name : Text} {plan : Plan}
    (h : ofText content settings name = .ok plan) : isPropertyName name = true :=
  (ofDeclarations_eq_ok_iff.mp h).1

/-! ### What a plan shows -/

theorem readable_texts_append (texts : List Text) {rest : Snippet} (h : rest.Readable) :
    Snippet.Readable (texts.map .text ++ rest) := by
  induction texts with
  | nil => exact h
  | cons literal texts ih => exact ih

theorem readable_of_assigns {settings : Settings} {name : Text} {snippet : Snippet}
    (hname : isPropertyName name = true) (h : Assigns settings name snippet) :
    snippet.Readable := by
  obtain ⟨front, between, inner, back, blockIndent, behind, rfl⟩ := h
  have hstop : 1 ≤ Snippet.greatestStop := by decide
  have hbackslash : '\\' ∉ name := notMem_name hname (by decide)
  have hbrace : '}' ∉ name := notMem_name hname (by decide)
  have hempty : Snippet.Readable [] := trivial
  have hback : Snippet.Readable (.text ('\n' :: behind) :: back.map .text) := by
    simpa [Snippet.Readable] using readable_texts_append back hempty
  refine readable_texts_append _ ⟨hstop, hbackslash, hbrace, ?_⟩
  refine readable_texts_append _ ⟨hstop, hbackslash, hbrace, ?_⟩
  refine readable_texts_append _ ⟨hstop, hbackslash, hbrace, hstop, hbackslash, hbrace, ?_, hback⟩
  change (Snippet.markup (.text ('\n' :: behind) :: back.map .text)).head?.all _ = true
  rw [Snippet.markup_cons, Piece.markup, Snippet.escape, List.flatMap_cons]
  rfl

theorem piece_of_assigns {settings : Settings} {name : Text} {snippet : Snippet}
    (h : Assigns settings name snippet) {piece : Piece} (hpiece : piece ∈ snippet) :
    (∃ literal, piece = .text literal) ∨ piece = nameStop name ∨ piece = .finalStop := by
  obtain ⟨front, between, inner, back, blockIndent, behind, rfl⟩ := h
  simp only [assignment, List.mem_append, List.mem_map, List.mem_cons, List.not_mem_nil,
    or_false] at hpiece
  rcases hpiece with ⟨_, -, rfl⟩ | rfl | ⟨_, -, rfl⟩ | rfl | ⟨_, -, rfl⟩ |
    (rfl | rfl | rfl | rfl | rfl | rfl) | rfl | ⟨_, -, rfl⟩ <;> simp

/-- A plan without its markup is its literal text with the name in every stop. -/
theorem edit_eq {content : Text} {settings : Settings} {name : Text} {plan : Plan}
    (h : ofText content settings name = .ok plan) :
    plan.edit = ⟨plan.target.range, plan.snippet.flatMap Piece.plain⟩ := by
  have hassigns := assigns_of_ofText h
  have hreadable := readable_of_assigns (isPropertyName_of_ofText h) hassigns
  have hplain : ∀ piece ∈ plan.snippet, piece.isPlain = true := by
    intro piece hpiece
    obtain ⟨literal, rfl⟩ | rfl | rfl := piece_of_assigns hassigns hpiece <;> rfl
  rw [edit, text, Snippet.render_markup hreadable, Snippet.shown_eq_plain hplain rfl]

end Plan

end PropertyInsertion

import PropertyInsertion.Proofs.PlanShape

/-!
# Name and settings do not move an edit

The planner is run twice on the same view and the same record of declarations, which need not fit
each other, with a name and settings of its own for each run. The runs take the same branches: they
fail for the same cause, or they write to the same place. Under the same settings the name makes no
difference to the snippet either but in the stops that hold it, so that a user who types another
name into the first plan gets the text of the second.
-/

namespace PropertyInsertion

/-! ### Two runs -/

/-- Both runs fail for the same cause, or both succeed and their results are related. -/
inductive SameOutcome {ε α β : Type} (Related : α → β → Prop) : Except ε α → Except ε β → Prop
  | error (cause : ε) : SameOutcome Related (.error cause) (.error cause)
  | ok {a : α} {b : β} (h : Related a b) : SameOutcome Related (.ok a) (.ok b)

namespace SameOutcome

theorem refl {ε α : Type} (run : Except ε α) : SameOutcome Eq run run := by
  cases run with
  | error cause => exact .error cause
  | ok a => exact .ok rfl

theorem bind {ε α β γ δ : Type} {Related : α → β → Prop} {Related' : γ → δ → Prop}
    {run : Except ε α} {run' : Except ε β} {next : α → Except ε γ} {next' : β → Except ε δ}
    (h : SameOutcome Related run run')
    (hnext : ∀ a b, Related a b → SameOutcome Related' (next a) (next' b)) :
    SameOutcome Related' (run >>= next) (run' >>= next') := by
  cases h with
  | error cause => exact .error cause
  | ok h => exact hnext _ _ h

end SameOutcome

/-! ### Typing into a stop -/

/-- The piece with another default, if it is a placeholder of the stop. -/
def Piece.overtype (stop : Nat) (entry : Text) : Piece → Piece
  | .placeholder other default => .placeholder other (if other = stop then entry else default)
  | piece => piece

namespace Snippet

/-- The token once the user has typed into the stop: all placeholders and echoes of the stop show
what was typed. -/
def Token.overtype (stop : Nat) (entry : Text) : Token → Token
  | .char c => .char c
  | .placeholder other default => .placeholder other (if other = stop then entry else default)
  | .echo other => if other = stop then .placeholder other entry else .echo other

/-- The text that a written snippet shows once the user has typed into a stop. -/
def typed (stop : Nat) (entry written : Text) : Text :=
  expand [] ((tokens written).map (Token.overtype stop entry))

/-- Typing into a stop without echoes changes the tokens as it changes the pieces. -/
theorem overtype_tokens {stop : Nat} {snippet : Snippet} (entry : Text) (hstop : stop ≠ 0)
    (hecho : .echo stop ∉ snippet) :
    (snippet.flatMap Piece.tokens).map (Token.overtype stop entry) =
      (snippet.map (Piece.overtype stop entry)).flatMap Piece.tokens := by
  rw [List.map_flatMap, List.flatMap_map]
  refine List.flatMap_congr fun piece hpiece => ?_
  cases piece with
  | text literal => simp [Piece.tokens, Piece.overtype, Token.overtype]
  | placeholder other default => rfl
  | echo other =>
      have hother : other ≠ stop := fun h => hecho (h ▸ hpiece)
      simp [Piece.tokens, Piece.overtype, Token.overtype, hother]
  | finalStop => simp [Piece.tokens, Piece.overtype, Token.overtype, hstop.symm]

end Snippet

namespace Plan

open Code

/-! ### The parts of a snippet under another name -/

section Overtype

variable (settings : Settings) (name entry : Text)

theorem overtype_declaration :
    (declaration settings name).map (Piece.overtype 1 entry) = declaration settings entry := rfl

theorem overtype_assignment (blockIndent : Text) :
    (assignment blockIndent settings name).map (Piece.overtype 1 entry) =
      assignment blockIndent settings entry := rfl

theorem overtype_parameterList (group : Line.Parentheses) :
    (parameterList group name).map (Piece.overtype 1 entry) = parameterList group entry := rfl

theorem overtype_freshConstructor :
    (freshConstructor settings name).map (Piece.overtype 1 entry) =
      freshConstructor settings entry := rfl

end Overtype

/-! ### Two runs of the planner -/

/-- Under the same settings the second snippet is the first with another default for the first
stop. -/
def Linked (settings settings' : Settings) (entry : Text) (snippet snippet' : Snippet) : Prop :=
  settings = settings' → snippet' = snippet.map (Piece.overtype 1 entry)

/-- The plans write to the same place, show the same place and have linked snippets. -/
structure Agrees (settings settings' : Settings) (entry : Text) (plan plan' : Plan) : Prop where
  target : plan.target = plan'.target
  reveal : plan.reveal = plan'.reveal
  linked : Linked settings settings' entry plan.snippet plan'.snippet

section Runs

variable (view : View) (decls : Declarations) (settings settings' : Settings) (name name' : Text)

theorem sameOutcome_fresh :
    SameOutcome (Agrees settings settings' name') (fresh view decls settings name)
      (fresh view decls settings' name') := by
  unfold fresh
  cases decls.insertionLine view.numbers with
  | none => exact .error _
  | some line =>
      refine (SameOutcome.refl (view.lineOrError line)).bind fun here _ hhere => ?_
      subst hhere
      refine .ok ⟨rfl, rfl, ?_⟩
      rintro rfl
      simp [overtype_declaration, overtype_freshConstructor, Piece.overtype]

theorem sameOutcome_inlineBlock (sig : Signature) (group : Line.Parentheses) :
    SameOutcome (Linked settings settings' name') (inlineBlock settings name sig group)
      (inlineBlock settings' name' sig group) := by
  unfold inlineBlock
  cases Line.inlineBody? sig.text with
  | none => exact .error _
  | some inline =>
      by_cases hstop : inline.head.length < group.stop
      · simp only [hstop, if_true]
        exact .error _
      · simp only [hstop, if_false]
        refine .ok ?_
        rintro rfl
        simp [overtype_assignment, Piece.overtype]

theorem sameOutcome_block (sig : Signature) (group : Line.Parentheses) (closingLine : Nat) :
    SameOutcome (Linked settings settings' name') (block view settings name sig group closingLine)
      (block view settings' name' sig group closingLine) := by
  unfold block
  refine (SameOutcome.refl (view.linesOrError _ _)).bind fun body _ hbody => ?_
  subst hbody
  refine (SameOutcome.refl (view.lineOrError closingLine)).bind fun closing _ hclosing => ?_
  subst hclosing
  refine .ok ?_
  rintro rfl
  simp [overtype_assignment, Piece.overtype]

theorem sameOutcome_merge (ctor : Constructor) :
    SameOutcome (Agrees settings settings' name') (merge view decls ctor settings name)
      (merge view decls ctor settings' name') := by
  unfold merge
  cases ctor.closingLine with
  | none => exact .error _
  | some closingLine =>
      refine (SameOutcome.refl (signature view ctor)).bind fun sig _ hsig => ?_
      subst hsig
      cases Line.parentheses? sig.text with
      | none => exact .error _
      | some group =>
          dsimp only
          split
          on_goal 1 =>
            refine (sameOutcome_inlineBlock settings settings' name name' sig group).bind ?_
          on_goal 2 =>
            refine
              (sameOutcome_block view settings settings' name name' sig group closingLine).bind ?_
          -- both bodies are followed by the same last step
          all_goals
            intro body body' hlinked
            cases view.lineRange? closingLine with
            | none => exact .error _
            | some last =>
                refine .ok ⟨rfl, rfl, ?_⟩
                rintro rfl
                simp [hlinked rfl, overtype_declaration, overtype_parameterList, Piece.overtype]

theorem sameOutcome_ofDeclarations (hname : isPropertyName name = true)
    (hname' : isPropertyName name' = true) :
    SameOutcome (Agrees settings settings' name') (ofDeclarations view decls settings name)
      (ofDeclarations view decls settings' name') := by
  rw [ofDeclarations, ofDeclarations, if_pos hname, if_pos hname']
  cases decls.constructor? with
  | none => exact sameOutcome_fresh view decls settings settings' name name'
  | some ctor => exact sameOutcome_merge view decls settings settings' name name' ctor

end Runs

theorem echo_notMem_of_assigns {settings : Settings} {name : Text} {snippet : Snippet}
    (h : Assigns settings name snippet) (stop : Nat) : .echo stop ∉ snippet := by
  intro hmem
  obtain ⟨literal, hpiece⟩ | hpiece | hpiece := piece_of_assigns h hmem <;> contradiction

/-- **Name and settings do not move an edit.** Two runs on one view and one record fail for the same
cause or write to the same place and show the same place. Under the same settings the snippets have
the same pieces but for the default of the first stop, in their written form too; so typing the
second name into the first plan shows the text of the second plan. -/
theorem name_and_settings_keep_place (view : View) (decls : Declarations)
    (settings settings' : Settings) (name name' : Text) (hname : isPropertyName name = true)
    (hname' : isPropertyName name' = true) :
    (∃ cause, ofDeclarations view decls settings name = .error cause ∧
      ofDeclarations view decls settings' name' = .error cause) ∨
    ∃ plan plan', ofDeclarations view decls settings name = .ok plan ∧
      ofDeclarations view decls settings' name' = .ok plan' ∧
      plan.target = plan'.target ∧ plan.reveal = plan'.reveal ∧
      (settings = settings' →
        (∀ piece ∈ plan.snippet,
          (∃ literal, piece = .text literal) ∨ piece = nameStop name ∨ piece = .finalStop) ∧
        plan'.snippet = plan.snippet.map (Piece.overtype 1 name') ∧
        Snippet.tokens plan'.text =
          (Snippet.tokens plan.text).map (Snippet.Token.overtype 1 name') ∧
        Snippet.typed 1 name' plan.text = Snippet.render plan'.text) := by
  have hsame := sameOutcome_ofDeclarations view decls settings settings' name name' hname hname'
  generalize hrun : ofDeclarations view decls settings name = run at hsame
  generalize hrun' : ofDeclarations view decls settings' name' = run' at hsame
  cases hsame with
  | error cause => exact Or.inl ⟨cause, rfl, rfl⟩
  | @ok plan plan' hagrees =>
      refine Or.inr ⟨plan, plan', rfl, rfl, hagrees.target, hagrees.reveal, ?_⟩
      intro hsettings
      have hassigns := assigns_of_ofDeclarations hrun
      have hreadable := readable_of_assigns hname hassigns
      have hreadable' := readable_of_assigns hname' (assigns_of_ofDeclarations hrun')
      have hsnippet := hagrees.linked hsettings
      have htokens : Snippet.tokens plan'.text =
          (Snippet.tokens plan.text).map (Snippet.Token.overtype 1 name') := by
        rw [text, text, Snippet.tokens_markup hreadable, Snippet.tokens_markup hreadable', hsnippet,
          Snippet.overtype_tokens name' (by decide) (echo_notMem_of_assigns hassigns 1)]
      refine ⟨fun _ hpiece => piece_of_assigns hassigns hpiece, hsnippet, htokens, ?_⟩
      rw [Snippet.typed, ← htokens, Snippet.render]

/-- A view without its last line. -/
def misfitView : View :=
  (Document.ofText " \x7b\n $0;\n \x7d\nfunction __construct($a)".toList).viewWithout [3]

/-- A record of lines that the view does not have, two of them with the last number there is. -/
def misfit : Declarations :=
  { traitUseLine := some (lineNumbers - 1)
    constructor? := some ⟨7, ⟨⟨lineNumbers - 1, 5⟩, ⟨6, 0⟩⟩, some 2⟩ }

theorem misfit_keeps_place :
    ∃ plan plan', ofDeclarations misfitView misfit {} ['b'] = .ok plan ∧
      ofDeclarations misfitView misfit {} ['é', '1'] = .ok plan' ∧
      plan.reveal = ⟨0, 0⟩ ∧ plan.target = plan'.target ∧ plan.reveal = plan'.reveal ∧
      Snippet.typed 1 ['é', '1'] plan.text = Snippet.render plan'.text := by
  have hok : (ofDeclarations misfitView misfit {} ['b']).toOption.map reveal = some ⟨0, 0⟩ := by
    decide +kernel
  rcases name_and_settings_keep_place misfitView misfit {} {} ['b'] ['é', '1'] (by decide +kernel)
    (by decide +kernel) with ⟨cause, hcause, -⟩ | ⟨plan, plan', hplan, hplan', htarget, hreveal, h⟩
  · rw [hcause] at hok
    contradiction
  · rw [hplan] at hok
    exact ⟨plan, plan', hplan, hplan', Option.some.inj hok, htarget, hreveal, (h rfl).2.2.2⟩

end Plan

end PropertyInsertion

import PropertyInsertion.Proofs.Extension
import PropertyInsertion.Proofs.FreshConstructor

/-!
# Insertions one after the other

Each insertion reads the text that the one before left. Parameters, assignments and declarations
pile up in order, and the rest of the constructor stays as it was, up to the carriage returns at the
ends of its lines. What a run of insertions keeps is `Block.Extends`, between the block at its start
and the block at its end.
-/

namespace PropertyInsertion

open Code Declarations

/-- Insertions one after the other. The first that fails is the error. -/
def Plan.insertAll (settings : Settings) : List Text → Text → Except InsertError Text
  | [], content => .ok content
  | name :: names, content => do
    let plan ← ofText content settings name
    insertAll settings names (plan.edit.apply content)

/-! ### Parameters -/

/-- The parameters that were there, unless they are blank, and one for each name. -/
def parameters (inside : Text) (names : List Text) : Text :=
  List.intercalate [',', ' '] ((if inside.allBlank then [] else [inside]) ++ names.map ('$' :: ·))

theorem intercalate_concat (separator : Text) {texts : List Text} (text : Text)
    (hne : texts ≠ []) :
    List.intercalate separator (texts ++ [text]) =
      List.intercalate separator texts ++ separator ++ text := by
  induction texts with
  | nil => contradiction
  | cons first texts ih =>
      cases texts with
      | nil => simp [List.intercalate_cons_cons]
      | cons next texts =>
          rw [List.cons_append, List.cons_append, List.intercalate_cons_cons, ← List.cons_append,
            ih (List.cons_ne_nil next texts), List.intercalate_cons_cons]
          simp only [List.append_assoc]

theorem dollar_mem_parameters (inside : Text) {names : List Text} (hne : names ≠ []) :
    '$' ∈ parameters inside names := by
  obtain ⟨front, last, rfl⟩ := List.eq_nil_or_concat' names |>.resolve_left hne
  rw [parameters, List.map_append, ← List.append_assoc, List.map_singleton]
  by_cases hempty : (if inside.allBlank then [] else [inside]) ++ front.map ('$' :: ·) = []
  · rw [hempty]
    simp
  · rw [intercalate_concat _ _ hempty]
    simp

theorem parameters_concat (inside name : Text) {names : List Text} (hne : names ≠ []) :
    parameters (parameters inside names) [name] = parameters inside (names ++ [name]) := by
  have hblank : (parameters inside names).allBlank ≠ true := by
    intro hall
    exact absurd (dollar_mem_parameters inside hne) (Text.notMem_of_allBlank hall (by decide))
  have hold : (if inside.allBlank then [] else [inside]) ++ names.map ('$' :: ·) ≠ [] := by
    simp [hne]
  have hnew := intercalate_concat [',', ' '] ('$' :: name) hold
  rw [parameters, if_neg hblank, parameters, parameters, List.map_append, ← List.append_assoc,
    List.map_singleton, hnew]
  simp [List.intercalate_cons_cons]

theorem inside_withParameter (group : Line.Parentheses) (name : Text) :
    (withParameter group name).inside = parameters group.inside [name] := by
  rw [withParameter, parameters]
  split <;> simp [List.intercalate_cons_cons]

/-! ### What a run of insertions does to a block -/

/-- The block with a declaration, a parameter and an assignment more for each name, in order. Lines
that were there are compared up to the carriage returns at their ends. -/
structure Block.Extends (settings : Settings) (names : List Text) (old new : Block) : Prop where
  above : new.above = old.above ++ names.flatMap fun name => [declarationLine settings name, []]
  docblock : new.docblock.map Text.dropReturns = old.docblock.map Text.dropReturns
  before : new.group.before = old.group.before
  inside : new.group.inside = parameters old.group.inside names
  after : new.group.after.dropReturns = old.group.after.dropReturns
  body : new.body.map Text.dropReturns =
    (old.body ++ names.map (assignmentLine old.closing.leadingBlanks settings)).map Text.dropReturns
  closing : new.closing.trimEnd = old.closing.trimEnd
  indent : new.closing.leadingBlanks = old.closing.leadingBlanks
  below : new.below = Block.gapLines old.below ++ old.below

theorem Block.gapLines_idem (below : List Text) :
    Block.gapLines (Block.gapLines below ++ below) = [] := by
  by_cases h : (below.head?.any fun line => !line.allBlank && !Text.closesWith ['}'] line) = true
  · have hgap : Block.gapLines below = [[]] := if_pos h
    rw [hgap]
    rfl
  · have hgap : Block.gapLines below = [] := if_neg h
    rw [hgap, List.nil_append, hgap]

section Extends

variable {settings : Settings} {name : Text} {names : List Text}

theorem Block.extends_extend {block : Block}
    (hcloses : Text.closesWith ['}'] block.closing = true) :
    Block.Extends settings [name] block (block.extend settings name) := by
  have hreturns : ∀ lines : List Text,
      (lines.map Text.dropReturn).map Text.dropReturns = lines.map Text.dropReturns := by
    intro lines
    rw [List.map_map]
    exact List.map_congr_left fun line _ => Text.dropReturns_dropReturn line
  constructor
  · rfl
  · exact hreturns block.docblock
  · rfl
  · exact inside_withParameter block.group name
  · exact Text.dropReturns_dropReturn block.group.after
  · simp [Block.extend, hreturns]
  · exact Text.trimEnd_trimEnd block.closing
  · exact Text.leadingBlanks_trimEnd (by decide) hcloses
  · rfl

theorem Block.not_signature_extend {block : Block}
    (h : ∀ line ∈ block.docblock, Line.isConstructorSignature line = false) :
    ∀ line ∈ (block.extend settings name).docblock, Line.isConstructorSignature line = false := by
  intro line hline
  obtain ⟨old, hold, rfl⟩ := List.mem_map.mp hline
  rw [Line.isConstructorSignature_dropReturn]
  exact h old hold

theorem Block.Extends.concat {old mid new : Block} (h : Block.Extends settings names old mid)
    (hne : names ≠ []) (hlast : Block.Extends settings [name] mid new) :
    Block.Extends settings (names ++ [name]) old new := by
  constructor
  · rw [hlast.above, h.above]
    simp
  · exact hlast.docblock.trans h.docblock
  · exact hlast.before.trans h.before
  · rw [hlast.inside, h.inside, parameters_concat old.group.inside name hne]
  · exact hlast.after.trans h.after
  · rw [hlast.body, List.map_append, h.body, h.indent]
    simp
  · exact hlast.closing.trans h.closing
  · exact hlast.indent.trans h.indent
  · rw [hlast.below, h.below, Block.gapLines_idem, List.nil_append]

/-- **A run of insertions.** From a text with a block every further insertion succeeds, and the last
text has the block that the first one had with all names added. -/
theorem exists_insertAll {content : Text} {before : List Text} {old mid : Block}
    (hindent : settings.indentsByBlanks = true)
    (hnames : ∀ name ∈ names, isPropertyName name = true)
    (hmid : (Document.ofText content).HasBlock mid)
    (hdocblock : ∀ line ∈ mid.docblock, Line.isConstructorSignature line = false)
    (hne : before ≠ []) (hbefore : Block.Extends settings before old mid) :
    ∃ final new, Plan.insertAll settings names content = .ok final ∧
      (Document.ofText final).HasBlock new ∧ Block.Extends settings (before ++ names) old new := by
  induction names generalizing content before mid with
  | nil => exact ⟨content, mid, rfl, hmid, by rwa [List.append_nil]⟩
  | cons name names ih =>
      rw [List.forall_mem_cons] at hnames
      obtain ⟨plan, hplan, hblock⟩ := exists_plan_of_hasBlock hmid hdocblock hindent hnames.1
      have hcloses := Line.closesWith_of_isNestedClose (hasBlock_iff.mp hmid).2.2.1.closes
      obtain ⟨final, new, hfinal, hnew, hextends⟩ := ih hnames.2 hblock
        (Block.not_signature_extend hdocblock) (by simp)
        (hbefore.concat hne (Block.extends_extend hcloses))
      refine ⟨final, new, ?_, hnew, ?_⟩
      · rw [Plan.insertAll, bind_eq_ok_iff]
        exact ⟨plan, hplan, hfinal⟩
      · rwa [List.append_assoc, List.singleton_append] at hextends

end Extends

/-! ### Where a run starts -/

/-- A constructor with nothing but its opening brace inside, which a new constructor adds to. -/
def Block.bare (settings : Settings) (above : List Text) (blanks : Text) (below : List Text) :
    Block where
  above := above
  docblock := []
  group := freshGroup settings
  body := [settings.indent ++ ['{']]
  closing := settings.indent ++ '}' :: blanks
  below := below

theorem Block.extends_bare {settings : Settings} {name : Text} {above rest : List Text}
    {blanks next : Text} (hindent : settings.indentsByBlanks = true)
    (hnext : next.allBlank = true ∨ Text.closesWith ['}'] next = true) :
    Block.Extends settings [name] (Block.bare settings above blanks (next :: rest))
      (Plan.freshBlock settings name above blanks (next :: rest)) := by
  have hleading : Text.leadingBlanks (settings.indent ++ '}' :: blanks) = settings.indent := by
    rw [Text.leadingBlanks, List.takeWhile_append_of_pos
      (List.all_eq_true.mp (Settings.allBlank_indent hindent)), List.takeWhile_cons_of_neg (by decide),
      List.append_nil]
  have hgap : Block.gapLines (next :: rest) = [] := by
    rcases hnext with hblank | hclose
    · simp [Block.gapLines, hblank]
    · simp [Block.gapLines, hclose]
  constructor
  · rfl
  · rfl
  · rfl
  · exact inside_withParameter (freshGroup settings) name
  · rfl
  · change [settings.indent ++ ['{'], assignmentLine settings.indent settings name].map
      Text.dropReturns = ([settings.indent ++ ['{']] ++ [name].map
        (assignmentLine (Text.leadingBlanks (settings.indent ++ '}' :: blanks)) settings)).map
          Text.dropReturns
    rw [hleading]
    rfl
  · rfl
  · rfl
  · change next :: rest = Block.gapLines (next :: rest) ++ next :: rest
    rw [hgap, List.nil_append]

section Start

variable {content : Text} {settings : Settings} {ctor : Constructor}
  (hctor : (scan (Document.ofText content).view).constructor? = some ctor)
  (hdocblock : ∀ number line, ctor.range.start.line ≤ number → number < ctor.line →
    (Document.ofText content).lineText? number = some line →
    Line.isConstructorSignature line = false)

include hctor hdocblock

theorem line_of_isParameterLine {number : Nat}
    (h : Plan.IsParameterLine (Document.ofText content) ctor number) : number = ctor.line := by
  obtain ⟨front, signature, below, hlocated⟩ := scan_constructor?_eq_some_iff.mp hctor
  have hstart := (Plan.range_of_scan hctor).2.1
  unfold Plan.IsParameterLine at h
  split at h
  next =>
    obtain ⟨hle, ⟨line, hline, hsignature⟩, hbefore⟩ := h
    have hshown : (Document.ofText content).lineText? ctor.line = some signature := by
      rw [Document.lineText?, hlocated.lines, hlocated.line]
      simp
    rcases Nat.lt_trichotomy number ctor.line with hlt | heq | hgt
    · rw [hdocblock number line hle hlt hline] at hsignature
      contradiction
    · exact heq
    · have hnot := hbefore ctor.line signature hstart hgt hshown
      rw [hlocated.isSignature] at hnot
      contradiction
  next hno =>
    rw [Constructor.hasDocblock, decide_eq_true_eq] at hno
    omega

/-- A constructor that closes below its signature, in a text that can be planned for, is a block. -/
theorem exists_hasBlock {name : Text} {plan : Plan} {closing : Nat}
    (hclosing : ctor.closingLine = some closing) (hbelow : ctor.line < closing)
    (hplan : Plan.ofText content settings name = .ok plan) :
    ∃ block, (Document.ofText content).HasBlock block ∧
      ∀ line ∈ block.docblock, Line.isConstructorSignature line = false := by
  obtain ⟨front, signature, below, hlocated⟩ := scan_constructor?_eq_some_iff.mp hctor
  have hstart := (Plan.range_of_scan hctor).2.1
  rw [hlocated.line] at hstart
  -- the parentheses come from the plan
  obtain ⟨group, hgroup, hparentheses⟩ : ∃ group : Line.Parentheses, signature = group.line ∧
      '(' ∉ group.before ∧ ')' ∉ group.inside := by
    obtain ⟨-, ⟨hnone, -⟩ | ⟨other, hother, hmerge⟩⟩ := Plan.ofDeclarations_eq_ok_iff.mp hplan
    · rw [hctor] at hnone
      contradiction
    · obtain rfl := Option.some.inj (hctor.symm.trans hother)
      obtain ⟨-, sig, group, -, -, -, hsig, hgroup, -⟩ := Plan.merge_eq_ok_iff.mp hmerge
      obtain ⟨hparameter, htext, -⟩ := Plan.signature_of_scan hctor hsig
      have hbreak := Text.newline_notMem_of_lineText? htext
      rw [line_of_isParameterLine hctor hdocblock hparameter, hlocated.line, Document.lineText?,
        hlocated.lines, List.getElem?_append_right (Nat.le_refl _), Nat.sub_self,
        List.getElem?_cons_zero] at htext
      obtain rfl := Option.some.inj htext
      exact ⟨group, (Line.parentheses?_eq_some_iff hbreak).mp hgroup⟩
  have hends := hlocated.ends
  rw [hclosing] at hends
  rw [hlocated.line] at hbelow
  cases hends with
  | inline hinline => omega
  | block body last rest hinline hrest hbody hsignature hlast =>
      refine ⟨⟨front.take ctor.range.start.line, front.drop ctor.range.start.line, group, body,
        last, rest⟩, ⟨?_, hparentheses, ctor, hctor, ?_, ?_, ?_⟩, ?_⟩
      · rw [hlocated.lines, Block.lines, Block.front, List.take_append_drop, hgroup, hrest]
      · rw [List.length_take, Nat.min_eq_left hstart]
      · rw [Block.front, List.take_append_drop, hlocated.line]
      · rw [Block.front, List.take_append_drop, hclosing]
      · intro line hline
        obtain ⟨i, hi, rfl⟩ := List.getElem_of_mem hline
        rw [List.length_drop] at hi
        refine hdocblock (ctor.range.start.line + i) _ (Nat.le_add_right _ _) ?_ ?_
        · rw [hlocated.line]
          omega
        · rw [Document.lineText?, hlocated.lines, List.getElem?_append_left (by omega),
            List.getElem_drop, List.getElem?_eq_getElem]

end Start

/-- **Insertions accumulate.** If the first insertion succeeds and the text has no constructor, or
one that closes below its signature and has no signature in its docblock, then all insertions
succeed one after the other. The last text has a constructor that extends the one of the first text,
or a bare new one, by all names in order. -/
theorem insertAll_accumulates {content : Text} {settings : Settings} {first : Text}
    {names : List Text} {plan : Plan} (hindent : settings.indentsByBlanks = true)
    (hnames : ∀ name ∈ names, isPropertyName name = true)
    (hplan : Plan.ofText content settings first = .ok plan)
    (hctor : ∀ ctor, (scan (Document.ofText content).view).constructor? = some ctor →
      (∃ closing, ctor.closingLine = some closing ∧ ctor.line < closing) ∧
      ∀ number line, ctor.range.start.line ≤ number → number < ctor.line →
        (Document.ofText content).lineText? number = some line →
        Line.isConstructorSignature line = false) :
    ∃ final old new, Plan.insertAll settings (first :: names) content = .ok final ∧
      (Document.ofText final).HasBlock new ∧
      Block.Extends settings (first :: names) old new ∧
      (∀ ctor, (scan (Document.ofText content).view).constructor? = some ctor →
        (Document.ofText content).HasBlock old) ∧
      ((scan (Document.ofText content).view).constructor? = none →
        ∃ above blanks below, blanks.allBlank = true ∧
          old = Block.bare settings above blanks below) := by
  have hname := Plan.isPropertyName_of_ofText hplan
  have hrun : ∀ final, Plan.insertAll settings names (plan.edit.apply content) = .ok final →
      Plan.insertAll settings (first :: names) content = .ok final := by
    intro final hfinal
    rw [Plan.insertAll, bind_eq_ok_iff]
    exact ⟨plan, hplan, hfinal⟩
  cases hscan : (scan (Document.ofText content).view).constructor? with
  | none =>
      obtain ⟨number, above, rest, blanks, next, -, -, -, -, -, hblank, hlines, hnext, hsignature,
        -⟩ := Plan.exists_freshBlock hindent hscan hplan
      obtain ⟨final, new, hfinal, hnew, hextends⟩ := exists_insertAll hindent hnames
        (Plan.hasBlock_freshBlock hindent hname hblank hsignature hlines)
        (fun line hline => absurd hline List.not_mem_nil) (List.cons_ne_nil first [])
        (Block.extends_bare hindent hnext)
      exact ⟨final, _, new, hrun final hfinal, hnew, hextends, nofun,
        fun _ => ⟨above, blanks, next :: rest, hblank, rfl⟩⟩
  | some ctor =>
      obtain ⟨⟨closing, hclosing, hbelow⟩, hdocblock⟩ := hctor ctor hscan
      obtain ⟨old, hold, hfree⟩ := exists_hasBlock hscan hdocblock hclosing hbelow hplan
      obtain ⟨plan', hplan', hblock⟩ := exists_plan_of_hasBlock hold hfree hindent hname
      obtain rfl : plan = plan' := Except.ok.inj (hplan.symm.trans hplan')
      have hcloses := Line.closesWith_of_isNestedClose (hasBlock_iff.mp hold).2.2.1.closes
      obtain ⟨final, new, hfinal, hnew, hextends⟩ := exists_insertAll hindent hnames hblock
        (Block.not_signature_extend hfree) (List.cons_ne_nil first [])
        (Block.extends_extend hcloses)
      exact ⟨final, old, new, hrun final hfinal, hnew, hextends, fun _ _ => hold, nofun⟩

theorem documented_accumulates :
    ∃ final old new,
      Plan.insertAll {} [['b'], ['c'], ['é']] Plan.documented = .ok final ∧
      (Document.ofText Plan.documented).HasBlock old ∧ (Document.ofText final).HasBlock new ∧
      Block.Extends {} [['b'], ['c'], ['é']] old new := by
  have hok : (Plan.ofText Plan.documented {} ['b']).isOk = true := by decide +kernel
  have hnames : ∀ name ∈ [['c'], ['é']], isPropertyName name = true := by decide +kernel
  have hline : ((Document.ofText Plan.documented).lineText? 1).any Line.isConstructorSignature =
      false := by decide +kernel
  cases hplan : Plan.ofText Plan.documented {} ['b'] with
  | error cause =>
      rw [hplan] at hok
      contradiction
  | ok plan =>
      obtain ⟨final, old, new, hfinal, hnew, hextends, hold, -⟩ :=
        insertAll_accumulates (by decide) hnames hplan (by
          intro ctor hctor
          obtain rfl := Option.some.inj (Plan.documented_constructor.symm.trans hctor)
          refine ⟨⟨4, rfl, by decide⟩, ?_⟩
          intro number line hle hlt hshown
          obtain rfl : number = 1 := Nat.le_antisymm (Nat.le_of_lt_succ hlt) hle
          simpa [hshown] using hline)
      exact ⟨final, old, new, hfinal, hold _ Plan.documented_constructor, hnew, hextends⟩

end PropertyInsertion

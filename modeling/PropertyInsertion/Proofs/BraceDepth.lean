import PropertyInsertion.Proofs.Anchors

/-!
# Braces around the new assignment

A pass counts no braces: it takes the first line that looks like the end of a constructor for it.
So the line it finds is the one on which the counted braces come back to zero only if no line in
between looks like an end. Where the two agree, the new assignment stands behind all lines of the
body, as deep as they leave it.
-/

namespace PropertyInsertion

/-! ### Counting braces -/

namespace Text

def braceStep (c : Char) : Int :=
  if c = '{' then 1 else if c = '}' then -1 else 0

/-- The opening braces less the closing ones. -/
def depth : Text → Int
  | [] => 0
  | c :: rest => braceStep c + depth rest

/-- The text in front of the first closing brace that brings the depth from one back to zero, where
`depth` is the depth at the start of the text. -/
def beforeReturn? : Int → Text → Option Text
  | _, [] => none
  | depth, c :: rest =>
    if c = '}' ∧ depth = 1 then some []
    else (beforeReturn? (depth + braceStep c) rest).map (c :: ·)

theorem depth_append (left right : Text) : depth (left ++ right) = depth left + depth right := by
  induction left with
  | nil => rw [List.nil_append, depth, Int.zero_add]
  | cons c left ih => rw [List.cons_append, depth, depth, ih, Int.add_assoc]

theorem depth_of_notMem {text : Text} (hopen : '{' ∉ text) (hclose : '}' ∉ text) :
    depth text = 0 := by
  induction text with
  | nil => rfl
  | cons c text ih =>
      rw [List.mem_cons, not_or] at hopen hclose
      rw [depth, ih hopen.2 hclose.2, braceStep, if_neg (Ne.symm hopen.1),
        if_neg (Ne.symm hclose.1), Int.add_zero]

theorem depth_breaksBefore (lines : List Text) :
    depth (breaksBefore lines) = depth lines.flatten := by
  induction lines with
  | nil => rfl
  | cons line lines ih =>
      rw [breaksBefore_cons, List.cons_append, depth, depth_append, ih, List.flatten_cons,
        depth_append, show braceStep '\n' = 0 from rfl, Int.zero_add]

theorem exists_of_beforeReturn? {start : Int} {text left : Text}
    (h : beforeReturn? start text = some left) :
    (∃ right, text = left ++ '}' :: right) ∧ start + depth left = 1 := by
  induction text generalizing start left with
  | nil => contradiction
  | cons c text ih =>
      rw [beforeReturn?] at h
      split at h
      next hreturn =>
        rw [← Option.some.inj h, hreturn.1, hreturn.2]
        exact ⟨⟨text, rfl⟩, rfl⟩
      next =>
        obtain ⟨rest, hrest, rfl⟩ := Option.map_eq_some_iff.mp h
        obtain ⟨⟨right, rfl⟩, hdepth⟩ := ih hrest
        rw [depth, ← Int.add_assoc]
        exact ⟨⟨right, rfl⟩, hdepth⟩

end Text

namespace Document

variable (doc : Document)

/-- The depth at the start of line `number`, counted from line `first` on. -/
def depthAt (first number : Nat) : Int :=
  Text.depth (doc.stretch first number).flatten

def beforeReturn? (first number : Nat) : Option Text :=
  (doc.lineText? number).bind (Text.beforeReturn? (doc.depthAt first number))

/-- The braces, counted from line `first` on, come back to zero on line `number` for the first
time, at a closing brace with `left` in front of it. -/
structure BracesReturn (first number : Nat) (left : Text) : Prop where
  le : first ≤ number
  brace : doc.beforeReturn? first number = some left
  before : ∀ n < number, first ≤ n → doc.beforeReturn? first n = none

variable {doc}

instance (first number : Nat) (left : Text) : Decidable (doc.BracesReturn first number left) :=
  decidable_of_iff
    (first ≤ number ∧ doc.beforeReturn? first number = some left ∧
      ∀ n < number, first ≤ n → doc.beforeReturn? first n = none)
    ⟨fun h => ⟨h.1, h.2.1, h.2.2⟩, fun h => ⟨h.le, h.brace, h.before⟩⟩

theorem stretch_split {first middle last : Nat} {line : Text} (hle : first ≤ middle)
    (hlt : middle < last) (hline : doc.lineText? middle = some line) :
    doc.stretch first last = doc.stretch first middle ++ line :: doc.stretch (middle + 1) last := by
  have hmiddle : doc.lines.drop middle = line :: doc.lines.drop (middle + 1) := by
    obtain ⟨hcount, rfl⟩ := List.getElem?_eq_some_iff.mp hline
    exact List.drop_eq_getElem_cons hcount
  have hlast : last - first = (middle - first) + ((last - (middle + 1)) + 1) := by omega
  have hdrop : first + (middle - first) = middle := by omega
  rw [stretch, hlast, List.take_add, List.drop_drop, hdrop, hmiddle, List.take_succ_cons]
  rfl

/-- The stop is told by the lines below any line above it. -/
theorem IsStop.eq_iff {stop first number : Nat} (h : doc.IsStop stop) (hlt : first < stop) :
    stop = number ↔ doc.ClosesAt number ∧ ∀ n, first < n → n < number → ¬doc.ClosesAt n := by
  constructor
  · rintro rfl
    refine ⟨h.1, fun n _ hn hcloses => ?_⟩
    have hle := h.2 hcloses
    omega
  · rintro ⟨hcloses, hbetween⟩
    by_contra hne
    have hle := h.2 hcloses
    exact hbetween stop hlt (by omega) h.1

theorem BracesReturn.depth_eq {first number : Nat} {left line : Text}
    (h : doc.BracesReturn first number left) (hline : doc.lineText? number = some line) :
    (∃ right, line = left ++ '}' :: right) ∧ doc.depthAt first number = 1 - left.depth := by
  have hbrace := h.brace
  rw [beforeReturn?, hline, Option.bind_some] at hbrace
  obtain ⟨hright, hdepth⟩ := Text.exists_of_beforeReturn? hbrace
  exact ⟨hright, by omega⟩

end Document

/-! ### The new assignment -/

namespace Plan

open Code Declarations

/-- One parameter more opens and closes no brace. -/
theorem depth_withParameter {name : Text} (hname : isPropertyName name = true)
    (group : Line.Parentheses) : (withParameter group name).line.depth = group.line.depth := by
  have hparameter : Text.depth ('$' :: name) = 0 := by
    rw [Text.depth, Text.depth_of_notMem (notMem_name hname (by decide))
      (notMem_name hname (by decide))]
    rfl
  have hinside : (withParameter group name).inside.depth = group.inside.depth := by
    dsimp only [withParameter]
    rw [Text.depth_append, hparameter, Int.add_zero]
    split
    next hblank =>
      exact (Text.depth_of_notMem (Text.notMem_of_allBlank hblank (by decide))
        (Text.notMem_of_allBlank hblank (by decide))).symm
    next =>
      rw [Text.depth_append, show Text.depth [',', ' '] = 0 from rfl, Int.add_zero]
  rw [Line.Parentheses.line, Line.Parentheses.line, Text.depth_append, Text.depth_append,
    Text.depth, Text.depth, Text.depth_append, Text.depth_append, hinside]
  rfl

theorem le_of_isParameterLine {doc : Document} {ctor : Constructor} {number first : Nat}
    (h : IsParameterLine doc ctor number) (hstart : ctor.range.start.line ≤ first)
    (hfirst : doc.LineIs Line.isConstructorSignature first) : number ≤ first := by
  unfold IsParameterLine at h
  split at h
  next =>
    obtain ⟨-, -, hbefore⟩ := h
    obtain ⟨line, hline, hsignature⟩ := hfirst
    by_contra hlt
    rw [hbefore first line hstart (by omega) hline] at hsignature
    contradiction
  next => omega

section Merged

variable {doc : Document} {settings : Settings} {name : Text} {group : Line.Parentheses}
  {number first closing : Nat} {last : Text} {docblock : List Text}

/-- A merged block read from a line with a signature on. -/
theorem mergedBlock_from (hname : isPropertyName name = true)
    (hgroup : doc.lineText? number = some group.line) (hle : number ≤ first) (hlt : first < closing)
    (hfirst : doc.LineIs Line.isConstructorSignature first) :
    ∃ (above : List Text) (signature : Text), Line.isConstructorSignature signature = true ∧
      mergedBlock settings name docblock group (doc.stretch (number + 1) closing) last =
        Text.breaksAfter (declarationLine settings name :: [] :: above) ++
          (signature ++ Text.breaksBefore (doc.stretch (first + 1) closing)) ++
          Text.breaksBefore [assignmentLine last.leadingBlanks settings name, last.trimEnd] ∧
      (signature ++ Text.breaksBefore (doc.stretch (first + 1) closing)).depth =
        doc.depthAt first closing := by
  obtain ⟨line, hline, hsignature⟩ := hfirst
  -- the text in front of the assignment holds the old lines, but for one that has a new parameter
  have hdepth : ∀ signature : Text, signature.depth = line.depth →
      (signature ++ Text.breaksBefore (doc.stretch (first + 1) closing)).depth =
        doc.depthAt first closing := by
    intro signature hsame
    have hfrom : doc.stretch first first = [] := by simp [Document.stretch]
    rw [Document.depthAt, Document.stretch_split (Nat.le_refl first) hlt hline, hfrom,
      List.nil_append, List.flatten_cons, Text.depth_append, Text.depth_append, hsame,
      Text.depth_breaksBefore]
  rcases Nat.eq_or_lt_of_le hle with rfl | hbelow
  · obtain rfl : group.line = line := Option.some.inj (hgroup.symm.trans hline)
    refine ⟨docblock, (withParameter group name).line, ?_, ?_, hdepth _ ?_⟩
    · rw [isConstructorSignature_withParameter hname, hsignature]
    · simp [mergedBlock]
    · exact depth_withParameter hname group
  · refine ⟨docblock ++ (withParameter group name).line :: doc.stretch (number + 1) first, line,
      hsignature, ?_, hdepth line rfl⟩
    rw [mergedBlock, Document.stretch_split hbelow hlt hline,
      List.append_assoc _ (withParameter group name).line, Text.append_breaksBefore_cons]
    simp

end Merged

/-- **Where a merge puts the assignment.** It stands behind the lines down to the closing line that
was found. The line on which the counted braces come back to zero is this closing line exactly if it
is the first one below the signature that looks like an end. The assignment then is at depth one,
unless other braces stand on that line in front of the one that ends the constructor. -/
theorem assignment_behind_body {content : Text} {settings : Settings} {name : Text} {plan : Plan}
    {range : Range} (hplan : ofText content settings name = .ok plan)
    (htarget : plan.target = .replace range) :
    ∃ (ctor : Constructor) (closing : Nat) (last : Text),
      (scan (Document.ofText content).view).constructor? = some ctor ∧
      ctor.closingLine = some closing ∧
      (Document.ofText content).lineText? closing = some last ∧
      ∀ first, ctor.range.start.line ≤ first → first < closing →
        (Document.ofText content).LineIs Line.isConstructorSignature first →
        ∃ (above : List Text) (signature : Text), Line.isConstructorSignature signature = true ∧
          plan.edit.apply content =
            content.beforeLine ctor.range.start.line ++
              (Text.breaksAfter (declarationLine settings name :: [] :: above) ++
                (signature ++
                  Text.breaksBefore ((Document.ofText content).stretch (first + 1) closing)) ++
                Text.breaksBefore
                  [assignmentLine last.leadingBlanks settings name, last.trimEnd] ++
                gap ((Document.ofText content).lineText? (closing + 1))) ++
              content.behindLine closing ∧
          ∀ number left, (Document.ofText content).BracesReturn first number left →
            (closing = number ↔ (Document.ofText content).ClosesAt number ∧
              ∀ n, first < n → n < number → ¬(Document.ofText content).ClosesAt n) ∧
            (closing = number → (∃ right, last = left ++ '}' :: right) ∧
              (signature ++ Text.breaksBefore
                ((Document.ofText content).stretch (first + 1) closing)).depth =
                  1 - left.depth) := by
  obtain ⟨hname, ⟨-, hfresh⟩ | ⟨ctor, hctor, hmerge⟩⟩ := ofDeclarations_eq_ok_iff.mp hplan
  · obtain ⟨number, here, -, -, rfl⟩ := fresh_eq_ok_iff.mp hfresh
    contradiction
  · obtain ⟨closing, sig, group, body, lastRange, hclosing, hsig, hgroup, -, hlast, -⟩ :=
      merge_eq_ok_iff.mp hmerge
    obtain ⟨hparameter, htext, -, -⟩ := signature_of_scan hctor hsig
    obtain ⟨last, hline, -⟩ := Option.map_eq_some_iff.mp hlast
    rw [Document.view_lineText?] at hline
    refine ⟨ctor, closing, last, hctor, hclosing, hline, fun first hstart hlt hfirst => ?_⟩
    have hle := le_of_isParameterLine hparameter hstart hfirst
    have hsplit : (Document.ofText content).lineText? sig.line = some group.line := by
      rw [htext, ((Line.parentheses?_eq_some_iff (Text.newline_notMem_of_lineText? htext)).mp
        hgroup).1]
      rfl
    obtain ⟨same, hsame, happly⟩ :=
      exists_plan_of_block hname hctor hclosing hsig hgroup (Nat.lt_of_le_of_lt hle hlt) hline
    obtain rfl : plan = same := Except.ok.inj (hplan.symm.trans hsame)
    obtain ⟨above, signature, hsignature, hblock, hdepth⟩ :=
      mergedBlock_from hname hsplit hle hlt hfirst
    refine ⟨above, signature, hsignature, by rw [happly, hblock], fun number left hreturn => ?_⟩
    have hstop := ((scan_constructor?_iff_standsIn.mp hctor).closingLine closing).mp hclosing
    refine ⟨hstop.eq_iff hlt, ?_⟩
    rintro rfl
    rw [hdepth]
    exact hreturn.depth_eq hline

theorem documented_assignment_behind_body :
    ∃ (plan : Plan) (above : List Text) (signature : Text),
      ofText documented {} ['b'] = .ok plan ∧
      plan.edit.apply documented =
        documented.beforeLine 1 ++
          (Text.breaksAfter (declarationLine {} ['b'] :: [] :: above) ++
            (signature ++ Text.breaksBefore ["  $0;".toList]) ++
            Text.breaksBefore [assignmentLine [' '] {} ['b'], " \x7d".toList] ++
            gap ((Document.ofText documented).lineText? 5)) ++
          documented.behindLine 4 ∧
      (signature ++ Text.breaksBefore ["  $0;".toList]).depth = 1 := by
  have hrun : (ofText documented {} ['b']).toOption.map target =
        some (.replace ⟨⟨1, 0⟩, ⟨4, 2⟩⟩) ∧
      (Document.ofText documented).LineIs Line.isConstructorSignature 2 ∧
      (Document.ofText documented).BracesReturn 2 4 [' '] ∧
      (Document.ofText documented).stretch 3 4 = ["  $0;".toList] ∧
      (Document.ofText documented).lineText? 4 = some " \x7d".toList := by
    decide +kernel
  obtain ⟨hok, hfirst, hreturn, hbody, hclosing⟩ := hrun
  obtain ⟨plan, hplan, htarget⟩ := Option.map_eq_some_iff.mp hok
  rw [toOption_eq_some_iff] at hplan
  obtain ⟨ctor, closing, last, hfound, hend, hlast, hmerge⟩ :=
    assignment_behind_body hplan htarget
  obtain rfl := Option.some.inj (documented_constructor.symm.trans hfound)
  obtain rfl : 4 = closing := Option.some.inj hend
  obtain rfl := Option.some.inj (hclosing.symm.trans hlast)
  obtain ⟨above, signature, -, happly, hbraces⟩ := hmerge 2 (by decide) (by decide) hfirst
  obtain ⟨-, hdepth⟩ := (hbraces 4 [' '] hreturn).2 rfl
  rw [hbody] at happly hdepth
  exact ⟨plan, above, signature, hplan, happly, hdepth⟩

/-- A constructor whose body holds a block on lines of its own. -/
def branching : Text :=
  "class A \x7b\n function __construct() \x7b\n  if ($a) \x7b\n  \x7d\n  $x;\n \x7d\n\x7d".toList

/-- The inner block is taken for the end of the constructor. -/
theorem branching_closes_early :
    (scan (Document.ofText branching).view).constructor? =
      some ⟨1, ⟨⟨1, 0⟩, ⟨1, 25⟩⟩, some 3⟩ ∧
    (Document.ofText branching).BracesReturn 1 5 [' '] ∧
    (ofText branching {} ['b']).toOption.map (fun plan => plan.edit.apply branching) =
      some ("class A \x7b\n\tprivate $b;\n\n function __construct($b) \x7b\n  if ($a) \x7b\n" ++
        "  \t$this->b = $b;\n  \x7d\n\n  $x;\n \x7d\n\x7d").toList := by
  decide +kernel

end Plan

end PropertyInsertion

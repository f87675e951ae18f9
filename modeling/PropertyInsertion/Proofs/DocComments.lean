import PropertyInsertion.Proofs.InsertionPlace
import PropertyInsertion.Proofs.NearestOpener
import PropertyInsertion.Proofs.SignatureLine

/-!
# Doc comments above a constructor

The search for the first line of a docblock goes up no further than to the class that is open at
the signature, and a line of a comment can be taken for the header of a class. So a doc comment
stays with its constructor exactly if no line below its first one is such a header. Where one is,
the new property comes between the comment and the constructor.

The search does not look for the end of another comment on its way up. So it can go on behind the
comment above the signature, if that is no doc comment, to the doc comment of a member further up.
-/

namespace PropertyInsertion

open Code Declarations

/-! ### Trimmed lines -/

namespace Text

theorem mem_trim {text : Text} {c : Char} (hc : isBlank c = false) (h : c ∈ text) :
    c ∈ trim text := by
  obtain ⟨blanks, hblank, htext⟩ := exists_eq_trimEnd_append text
  have hend : c ∈ trimEnd text := by
    rw [htext] at h
    exact (List.mem_append.mp h).resolve_right (notMem_of_allBlank hblank hc)
  rw [← List.takeWhile_append_dropWhile (p := isBlank) (l := trimEnd text)] at hend
  refine (List.mem_append.mp hend).resolve_left fun hstart => ?_
  rw [List.mem_takeWhile_imp hstart] at hc
  contradiction

end Text

/-! ### Doc comments -/

namespace Document

/-- The lines from `first` down to the one above `line` are one doc comment of several lines: the
first one opens it, the last one ends it, and no line between them opens or ends a comment. -/
structure IsDocComment (doc : Document) (first line : Nat) : Prop where
  several : first + 1 < line
  opens : doc.LineIs (fun text => text.trim == ['/', '*', '*']) first
  ends : doc.LineIs (fun text => text.trim == ['*', '/']) (line - 1)
  inner : ∀ n < line - 1, first < n →
    ¬doc.LineIs (Text.occursIn ['/', '*', '*']) n ∧ ¬doc.LineIs (Text.occursIn ['*', '/']) n

variable {doc : Document} {first line : Nat}

instance : Decidable (doc.IsDocComment first line) :=
  decidable_of_iff
    (first + 1 < line ∧ doc.LineIs (fun text => text.trim == ['/', '*', '*']) first ∧
      doc.LineIs (fun text => text.trim == ['*', '/']) (line - 1) ∧
      ∀ n < line - 1, first < n → ¬doc.LineIs (Text.occursIn ['/', '*', '*']) n ∧
        ¬doc.LineIs (Text.occursIn ['*', '/']) n)
    ⟨fun h => ⟨h.1, h.2.1, h.2.2.1, h.2.2.2⟩, fun h => ⟨h.several, h.opens, h.ends, h.inner⟩⟩

namespace IsDocComment

variable (hcomment : doc.IsDocComment first line)

include hcomment

theorem followsComment : doc.view.FollowsComment line := by
  have hseveral := hcomment.several
  obtain ⟨text, htext, htrim⟩ := hcomment.ends
  refine ⟨by omega, text, by rw [view_lineText?, htext], ?_⟩
  rw [← beq_iff_eq.mp htrim]
  exact Text.trim_suffix_trimEnd text

theorem not_isClassHeader : ¬doc.LineIs Line.isClassHeader first := by
  obtain ⟨text, htext, htrim⟩ := hcomment.opens
  rw [lineIs_iff htext, Line.isClassHeader_iff]
  rintro ⟨c, -, hheader⟩
  have hletter : 'c' ∈ text := hheader.subset (List.mem_append_left _ (by decide))
  have hkept := Text.mem_trim (by decide) hletter
  rw [beq_iff_eq.mp htrim] at hkept
  exact absurd hkept (by decide)

theorem opensDocblock_first {text : Text} (htext : doc.lineText? first = some text)
    (single : Bool) : View.opensDocblock single text = true := by
  have htrim := (lineIs_iff htext).mp hcomment.opens
  simp [View.opensDocblock, beq_iff_eq.mp htrim]

theorem opensDocblock_below {n : Nat} {text : Text} (htext : doc.lineText? n = some text)
    (hfirst : first < n) (hline : n ≤ line - 1) :
    View.opensDocblock (n == line - 1) text = false := by
  by_cases hlast : n = line - 1
  · have hends := hcomment.ends
    rw [← hlast, lineIs_iff htext, beq_iff_eq] at hends
    rw [View.opensDocblock, hends, beq_iff_eq.mpr hlast]
    decide
  · have hinner := (hcomment.inner n (by omega) hfirst).1
    rw [lineIs_iff htext, Text.occursIn_iff] at hinner
    rw [View.opensDocblock, beq_eq_false_iff_ne.mpr hlast, Bool.false_and, Bool.or_false,
      Bool.eq_false_iff, ne_eq, List.isSuffixOf_iff_suffix]
    exact fun hsuffix => hinner (hsuffix.isInfix.trans (Text.trim_infix text))

/-- The comment's first line is the nearest one that opens a docblock for the line below the
comment, if the bound does not keep the search below it. -/
theorem isGreatest_opensFor_iff {lowerBound start : Nat} :
    IsGreatest {n | doc.view.OpensFor line lowerBound n} start ↔
      start = first ∧ lowerBound ≤ first := by
  have hseveral := hcomment.several
  have hnone : ∀ n, first < n → ¬doc.view.OpensFor line lowerBound n := by
    intro n hlt hn
    obtain ⟨⟨-, hle⟩, text, htext, hopens⟩ := View.opensFor_iff.mp hn
    rw [view_lineText?] at htext
    rw [hcomment.opensDocblock_below htext hlt hle] at hopens
    contradiction
  have hfirst : lowerBound ≤ first → doc.view.OpensFor line lowerBound first := by
    intro hle
    obtain ⟨text, htext, -⟩ := hcomment.opens
    exact View.opensFor_iff.mpr ⟨⟨by omega, by omega⟩, text, by rw [view_lineText?, htext],
      hcomment.opensDocblock_first htext _⟩
  constructor
  · rintro ⟨hstart, hlast⟩
    have hnotBelow : start ≤ first := Nat.le_of_not_lt fun hlt => hnone start hlt hstart
    have hbound := hstart.notAbove
    have hle : lowerBound ≤ first := by omega
    exact ⟨Nat.le_antisymm hnotBelow (hlast (hfirst hle)), hle⟩
  · rintro ⟨rfl, hle⟩
    exact ⟨hfirst hle, fun n hn => Nat.le_of_not_lt fun hlt => hnone n hlt hn⟩

/-- The comment is found exactly if the search may go up to its first line. -/
theorem range_start_cases {lowerBound : Nat} {range : Range}
    (hrange : doc.view.constructorRange? line lowerBound = some range) :
    (range.start.line = first ↔ lowerBound ≤ first) ∧
      (range.start.line = first ∨ range.start.line = line) := by
  have hseveral := hcomment.several
  obtain ⟨own, hown⟩ := View.exists_lineText?_of_constructorRange? hrange
  obtain ⟨start, text, -, hfound, hends⟩ := View.exists_constructorRange?_eq lowerBound hown
  obtain rfl : range = .ofLine start text := Option.some.inj (hrange.symm.trans hfound)
  rcases hends with ⟨-, hgreatest⟩ | ⟨hnone, rfl⟩
  · obtain ⟨rfl, hle⟩ := hcomment.isGreatest_opensFor_iff.mp hgreatest
    exact ⟨iff_of_true rfl hle, Or.inl rfl⟩
  · refine ⟨iff_of_false (fun h : start = first => by omega) fun hle => hnone ?_, Or.inr rfl⟩
    exact ⟨hcomment.followsComment, first,
      (hcomment.isGreatest_opensFor_iff.mpr ⟨rfl, hle⟩).1⟩

/-- The search may go up to the first line exactly if no class is named below it. -/
theorem bound_le_iff {classLine : Option Nat}
    (hclass : LastGives (fun n => n ≤ line ∧ doc.LineIs Line.isClassHeader n)
      (fun n => some (doc.bodyLine n)) classLine) :
    classLine.getD 0 ≤ first ↔
      ∀ n, first < n → n ≤ line → ¬doc.LineIs Line.isClassHeader n := by
  cases classLine with
  | none =>
      refine iff_of_true (Nat.zero_le first) fun n _ hle hheader => ?_
      have hbounded : ∀ m, m ≤ line ∧ doc.LineIs Line.isClassHeader m → m < line + 1 :=
        fun m hm => Nat.lt_succ_of_le hm.1
      have hsome := (hclass.isSome_iff hbounded fun _ _ => rfl).mpr ⟨n, hle, hheader⟩
      contradiction
  | some bound =>
      obtain ⟨header, ⟨⟨hle, hheader⟩, hlast⟩, hbody⟩ := (hclass bound).mp rfl
      obtain rfl := Option.some.inj hbody
      rw [Option.getD_some]
      constructor
      · intro hbound n hlt hn hother
        have hge : n ≤ header := hlast ⟨hn, hother⟩
        have := doc.le_bodyLine header
        omega
      · intro hnone
        -- the body of a class above the comment opens no further down than the comment
        have hnot : ¬first < header := fun hlt => hnone header hlt hle hheader
        have hne : header ≠ first := fun heq => hcomment.not_isClassHeader (heq ▸ hheader)
        have := doc.bodyLine_le header
        omega

end IsDocComment

end Document

namespace Plan

variable {content : Text} {ctor : Constructor} {start : Nat}

/-- **A doc comment above a constructor.** The constructor starts with the comment exactly if no
line from below the first one of the comment down to the signature is taken for the header of a
class; else it starts with its signature. The new property goes in front of the line it starts with,
and the parameter onto the signature exactly if no line of the constructor above it holds one. -/
theorem docComment_stays_iff
    (hctor : (scan (Document.ofText content).view).constructor? = some ctor)
    (hcomment : (Document.ofText content).IsDocComment start ctor.line) :
    (ctor.range.start.line = start ↔ ∀ n, start < n → n ≤ ctor.line →
      ¬(Document.ofText content).LineIs Line.isClassHeader n) ∧
    (ctor.range.start.line = start ∨ ctor.range.start.line = ctor.line) ∧
    ∀ settings name plan, ofText content settings name = .ok plan →
      ∃ (number : Nat) (group : Line.Parentheses),
        (Document.ofText content).lineText? number = some group.line ∧
        mergedUpTo content settings name ctor.range.start.line number group <+:
          plan.edit.apply content ∧
        (number = ctor.line ↔
          ∀ line ∈ (Document.ofText content).stretch ctor.range.start.line ctor.line,
            Line.isConstructorSignature line = false) := by
  obtain ⟨classLine, hclass, hrange⟩ := (scan_constructor?_iff_standsIn.mp hctor).range
  obtain ⟨hstart, hcases⟩ := hcomment.range_start_cases hrange
  refine ⟨hstart.trans (hcomment.bound_le_iff hclass), hcases, ?_⟩
  intro settings name plan hplan
  obtain ⟨number, group, hnumber, hline, -, -, hstarts⟩ := exists_mergedUpTo hplan hctor
  exact ⟨number, group, hline, hstarts, isParameterLine_eq_line_iff hctor hnumber⟩

def commented : Text :=
  ("class A \x7b\n\n /**\n  * Creates it.\n  */\n function __construct($a) \x7b\n" ++
    " \x7d\n\x7d").toList

theorem commented_docComment_stays :
    ∃ (plan : Plan) (group : Line.Parentheses), ofText commented {} ['b'] = .ok plan ∧
      (Document.ofText commented).lineText? 5 = some group.line ∧
      mergedUpTo commented {} ['b'] 2 5 group <+: plan.edit.apply commented := by
  have hrun : (scan (Document.ofText commented).view).constructor? =
        some ⟨5, ⟨⟨2, 0⟩, ⟨2, 4⟩⟩, some 6⟩ ∧
      (Document.ofText commented).IsDocComment 2 5 ∧
      (ofText commented {} ['b']).toOption.isSome = true ∧
      ∀ line ∈ (Document.ofText commented).stretch 2 5,
        Line.isConstructorSignature line = false := by decide +kernel
  obtain ⟨hctor, hcomment, hsome, hnone⟩ := hrun
  obtain ⟨plan, hplan⟩ := Option.isSome_iff_exists.mp hsome
  rw [toOption_eq_some_iff] at hplan
  obtain ⟨number, group, hline, hstarts, hnumber⟩ :=
    (docComment_stays_iff hctor hcomment).2.2 {} ['b'] plan hplan
  obtain rfl : number = 5 := hnumber.mpr hnone
  exact ⟨plan, group, hplan, hline, hstarts⟩

/-- A doc comment with a line that reads like the header of a class. -/
def namingClass : Text :=
  ("class A \x7b\n\n /**\n  * Creates the class instance.\n  */\n" ++
    " function __construct() \x7b\n \x7d\n\x7d").toList

/-- The new property comes between the comment and the constructor. -/
theorem namingClass_docComment_left :
    (scan (Document.ofText namingClass).view).constructor? =
      some ⟨5, ⟨⟨5, 0⟩, ⟨5, 25⟩⟩, some 6⟩ ∧
    (Document.ofText namingClass).LineIs Line.isClassHeader 0 ∧
    (Document.ofText namingClass).IsDocComment 2 5 ∧
    (ofText namingClass {} ['b']).toOption.map (fun plan => plan.edit.apply namingClass) =
      some ("class A \x7b\n\n /**\n  * Creates the class instance.\n  */\n\tprivate $b;\n\n" ++
        " function __construct($b) \x7b\n \t$this->b = $b;\n \x7d\n\x7d").toList := by
  decide +kernel

/-! ### How far up a docblock goes -/

/-- A constructor with a docblock follows a comment and starts at the nearest line that opens a
docblock for it, however far up. -/
theorem isGreatest_start {doc : Document} (hctor : (scan doc.view).constructor? = some ctor)
    (hdocblock : ctor.hasDocblock = true) :
    IsGreatest {n | doc.view.OpensFor ctor.line 0 n} ctor.range.start.line ∧
      doc.view.FollowsComment ctor.line := by
  rw [Constructor.hasDocblock, decide_eq_true_eq] at hdocblock
  obtain ⟨classLine, -, hrange⟩ := (scan_constructor?_iff_standsIn.mp hctor).range
  obtain ⟨own, hown⟩ := View.exists_lineText?_of_constructorRange? hrange
  obtain ⟨start, text, -, hfound, hends⟩ :=
    View.exists_constructorRange?_eq (classLine.getD 0) hown
  obtain hstart : ctor.range = .ofLine start text := Option.some.inj (hrange.symm.trans hfound)
  rw [hstart] at hdocblock ⊢
  rcases hends with ⟨hcomment, hgreatest⟩ | ⟨-, rfl⟩
  · exact ⟨View.isGreatest_opensFor_of_le (Nat.zero_le _) hgreatest, hcomment⟩
  · exact absurd hdocblock (Nat.lt_irrefl _)

theorem lineIs_of_followsComment {doc : Document} {line : Nat}
    (h : doc.view.FollowsComment line) : doc.LineIs (Text.closesWith ['*', '/']) (line - 1) := by
  obtain ⟨-, hends⟩ := View.followsComment_iff.mp h
  rw [Document.view_lineText?] at hends
  exact (Option.any_eq_true _ _).mp hends

/-- **How far up a docblock goes.** A constructor with a docblock starts at the nearest line above
it that opens one, and the line above it ends a comment. The docblock is one comment, which ends
nowhere above that line, exactly if below every other line that ends a comment there is one that
opens a docblock. -/
theorem docblock_isOneComment_iff
    (hctor : (scan (Document.ofText content).view).constructor? = some ctor)
    (hdocblock : ctor.hasDocblock = true) :
    IsGreatest {n | (Document.ofText content).view.OpensFor ctor.line 0 n}
      ctor.range.start.line ∧
    (Document.ofText content).LineIs (Text.closesWith ['*', '/']) (ctor.line - 1) ∧
    ((∀ n, ctor.range.start.line ≤ n → n + 1 < ctor.line →
        ¬(Document.ofText content).LineIs (Text.occursIn ['*', '/']) n) ↔
      ∀ n, n + 1 < ctor.line → (Document.ofText content).LineIs (Text.occursIn ['*', '/']) n →
        ∃ first, n < first ∧ (Document.ofText content).view.OpensFor ctor.line 0 first) := by
  obtain ⟨hgreatest, hcomment⟩ := isGreatest_start hctor hdocblock
  refine ⟨hgreatest, lineIs_of_followsComment hcomment, fun hone n hn hends => ?_,
    fun hbelow n hle hn hends => ?_⟩
  · refine ⟨ctor.range.start.line, ?_, hgreatest.1⟩
    by_contra hlt
    exact hone n (Nat.le_of_not_lt hlt) hn hends
  · obtain ⟨first, hfirst, hopens⟩ := hbelow n hn hends
    have hnearest : first ≤ ctor.range.start.line := hgreatest.2 hopens
    omega

theorem commented_docblock_isOneComment :
    (scan (Document.ofText commented).view).constructor? =
      some ⟨5, ⟨⟨2, 0⟩, ⟨2, 4⟩⟩, some 6⟩ ∧
    ∀ n, 2 ≤ n → n < 4 → ¬(Document.ofText commented).LineIs (Text.occursIn ['*', '/']) n := by
  have hrun : (scan (Document.ofText commented).view).constructor? =
        some ⟨5, ⟨⟨2, 0⟩, ⟨2, 4⟩⟩, some 6⟩ ∧
      ∀ n < 4, ¬(Document.ofText commented).LineIs (Text.occursIn ['*', '/']) n := by
    decide +kernel
  obtain ⟨hctor, hnone⟩ := hrun
  refine ⟨hctor, fun n hle hn => ?_⟩
  refine (docblock_isOneComment_iff hctor rfl).2.2.mpr ?_ n hle (Nat.succ_lt_succ hn)
  exact fun m hm hends => absurd hends (hnone m (Nat.lt_of_succ_lt_succ hm))

/-- A property with a doc comment, and a constructor below a comment that is none. -/
def runningOn : Text :=
  ("class A \x7b\n /**\n  * An id.\n  */\n private $a;\n\n /* Builds it. */\n" ++
    " function __construct() \x7b\n \x7d\n\x7d").toList

/-- The docblock of the constructor starts with the comment of the property, and the new property
comes in front of that. -/
theorem runningOn_docblock_covers_property :
    (scan (Document.ofText runningOn).view).constructor? =
      some ⟨7, ⟨⟨1, 0⟩, ⟨1, 4⟩⟩, some 8⟩ ∧
    (Document.ofText runningOn).LineIs (Text.occursIn ['*', '/']) 3 ∧
    (Document.ofText runningOn).LineIs Line.isProperty 4 ∧
    (ofText runningOn {} ['b']).toOption.map (fun plan => plan.edit.apply runningOn) =
      some ("class A \x7b\n\tprivate $b;\n\n /**\n  * An id.\n  */\n private $a;\n\n" ++
        " /* Builds it. */\n function __construct($b) \x7b\n" ++
        " \t$this->b = $b;\n \x7d\n\x7d").toList := by
  decide +kernel

end Plan

end PropertyInsertion

import PropertyInsertion.Proofs.Failures
import Mathlib.Data.List.Find

/-!
# Lines behind the constructor

A pass stops at the line that closes the constructor, so the class line, the trait uses and the
constructor are the same whatever follows. The end of a property is searched for down to the end of
the document, so a property that is still open at the stop, such as a promoted parameter, lets the
lines behind it decide where the last property ends. The main statement says that this is the only
way in which they count.
-/

namespace PropertyInsertion

/-! ### Documents that agree down to a line -/

namespace Document

/-- The two documents have the same lines down to line `last`. -/
def AgreesTo (doc doc' : Document) (last : Nat) : Prop :=
  ∀ number ≤ last, doc.lineText? number = doc'.lineText? number

/-- No line from `start` down to `last` ends with a semicolon, as the last line of a property
does. -/
def OpenThrough (doc : Document) (start last : Nat) : Prop :=
  ∀ number, start ≤ number → number ≤ last → ¬doc.LineIs (Text.closesWith [';']) number

/-- A property starts not below `last` and does not end down to there. -/
def PropertyOpenAt (doc : Document) (last : Nat) : Prop :=
  ∃ start ≤ last, doc.LineIs Line.isProperty start ∧ doc.OpenThrough start last

instance (doc doc' : Document) (last : Nat) : Decidable (doc.AgreesTo doc' last) :=
  inferInstanceAs (Decidable (∀ number ≤ last, doc.lineText? number = doc'.lineText? number))

instance (doc : Document) (start last : Nat) : Decidable (doc.OpenThrough start last) :=
  Nat.decidableLoHiLe start last fun number => ¬doc.LineIs (Text.closesWith [';']) number

instance (doc : Document) (last : Nat) : Decidable (doc.PropertyOpenAt last) :=
  inferInstanceAs (Decidable (∃ start ≤ last,
    doc.LineIs Line.isProperty start ∧ doc.OpenThrough start last))

section Agree

variable {doc doc' : Document} {last number : Nat}

theorem AgreesTo.symm (h : doc.AgreesTo doc' last) : doc'.AgreesTo doc last :=
  fun number hle => (h number hle).symm

theorem AgreesTo.mono (h : doc.AgreesTo doc' last) (hle : number ≤ last) :
    doc.AgreesTo doc' number :=
  fun other hother => h other (hother.trans hle)

theorem AgreesTo.lineIs_iff (h : doc.AgreesTo doc' last) (hle : number ≤ last)
    {test : Text → Bool} : doc.LineIs test number ↔ doc'.LineIs test number := by
  rw [LineIs, LineIs, h number hle]

theorem AgreesTo.closesAt_iff (h : doc.AgreesTo doc' last) (hle : number ≤ last) :
    doc.ClosesAt number ↔ doc'.ClosesAt number := by
  have habove : (∃ above < number, doc.LineIs Line.isConstructorSignature above) ↔
      ∃ above < number, doc'.LineIs Line.isConstructorSignature above :=
    exists_congr fun above => and_congr_right fun hlt =>
      h.lineIs_iff ((Nat.le_of_lt hlt).trans hle)
  rw [ClosesAt, ClosesAt, h.lineIs_iff hle, h.lineIs_iff hle, h.lineIs_iff hle, habove]

theorem AgreesTo.isStop (h : doc.AgreesTo doc' last) (hstop : doc.IsStop last) :
    doc'.IsStop last := by
  refine ⟨(h.closesAt_iff (Nat.le_refl last)).mp hstop.1, ?_⟩
  intro number hcloses
  by_contra hlt
  exact hlt (hstop.2 ((h.closesAt_iff (Nat.le_of_not_le hlt)).mpr hcloses))

theorem AgreesTo.openThrough_iff (h : doc.AgreesTo doc' last) {start : Nat} :
    doc.OpenThrough start last ↔ doc'.OpenThrough start last :=
  forall_congr' fun _ => forall_congr' fun _ => forall_congr' fun hle =>
    not_congr (h.lineIs_iff hle)

theorem AgreesTo.propertyOpenAt_iff (h : doc.AgreesTo doc' last) :
    doc.PropertyOpenAt last ↔ doc'.PropertyOpenAt last :=
  exists_congr fun _ => and_congr_right fun hstart =>
    and_congr (h.lineIs_iff hstart) h.openThrough_iff

theorem reaches_iff_le (hstop : doc.IsStop last) : doc.Reaches number ↔ number ≤ last := by
  constructor
  · exact fun hreaches => hreaches.2 last hstop
  · intro hle
    have hcount := lt_lineCount_of_closesAt hstop.1
    refine ⟨by omega, fun stop hother => ?_⟩
    rwa [hother.unique hstop]

theorem AgreesTo.bodyLine_eq (h : doc.AgreesTo doc' last) (hle : number ≤ last) :
    doc.bodyLine number = doc'.bodyLine number := by
  rw [bodyLine, bodyLine, h number hle]

theorem AgreesTo.lineRange?_eq (h : doc.AgreesTo doc' last) (hle : number ≤ last) :
    doc.view.lineRange? number = doc'.view.lineRange? number := by
  rw [View.lineRange?, View.lineRange?, view_lineText?, view_lineText?, h number hle]

/-- The docblock of a constructor stands above it, so the lines below do not count. -/
theorem AgreesTo.constructorRange?_eq (h : doc.AgreesTo doc' number) (lowerBound : Nat) :
    doc.view.constructorRange? number lowerBound =
      doc'.view.constructorRange? number lowerBound := by
  have habove : ∀ other ≤ number - 1,
      doc.view.lineText? other = doc'.view.lineText? other := by
    intro other hother
    rw [view_lineText?, view_lineText?, h other (by omega)]
  have hstart : doc.view.docblockStart? (min lowerBound (number - 1)) (number - 1) =
      doc'.view.docblockStart? (min lowerBound (number - 1)) (number - 1) := by
    apply List.find?_congr
    intro other hother
    rw [List.mem_reverse, List.mem_range'_1] at hother
    rw [habove other (by omega)]
  rw [View.constructorRange?, View.constructorRange?, h.lineRange?_eq (Nat.le_refl number)]
  dsimp only
  rw [habove _ (Nat.le_refl _), hstart]
  cases hfound : doc'.view.docblockStart? (min lowerBound (number - 1)) (number - 1) with
  | none => rfl
  | some start =>
      obtain ⟨-, hbounds, -⟩ :=
        (View.docblockStart?_eq_some_iff (Nat.min_le_right _ _)).mp hfound
      have hle : start ≤ number := by omega
      rw [Option.bind_some, Option.bind_some, h.lineRange?_eq hle]

end Agree

/-! ### Where a property ends -/

section PropertyEnd

variable {doc doc' : Document} {stop start number : Nat}

theorem propertyEnd?_eq_some_iff :
    doc.view.propertyEnd? start = some number ↔
      start ≤ number ∧ doc.LineIs (Text.closesWith [';']) number ∧
        ∀ other, start ≤ other → other < number → ¬doc.LineIs (Text.closesWith [';']) other := by
  rw [View.propertyEnd?, View.firstLine?_eq_some_iff]
  simp only [view_lineText?]
  constructor
  · rintro ⟨⟨hstart, -⟩, hline, hbefore⟩
    refine ⟨hstart, hline, ?_⟩
    rintro other hle hlt ⟨line, hother, hcloses⟩
    rw [hbefore other line hle hlt hother] at hcloses
    contradiction
  · rintro ⟨hstart, hline, hbefore⟩
    refine ⟨⟨hstart, lt_lineCount_of_lineIs hline⟩, hline, ?_⟩
    intro other line hle hlt hother
    rw [← Bool.not_eq_true]
    exact fun hcloses => hbefore other hle hlt ⟨line, hother, hcloses⟩

/-- Lines without a semicolon at the end are passed over. -/
theorem propertyEnd?_of_open (hstart : start ≤ stop) (hopen : doc.OpenThrough start stop) :
    doc.view.propertyEnd? start = doc.view.propertyEnd? (stop + 1) := by
  apply Option.ext
  intro number
  rw [propertyEnd?_eq_some_iff, propertyEnd?_eq_some_iff]
  constructor
  · rintro ⟨hle, hline, hbefore⟩
    have hlt : stop < number := by
      by_contra hnot
      exact hopen number hle (Nat.le_of_not_lt hnot) hline
    exact ⟨hlt, hline, fun other hother => hbefore other (by omega)⟩
  · rintro ⟨hle, hline, hbefore⟩
    refine ⟨by omega, hline, fun other hother hlt => ?_⟩
    by_cases hstop : other ≤ stop
    · exact hopen other hother hstop
    · exact hbefore other (by omega) hlt

/-- An end that is not below the last common line is the same in both documents. -/
theorem AgreesTo.propertyEnd?_of_le (h : doc.AgreesTo doc' stop)
    (hend : doc.view.propertyEnd? start = some number) (hle : number ≤ stop) :
    doc'.view.propertyEnd? start = some number := by
  obtain ⟨hstart, hline, hbefore⟩ := propertyEnd?_eq_some_iff.mp hend
  refine propertyEnd?_eq_some_iff.mpr ⟨hstart, (h.lineIs_iff hle).mp hline, ?_⟩
  intro other hother hlt hcloses
  exact hbefore other hother hlt ((h.lineIs_iff (by omega)).mpr hcloses)

/-- A property that does not end down to the stop has no semicolon at the end of a line there. -/
theorem openThrough_of_propertyEnd?
    (hend : ∀ number, doc.view.propertyEnd? start = some number → stop < number) :
    doc.OpenThrough start stop := by
  rintro number hle hstop ⟨line, hline, hcloses⟩
  have hcount := lt_lineCount_of_lineIs ⟨line, hline, hcloses⟩
  rw [← view_lineText?] at hline
  obtain ⟨first, hfirst, hfirstLe⟩ := View.exists_firstLine? hline hcloses hle hcount
  have hlt := hend first hfirst
  omega

/-- A property ends alike in both documents, unless it is open at the last common line and its end
is looked for behind that. -/
theorem AgreesTo.propertyEnd?_eq (h : doc.AgreesTo doc' stop) (hstart : start ≤ stop)
    (hproperty : doc.LineIs Line.isProperty start)
    (hbehind : doc.PropertyOpenAt stop →
      doc'.view.propertyEnd? (stop + 1) = doc.view.propertyEnd? (stop + 1)) :
    doc.view.propertyEnd? start = doc'.view.propertyEnd? start := by
  by_cases hclosed : ∃ number ≤ stop, doc.view.propertyEnd? start = some number
  · obtain ⟨number, hle, hend⟩ := hclosed
    rw [hend, h.propertyEnd?_of_le hend hle]
  · have hopen : doc.OpenThrough start stop := openThrough_of_propertyEnd?
      fun number hend => Nat.lt_of_not_le fun hle => hclosed ⟨number, hle, hend⟩
    rw [propertyEnd?_of_open hstart hopen,
      propertyEnd?_of_open hstart (h.openThrough_iff.mp hopen),
      hbehind ⟨start, hstart, hproperty, hopen⟩]

end PropertyEnd

end Document

/-! ### What a pass finds in documents that agree down to its stop -/

theorem LastGives.congr_value {Counts Counts' : Nat → Prop} {value value' : Nat → Option Nat}
    {found : Option Nat} (hcounts : ∀ n, Counts n ↔ Counts' n)
    (hvalue : ∀ n, Counts n → value n = value' n) (h : LastGives Counts value found) :
    LastGives Counts' value' found := by
  refine LastGives.congr hcounts fun number => ?_
  rw [h number]
  exact exists_congr fun last => and_congr_right fun hlast => by rw [hvalue last hlast.1]

namespace Declarations

section Agree

variable {doc doc' : Document} {stop : Nat} (hagree : doc.AgreesTo doc' stop)
  (hstop : doc.IsStop stop)

include hagree hstop

theorem reaches_iff_of_agrees (number : Nat) : doc.Reaches number ↔ doc'.Reaches number := by
  rw [Document.reaches_iff_le hstop, Document.reaches_iff_le (hagree.isStop hstop)]

theorem seen_iff_of_agrees {test : Text → Bool} (number : Nat) :
    doc.Reaches number ∧ doc.LineIs test number ↔
      doc'.Reaches number ∧ doc'.LineIs test number := by
  rw [← reaches_iff_of_agrees hagree hstop]
  exact and_congr_right fun hreaches =>
    hagree.lineIs_iff ((Document.reaches_iff_le hstop).mp hreaches)

theorem classLine_of_agrees : (scan doc'.view).classLine = (scan doc.view).classLine := by
  refine (notes_scan doc').classLine.unique ((notes_scan doc).classLine.congr_value ?_ ?_)
  · exact seen_iff_of_agrees hagree hstop
  · intro n hn
    rw [hagree.bodyLine_eq ((Document.reaches_iff_le hstop).mp hn.1)]

theorem traitUseLine_of_agrees :
    (scan doc'.view).traitUseLine = (scan doc.view).traitUseLine := by
  refine (notes_scan doc').traitUseLine.unique ((notes_scan doc).traitUseLine.congr fun n => ?_)
  rw [← and_assoc, ← and_assoc, ← seen_iff_of_agrees hagree hstop]
  refine and_congr_right fun hn => exists_congr fun header => and_congr_right fun hle => ?_
  exact hagree.lineIs_iff (hle.trans ((Document.reaches_iff_le hstop).mp hn.1))

theorem standsIn_of_agrees {ctor : Constructor} (h : ctor.StandsIn doc) : ctor.StandsIn doc' := by
  obtain ⟨hline, hclosing, classLine, hclass, hrange⟩ := h
  have hle : ctor.line ≤ stop := (Document.reaches_iff_le hstop).mp hline.1.1
  refine ⟨?_, ?_, classLine, ?_, ?_⟩
  · have hseen : {n | doc.Reaches n ∧ doc.LineIs Line.isConstructorSignature n} =
        {n | doc'.Reaches n ∧ doc'.LineIs Line.isConstructorSignature n} :=
      Set.ext fun n => seen_iff_of_agrees hagree hstop n
    rwa [← hseen]
  · intro number
    rw [hclosing number]
    constructor
    · intro hother
      rw [hother.unique hstop]
      exact hagree.isStop hstop
    · intro hother
      rwa [hother.unique (hagree.isStop hstop)]
  · refine hclass.congr_value (fun n => and_congr_right fun hn => ?_) fun n hn => ?_
    · exact hagree.lineIs_iff (hn.trans hle)
    · rw [hagree.bodyLine_eq (hn.1.trans hle)]
  · rw [← (hagree.mono hle).constructorRange?_eq]
    exact hrange

theorem constructor?_of_agrees :
    (scan doc'.view).constructor? = (scan doc.view).constructor? := by
  apply Option.ext
  intro ctor
  rw [scan_constructor?_iff_standsIn, scan_constructor?_iff_standsIn]
  exact ⟨standsIn_of_agrees hagree.symm (hagree.isStop hstop), standsIn_of_agrees hagree hstop⟩

theorem lastPropertyLine_of_agrees (hbehind : doc.PropertyOpenAt stop →
    doc'.view.propertyEnd? (stop + 1) = doc.view.propertyEnd? (stop + 1)) :
    (scan doc'.view).lastPropertyLine = (scan doc.view).lastPropertyLine := by
  have hend : ∀ n, doc.Reaches n ∧ doc.LineIs Line.isProperty n →
      doc.view.propertyEnd? n = doc'.view.propertyEnd? n :=
    fun n hn => hagree.propertyEnd?_eq ((Document.reaches_iff_le hstop).mp hn.1) hn.2 hbehind
  refine (notes_scan doc').lastPropertyLine.unique
    ((notes_scan doc).lastPropertyLine.congr_value (fun n => ?_) fun n hn => ?_)
  · rw [← and_assoc, ← and_assoc, ← seen_iff_of_agrees hagree hstop]
    exact and_congr_right fun hn => by rw [hend n hn]
  · exact hend n ⟨hn.1, hn.2.1⟩

end Agree

/-- The last property ends behind the stop exactly if one is open there and a line behind the stop
ends with a semicolon; then it ends at the first such line. -/
theorem lastPropertyLine_behind_iff {doc : Document} {stop : Nat} (hstop : doc.IsStop stop)
    (number : Nat) :
    (scan doc.view).lastPropertyLine = some number ∧ stop < number ↔
      doc.PropertyOpenAt stop ∧ doc.view.propertyEnd? (stop + 1) = some number := by
  have hbehind : ∀ stopLine, (scan doc.view).lastPropertyLine = some stopLine → stop < stopLine →
      doc.PropertyOpenAt stop ∧ doc.view.propertyEnd? (stop + 1) = some stopLine := by
    intro stopLine hlast hlt
    obtain ⟨start, ⟨⟨hreaches, hproperty, -⟩, -⟩, hend⟩ :=
      ((notes_scan doc).lastPropertyLine stopLine).mp hlast
    have hstart := (Document.reaches_iff_le hstop).mp hreaches
    have hopen : doc.OpenThrough start stop := Document.openThrough_of_propertyEnd?
      fun other hother => by rwa [← Option.some.inj (hend.symm.trans hother)]
    refine ⟨⟨start, hstart, hproperty, hopen⟩, ?_⟩
    rw [← Document.propertyEnd?_of_open hstart hopen, hend]
  refine ⟨fun h => hbehind number h.1 h.2, ?_⟩
  rintro ⟨⟨start, hstart, hproperty, hopen⟩, hend⟩
  have hlt : stop < number := (Document.propertyEnd?_eq_some_iff.mp hend).1
  rw [← Document.propertyEnd?_of_open hstart hopen] at hend
  have hreaches := (Document.reaches_iff_le hstop).mpr hstart
  -- the pass meets this property, so it notes an end, and one that is not above this one
  have hsome := ((notes_scan doc).lastPropertyLine.isSome_iff
    (fun n hn => hn.1.1) fun n hn => hn.2.2).mpr ⟨start, hreaches, hproperty, by rw [hend]; rfl⟩
  obtain ⟨last, hlast⟩ := Option.isSome_iff_exists.mp hsome
  have hle : number ≤ last :=
    (isGreatest_propertyEnd? (notes_scan doc) hlast).2 ⟨start, hreaches, hproperty, hend⟩
  have hfound := (hbehind last hlast (by omega)).2
  rw [← Document.propertyEnd?_of_open hstart hopen, hend] at hfound
  rw [hlast, Option.some.inj hfound]
  exact ⟨rfl, by omega⟩

end Declarations

namespace Plan

open Declarations

/-- The place to show is told by the line in front of which members go and by whether that is
there. -/
theorem reveal_eq {view view' : View} {decls : Declarations} {settings settings' : Settings}
    {name name' : Text} {plan plan' : Plan}
    (hplan : ofDeclarations view decls settings name = .ok plan)
    (hplan' : ofDeclarations view' decls settings' name' = .ok plan')
    (hsame : decls.insertionLine view'.numbers = decls.insertionLine view.numbers)
    (hline : ∀ line, decls.insertionLine view.numbers = some line →
      (line < view.lineCount ↔ line < view'.lineCount)) : plan.reveal = plan'.reveal := by
  obtain ⟨-, ⟨hctor, hfresh⟩ | ⟨ctor, hctor, hmerge⟩⟩ := ofDeclarations_eq_ok_iff.mp hplan
  · obtain ⟨-, ⟨-, hfresh'⟩ | ⟨ctor', hctor', -⟩⟩ := ofDeclarations_eq_ok_iff.mp hplan'
    · obtain ⟨line, here, hinsertion, -, rfl⟩ := fresh_eq_ok_iff.mp hfresh
      obtain ⟨line', here', hinsertion', -, rfl⟩ := fresh_eq_ok_iff.mp hfresh'
      obtain rfl := Option.some.inj (hinsertion.symm.trans (hsame.symm.trans hinsertion'))
      rfl
    · rw [hctor] at hctor'
      contradiction
  · obtain ⟨-, ⟨hctor', -⟩ | ⟨ctor', hctor', hmerge'⟩⟩ := ofDeclarations_eq_ok_iff.mp hplan'
    · rw [hctor] at hctor'
      contradiction
    · obtain rfl := Option.some.inj (hctor.symm.trans hctor')
      obtain ⟨-, -, -, -, -, -, -, -, -, -, rfl⟩ := merge_eq_ok_iff.mp hmerge
      obtain ⟨-, -, -, -, -, -, -, -, -, -, rfl⟩ := merge_eq_ok_iff.mp hmerge'
      have hreveal : revealLine view decls ctor = revealLine view' decls ctor := by
        rw [revealLine, revealLine, hsame]
        cases hinsertion : decls.insertionLine view.numbers with
        | none => rfl
        | some line =>
            simp only [Option.filter_some, hline line hinsertion]
      rw [hreveal]

end Plan

namespace Declarations

/-- **Lines behind the constructor.** They leave everything as it is but the end of the last
property, and that too unless a property is open at the line that closes the constructor: then the
first line behind that ends with a semicolon counts. -/
theorem scan_lines_behind {doc doc' : Document} {ctor : Constructor} {closing : Nat}
    (hctor : (scan doc.view).constructor? = some ctor) (hclosing : ctor.closingLine = some closing)
    (hagree : doc.AgreesTo doc' closing) :
    ((scan doc'.view).classLine = (scan doc.view).classLine ∧
      (scan doc'.view).traitUseLine = (scan doc.view).traitUseLine ∧
      (scan doc'.view).constructor? = (scan doc.view).constructor?) ∧
    (scan doc'.view = scan doc.view ↔
      (doc.PropertyOpenAt closing →
        doc'.view.propertyEnd? (closing + 1) = doc.view.propertyEnd? (closing + 1))) ∧
    (scan doc'.view = scan doc.view → ∀ settings name plan plan',
      Plan.ofDeclarations doc.view (scan doc.view) settings name = .ok plan →
      Plan.ofDeclarations doc'.view (scan doc'.view) settings name = .ok plan' →
      (∀ line, (scan doc.view).insertionLine doc.view.numbers = some line →
        (line < doc.lineCount ↔ line < doc'.lineCount)) → plan'.reveal = plan.reveal) := by
  have hstop := ((scan_constructor?_iff_standsIn.mp hctor).closingLine closing).mp hclosing
  have hclass := classLine_of_agrees hagree hstop
  have htrait := traitUseLine_of_agrees hagree hstop
  have hsame := constructor?_of_agrees hagree hstop
  refine ⟨⟨hclass, htrait, hsame⟩, ⟨?_, ?_⟩, ?_⟩
  · intro hscan hopen
    apply Option.ext
    intro number
    have hbehind := lastPropertyLine_behind_iff (hagree.isStop hstop) number
    rw [hscan, lastPropertyLine_behind_iff hstop number] at hbehind
    simpa [hopen, hagree.propertyOpenAt_iff.mp hopen] using hbehind.symm
  · intro hbehind
    have hproperty := lastPropertyLine_of_agrees hagree hstop hbehind
    calc scan doc'.view
        = ⟨(scan doc'.view).classLine, (scan doc'.view).traitUseLine,
            (scan doc'.view).lastPropertyLine, (scan doc'.view).constructor?⟩ := rfl
      _ = scan doc.view := by rw [hclass, htrait, hproperty, hsame]
  · intro hscan settings name plan plan' hplan hplan' hline
    have hnotes := notes_scan doc'
    rw [hscan] at hplan' hnotes
    have hinsertion := hnotes.insertionLine_eq.trans (notes_scan doc).insertionLine_eq.symm
    exact (Plan.reveal_eq hplan hplan' hinsertion hline).symm

/-- A constructor with a promoted parameter, at the end of its class. -/
def promoted : Document :=
  .ofText "class A \x7b\n    function __construct(private $a) \x7b\x7d\n\x7d".toList

/-- The same constructor with a property behind it. -/
def promotedAbove : Document :=
  .ofText
    "class A \x7b\n    function __construct(private $a) \x7b\x7d\n    private $b;\n\x7d".toList

theorem promoted_scan_lines_behind :
    (∃ ctor, (scan promoted.view).constructor? = some ctor ∧ ctor.closingLine = some 1) ∧
    promoted.AgreesTo promotedAbove 1 ∧
    (scan promotedAbove.view).constructor? = (scan promoted.view).constructor? ∧
    scan promotedAbove.view ≠ scan promoted.view := by
  have hctor : (scan promoted.view).constructor? = some ⟨1, ⟨⟨1, 0⟩, ⟨1, 39⟩⟩, some 1⟩ := by
    decide +kernel
  have hagree : promoted.AgreesTo promotedAbove 1 := by decide +kernel
  obtain ⟨⟨-, -, hsame⟩, hscan, -⟩ := scan_lines_behind hctor rfl hagree
  refine ⟨⟨_, hctor, rfl⟩, hagree, hsame, fun heq => ?_⟩
  have hopen : promoted.PropertyOpenAt 1 := by decide +kernel
  have hends : promotedAbove.view.propertyEnd? 2 ≠ promoted.view.propertyEnd? 2 := by
    decide +kernel
  exact hends (hscan.mp heq hopen)

theorem promotedAbove_lastPropertyLine :
    (scan promoted.view).constructor?.bind Constructor.closingLine = some 1 ∧
    promoted.AgreesTo promotedAbove 1 ∧
    (scan promoted.view).lastPropertyLine = none ∧
    (scan promotedAbove.view).lastPropertyLine = some 2 := by
  decide +kernel

end Declarations

end PropertyInsertion

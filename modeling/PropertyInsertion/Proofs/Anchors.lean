import PropertyInsertion.Proofs.BlockMerge
import Mathlib.Data.Nat.SuccPred

/-!
# The anchors of a document

A pass goes from line to line and overwrites what it has noted. What it ends up with can be said
without a pass: it stops at the first line that closes a constructor, and of each kind of line it
keeps the last one down to there. The main statement is that the record of a pass is the only one
that fits this description.
-/

namespace PropertyInsertion

/-! ### Lines by number -/

namespace Document

variable (doc : Document)

/-- The document has this line, and its text passes the test. -/
def LineIs (test : Text → Bool) (number : Nat) : Prop :=
  ∃ line, doc.lineText? number = some line ∧ test line = true

/-- The line closes a constructor: one whose body ends on its own signature line, or, as an indented
closing brace without a signature, one with a signature further up. -/
def ClosesAt (number : Nat) : Prop :=
  doc.LineIs (fun line => (Line.inlineBody? line).isSome) number ∨
    doc.LineIs Line.isNestedClose number ∧ ¬doc.LineIs Line.isConstructorSignature number ∧
      ∃ above < number, doc.LineIs Line.isConstructorSignature above

def IsStop (number : Nat) : Prop := IsLeast {n | doc.ClosesAt n} number

/-- The line is not below the stop, if there is one. -/
def Reaches (number : Nat) : Prop :=
  number < doc.lineCount ∧ ∀ stop, doc.IsStop stop → number ≤ stop

/-- Where the body of the class opens that is named on line `header`. -/
def bodyLine (header : Nat) : Nat :=
  if (doc.lineText? header).any (Text.closesWith ['{']) then header else header + 1

variable {doc}

theorem lineIs_iff {test : Text → Bool} {number : Nat} {line : Text}
    (h : doc.lineText? number = some line) : doc.LineIs test number ↔ test line = true := by
  simp [LineIs, h]

instance (test : Text → Bool) (number : Nat) : Decidable (doc.LineIs test number) :=
  decidable_of_iff ((doc.lineText? number).any test = true) (Option.any_eq_true _ _)

theorem lt_lineCount_of_lineIs {test : Text → Bool} {number : Nat} (h : doc.LineIs test number) :
    number < doc.lineCount := by
  obtain ⟨line, hline, -⟩ := h
  exact lineText?_isSome_iff.mp ⟨line, hline⟩

theorem bodyLine_le (header : Nat) : doc.bodyLine header ≤ header + 1 := by
  unfold bodyLine
  split <;> omega

theorem forall_not_lineIs_iff {test : Text → Bool} :
    (∀ n, ¬doc.LineIs test n) ↔ ∀ line ∈ doc.lines, test line = false := by
  constructor
  · intro hnone line hline
    obtain ⟨n, hn⟩ := List.mem_iff_getElem?.mp hline
    rw [← Bool.not_eq_true]
    exact fun htest => hnone n ⟨line, hn, htest⟩
  · rintro hnone n ⟨line, hline, htest⟩
    rw [hnone line (List.mem_of_getElem? hline)] at htest
    contradiction

theorem lineText?_around {front rest : List Text} {line : Text}
    (hlines : doc.lines = front ++ line :: rest) : doc.lineText? front.length = some line := by
  rw [lineText?, hlines, List.getElem?_append_right (Nat.le_refl _), Nat.sub_self]
  rfl

theorem exists_above_iff {test : Text → Bool} {front rest : List Text}
    (hlines : doc.lines = front ++ rest) :
    (∃ above < front.length, doc.LineIs test above) ↔ front.any test = true := by
  rw [List.any_eq_true]
  constructor
  · rintro ⟨above, habove, line, hline, htest⟩
    rw [lineText?, hlines, List.getElem?_append_left habove] at hline
    exact ⟨line, List.mem_of_getElem? hline, htest⟩
  · rintro ⟨line, hmem, htest⟩
    obtain ⟨above, habove, hline⟩ := List.mem_iff_getElem.mp hmem
    refine ⟨above, habove, line, ?_, htest⟩
    rw [lineText?, hlines, List.getElem?_append_left habove, List.getElem?_eq_getElem habove, hline]

theorem closesAt_iff {front rest : List Text} {line : Text}
    (hlines : doc.lines = front ++ line :: rest) :
    doc.ClosesAt front.length ↔
      Declarations.closes (front.any Line.isConstructorSignature) line = true := by
  have hline := lineText?_around hlines
  rw [ClosesAt, lineIs_iff hline, lineIs_iff hline, lineIs_iff hline, exists_above_iff hlines,
    Declarations.closes, Bool.or_eq_true, Bool.and_eq_true, Bool.and_eq_true, Bool.not_eq_true',
    Bool.not_eq_true]
  exact or_congr_right (by tauto)

theorem lt_lineCount_of_closesAt {number : Nat} (h : doc.ClosesAt number) :
    number < doc.lineCount := by
  rcases h with hinline | ⟨hnested, -⟩
  · exact lt_lineCount_of_lineIs hinline
  · exact lt_lineCount_of_lineIs hnested

/-- No line closes a constructor among lines that keep a pass going. -/
theorem not_closesAt_of_staysOpen {front rest : List Text} (hlines : doc.lines = front ++ rest)
    (hstays : Declarations.staysOpen false front = true) {number : Nat}
    (hnumber : number < front.length) : ¬doc.ClosesAt number := by
  have hfront : front = front.take number ++ front[number] :: front.drop (number + 1) := by
    rw [← List.drop_eq_getElem_cons hnumber, List.take_append_drop]
  have hsplit : doc.lines =
      front.take number ++ front[number] :: (front.drop (number + 1) ++ rest) := by
    rw [hlines, ← List.cons_append, ← List.append_assoc, ← hfront]
  have hlength : (front.take number).length = number := by
    rw [List.length_take]
    omega
  rw [hfront, Declarations.staysOpen_append, Bool.and_eq_true, Declarations.staysOpen,
    Bool.and_eq_true, Bool.not_eq_true', Bool.false_or] at hstays
  rw [← hlength, closesAt_iff hsplit, hstays.2.1]
  exact Bool.false_ne_true

theorem isStop_of_closes {front rest : List Text} {line : Text}
    (hlines : doc.lines = front ++ line :: rest)
    (hstays : Declarations.staysOpen false front = true)
    (hcloses : Declarations.closes (front.any Line.isConstructorSignature) line = true) :
    doc.IsStop front.length := by
  refine ⟨(closesAt_iff hlines).mpr hcloses, ?_⟩
  intro number hnumber
  by_contra hlt
  exact not_closesAt_of_staysOpen hlines hstays (Nat.not_le.mp hlt) hnumber

theorem not_isStop_of_staysOpen (hstays : Declarations.staysOpen false doc.lines = true)
    (number : Nat) : ¬doc.IsStop number := by
  intro hstop
  have hlines : doc.lines = doc.lines ++ [] := (List.append_nil _).symm
  exact not_closesAt_of_staysOpen hlines hstays (lt_lineCount_of_closesAt hstop.1) hstop.1

end Document

/-! ### The last line that counts -/

/-- What is found is the value of the last line that counts, and nothing if none does. -/
def LastGives (Counts : Nat → Prop) (value : Nat → Option Nat) (found : Option Nat) : Prop :=
  ∀ number, found = some number ↔
    ∃ last, IsGreatest {n | Counts n} last ∧ value last = some number

section LastGives

variable {Counts : Nat → Prop} {value : Nat → Option Nat} {found found' : Option Nat} {count : Nat}

theorem LastGives.unique (h : LastGives Counts value found) (h' : LastGives Counts value found') :
    found = found' := by
  apply Option.ext
  intro number
  rw [h number, h' number]

theorem LastGives.congr {Counts' : Nat → Prop} (hcounts : ∀ n, Counts n ↔ Counts' n)
    (h : LastGives Counts value found) : LastGives Counts' value found := by
  obtain rfl : Counts = Counts' := funext fun n => propext (hcounts n)
  exact h

theorem lastGives_none (h : ∀ n, ¬Counts n) : LastGives Counts value none := by
  intro number
  simp only [reduceCtorEq, false_iff]
  rintro ⟨last, hlast, -⟩
  exact h last hlast.1

/-- Going on by one line overwrites what was found if that line counts, and else keeps it. -/
theorem LastGives.succ {next : Option Nat}
    (h : LastGives (fun n => n < count ∧ Counts n) value found)
    (hcounts : Counts count → next = value count) (hskips : ¬Counts count → next = found) :
    LastGives (fun n => n < count + 1 ∧ Counts n) value next := by
  by_cases hlast : Counts count
  · rw [hcounts hlast]
    have hgreatest : IsGreatest {n | n < count + 1 ∧ Counts n} count :=
      ⟨⟨Nat.lt_succ_self count, hlast⟩, fun n hn => Nat.le_of_lt_succ hn.1⟩
    intro number
    constructor
    · intro hvalue
      exact ⟨count, hgreatest, hvalue⟩
    · rintro ⟨last, hother, hvalue⟩
      rwa [hother.unique hgreatest] at hvalue
  · rw [hskips hlast]
    refine h.congr fun n => ⟨fun hn => ⟨Nat.lt_succ_of_lt hn.1, hn.2⟩, fun hn => ⟨?_, hn.2⟩⟩
    have hne : n ≠ count := fun heq => hlast (heq ▸ hn.2)
    omega

/-- Something is found exactly if a line counts, where every line that counts has a value. -/
theorem LastGives.isSome_iff (h : LastGives Counts value found)
    (hbounded : ∀ n, Counts n → n < count) (hvalue : ∀ n, Counts n → (value n).isSome = true) :
    found.isSome = true ↔ ∃ n, Counts n := by
  rw [Option.isSome_iff_exists]
  constructor
  · rintro ⟨number, hnumber⟩
    obtain ⟨last, hlast, -⟩ := (h number).mp hnumber
    exact ⟨last, hlast.1⟩
  · intro hsome
    have habove : BddAbove {n | Counts n} := ⟨count, fun n hn => Nat.le_of_lt (hbounded n hn)⟩
    obtain ⟨last, hlast⟩ := habove.exists_isGreatest_of_nonempty hsome
    obtain ⟨number, hnumber⟩ := Option.isSome_iff_exists.mp (hvalue last hlast.1)
    exact ⟨number, (h number).mpr ⟨last, hlast, hnumber⟩⟩

end LastGives

/-! ### What the lines seen so far leave behind -/

namespace Declarations

/-- The class, the trait uses and the properties are those of the lines seen. -/
structure Notes (doc : Document) (Seen : Nat → Prop) (decls : Declarations) : Prop where
  classLine : LastGives (fun n => Seen n ∧ doc.LineIs Line.isClassHeader n)
    (fun n => some (doc.bodyLine n)) decls.classLine
  traitUseLine : LastGives
    (fun n => Seen n ∧ doc.LineIs Line.isTraitUse n ∧
      ∃ header ≤ n, doc.LineIs Line.isClassHeader header)
    some decls.traitUseLine
  lastPropertyLine : LastGives
    (fun n => Seen n ∧ doc.LineIs Line.isProperty n ∧ (doc.view.propertyEnd? n).isSome = true)
    doc.view.propertyEnd? decls.lastPropertyLine

section Notes

variable {doc : Document} {decls : Declarations}

theorem Notes.congr {Seen Seen' : Nat → Prop} (hseen : ∀ n, Seen n ↔ Seen' n)
    (h : Notes doc Seen decls) : Notes doc Seen' decls := by
  obtain rfl : Seen = Seen' := funext fun n => propext (hseen n)
  exact h

theorem notes_empty : Notes doc (· < 0) {} := by
  constructor <;> exact lastGives_none fun n hn => Nat.not_lt_zero n hn.1

theorem Notes.noteLine {count : Nat} {line : Text} (h : Notes doc (· < count) decls)
    (hline : doc.lineText? count = some line) :
    Notes doc (· < count + 1) (decls.noteLine doc.view count line) := by
  have hclass : LastGives (fun n => n < count + 1 ∧ doc.LineIs Line.isClassHeader n)
      (fun n => some (doc.bodyLine n)) (decls.noteLine doc.view count line).classLine := by
    refine h.classLine.succ ?_ ?_
    · intro hheader
      rw [Document.lineIs_iff hline] at hheader
      rw [noteLine_classLine, if_pos hheader, Document.bodyLine, hline, Option.any_some]
    · intro hheader
      rw [Document.lineIs_iff hline] at hheader
      rw [noteLine_classLine, if_neg hheader]
  -- the header may stand on the line itself, so the guard looks at the class line noted just now
  have hguard : (decls.noteLine doc.view count line).classLine.isSome = true ↔
      ∃ header ≤ count, doc.LineIs Line.isClassHeader header := by
    rw [hclass.isSome_iff (fun n hn => hn.1) fun n _ => rfl]
    simp only [Nat.lt_succ_iff]
  refine ⟨hclass, h.traitUseLine.succ ?_ ?_, h.lastPropertyLine.succ ?_ ?_⟩
  · rintro ⟨huse, hheader⟩
    rw [Document.lineIs_iff hline] at huse
    rw [noteLine_traitUseLine, huse, hguard.mpr hheader]
    rfl
  · intro hnone
    rw [Document.lineIs_iff hline, ← hguard, ← Bool.and_eq_true] at hnone
    rw [noteLine_traitUseLine, if_neg hnone]
  · rintro ⟨hproperty, hsome⟩
    rw [Document.lineIs_iff hline] at hproperty
    rw [noteLine_lastPropertyLine, if_pos hproperty, Option.or_of_isSome hsome]
  · intro hnone
    rw [Document.lineIs_iff hline] at hnone
    rw [noteLine_lastPropertyLine]
    split
    next hproperty =>
      have hend : doc.view.propertyEnd? count = none := by
        rw [← Option.not_isSome_iff_eq_none]
        exact fun hsome => hnone ⟨hproperty, hsome⟩
      rw [hend, Option.none_or]
    next => rfl

theorem Notes.noteLines {count : Nat} {lines : List Text} (h : Notes doc (· < count) decls)
    (hlines : doc.view.Shows count lines) :
    Notes doc (· < count + lines.length) (noteLines doc.view count lines decls) := by
  induction lines generalizing count decls with
  | nil => exact h
  | cons line lines ih =>
      have hline : doc.lineText? count = some line := by
        rw [← Document.view_lineText?]
        exact hlines.head
      have hrest := ih (h.noteLine hline) hlines.tail
      rwa [Nat.add_assoc, Nat.add_comm 1] at hrest

theorem notes_noteLines {seen rest : List Text} (hlines : doc.lines = seen ++ rest) :
    Notes doc (· < seen.length) (Declarations.noteLines doc.view 0 seen {}) := by
  have hsplit : doc.lines = [] ++ seen ++ rest := by rw [hlines, List.nil_append]
  have hnotes := notes_empty.noteLines (Document.view_shows hsplit)
  rwa [Nat.zero_add] at hnotes

/-- A pass notes the lines down to its stop. -/
theorem notes_scan (doc : Document) : Notes doc doc.Reaches (scan doc.view) := by
  rcases staysOpen_or_exists_closes false doc.lines with
    hstays | ⟨front, line, rest, hlines, hstays, hcloses⟩
  · rw [scan_of_staysOpen hstays]
    refine (notes_noteLines (List.append_nil doc.lines).symm).congr fun n => ?_
    constructor
    · intro hn
      exact ⟨hn, fun stop hstop => absurd hstop (Document.not_isStop_of_staysOpen hstays stop)⟩
    · exact fun hn => hn.1
  · rw [Bool.false_or] at hcloses
    have hstop := Document.isStop_of_closes hlines hstays hcloses
    have hcount := Document.lt_lineCount_of_closesAt hstop.1
    have hsplit : doc.lines = (front ++ [line]) ++ rest := by
      rw [hlines]
      simp
    rw [scan_of_closes hlines hstays hcloses]
    refine (notes_noteLines hsplit).congr fun n => ?_
    rw [List.length_append, List.length_singleton]
    constructor
    · intro hn
      refine ⟨by omega, fun stop hother => ?_⟩
      rw [hother.unique hstop]
      omega
    · rintro ⟨-, hn⟩
      have hle := hn _ hstop
      omega

end Notes

end Declarations

/-! ### The constructor -/

/-- The constructor is the one of the document: its signature is the last one down to the stop, the
stop closes it, and its docblock is searched for up to the class that is open there. -/
structure Constructor.StandsIn (doc : Document) (ctor : Constructor) : Prop where
  line : IsGreatest {n | doc.Reaches n ∧ doc.LineIs Line.isConstructorSignature n} ctor.line
  closingLine : ∀ number, ctor.closingLine = some number ↔ doc.IsStop number
  range : ∃ classLine,
    LastGives (fun n => n ≤ ctor.line ∧ doc.LineIs Line.isClassHeader n)
      (fun n => some (doc.bodyLine n)) classLine ∧
    doc.view.constructorRange? ctor.line (classLine.getD 0) = some ctor.range

theorem Constructor.StandsIn.unique {doc : Document} {ctor ctor' : Constructor}
    (h : ctor.StandsIn doc) (h' : ctor'.StandsIn doc) : ctor = ctor' := by
  obtain ⟨line, range, closingLine⟩ := ctor
  obtain ⟨line', range', closingLine'⟩ := ctor'
  obtain rfl : line = line' := h.line.unique h'.line
  obtain rfl : closingLine = closingLine' :=
    Option.ext fun number => (h.closingLine number).trans (h'.closingLine number).symm
  obtain ⟨classLine, hclass, hrange⟩ := h.range
  obtain ⟨classLine', hclass', hrange'⟩ := h'.range
  rw [hclass.unique hclass'] at hrange
  obtain rfl : range = range' := Option.some.inj (hrange.symm.trans hrange')
  rfl

namespace Declarations

theorem Ends.le {number closing : Nat} {signature : Text} {below : List Text}
    (h : Ends number signature below (some closing)) : number ≤ closing := by
  cases h with
  | inline => exact Nat.le_refl number
  | block => omega

/-- No line below a signature has another one, as far down as the constructor goes. -/
theorem Ends.not_signature {number i : Nat} {signature line : Text} {below : List Text}
    {ending : Option Nat} (h : Ends number signature below ending) (hline : below[i]? = some line)
    (hinside : ∀ closing, ending = some closing → number + 1 + i ≤ closing) :
    Line.isConstructorSignature line = false := by
  cases h with
  | inline =>
      have hle := hinside number rfl
      omega
  | block body closing rest _ hbelow hbody hsignature =>
      have hle := hinside _ rfl
      rw [hbelow] at hline
      rcases Nat.lt_or_ge i body.length with hi | hi
      · rw [List.getElem?_append_left hi] at hline
        exact (isInner_iff.mp (hbody line (List.mem_of_getElem? hline))).1
      · obtain rfl : i = body.length := by omega
        rw [List.getElem?_append_right hi, Nat.sub_self] at hline
        rwa [← Option.some.inj hline]
  | never _ hbody => exact (isInner_iff.mp (hbody line (List.mem_of_getElem? hline))).1

section Located

variable {doc : Document} {ctor : Constructor} {front below : List Text} {signature : Text}

theorem Located.isStop_iff (h : Located doc ctor front signature below) (number : Nat) :
    ctor.closingLine = some number ↔ doc.IsStop number := by
  obtain ⟨hlines, -, hstays, hsignature, -, hends⟩ := h
  have hfound : ∀ {stop}, doc.IsStop stop → (some stop = some number ↔ doc.IsStop number) := by
    intro stop hstop
    rw [Option.some.injEq]
    exact ⟨fun heq => heq ▸ hstop, fun hother => hstop.unique hother⟩
  generalize ctor.closingLine = ending at hends
  cases hends with
  | inline hinline =>
      refine hfound (Document.isStop_of_closes hlines hstays ?_)
      rw [closes, hinline, Bool.true_or]
  | block body closing rest hinline hbelow hbody hnot hcloses =>
      have hsplit : doc.lines = (front ++ signature :: body) ++ closing :: rest := by
        rw [hlines, hbelow]
        simp
      have hlength : (front ++ signature :: body).length = front.length + 1 + body.length := by
        rw [List.length_append, List.length_cons]
        omega
      rw [← hlength]
      refine hfound (Document.isStop_of_closes hsplit
        (staysOpen_of_body hstays hsignature hinline hbody) ?_)
      rw [closes, hnot, hcloses]
      simp [hsignature]
  | never hinline hbody =>
      have hopen : Declarations.staysOpen false doc.lines = true := by
        rw [hlines]
        exact staysOpen_of_body hstays hsignature hinline hbody
      simp [Document.not_isStop_of_staysOpen hopen number]

theorem Located.isGreatest (h : Located doc ctor front signature below) :
    IsGreatest {n | doc.Reaches n ∧ doc.LineIs Line.isConstructorSignature n} ctor.line := by
  have hshown := Document.lineText?_around h.lines
  rw [h.line]
  constructor
  · refine ⟨⟨Document.lineText?_isSome_iff.mp ⟨_, hshown⟩, ?_⟩, signature, hshown, h.isSignature⟩
    intro stop hstop
    have hends := h.ends
    rw [(h.isStop_iff stop).mpr hstop] at hends
    exact hends.le
  · rintro n ⟨⟨-, hstop⟩, line, hline, hfound⟩
    by_contra hlt
    obtain ⟨i, rfl⟩ : ∃ i, n = front.length + 1 + i := ⟨n - (front.length + 1), by omega⟩
    have hbelow : below[i]? = some line := by
      rw [Document.lineText?, h.lines, Nat.add_assoc,
        List.getElem?_append_right (Nat.le_add_right _ _), Nat.add_sub_cancel_left, Nat.add_comm 1,
        List.getElem?_cons_succ] at hline
      exact hline
    rw [h.ends.not_signature hbelow fun closing hclosing =>
      hstop closing ((h.isStop_iff closing).mp hclosing)] at hfound
    contradiction

theorem Located.standsIn (h : Located doc ctor front signature below) : ctor.StandsIn doc := by
  refine ⟨h.isGreatest, h.isStop_iff, _, ?_, by rw [h.line]; exact h.range⟩
  have hsplit : doc.lines = (front ++ [signature]) ++ below := by
    rw [h.lines]
    simp
  have hclass := (notes_noteLines hsplit).classLine
  rw [noteLines_classLine] at hclass
  refine hclass.congr fun n => ?_
  rw [List.length_append, List.length_singleton, Nat.lt_succ_iff, h.line]

end Located

theorem scan_constructor?_iff_standsIn {doc : Document} {ctor : Constructor} :
    (scan doc.view).constructor? = some ctor ↔ ctor.StandsIn doc := by
  constructor
  · intro hctor
    obtain ⟨front, signature, below, hlocated⟩ := scan_constructor?_eq_some_iff.mp hctor
    exact hlocated.standsIn
  · intro hstands
    obtain ⟨-, line, hline, hsignature⟩ := hstands.line.1
    have hany : doc.lines.any Line.isConstructorSignature = true :=
      List.any_eq_true.mpr ⟨line, List.mem_of_getElem? hline, hsignature⟩
    obtain ⟨ctor', front, signature, below, hlocated⟩ := exists_located hany
    rw [hlocated.scan_eq, hlocated.standsIn.unique hstands]

/-! ### The record of a pass -/

structure Describes (doc : Document) (decls : Declarations) : Prop extends
    Notes doc doc.Reaches decls where
  constructor? : ∀ ctor, decls.constructor? = some ctor ↔ ctor.StandsIn doc

theorem describes_scan (doc : Document) : Describes doc (scan doc.view) :=
  ⟨notes_scan doc, fun _ => scan_constructor?_iff_standsIn⟩

theorem Describes.unique {doc : Document} {decls decls' : Declarations} (h : Describes doc decls)
    (h' : Describes doc decls') : decls = decls' := by
  obtain ⟨classLine, traitUseLine, lastPropertyLine, ctor?⟩ := decls
  obtain ⟨classLine', traitUseLine', lastPropertyLine', ctor?'⟩ := decls'
  obtain rfl : classLine = classLine' := h.classLine.unique h'.classLine
  obtain rfl : traitUseLine = traitUseLine' := h.traitUseLine.unique h'.traitUseLine
  obtain rfl : lastPropertyLine = lastPropertyLine' := h.lastPropertyLine.unique h'.lastPropertyLine
  obtain rfl : ctor? = ctor?' :=
    Option.ext fun ctor => (h.constructor? ctor).trans (h'.constructor? ctor).symm
  rfl

/-- A line is noted that the document has, or the one below it. So the line below it has the next
number. -/
theorem Notes.insertionLine_eq {doc : Document} {decls : Declarations} {Seen : Nat → Prop}
    (h : Notes doc Seen decls) :
    decls.insertionLine doc.view.numbers =
      ((decls.lastPropertyLine.or decls.traitUseLine).or decls.classLine).map (· + 1) := by
  refine Option.map_congr fun number hnumber => Document.lineBelow_view ?_
  rcases Option.or_eq_some_iff.mp hnumber with hmember | ⟨-, hclass⟩
  · refine Nat.le_of_lt ?_
    rcases Option.or_eq_some_iff.mp hmember with hproperty | ⟨-, htrait⟩
    · obtain ⟨n, -, hend⟩ := (h.lastPropertyLine number).mp hproperty
      exact (View.firstLine?_eq_some_iff.mp hend).1.2
    · obtain ⟨n, ⟨⟨-, huse, -⟩, -⟩, hlast⟩ := (h.traitUseLine number).mp htrait
      rw [← Option.some.inj hlast]
      exact Document.lt_lineCount_of_lineIs huse
  · obtain ⟨header, ⟨⟨-, hheader⟩, -⟩, hbody⟩ := (h.classLine number).mp hclass
    rw [← Option.some.inj hbody]
    exact (Document.bodyLine_le header).trans (Document.lt_lineCount_of_lineIs hheader)

/-- A property that starts further down does not end further up. -/
theorem propertyEnd?_le {view : View} {upper lower stop stop' : Nat} (hle : upper ≤ lower)
    (h : view.propertyEnd? upper = some stop) (h' : view.propertyEnd? lower = some stop') :
    stop ≤ stop' := by
  obtain ⟨-, -, hbefore⟩ := View.firstLine?_eq_some_iff.mp h
  obtain ⟨⟨hlower, -⟩, ⟨line, hline, htest⟩, -⟩ := View.firstLine?_eq_some_iff.mp h'
  by_contra hlt
  rw [hbefore stop' line (by omega) (by omega) hline] at htest
  contradiction

theorem isGreatest_propertyEnd? {doc : Document} {decls : Declarations} {Seen : Nat → Prop}
    {number : Nat} (h : Notes doc Seen decls) (hnumber : decls.lastPropertyLine = some number) :
    IsGreatest {stop | ∃ n, Seen n ∧ doc.LineIs Line.isProperty n ∧
      doc.view.propertyEnd? n = some stop} number := by
  obtain ⟨last, ⟨⟨hseen, hproperty, -⟩, hlast⟩, hend⟩ := (h.lastPropertyLine number).mp hnumber
  refine ⟨⟨last, hseen, hproperty, hend⟩, ?_⟩
  rintro stop ⟨n, hn, hline, hstop⟩
  exact propertyEnd?_le (hlast ⟨hn, hline, by rw [hstop]; rfl⟩) hstop hend

/-- The lines of a constructor are in order, and it is closed on its own line only if its body
is. -/
theorem order_of_scan {doc : Document} {ctor : Constructor}
    (hctor : (scan doc.view).constructor? = some ctor) :
    ctor.range.start.line ≤ ctor.line ∧ ctor.line < doc.lineCount ∧
      ∀ closing, ctor.closingLine = some closing →
        ctor.line ≤ closing ∧ closing < doc.lineCount ∧
          (closing = ctor.line ↔
            doc.LineIs (fun line => (Line.inlineBody? line).isSome) closing) := by
  have hstands := scan_constructor?_iff_standsIn.mp hctor
  obtain ⟨⟨hreaches, hsignature⟩, hlast⟩ := hstands.line
  refine ⟨(Plan.range_of_scan hctor).2.1, hreaches.1, fun closing hclosing => ?_⟩
  have hstop := (hstands.closingLine closing).mp hclosing
  have hcount := Document.lt_lineCount_of_closesAt hstop.1
  refine ⟨hreaches.2 closing hstop, hcount, ?_⟩
  rcases hstop.1 with hinline | ⟨-, hnot, -⟩
  · have hge := hreaches.2 closing hstop
    refine iff_of_true (Nat.le_antisymm (hlast ⟨⟨hcount, ?_⟩, ?_⟩) hge) hinline
    · exact fun stop hother => Nat.le_of_eq (hstop.unique hother)
    · obtain ⟨line, hline, hsome⟩ := hinline
      exact ⟨line, hline, Line.isConstructorSignature_of_inlineBody? hsome⟩
  · refine iff_of_false (fun heq => hnot (heq ▸ hsignature)) ?_
    rintro ⟨line, hline, hsome⟩
    exact hnot ⟨line, hline, Line.isConstructorSignature_of_inlineBody? hsome⟩

/-- **The record of a pass.** It is the one record that describes the document: the pass stops at
the first line that closes a constructor and keeps the last line of each kind down to there. -/
theorem scan_eq_iff_describes (doc : Document) :
    (∀ decls, scan doc.view = decls ↔ Describes doc decls) ∧
    ((scan doc.view).constructor? = none ↔
      ∀ n, doc.Reaches n → ¬doc.LineIs Line.isConstructorSignature n) ∧
    (∀ number, (scan doc.view).lastPropertyLine = some number →
      IsGreatest {stop | ∃ n, doc.Reaches n ∧ doc.LineIs Line.isProperty n ∧
        doc.view.propertyEnd? n = some stop} number) ∧
    (∀ ctor, (scan doc.view).constructor? = some ctor →
      ctor.range.start.line ≤ ctor.line ∧ ctor.line < doc.lineCount ∧
        ∀ closing, ctor.closingLine = some closing →
          ctor.line ≤ closing ∧ closing < doc.lineCount ∧
            (closing = ctor.line ↔
              doc.LineIs (fun line => (Line.inlineBody? line).isSome) closing)) := by
  refine ⟨fun decls => ⟨?_, ?_⟩, ?_, fun number => ?_, fun ctor => order_of_scan⟩
  · rintro rfl
    exact describes_scan doc
  · exact (describes_scan doc).unique
  · constructor
    · rintro hnone n - ⟨line, hline, hsignature⟩
      rw [scan_constructor?_eq_none_iff.mp hnone line (List.mem_of_getElem? hline)] at hsignature
      contradiction
    · intro hnone
      rw [Option.eq_none_iff_forall_ne_some]
      intro ctor hctor
      have hline := (scan_constructor?_iff_standsIn.mp hctor).line.1
      exact hnone ctor.line hline.1 hline.2
  · exact isGreatest_propertyEnd? (notes_scan doc)

end Declarations

end PropertyInsertion

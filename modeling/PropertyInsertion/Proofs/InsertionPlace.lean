import PropertyInsertion.Proofs.Failures

/-!
# Where a new constructor goes

A trait use counts only below a class header, a property counts anywhere. So a new constructor goes
below a class header exactly if the end of the last property does, and a text without any class is
refused exactly if it has no property.
-/

namespace PropertyInsertion

namespace Document

variable (doc : Document)

def ClassAbove (number : Nat) : Prop :=
  ∃ header < number, doc.LineIs Line.isClassHeader header

/-- The lines on which properties end. -/
def propertyEnds : Set Nat :=
  {stop | ∃ n, doc.LineIs Line.isProperty n ∧ doc.view.propertyEnd? n = some stop}

variable {doc}

theorem le_bodyLine (header : Nat) : header ≤ doc.bodyLine header := by
  unfold bodyLine
  split <;> omega

/-- Without a signature no line closes a constructor, so a pass sees all lines. -/
theorem reaches_iff_of_no_signature (h : ∀ n, ¬doc.LineIs Line.isConstructorSignature n)
    (number : Nat) : doc.Reaches number ↔ number < doc.lineCount := by
  refine ⟨fun hreaches => hreaches.1, fun hcount => ⟨hcount, fun stop hstop => ?_⟩⟩
  rcases hstop.1 with ⟨line, hline, hinline⟩ | ⟨-, -, above, -, habove⟩
  · exact absurd ⟨line, hline, Line.isConstructorSignature_of_inlineBody? hinline⟩ (h stop)
  · exact absurd habove (h above)

theorem no_signature_iff :
    (∀ n, ¬doc.LineIs Line.isConstructorSignature n) ↔
      (Declarations.scan doc.view).constructor? = none :=
  forall_not_lineIs_iff.trans Declarations.scan_constructor?_eq_none_iff.symm

end Document

namespace Declarations

section NoConstructor

variable {doc : Document} (hctor : (scan doc.view).constructor? = none)

include hctor

theorem notes_scan_of_no_constructor : Notes doc (· < doc.lineCount) (scan doc.view) := by
  have hnone := Document.no_signature_iff.mpr hctor
  exact (notes_scan doc).congr (Document.reaches_iff_of_no_signature hnone)

theorem isGreatest_lastPropertyLine {number : Nat}
    (hnumber : (scan doc.view).lastPropertyLine = some number) :
    IsGreatest doc.propertyEnds number := by
  obtain ⟨⟨n, -, hn⟩, hlast⟩ :=
    isGreatest_propertyEnd? (notes_scan_of_no_constructor hctor) hnumber
  refine ⟨⟨n, hn⟩, ?_⟩
  rintro stop ⟨n, hproperty, hstop⟩
  exact hlast ⟨n, Document.lt_lineCount_of_lineIs hproperty, hproperty, hstop⟩

theorem lastPropertyLine_eq_none_iff :
    (scan doc.view).lastPropertyLine = none ↔ doc.propertyEnds = ∅ := by
  have hsome := (notes_scan_of_no_constructor hctor).lastPropertyLine.isSome_iff
    (fun n hn => hn.1) fun n hn => hn.2.2
  rw [← Option.not_isSome_iff_eq_none, hsome, ← Set.not_nonempty_iff_eq_empty, not_iff_not]
  constructor
  · rintro ⟨n, -, hproperty, hend⟩
    obtain ⟨stop, hstop⟩ := Option.isSome_iff_exists.mp hend
    exact ⟨stop, n, hproperty, hstop⟩
  · rintro ⟨stop, n, hproperty, hstop⟩
    exact ⟨n, Document.lt_lineCount_of_lineIs hproperty, hproperty, by rw [hstop]; rfl⟩

/-- Only the end of a property can lead above every class header. -/
theorem classAbove_of_lastPropertyLine_eq_none {line : Nat}
    (hnone : (scan doc.view).lastPropertyLine = none)
    (hline : (scan doc.view).insertionLine doc.view.numbers = some line) :
    doc.ClassAbove line := by
  have hnotes := notes_scan_of_no_constructor hctor
  rw [hnotes.insertionLine_eq, hnone, Option.none_or] at hline
  obtain ⟨anchor, hanchor, rfl⟩ := Option.map_eq_some_iff.mp hline
  rcases Option.or_eq_some_iff.mp hanchor with htrait | ⟨-, hclass⟩
  · obtain ⟨last, ⟨⟨-, -, header, hle, hheader⟩, -⟩, hlast⟩ :=
      (hnotes.traitUseLine anchor).mp htrait
    obtain rfl := Option.some.inj hlast
    exact ⟨header, Nat.lt_succ_of_le hle, hheader⟩
  · obtain ⟨header, ⟨⟨-, hheader⟩, -⟩, hbody⟩ := (hnotes.classLine anchor).mp hclass
    rw [← Option.some.inj hbody]
    exact ⟨header, Nat.lt_succ_of_le (Document.le_bodyLine header), hheader⟩

theorem classAbove_insertionLine_iff {line : Nat}
    (hline : (scan doc.view).insertionLine doc.view.numbers = some line) :
    doc.ClassAbove line ↔
      ∀ stop, IsGreatest doc.propertyEnds stop → doc.ClassAbove (stop + 1) := by
  cases hproperty : (scan doc.view).lastPropertyLine with
  | none =>
      refine iff_of_true (classAbove_of_lastPropertyLine_eq_none hctor hproperty hline) ?_
      intro stop hstop
      have hempty := (lastPropertyLine_eq_none_iff hctor).mp hproperty
      exact absurd hstop.1 (by rw [hempty]; exact Set.notMem_empty stop)
  | some last =>
      have hlast := isGreatest_lastPropertyLine hctor hproperty
      obtain rfl : last + 1 = line := by
        rw [(notes_scan doc).insertionLine_eq, hproperty] at hline
        exact Option.some.inj hline
      constructor
      · intro habove stop hstop
        rwa [hstop.unique hlast]
      · exact fun h => h last hlast

/-- Without a class header there is an insertion line only below a property. -/
theorem insertionLine_eq_none_iff_of_no_class (hclass : ∀ n, ¬doc.LineIs Line.isClassHeader n) :
    (scan doc.view).insertionLine doc.view.numbers = none ↔ doc.propertyEnds = ∅ := by
  rw [← lastPropertyLine_eq_none_iff hctor]
  constructor
  · intro hnone
    exact (insertionLine_eq_none_iff.mp hnone).2.2
  · intro hproperty
    rw [Option.eq_none_iff_forall_ne_some]
    intro line hline
    obtain ⟨header, -, hheader⟩ := classAbove_of_lastPropertyLine_eq_none hctor hproperty hline
    exact hclass header hheader

end NoConstructor

end Declarations

namespace Plan

open Declarations

theorem error_classNotFound_iff {content : Text} {settings : Settings} {name : Text} :
    ofText content settings name = .error .classNotFound ↔
      isPropertyName name = true ∧ (scan (Document.ofText content).view).constructor? = none ∧
        (scan (Document.ofText content).view).insertionLine
          (Document.ofText content).view.numbers = none := by
  rw [error_iff_failsWith, insertionLine_eq_none_iff]
  constructor
  · intro hfails
    cases hfails with
    | classNotFound hname hctor hclass htrait hproperty =>
        exact ⟨hname, hctor, hclass, htrait, hproperty⟩
  · rintro ⟨hname, hctor, hclass, htrait, hproperty⟩
    exact .classNotFound hname hctor hclass htrait hproperty

/-- **Where a new constructor goes.** It goes below a class header exactly if the last property ends
below one, or there is none; and a text without class and constructor is refused exactly if no
property ends in it. -/
theorem insert_classAbove_iff (content : Text) (settings : Settings) (name : Text) :
    (∀ plan place, ofText content settings name = .ok plan → plan.target = .insert place →
      ((Document.ofText content).ClassAbove place.line ↔
        ∀ stop, IsGreatest (Document.ofText content).propertyEnds stop →
          (Document.ofText content).ClassAbove (stop + 1))) ∧
    (isPropertyName name = true →
      (∀ n, ¬(Document.ofText content).LineIs Line.isClassHeader n) →
      (∀ n, ¬(Document.ofText content).LineIs Line.isConstructorSignature n) →
      (ofText content settings name = .error .classNotFound ↔
        (Document.ofText content).propertyEnds = ∅)) := by
  constructor
  · intro plan place hplan htarget
    obtain ⟨-, ⟨hctor, hfresh⟩ | ⟨ctor, -, hmerge⟩⟩ := ofDeclarations_eq_ok_iff.mp hplan
    · obtain ⟨line, here, hline, -, rfl⟩ := fresh_eq_ok_iff.mp hfresh
      rw [← Target.insert.inj htarget]
      exact classAbove_insertionLine_iff hctor hline
    · obtain ⟨closing, sig, group, body, last, -, -, -, -, -, rfl⟩ := merge_eq_ok_iff.mp hmerge
      contradiction
  · intro hname hclass hsignature
    have hctor := Document.no_signature_iff.mp hsignature
    rw [error_classNotFound_iff, ← insertionLine_eq_none_iff_of_no_class hctor hclass]
    exact ⟨fun h => h.2.2, fun h => ⟨hname, hctor, h⟩⟩

/-- A function with a static variable, in a text without a class. -/
def withoutClass : Text := "function f()\n\x7b\n    static $n;\n\x7d\n".toList

theorem withoutClass_insert :
    (∀ n, ¬(Document.ofText withoutClass).LineIs Line.isClassHeader n) ∧
    (∀ n, ¬(Document.ofText withoutClass).LineIs Line.isConstructorSignature n) ∧
    (ofText withoutClass {} ['b']).toOption.map target = some (.insert ⟨3, 0⟩) := by
  rw [Document.forall_not_lineIs_iff, Document.forall_not_lineIs_iff]
  decide +kernel

end Plan

end PropertyInsertion

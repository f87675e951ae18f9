import PropertyInsertion.Proofs.Ranges
import Mathlib.Order.Bounds.Defs

/-!
# The search for the first line of a constructor

A constructor below a comment starts at the nearest line above it that opens a docblock, no further
up than a bound. The bound may lie below the line above the constructor, which is then the only one
looked at. Any line of the view may be missing, and the search goes past those that are.
-/

namespace PropertyInsertion

namespace View

variable {view : View} {line lowerBound : Nat}

/-- The line above is there and ends a comment. -/
def FollowsComment (view : View) (line : Nat) : Prop :=
  0 < line ∧ ∃ above, view.lineText? (line - 1) = some above ∧ ['*', '/'] <:+ above.trimEnd

/-- Line `number` is there, not above the bound, and opens a docblock for the constructor on line
`line`. The opening mark ends that line; directly above the constructor it may start it instead. -/
structure OpensFor (view : View) (line lowerBound number : Nat) : Prop where
  notAbove : min lowerBound (line - 1) ≤ number
  notBelow : number ≤ line - 1
  opens : ∃ text, view.lineText? number = some text ∧
    (['/', '*', '*'] <:+ text.trim ∨ number = line - 1 ∧ ['/', '*', '*'] <+: text.trim)

theorem followsComment_iff :
    view.FollowsComment line ↔
      0 < line ∧ (view.lineText? (line - 1)).any (Text.closesWith ['*', '/']) = true := by
  simp only [FollowsComment, Option.any_eq_true, Text.closesWith, List.isSuffixOf_iff_suffix]

theorem opensDocblock_iff {single : Bool} {text : Text} :
    opensDocblock single text = true ↔
      ['/', '*', '*'] <:+ text.trim ∨ single = true ∧ ['/', '*', '*'] <+: text.trim := by
  rw [opensDocblock, Bool.or_eq_true, Bool.and_eq_true, List.isSuffixOf_iff_suffix,
    List.isPrefixOf_iff_prefix]

theorem opensFor_iff {number : Nat} :
    view.OpensFor line lowerBound number ↔
      (min lowerBound (line - 1) ≤ number ∧ number ≤ line - 1) ∧
        ∃ text, view.lineText? number = some text ∧
          opensDocblock (number == line - 1) text = true := by
  simp only [opensDocblock_iff, beq_iff_eq]
  exact ⟨fun h => ⟨⟨h.notAbove, h.notBelow⟩, h.opens⟩, fun h => ⟨h.1.1, h.1.2, h.2⟩⟩

/-- The search ends at the last of the lines that open a docblock. -/
theorem docblockStart?_eq_some_iff_isGreatest {start : Nat} :
    view.docblockStart? (min lowerBound (line - 1)) (line - 1) = some start ↔
      IsGreatest {number | view.OpensFor line lowerBound number} start := by
  rw [docblockStart?_eq_some_iff (Nat.min_le_right _ _)]
  constructor
  · rintro ⟨hopens, hbounds, hothers⟩
    refine ⟨opensFor_iff.mpr ⟨hbounds, hopens⟩, fun number hnumber => ?_⟩
    obtain ⟨⟨-, hle⟩, text, htext, hother⟩ := opensFor_iff.mp hnumber
    by_contra hlt
    rw [hothers number text (Nat.lt_of_not_le hlt) hle htext] at hother
    contradiction
  · rintro ⟨hstart, hlast⟩
    obtain ⟨hbounds, hopens⟩ := opensFor_iff.mp hstart
    refine ⟨hopens, hbounds, fun number text hlt hle htext => ?_⟩
    rw [Bool.eq_false_iff]
    intro hother
    have hmore : number ≤ start :=
      hlast (opensFor_iff.mpr ⟨⟨hbounds.1.trans (Nat.le_of_lt hlt), hle⟩, text, htext, hother⟩)
    omega

/-- Nothing opens a docblock between the nearest line that does and the constructor, so a lower
bound leads to the same line. -/
theorem isGreatest_opensFor_of_le {lower start : Nat} (hlower : lower ≤ lowerBound)
    (h : IsGreatest {number | view.OpensFor line lowerBound number} start) :
    IsGreatest {number | view.OpensFor line lower number} start := by
  obtain ⟨⟨hbound, hle, hopens⟩, hlast⟩ := h
  refine ⟨⟨by omega, hle, hopens⟩, fun number hnumber => ?_⟩
  by_cases habove : min lowerBound (line - 1) ≤ number
  · exact hlast ⟨habove, hnumber.notBelow, hnumber.opens⟩
  · omega

/-- The search finds nothing only if there is nothing to find. -/
theorem docblockStart?_eq_none_iff :
    view.docblockStart? (min lowerBound (line - 1)) (line - 1) = none ↔
      ∀ number, ¬view.OpensFor line lowerBound number := by
  have hcount : min lowerBound (line - 1) + (line - 1 + 1 - min lowerBound (line - 1)) =
      line - 1 + 1 := by omega
  rw [docblockStart?, List.find?_eq_none]
  simp only [List.mem_reverse, List.mem_range'_1, hcount, Nat.lt_succ_iff, Option.any_eq_true,
    opensFor_iff, not_and]

theorem exists_lineText?_of_constructorRange? {range : Range}
    (h : view.constructorRange? line lowerBound = some range) :
    ∃ own, view.lineText? line = some own := by
  cases hown : view.lineText? line with
  | none => simp [constructorRange?, lineRange?, hown] at h
  | some own => exact ⟨own, rfl⟩

/-- How the search ends: with a docblock if the constructor follows a comment and some line opens
one, else with the constructor's own line. -/
theorem exists_constructorRange?_eq (lowerBound : Nat) {own : Text}
    (hown : view.lineText? line = some own) :
    ∃ start text, view.lineText? start = some text ∧
      view.constructorRange? line lowerBound = some (.ofLine start text) ∧
      (view.FollowsComment line ∧
          IsGreatest {number | view.OpensFor line lowerBound number} start ∨
        ¬(view.FollowsComment line ∧ ∃ number, view.OpensFor line lowerBound number) ∧
          start = line) := by
  by_cases hcomment : view.FollowsComment line
  · obtain ⟨hpos, hends⟩ := followsComment_iff.mp hcomment
    cases hstart : view.docblockStart? (min lowerBound (line - 1)) (line - 1) with
    | none =>
        refine ⟨line, own, hown, ?_, Or.inr ⟨?_, rfl⟩⟩
        · simp [constructorRange?, lineRange?, hown, hends, hstart]
        · rintro ⟨-, number, hnumber⟩
          exact docblockStart?_eq_none_iff.mp hstart number hnumber
    | some start =>
        have hgreatest := docblockStart?_eq_some_iff_isGreatest.mp hstart
        obtain ⟨text, htext, -⟩ := hgreatest.1.opens
        exact ⟨start, text, htext, constructorRange?_of_docblock hown hpos hends hstart htext,
          Or.inl ⟨hcomment, hgreatest⟩⟩
  · refine ⟨line, own, hown, ?_, Or.inr ⟨fun h => hcomment h.1, rfl⟩⟩
    rw [followsComment_iff, not_and, Bool.not_eq_true] at hcomment
    rcases Nat.eq_zero_or_pos line with rfl | hpos
    · simp [constructorRange?, lineRange?, hown]
    · exact constructorRange?_of_not_comment hown (hcomment hpos)

/-- **The first line of a constructor.** There is one exactly if the constructor's own line is
there. If that follows a comment and some line from the bound on opens a docblock, it is the nearest
such line, and in every other case the constructor's own. So it is never below the constructor, and
above the bound only where the bound is below the line above the constructor. -/
theorem constructorRange?_nearest_opener (view : View) (line lowerBound : Nat) :
    (view.constructorRange? line lowerBound = none ↔ view.lineText? line = none) ∧
    ∀ own, view.lineText? line = some own →
      ∃ start text, view.lineText? start = some text ∧
        view.constructorRange? line lowerBound = some (.ofLine start text) ∧
        (view.FollowsComment line → (∃ number, view.OpensFor line lowerBound number) →
          IsGreatest {number | view.OpensFor line lowerBound number} start) ∧
        (¬(view.FollowsComment line ∧ ∃ number, view.OpensFor line lowerBound number) →
          start = line) ∧
        min lowerBound (line - 1) ≤ start ∧ start ≤ line := by
  constructor
  · constructor
    · intro hnone
      rw [Option.eq_none_iff_forall_ne_some]
      intro own hown
      obtain ⟨start, text, -, hsome, -⟩ := exists_constructorRange?_eq lowerBound hown
      rw [hnone] at hsome
      contradiction
    · intro hmissing
      rw [Option.eq_none_iff_forall_ne_some]
      intro range hrange
      obtain ⟨own, hown⟩ := exists_lineText?_of_constructorRange? hrange
      rw [hmissing] at hown
      contradiction
  · intro own hown
    obtain ⟨start, text, htext, hrange, ⟨hcomment, hgreatest⟩ | ⟨hnone, rfl⟩⟩ :=
      exists_constructorRange?_eq lowerBound hown
    · have hbelow := hgreatest.1.notBelow
      refine ⟨start, text, htext, hrange, fun _ _ => hgreatest, fun hnone => ?_,
        hgreatest.1.notAbove, by omega⟩
      exact absurd ⟨hcomment, start, hgreatest.1⟩ hnone
    · refine ⟨start, text, htext, hrange, fun hcomment hopens => ?_, fun _ => rfl, by omega,
        Nat.le_refl _⟩
      exact absurd ⟨hcomment, hopens⟩ hnone

/-- A comment whose second line would open a docblock, were it not missing from the view. -/
def interrupted : View :=
  (Document.ofText ("class A \x7b\n /**\n  * Builds it. /**\n  */\n" ++
    " function __construct() \x7b\x7d\n\x7d").toList).viewWithout [2]

theorem interrupted_nearest_opener :
    interrupted.FollowsComment 4 ∧ interrupted.OpensFor 4 1 1 ∧
    ∃ start text, interrupted.constructorRange? 4 1 = some (.ofLine start text) ∧
      IsGreatest {number | interrupted.OpensFor 4 1 number} start ∧ start ≤ 4 := by
  have hcomment : interrupted.FollowsComment 4 := followsComment_iff.mpr (by decide +kernel)
  have hopens : interrupted.OpensFor 4 1 1 :=
    opensFor_iff.mpr ⟨by decide, " /**".toList, by decide +kernel, by decide +kernel⟩
  have hown : interrupted.lineText? 4 = some " function __construct() \x7b\x7d".toList := by
    decide +kernel
  obtain ⟨start, text, -, hrange, hgreatest, -, -, hle⟩ :=
    (constructorRange?_nearest_opener interrupted 4 1).2 _ hown
  exact ⟨hcomment, hopens, start, text, hrange, hgreatest hcomment ⟨1, hopens⟩, hle⟩

end View

end PropertyInsertion

import PropertyInsertion.Proofs.Recognition
import Mathlib.Data.List.Sort

/-!
# What a line is taken for

The patterns of the kinds of lines, each as a splitting of the line around its words. A line is
taken for all kinds whose pattern it has, wherever in the line that is, in a fixed order and each
once. A line without any pattern is of the kind `other` alone.
-/

namespace PropertyInsertion

/-- The character ends the text once white space behind it is left out. -/
def Text.EndsIn (c : Char) (text : Text) : Prop :=
  ∃ front blanks : Text, blanks.allBlank = true ∧ text = front ++ c :: blanks

namespace Line

/-! ### Patterns -/

section Patterns

variable (line : Text)

def NamesClass : Prop :=
  ∃ front c back, Text.isWordChar c = true ∧ line = front ++ "class ".toList ++ c :: back

/-- Between the word and the semicolon stands at least one character, and no line feed. -/
def UsesTrait : Prop :=
  ∃ front c between back, '\n' ∉ c :: between ∧
    line = front ++ "use ".toList ++ c :: (between ++ ';' :: back)

def DeclaresProperty : Prop :=
  ∃ word ∈ ["public", "protected", "private", "static"], ∃ front back,
    line = front ++ word.toList ++ ' ' :: '$' :: back

def SignsConstructor : Prop :=
  ∃ front back, line = front ++ "function __construct".toList ++ back

def ClosesNested : Prop :=
  (∃ rest, line = ' ' :: rest ∨ line = '\t' :: rest) ∧ Text.EndsIn '}' line

end Patterns

variable {line : Text}

theorem isClassHeader_iff_namesClass : isClassHeader line = true ↔ NamesClass line := by
  have hword : "class ".toList = classWord := rfl
  rw [isClassHeader_iff, NamesClass, hword]
  constructor
  · rintro ⟨c, hc, front, back, rfl⟩
    exact ⟨front, c, back, hc, by simp⟩
  · rintro ⟨front, c, back, hc, rfl⟩
    exact ⟨c, hc, front, back, by simp⟩

theorem isTraitUse_iff_usesTrait : isTraitUse line = true ↔ UsesTrait line := by
  have hword : "use ".toList = useWord := rfl
  rw [isTraitUse, Text.holdsAt_iff, UsesTrait, hword]
  constructor
  · rintro ⟨front, tail, rfl, htail⟩
    rw [Bool.and_eq_true, List.contains_iff_mem] at htail
    obtain ⟨rest, rfl⟩ := List.isPrefixOf_iff_prefix.mp htail.1
    rw [List.drop_left] at htail
    -- the semicolon is among the characters up to the line feed, but not the first of them
    cases hsame : rest.takeWhile (· != '\n') with
    | nil => simp [hsame] at htail
    | cons c more =>
        rw [hsame, List.drop_one, List.tail_cons] at htail
        obtain ⟨between, after, rfl⟩ := List.append_of_mem htail.2
        have hbreak : '\n' ∉ rest.takeWhile (· != '\n') := by
          intro hmem
          have hne := List.mem_takeWhile_imp hmem
          contradiction
        rw [hsame, ← List.cons_append] at hbreak
        refine ⟨front, c, between, after ++ rest.dropWhile (· != '\n'), ?_, ?_⟩
        · exact fun hmem => hbreak (List.mem_append_left _ hmem)
        · have hrest := List.takeWhile_append_dropWhile (p := (· != '\n')) (l := rest)
          rw [hsame] at hrest
          conv_lhs => rw [← hrest]
          simp
  · rintro ⟨front, c, between, back, hbreak, rfl⟩
    refine ⟨front, useWord ++ c :: (between ++ ';' :: back), by simp, ?_⟩
    have hsame : ∀ d ∈ c :: (between ++ [';']), (d != '\n') = true := by
      intro d hd
      rw [bne_iff_ne]
      rintro rfl
      rw [← List.cons_append, List.mem_append] at hd
      exact hd.elim hbreak (by decide)
    have hsplit : c :: (between ++ ';' :: back) = c :: (between ++ [';']) ++ back := by simp
    rw [Bool.and_eq_true, List.drop_left, hsplit, List.takeWhile_append_of_pos hsame,
      List.contains_iff_mem]
    exact ⟨List.isPrefixOf_iff_prefix.mpr (List.prefix_append useWord _), by simp⟩

theorem isProperty_iff_declaresProperty : isProperty line = true ↔ DeclaresProperty line := by
  have hmarks : propertyMarks = ["public", "protected", "private", "static"].map
      fun word => word.toList ++ [' ', '$'] := by decide
  rw [isProperty_iff, hmarks]
  constructor
  · rintro ⟨mark, hmark, front, back, rfl⟩
    obtain ⟨word, hword, rfl⟩ := List.mem_map.mp hmark
    exact ⟨word, hword, front, back, by simp⟩
  · rintro ⟨word, hword, front, back, rfl⟩
    exact ⟨_, List.mem_map_of_mem hword, front, back, by simp⟩

theorem isConstructorSignature_iff_signsConstructor :
    isConstructorSignature line = true ↔ SignsConstructor line := by
  rw [isConstructorSignature_iff]
  exact exists_congr fun front => exists_congr fun back => eq_comm

theorem isNestedClose_iff_closesNested : isNestedClose line = true ↔ ClosesNested line := by
  rw [isNestedClose, Bool.and_eq_true, Bool.or_eq_true, beq_iff_eq, beq_iff_eq,
    List.head?_eq_some_iff, List.head?_eq_some_iff, Text.closesWith_singleton_iff (by decide),
    ← exists_or]
  rfl

end Line

/-! ### Kinds of lines -/

namespace LineKind

/-- The line has the pattern of the kind; the kind `other` is for lines that have none. -/
def Fits (line : Text) : LineKind → Prop
  | classHeader braceInline => Line.NamesClass line ∧ (braceInline = true ↔ Text.EndsIn '{' line)
  | traitUse => Line.UsesTrait line
  | property => Line.DeclaresProperty line
  | constructorSignature => Line.SignsConstructor line
  | nestedClose => Line.ClosesNested line
  | other => ¬Line.NamesClass line ∧ ¬Line.UsesTrait line ∧ ¬Line.DeclaresProperty line ∧
      ¬Line.SignsConstructor line ∧ ¬Line.ClosesNested line

/-- The place of a kind among those of a line; a class header has one place, whatever its brace. -/
def rank : LineKind → Nat
  | classHeader _ => 0
  | traitUse => 1
  | property => 2
  | constructorSignature => 3
  | nestedClose => 4
  | other => 5

def Precedes (first second : LineKind) : Prop :=
  first.rank < second.rank

instance : Std.Irrefl Precedes :=
  ⟨fun kind => Nat.lt_irrefl kind.rank⟩

instance : Std.Antisymm Precedes :=
  ⟨fun _ _ hab hba => absurd hab (Nat.lt_asymm hba)⟩

variable {line : Text}

theorem fits_classHeader_iff {braceInline : Bool} :
    (classHeader braceInline).Fits line ↔
      Line.isClassHeader line = true ∧ braceInline = Text.closesWith ['{'] line := by
  have hbrace : Text.EndsIn '{' line ↔ Text.closesWith ['{'] line = true :=
    (Text.closesWith_singleton_iff (by decide)).symm
  rw [Fits, Line.isClassHeader_iff_namesClass, hbrace, ← Bool.eq_iff_iff]

theorem fits_other_iff : other.Fits line ↔ ∀ kind, kind ≠ other → ¬kind.Fits line := by
  constructor
  · rintro ⟨hclass, huse, hproperty, hsignature, hclose⟩ kind hkind
    cases kind with
    | classHeader braceInline => exact fun hfits => hclass hfits.1
    | traitUse => exact huse
    | property => exact hproperty
    | constructorSignature => exact hsignature
    | nestedClose => exact hclose
    | other => contradiction
  · intro h
    refine ⟨fun hclass => ?_, h traitUse (by simp), h property (by simp),
      h constructorSignature (by simp), h nestedClose (by simp)⟩
    exact h (classHeader (Text.closesWith ['{'] line)) (by simp)
      (fits_classHeader_iff.mpr ⟨Line.isClassHeader_iff_namesClass.mpr hclass, rfl⟩)

end LineKind

namespace Line

open LineKind

/-- The kinds other than `other` that a line fits come in order; if there are none, the line is taken
for `other`. -/
theorem exists_kinds_eq (line : Text) :
    ∃ found : List LineKind, kinds line = (if found.isEmpty then [other] else found) ∧
      found.Pairwise Precedes ∧ ∀ kind, kind ∈ found ↔ kind ≠ other ∧ kind.Fits line := by
  refine ⟨_, rfl, ?_, fun kind => ?_⟩
  · have hpart : ∀ (test : Bool) (kind : LineKind),
        List.Sublist (if test then [kind] else []) [kind] := by
      intro test kind
      cases test <;> simp
    have hall : [classHeader (Text.closesWith ['{'] line), traitUse, property, constructorSignature,
        nestedClose].Pairwise Precedes := by simp [Precedes, rank]
    exact hall.sublist (((((hpart _ _).append (hpart _ _)).append (hpart _ _)).append
      (hpart _ _)).append (hpart _ _))
  · simp only [List.mem_append, List.mem_ite_nil_right, List.mem_singleton]
    cases kind with
    | classHeader braceInline => simp [fits_classHeader_iff]
    | traitUse => simp [Fits, isTraitUse_iff_usesTrait]
    | property => simp [Fits, isProperty_iff_declaresProperty]
    | constructorSignature => simp [Fits, isConstructorSignature_iff_signsConstructor]
    | nestedClose => simp [Fits, isNestedClose_iff_closesNested]
    | other => simp

theorem pairwise_kinds (line : Text) : (kinds line).Pairwise Precedes := by
  obtain ⟨found, hkinds, hfound, -⟩ := exists_kinds_eq line
  rw [hkinds]
  split
  · exact List.pairwise_singleton _ _
  · exact hfound

theorem mem_kinds_iff {line : Text} {kind : LineKind} : kind ∈ kinds line ↔ kind.Fits line := by
  obtain ⟨found, hkinds, -, hfound⟩ := exists_kinds_eq line
  rw [hkinds]
  by_cases hkind : kind = other
  · rw [hkind, fits_other_iff]
    split
    next hempty =>
      rw [List.isEmpty_iff] at hempty
      refine iff_of_true List.mem_cons_self fun second hsecond hfits => ?_
      have hmem := (hfound second).mpr ⟨hsecond, hfits⟩
      rw [hempty] at hmem
      contradiction
    next hempty =>
      obtain ⟨first, hfirst⟩ := List.exists_mem_of_ne_nil found (mt List.isEmpty_iff.mpr hempty)
      obtain ⟨hother, hfits⟩ := (hfound first).mp hfirst
      exact iff_of_false (fun hmem => ((hfound other).mp hmem).1 rfl)
        fun hnone => hnone first hother hfits
  · have hmem : kind ∈ found ↔ kind.Fits line := (hfound kind).trans (and_iff_right hkind)
    split
    next hempty =>
      rw [List.isEmpty_iff.mp hempty] at hmem
      rw [← hmem, List.mem_singleton]
      exact iff_of_false hkind List.not_mem_nil
    next => exact hmem

theorem kinds_ne_nil (line : Text) : kinds line ≠ [] := by
  obtain ⟨found, hkinds, -⟩ := exists_kinds_eq line
  rw [hkinds]
  split
  next => exact List.cons_ne_nil _ _
  next hempty => exact mt List.isEmpty_iff.mpr hempty

/-- Order and members leave no choice. -/
theorem kinds_eq_iff {line : Text} {found : List LineKind} :
    kinds line = found ↔ found.Pairwise Precedes ∧ ∀ kind, kind ∈ found ↔ kind.Fits line := by
  constructor
  · rintro rfl
    exact ⟨pairwise_kinds line, fun kind => mem_kinds_iff⟩
  · rintro ⟨hfound, hmem⟩
    apply (pairwise_kinds line).eq_of_mem_iff hfound
    intro kind
    rw [mem_kinds_iff, hmem]

/-- **What a line is taken for.** These are the kinds whose pattern the line has, in the fixed order
and each once, and no other list of kinds is so. A line that has no pattern, and only such a line,
is taken for `other` alone; there is no line that is taken for nothing. -/
theorem kinds_eq_iff_fits (line : Text) :
    (∀ found, kinds line = found ↔
      found.Pairwise Precedes ∧ ∀ kind, kind ∈ found ↔ kind.Fits line) ∧
    (kinds line = [other] ↔ other.Fits line) ∧
    kinds line ≠ [] := by
  refine ⟨fun found => kinds_eq_iff, ?_, kinds_ne_nil line⟩
  rw [kinds_eq_iff]
  refine ⟨fun h => (h.2 other).mp List.mem_cons_self, fun hother => ?_⟩
  refine ⟨List.pairwise_singleton _ _, fun kind => ?_⟩
  rw [List.mem_singleton]
  constructor
  · rintro rfl
    exact hother
  · intro hfits
    by_contra hkind
    exact fits_other_iff.mp hother kind hkind hfits

/-- A semicolon directly behind the word is the character that must stand there. -/
example : kinds "use ;\nuse ;;".toList = [traitUse] ∧ kinds "use ;\n;".toList = [other] := by
  decide +kernel

end Line

end PropertyInsertion

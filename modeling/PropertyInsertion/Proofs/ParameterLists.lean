import PropertyInsertion.Proofs.SignatureLine

/-!
# The end of a parameter list

The parameter goes in front of the first closing parenthesis behind the first opening one, and no
parentheses are counted. So it ends the list of the constructor exactly if no parentheses stand in
the list and none are closed in front of it, and if an empty list is the first parentheses of its
line.
-/

namespace PropertyInsertion

open Code Declarations

/-! ### Parentheses that match -/

namespace Text

/-- As many parentheses are closed as are opened, and none is closed before it is opened. -/
def Balanced (text : Text) : Prop :=
  (∀ front ∈ text.inits, front.count ')' ≤ front.count '(') ∧ text.count ')' = text.count '('

instance (text : Text) : Decidable text.Balanced :=
  inferInstanceAs (Decidable (_ ∧ _))

theorem Balanced.mem_iff {text : Text} (h : text.Balanced) : ')' ∈ text ↔ '(' ∈ text := by
  rw [← List.count_pos_iff, ← List.count_pos_iff, h.2]

/-- A text cut twice at a character, once at its first place. -/
theorem eq_or_exists_of_cut {c : Char} {front back front' back' : Text} (hc : c ∉ front)
    (h : front' ++ c :: back' = front ++ c :: back) :
    front' = front ∧ back' = back ∨
      ∃ more, front' = front ++ c :: more ∧ back = more ++ c :: back' := by
  rcases List.append_eq_append_iff.mp h with ⟨more, hfront, hback⟩ | ⟨more, hfront, hback⟩
  · cases more with
    | nil =>
        rw [List.append_nil] at hfront
        exact Or.inl ⟨hfront.symm, (List.cons.inj hback).2⟩
    | cons d more =>
        have hd : c = d := (List.cons.inj hback).1
        rw [hfront, hd] at hc
        exact absurd (List.mem_append_right _ List.mem_cons_self) hc
  · cases more with
    | nil =>
        rw [List.append_nil] at hfront
        exact Or.inl ⟨hfront, (List.cons.inj hback).2.symm⟩
    | cons d more =>
        obtain ⟨rfl, hmore⟩ := List.cons.inj hback
        exact Or.inr ⟨more, hfront, hmore⟩

theorem dropWhile_ne_append {c : Char} {front : Text} (hc : c ∉ front) (rest : Text) :
    (front ++ c :: rest).dropWhile (· != c) = c :: rest := by
  rw [List.dropWhile_append_of_pos]
  · simp
  · intro d hd
    simpa using fun heq : d = c => hc (heq ▸ hd)

end Text

namespace Line.Parentheses

/-- The parentheses of the parameters: they open behind the constructor's name and close where the
parentheses between them match. -/
structure IsParameterList (list : Parentheses) : Prop where
  opens : ∃ head between, list.before = head ++ constructorMark ++ between ∧ '(' ∉ between
  closes : list.inside.Balanced

/-- The line down to the end of the list, with one parameter more at its end. -/
def endedBy (list : Parentheses) (name : Text) : Text :=
  list.before ++ '(' :: list.inside ++
    ((if list.inside.allBlank then [] else [',', ' ']) ++ '$' :: (name ++ [')']))

/-- The list that gets the parameter at its end. -/
structure TakesParameter (list : Parentheses) : Prop where
  flat : '(' ∉ list.inside
  /-- No parentheses are closed in front of the list. -/
  front : ')' ∉ list.before.dropWhile (· != '(')
  blank : list.inside.allBlank = true → list.inside = [] ∧ '(' ∉ list.before

variable {list group : Parentheses}

/-- The list does not end in front of the first group of its line. -/
theorem exists_between (hsame : list.line = group.line) (hbefore : '(' ∉ group.before)
    (hinside : ')' ∉ group.inside) :
    ∃ between, list.before ++ '(' :: list.inside = group.before ++ '(' :: between ∧
      (between = group.inside ∨ ∃ more, between = group.inside ++ ')' :: more) := by
  have hcut : ∃ between, list.before ++ '(' :: list.inside = group.before ++ '(' :: between ∧
      between ++ ')' :: list.after = group.inside ++ ')' :: group.after := by
    rcases Text.eq_or_exists_of_cut hbefore hsame with ⟨hfront, hback⟩ | ⟨more, hfront, hback⟩
    · exact ⟨list.inside, by rw [hfront], hback⟩
    · exact ⟨more ++ '(' :: list.inside, by rw [hfront]; simp, by rw [hback]; simp⟩
  obtain ⟨between, hfront, hback⟩ := hcut
  refine ⟨between, hfront, ?_⟩
  rcases Text.eq_or_exists_of_cut hinside hback with ⟨hsame, -⟩ | ⟨more, hmore, -⟩
  · exact Or.inl hsame
  · exact Or.inr ⟨more, hmore⟩

theorem close_notMem_iff {between : Text} (hbalanced : list.inside.Balanced)
    (hbefore : '(' ∉ group.before)
    (hfront : list.before ++ '(' :: list.inside = group.before ++ '(' :: between) :
    ')' ∉ between ↔ '(' ∉ list.inside ∧ ')' ∉ list.before.dropWhile (· != '(') := by
  have hdrop : (list.before ++ '(' :: list.inside).dropWhile (· != '(') = '(' :: between := by
    rw [hfront, Text.dropWhile_ne_append hbefore]
  have hmem : ')' ∈ between ↔ ')' ∈ '(' :: between := by simp
  rw [hmem, ← hdrop, ← hbalanced.mem_iff, List.dropWhile_append]
  split
  next hnil =>
    rw [List.isEmpty_iff.mp hnil]
    simp
  next =>
    rw [List.mem_append, List.mem_cons]
    simp [and_comm]

end Line.Parentheses

namespace Plan

section Line

variable {list group : Line.Parentheses} {name rest : Text}

/-- The first group of a line ends with the parameter unless it holds blanks only. -/
theorem endedBy_prefix_iff_of_group :
    group.endedBy name <+: (withParameter group name).opening ++ rest ↔
      (group.inside.allBlank = true → group.inside = []) := by
  by_cases hblank : group.inside.allBlank = true
  · have hended : group.endedBy name =
        group.before ++ '(' :: (group.inside ++ '$' :: (name ++ [')'])) := by
      simp [Line.Parentheses.endedBy, hblank]
    rw [hended]
    constructor
    · intro h _
      rcases eq_of_opening_starts_with h with ⟨-, hc⟩ | ⟨hinside, -⟩
      · exact absurd hc (by decide)
      · exact hinside
    · intro h
      refine ⟨rest, ?_⟩
      simp [Line.Parentheses.opening, withParameter, h hblank, Text.allBlank]
  · refine iff_of_true ⟨rest, ?_⟩ fun h => absurd h hblank
    simp [Line.Parentheses.endedBy, Line.Parentheses.opening, withParameter, hblank]

/-- A list inside the first group of a line ends with the parameter unless it is blank: the comma
depends on all of the group. -/
theorem endedBy_prefix_iff_of_inside {before : Text}
    (hbefore : list.before = group.before ++ '(' :: before)
    (hinside : group.inside = before ++ '(' :: list.inside) :
    list.endedBy name <+: (withParameter group name).opening ++ rest ↔
      list.inside.allBlank = false := by
  have hgroup : group.inside.allBlank = false := by
    rw [hinside, Text.allBlank, List.all_append, List.all_cons,
      show Text.isBlank '(' = false by decide, Bool.false_and, Bool.and_false]
  have hended : list.endedBy name = group.before ++ '(' :: (group.inside ++
      ((if list.inside.allBlank then [] else [',', ' ']) ++ '$' :: (name ++ [')']))) := by
    rw [Line.Parentheses.endedBy, hbefore, hinside]
    simp
  rw [hended]
  by_cases hblank : list.inside.allBlank = true
  · rw [if_pos hblank, List.nil_append]
    refine iff_of_false (fun h => ?_) (by rw [hblank]; decide)
    rcases eq_of_opening_starts_with h with ⟨-, hc⟩ | ⟨hnil, -⟩
    · exact absurd hc (by decide)
    · rw [hnil] at hgroup
      exact absurd hgroup (by decide)
  · refine iff_of_true ⟨rest, ?_⟩ (Bool.eq_false_iff.mpr hblank)
    simp [Line.Parentheses.opening, withParameter, hblank, hgroup]

/-- The parameter ends the list if the list is, or ends, the first group of its line. -/
theorem endedBy_prefix_iff (hbalanced : list.inside.Balanced) (hsame : list.line = group.line)
    (hbefore : '(' ∉ group.before) (hinside : ')' ∉ group.inside) :
    list.endedBy name <+: (withParameter group name).opening ++ rest ↔ list.TakesParameter := by
  obtain ⟨between, hfront, hcases⟩ := list.exists_between hsame hbefore hinside
  have hclose := Line.Parentheses.close_notMem_iff hbalanced hbefore hfront
  rcases hcases with rfl | ⟨more, rfl⟩
  · obtain ⟨hflat, hdrop⟩ := hclose.mp hinside
    rcases Text.eq_or_exists_of_cut hbefore hfront with ⟨hfirst, hlist⟩ | ⟨before, hlater, hlist⟩
    · have hended : list.endedBy name = group.endedBy name := by
        simp only [Line.Parentheses.endedBy, hfirst, hlist]
      rw [hended, endedBy_prefix_iff_of_group, ← hlist]
      constructor
      · intro h
        exact ⟨hflat, hdrop, fun hblank => ⟨h hblank, by rwa [hfirst]⟩⟩
      · exact fun h hblank => (h.blank hblank).1
    · rw [endedBy_prefix_iff_of_inside hlater hlist]
      constructor
      · intro hblank
        exact ⟨hflat, hdrop, fun h => absurd (h.symm.trans hblank) (by decide)⟩
      · intro h
        rw [Bool.eq_false_iff]
        refine fun hblank => (h.blank hblank).2 ?_
        rw [hlater]
        exact List.mem_append_right _ List.mem_cons_self
  · refine iff_of_false (fun h => ?_) fun h => ?_
    · rw [Line.Parentheses.endedBy, hfront, List.append_assoc, List.cons_append, List.append_assoc,
        List.cons_append] at h
      rcases eq_of_opening_starts_with h with ⟨-, hc⟩ | ⟨-, hc⟩ <;> exact absurd hc (by decide)
    · exact hclose.mpr ⟨h.flat, h.front⟩ (List.mem_append_right _ List.mem_cons_self)

end Line

variable {content : Text} {settings : Settings} {name : Text} {plan : Plan} {ctor : Constructor}
  {list : Line.Parentheses}

/-- **Where the new parameter goes.** The signature of the edited text is the old one with the
parameter at the end of its list exactly if that list takes it and no line of the docblock holds a
signature. -/
theorem parameter_ends_list_iff (hplan : ofText content settings name = .ok plan)
    (hctor : (scan (Document.ofText content).view).constructor? = some ctor)
    (hline : (Document.ofText content).lineText? ctor.line = some list.line)
    (hlist : list.IsParameterList) :
    mergedAbove content settings name ctor.range.start.line ctor.line ++ list.endedBy name <+:
        plan.edit.apply content ↔
      list.TakesParameter ∧
        ∀ line ∈ (Document.ofText content).stretch ctor.range.start.line ctor.line,
          Line.isConstructorSignature line = false := by
  obtain ⟨number, group, hnumber, hgroup, hbefore, hinside, hmerged⟩ :=
    exists_mergedUpTo hplan hctor
  obtain ⟨hstart, hle⟩ := isParameterLine_le hctor hnumber
  rw [← isParameterLine_eq_line_iff hctor hnumber]
  -- on the signature line both sides speak of the text behind the same lines
  have hends : number = ctor.line →
      (mergedAbove content settings name ctor.range.start.line ctor.line ++ list.endedBy name <+:
        plan.edit.apply content ↔ list.TakesParameter) := by
    rintro rfl
    obtain ⟨rest, hrest⟩ := hmerged
    rw [← hrest, mergedUpTo, List.append_assoc _ _ rest, List.prefix_append_right_inj]
    exact endedBy_prefix_iff hlist.closes (Option.some.inj (hline.symm.trans hgroup)) hbefore
      hinside
  constructor
  · intro hstarts
    have hsame := eq_of_starts_with_mergedAbove hstart hle hgroup hmerged
      ((List.prefix_append _ _).trans hstarts)
    exact ⟨(hends hsame).mp hstarts, hsame⟩
  · rintro ⟨htakes, hsame⟩
    exact (hends hsame).mpr htakes

def documentedList : Line.Parentheses :=
  ⟨" function __construct".toList, "$a = '𝄞'".toList, " \x7b".toList⟩

theorem documented_parameter_ends_list :
    ∃ plan, ofText documented {} ['b'] = .ok plan ∧
      mergedAbove documented {} ['b'] 1 2 ++ " function __construct($a = '𝄞', $b)".toList <+:
        plan.edit.apply documented := by
  have hrun : (ofText documented {} ['b']).toOption.isSome = true ∧
      (Document.ofText documented).lineText? 2 = some documentedList.line ∧
      documentedList.endedBy ['b'] = " function __construct($a = '𝄞', $b)".toList ∧
      ∀ line ∈ (Document.ofText documented).stretch 1 2,
        Line.isConstructorSignature line = false := by decide +kernel
  obtain ⟨hsome, hline, hended, hnone⟩ := hrun
  obtain ⟨plan, hplan⟩ := Option.isSome_iff_exists.mp hsome
  rw [toOption_eq_some_iff] at hplan
  have hlist : documentedList.IsParameterList :=
    ⟨⟨[' '], [], by decide, by decide⟩, by decide +kernel⟩
  have htakes : documentedList.TakesParameter := ⟨by decide, by decide, by decide⟩
  refine ⟨plan, hplan, ?_⟩
  rw [← hended]
  exact (parameter_ends_list_iff hplan documented_constructor hline hlist).mpr ⟨htakes, hnone⟩

def withDefault : Text :=
  "class A \x7b\n function __construct($a = array()) \x7b\n \x7d\n\x7d".toList

/-- The parameter goes into the parentheses of the default. -/
theorem withDefault_parameter_inside :
    (scan (Document.ofText withDefault).view).constructor? =
      some ⟨1, ⟨⟨1, 0⟩, ⟨1, 37⟩⟩, some 2⟩ ∧
    (∃ list : Line.Parentheses, list.IsParameterList ∧
      list.endedBy ['b'] = " function __construct($a = array(), $b)".toList ∧
      (Document.ofText withDefault).lineText? 1 = some list.line) ∧
    (ofText withDefault {} ['b']).toOption.map (fun plan => plan.edit.apply withDefault) =
      some ("class A \x7b\n\tprivate $b;\n\n function __construct($a = array(, $b)) \x7b\n" ++
        " \t$this->b = $b;\n \x7d\n\x7d").toList := by
  refine ⟨by decide +kernel,
    ⟨⟨" function __construct".toList, "$a = array()".toList, " \x7b".toList⟩, ?_,
      by decide +kernel, by decide +kernel⟩, by decide +kernel⟩
  exact ⟨⟨[' '], [], by decide, by decide⟩, by decide +kernel⟩

end Plan

end PropertyInsertion

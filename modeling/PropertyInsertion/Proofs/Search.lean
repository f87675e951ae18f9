import PropertyInsertion.Line
import Mathlib.Data.List.Basic

/-!
# Searching and trimming text

A mark occurs in a text if it is an infix of it. A character that is not in the mark is a barrier:
no occurrence lies across it, so a text can be searched on both sides of the barrier apart. Every
statement about what a generated line is, or is not, taken for goes through these facts.
-/

namespace PropertyInsertion

namespace Text

/-! ### Marks and barriers -/

theorem occursIn_iff {mark text : Text} : occursIn mark text = true ↔ mark <:+: text := by
  rw [occursIn, holdsAt_iff]
  constructor
  · rintro ⟨head, tail, rfl, hmark⟩
    obtain ⟨rest, rfl⟩ := List.isPrefixOf_iff_prefix.mp hmark
    exact ⟨head, rest, by rw [List.append_assoc]⟩
  · rintro ⟨head, rest, rfl⟩
    exact ⟨head, mark ++ rest, by rw [List.append_assoc],
      List.isPrefixOf_iff_prefix.mpr (List.prefix_append mark rest)⟩

/-- An occurrence lies wholly on one side of a character that is not in the mark. -/
theorem split_at_barrier {mark head tail left right : Text} {c : Char} (hc : c ∉ mark)
    (hne : mark ≠ []) (h : head ++ mark ++ tail = left ++ c :: right) :
    (∃ between, left = head ++ mark ++ between ∧ tail = between ++ c :: right) ∨
      ∃ between, right = between ++ mark ++ tail ∧ head = left ++ c :: between := by
  rw [List.append_assoc] at h
  rcases List.append_eq_append_iff.mp h with ⟨between, hleft, hmark⟩ | ⟨between, hhead, hright⟩
  · rcases List.append_eq_append_iff.mp hmark with ⟨rest, hbetween, htail⟩ | ⟨rest, hrest, htail⟩
    · exact Or.inl ⟨rest, by rw [hleft, hbetween, List.append_assoc], htail⟩
    · cases rest with
      | nil =>
          refine Or.inl ⟨[], ?_, by simpa using htail.symm⟩
          rw [hleft, hrest]
          simp
      | cons d rest =>
          have hd : c = d := (List.cons.inj htail).1
          exact absurd (hrest ▸ hd ▸ by simp) hc
  · cases between with
    | nil =>
        obtain ⟨d, mark', rfl⟩ := List.exists_cons_of_ne_nil hne
        have hd : c = d := (List.cons.inj hright).1
        exact absurd (hd ▸ List.mem_cons_self) hc
    | cons d between =>
        obtain ⟨rfl, hrest⟩ := List.cons.inj hright
        exact Or.inr ⟨between, by simpa using hrest, hhead⟩

theorem infix_barrier_iff {mark left right : Text} {c : Char} (hc : c ∉ mark) (hne : mark ≠ []) :
    mark <:+: left ++ c :: right ↔ mark <:+: left ∨ mark <:+: right := by
  constructor
  · rintro ⟨head, tail, h⟩
    rcases split_at_barrier hc hne h with ⟨between, hleft, -⟩ | ⟨between, hright, -⟩
    · exact Or.inl ⟨head, between, hleft.symm⟩
    · exact Or.inr ⟨between, tail, hright.symm⟩
  · rintro (h | h)
    · exact h.trans List.infix_append_left
    · exact (List.infix_cons h).trans List.infix_append_right

theorem not_infix_of_notMem {mark text : Text} (c : Char) (hmark : c ∈ mark) (htext : c ∉ text) :
    ¬mark <:+: text :=
  fun h => htext (h.subset hmark)

/-- An occurrence of a mark that starts with a visible character starts behind the blanks. -/
theorem infix_blank_append_iff {mark blanks text : Text} {c : Char} (hc : isBlank c = false)
    (hblank : blanks.allBlank = true) : c :: mark <:+: blanks ++ text ↔ c :: mark <:+: text := by
  induction blanks with
  | nil => rfl
  | cons d blanks ih =>
      rw [allBlank, List.all_cons, Bool.and_eq_true] at hblank
      have hne : c ≠ d := by
        rintro rfl
        rw [hblank.1] at hc
        contradiction
      rw [List.cons_append, List.infix_cons_iff, List.cons_prefix_cons, ih hblank.2]
      simp [hne]

theorem infix_append_blank_iff {mark text blanks : Text} {c : Char} (hc : isBlank c = false)
    (hblank : blanks.allBlank = true) :
    mark ++ [c] <:+: text ++ blanks ↔ mark ++ [c] <:+: text := by
  have hreverse : allBlank blanks.reverse = true := by rwa [allBlank, List.all_reverse]
  calc mark ++ [c] <:+: text ++ blanks
      ↔ (mark ++ [c]).reverse <:+: (text ++ blanks).reverse := List.reverse_infix.symm
    _ ↔ c :: mark.reverse <:+: blanks.reverse ++ text.reverse := by simp
    _ ↔ c :: mark.reverse <:+: text.reverse := infix_blank_append_iff hc hreverse
    _ ↔ (mark ++ [c]).reverse <:+: text.reverse := by simp
    _ ↔ mark ++ [c] <:+: text := List.reverse_infix

/-! ### Trimming -/

theorem trimEnd_append_blank {blanks : Text} (text : Text) (hblank : blanks.allBlank = true) :
    trimEnd (text ++ blanks) = trimEnd text := by
  have hall : ∀ c ∈ blanks.reverse, isBlank c = true := by
    intro c hc
    exact List.all_eq_true.mp hblank c (List.mem_reverse.mp hc)
  rw [trimEnd, trimEnd, List.reverse_append, List.dropWhile_append_of_pos hall]

theorem trimEnd_concat {c : Char} (text : Text) (hc : isBlank c = false) :
    trimEnd (text ++ [c]) = text ++ [c] := by
  simp [trimEnd, hc]

theorem trimEnd_append_cons {c : Char} (text rest : Text) (hc : isBlank c = false) :
    trimEnd (text ++ c :: rest) = text ++ c :: trimEnd rest := by
  have hvisible : (c :: text.reverse).dropWhile isBlank = c :: text.reverse := by simp [hc]
  have hreverse : (text ++ c :: rest).reverse = rest.reverse ++ c :: text.reverse := by simp
  rw [trimEnd, trimEnd, hreverse, List.dropWhile_append, hvisible]
  split
  next hempty => simp [List.isEmpty_iff.mp hempty]
  next => simp

theorem exists_eq_trimEnd_append (text : Text) :
    ∃ blanks : Text, blanks.allBlank = true ∧ text = trimEnd text ++ blanks := by
  refine ⟨(text.reverse.takeWhile isBlank).reverse, ?_, ?_⟩
  · rw [allBlank, List.all_reverse]
    exact List.all_takeWhile
  · rw [trimEnd, ← List.reverse_append, List.takeWhile_append_dropWhile, List.reverse_reverse]

theorem closesWith_singleton_iff {c : Char} {text : Text} (hc : isBlank c = false) :
    closesWith [c] text = true ↔
      ∃ front blanks : Text, blanks.allBlank = true ∧ text = front ++ c :: blanks := by
  rw [closesWith, List.isSuffixOf_iff_suffix]
  constructor
  · rintro ⟨front, hfront⟩
    obtain ⟨blanks, hblank, htext⟩ := exists_eq_trimEnd_append text
    refine ⟨front, blanks, hblank, ?_⟩
    rw [htext, ← hfront, List.append_assoc, List.singleton_append]
  · rintro ⟨front, blanks, hblank, rfl⟩
    have hsplit : front ++ c :: blanks = (front ++ [c]) ++ blanks := by simp
    rw [hsplit, trimEnd_append_blank _ hblank, trimEnd_concat front hc]
    exact List.suffix_append front [c]

theorem closesWith_append_blank {blanks : Text} (mark text : Text)
    (hblank : blanks.allBlank = true) :
    closesWith mark (text ++ blanks) = closesWith mark text := by
  rw [closesWith, closesWith, trimEnd_append_blank text hblank]

theorem trimEnd_trimEnd (text : Text) : trimEnd (trimEnd text) = trimEnd text := by
  obtain ⟨blanks, hblank, htext⟩ := exists_eq_trimEnd_append text
  conv_rhs => rw [htext]
  rw [trimEnd_append_blank _ hblank]

theorem closesWith_trimEnd (mark text : Text) :
    closesWith mark (trimEnd text) = closesWith mark text := by
  rw [closesWith, closesWith, trimEnd_trimEnd]

theorem exists_trimEnd_eq_concat {c : Char} {text : Text} (hc : isBlank c = false)
    (h : closesWith [c] text = true) :
    ∃ front blanks : Text, blanks.allBlank = true ∧ text = front ++ c :: blanks ∧
      trimEnd text = front ++ [c] := by
  obtain ⟨front, blanks, hblank, rfl⟩ := (closesWith_singleton_iff hc).mp h
  refine ⟨front, blanks, hblank, rfl, ?_⟩
  have hsplit : front ++ c :: blanks = (front ++ [c]) ++ blanks := by simp
  rw [hsplit, trimEnd_append_blank _ hblank, trimEnd_concat front hc]

theorem leadingBlanks_trimEnd {c : Char} {text : Text} (hc : isBlank c = false)
    (h : closesWith [c] text = true) :
    leadingBlanks (trimEnd text) = leadingBlanks text := by
  obtain ⟨front, blanks, -, htext, htrim⟩ := exists_trimEnd_eq_concat hc h
  rw [htrim, htext, leadingBlanks, leadingBlanks]
  clear htext htrim
  induction front with
  | nil => simp [hc]
  | cons d front ih =>
      by_cases hd : isBlank d = true
      · simpa [hd] using ih
      · simp [hd]

theorem trim_suffix_trimEnd (text : Text) : trim text <:+ trimEnd text :=
  List.dropWhile_suffix _

theorem trim_infix (text : Text) : trim text <:+: text := by
  obtain ⟨blanks, -, htext⟩ := exists_eq_trimEnd_append text
  have hstarts : trimEnd text <+: text := ⟨blanks, htext.symm⟩
  exact (trim_suffix_trimEnd text).isInfix.trans hstarts.isInfix

theorem exists_trimEnd_eq_append_trim (text : Text) :
    ∃ blanks : Text, blanks.allBlank = true ∧ trimEnd text = blanks ++ trim text :=
  ⟨(trimEnd text).takeWhile isBlank, List.all_takeWhile, List.takeWhile_append_dropWhile.symm⟩

/-- A trimmed text ends with a visible character, as a blank there would be trimmed away. -/
theorem isBlank_of_trimEnd_eq_concat {text front : Text} {c : Char}
    (h : trimEnd text = front ++ [c]) : isBlank c = false := by
  rw [Bool.eq_false_iff]
  intro hc
  have hagain := trimEnd_trimEnd text
  rw [h, trimEnd_append_blank _ (by simpa [allBlank] using hc)] at hagain
  obtain ⟨blanks, -, hfront⟩ := exists_eq_trimEnd_append front
  have hlength := congrArg List.length hfront
  rw [hagain] at hlength
  simp at hlength

theorem exists_trim_eq_concat {text : Text} (h : trim text ≠ []) :
    ∃ front c, isBlank c = false ∧ trim text = front ++ [c] := by
  obtain ⟨front, c, hconcat⟩ := (List.eq_nil_or_concat' (trim text)).resolve_left h
  obtain ⟨start, hstart⟩ := trim_suffix_trimEnd text
  rw [hconcat, ← List.append_assoc] at hstart
  exact ⟨front, c, isBlank_of_trimEnd_eq_concat hstart.symm, hconcat⟩

theorem closesWith_blank_append {c : Char} {blanks : Text} (text : Text) (hc : isBlank c = false)
    (hblank : blanks.allBlank = true) : closesWith [c] (blanks ++ text) = closesWith [c] text := by
  rw [Bool.eq_iff_iff, closesWith_singleton_iff hc, closesWith_singleton_iff hc]
  constructor
  · rintro ⟨front, rest, hrest, htext⟩
    rcases List.append_eq_append_iff.mp htext with ⟨more, -, hmore⟩ | ⟨more, hmore, hsplit⟩
    · exact ⟨more, rest, hrest, hmore⟩
    · cases more with
      | nil => exact ⟨[], rest, hrest, hsplit.symm⟩
      | cons d more =>
          obtain ⟨rfl, -⟩ := List.cons.inj hsplit
          rw [hmore, allBlank, List.all_append, List.all_cons, hc] at hblank
          simp at hblank
  · rintro ⟨front, rest, hrest, rfl⟩
    exact ⟨blanks ++ front, rest, hrest, by rw [List.append_assoc]⟩

theorem closesWith_trim {c : Char} (text : Text) (hc : isBlank c = false) :
    closesWith [c] (trim text) = closesWith [c] text := by
  obtain ⟨blanks, hblank, htrim⟩ := exists_trimEnd_eq_append_trim text
  rw [← closesWith_trimEnd [c] text, htrim, closesWith_blank_append _ hc hblank]

end Text

end PropertyInsertion

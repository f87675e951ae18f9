import PropertyInsertion.Proofs.Pieces
import PropertyInsertion.Proofs.Scan
import Mathlib.Data.List.TakeWhile

/-!
# What lines are recognised by

The recognisers of `Line` restated as plain splittings of the line: which text it holds, in which
order, with no mention of what comes first. None of them sees a carriage return at the end of a
line.
-/

namespace PropertyInsertion

namespace Text

theorem getLast?_eq_some_iff_closesWith {c : Char} {text : Text} :
    (trimEnd text).getLast? = some c ↔ closesWith [c] text = true := by
  rw [closesWith, List.isSuffixOf_iff_suffix, List.getLast?_eq_some_iff]
  constructor
  · rintro ⟨front, hfront⟩
    exact ⟨front, hfront.symm⟩
  · rintro ⟨front, hfront⟩
    exact ⟨front, hfront.symm⟩

/-- What a carriage return behind a line does not change is the same for a piece and its line. -/
theorem eq_of_append_return {α : Type} {f : Text → α} (h : ∀ text, f (text ++ ['\r']) = f text)
    (line : Text) : f (dropReturn line) = f line := by
  rcases dropReturn_cases line with hline | hline
  · rw [← hline]
  · conv_rhs => rw [hline, h]

theorem closesWith_dropReturn (mark line : Text) :
    closesWith mark (dropReturn line) = closesWith mark line :=
  eq_of_append_return (f := closesWith mark)
    (fun text => closesWith_append_blank mark text (by decide)) line

theorem exists_dropWhile_ne (front : Text) (c : Char) (rest : Text) :
    ∃ more, (front ++ c :: rest).dropWhile (· != c) = c :: (more ++ rest) := by
  induction front with
  | nil => exact ⟨[], by simp⟩
  | cons d front ih =>
      by_cases hd : d = c
      · exact ⟨front ++ [c], by simp [hd]⟩
      · obtain ⟨more, hmore⟩ := ih
        exact ⟨more, by simpa [hd] using hmore⟩

/-- A text with the mark in it can be cut, and as much as possible stands behind the cut. -/
theorem exists_cut? (mark before after : Text) :
    ∃ front back, cut? mark (before ++ mark ++ after) = some (front, back) ∧ after <:+ back := by
  induction before with
  | nil =>
      rw [List.nil_append]
      cases hsplit : mark ++ after with
      | nil =>
          obtain ⟨rfl, rfl⟩ := List.append_eq_nil_iff.mp hsplit
          exact ⟨[], [], rfl, List.suffix_rfl⟩
      | cons c rest =>
          have hmark : mark.isPrefixOf (c :: rest) = true :=
            List.isPrefixOf_iff_prefix.mpr ⟨after, hsplit⟩
          refine ⟨[], after, ?_, List.suffix_rfl⟩
          rw [cut?, if_pos hmark, ← hsplit, List.drop_left]
  | cons c before ih =>
      obtain ⟨front, back, hcut, hback⟩ := ih
      rw [List.cons_append, List.cons_append, cut?]
      split
      next hmark =>
        obtain ⟨rest, hrest⟩ := List.isPrefixOf_iff_prefix.mp hmark
        refine ⟨[], _, rfl, ?_⟩
        rw [← hrest, List.drop_left]
        -- the mark at the very front leaves more behind it than any later one
        have hsuffix : after <:+ mark ++ rest := by
          rw [hrest]
          exact (List.suffix_append (before ++ mark) after).trans (List.suffix_cons c _)
        refine (List.suffix_of_suffix_length_le hsuffix (List.suffix_append mark rest) ?_)
        have hlength := congrArg List.length hrest
        simp only [List.length_append, List.length_cons] at hlength
        omega
      next => exact ⟨c :: front, back, by rw [hcut, Option.map_some], hback⟩

/-- A text is cut at the first occurrence of the mark. -/
theorem length_le_of_cut? {mark before after earlier later text : Text}
    (h : cut? mark text = some (before, after)) (hsplit : text = earlier ++ mark ++ later) :
    before.length ≤ earlier.length := by
  obtain ⟨front, back, hcut, hsuffix⟩ := exists_cut? mark earlier later
  rw [← hsplit, h] at hcut
  obtain ⟨rfl, rfl⟩ := Prod.mk.inj (Option.some.inj hcut)
  have hlength := congrArg List.length ((cut?_eq_some h).symm.trans hsplit)
  simp only [List.length_append] at hlength
  have hle := hsuffix.length_le
  omega

end Text

namespace Line

/-! ### Constructors on one line -/

/-- An inline body opens at the first brace behind the first signature and closes at the end of the
line. -/
theorem exists_of_inlineBody?_eq_some {line : Text} {inline : InlineBody}
    (h : inlineBody? line = some inline) :
    ∃ before between blanks : Text, blanks.allBlank = true ∧
      line = before ++ constructorMark ++ (between ++ '{' :: (inline.body ++ '}' :: blanks)) ∧
      '{' ∉ between ∧
      (∀ earlier later, line = earlier ++ constructorMark ++ later →
        before.length ≤ earlier.length) ∧
      inline.head = before ++ constructorMark ++ between := by
  rw [inlineBody?] at h
  obtain ⟨⟨before, after⟩, hcut, h⟩ := Option.bind_eq_some_iff.mp h
  dsimp only at h
  split at h
  next => contradiction
  next c rest hdrop =>
    split at h
    next hlast =>
      obtain ⟨body, blanks, hblank, hrest, htrim⟩ := Text.exists_trimEnd_eq_concat (by decide)
        (Text.getLast?_eq_some_iff_closesWith.mp hlast)
      rw [htrim, List.dropLast_concat] at h
      obtain rfl : c = '{' := by
        have hhead := List.head?_dropWhile_not (· != '{') after
        rw [hdrop] at hhead
        simpa using hhead
      rw [← Option.some.inj h]
      refine ⟨before, after.takeWhile (· != '{'), blanks, hblank, ?_, ?_, ?_, rfl⟩
      · rw [Text.cut?_eq_some hcut, ← hrest, ← hdrop, List.takeWhile_append_dropWhile]
      · intro hmem
        have hne := List.mem_takeWhile_imp hmem
        contradiction
      · exact fun earlier later => Text.length_le_of_cut? hcut
    next => contradiction

/-- A constructor is closed on its own line if behind its words an opening brace stands somewhere
before the closing brace at the end of the line. -/
theorem inlineBody?_isSome_iff {line : Text} :
    (inlineBody? line).isSome = true ↔
      ∃ before between body blanks : Text, blanks.allBlank = true ∧
        line = before ++ constructorMark ++ (between ++ '{' :: (body ++ '}' :: blanks)) := by
  have hbrace : Text.isBlank '}' = false := by decide
  constructor
  · intro h
    obtain ⟨inline, hinline⟩ := Option.isSome_iff_exists.mp h
    obtain ⟨before, between, blanks, hblank, hline, -⟩ := exists_of_inlineBody?_eq_some hinline
    exact ⟨before, between, inline.body, blanks, hblank, hline⟩
  · rintro ⟨before, between, body, blanks, hblank, hline⟩
    obtain ⟨front, back, hcut, extra, hback⟩ := Text.exists_cut? constructorMark before
      (between ++ '{' :: (body ++ '}' :: blanks))
    rw [← hline] at hcut
    obtain ⟨more, hmore⟩ := Text.exists_dropWhile_ne (extra ++ between) '{' (body ++ '}' :: blanks)
    have hlast : (Text.trimEnd (more ++ (body ++ '}' :: blanks))).getLast? = some '}' := by
      rw [Text.getLast?_eq_some_iff_closesWith, Text.closesWith_singleton_iff hbrace]
      exact ⟨more ++ body, blanks, hblank, by rw [List.append_assoc]⟩
    rw [List.append_assoc, hback] at hmore
    simp [inlineBody?, hcut, hmore, hlast]

theorem closesWith_of_inlineBody? {line : Text} (h : (inlineBody? line).isSome = true) :
    Text.closesWith ['}'] line = true := by
  obtain ⟨before, between, body, blanks, hblank, rfl⟩ := inlineBody?_isSome_iff.mp h
  rw [Text.closesWith_singleton_iff (by decide)]
  exact ⟨before ++ constructorMark ++ (between ++ '{' :: body), blanks, hblank, by simp⟩

theorem closesWith_of_isNestedClose {line : Text} (h : isNestedClose line = true) :
    Text.closesWith ['}'] line = true := by
  rw [isNestedClose, Bool.and_eq_true] at h
  exact h.2

/-- The same, by where the braces stand: the words come before some opening brace, and the closing
brace at the end of the line comes behind it. -/
theorem inlineBody?_isSome_iff_braces {line : Text} :
    (inlineBody? line).isSome = true ↔
      Text.closesWith ['}'] line = true ∧
        ∃ left right, line = left ++ '{' :: right ∧ constructorMark <:+: left := by
  constructor
  · intro h
    refine ⟨closesWith_of_inlineBody? h, ?_⟩
    obtain ⟨before, between, body, blanks, -, hline⟩ := inlineBody?_isSome_iff.mp h
    refine ⟨before ++ constructorMark ++ between, body ++ '}' :: blanks, ?_,
      List.infix_append before constructorMark between⟩
    rw [hline]
    simp
  · rintro ⟨hclose, left, right, hline, before, between, hleft⟩
    obtain ⟨front, blanks, hblank, hfront⟩ := (Text.closesWith_singleton_iff (by decide)).mp hclose
    have hsplit : left ++ ['{'] ++ right = front ++ '}' :: blanks := by
      rw [← hfront, hline]
      simp
    rcases Text.split_at_barrier (by decide) (by decide) hsplit with
      ⟨body, -, hright⟩ | ⟨body, hblanks, -⟩
    · refine inlineBody?_isSome_iff.mpr ⟨before, between, body, blanks, hblank, ?_⟩
      rw [hline, ← hleft, hright]
      simp
    · -- an opening brace among the blanks at the end
      have hbrace : Text.isBlank '{' = true :=
        List.all_eq_true.mp hblank '{' (by rw [hblanks]; simp)
      contradiction

/-! ### Words on a line -/

theorem isConstructorSignature_iff {line : Text} :
    isConstructorSignature line = true ↔ constructorMark <:+: line :=
  Text.occursIn_iff

theorem isClassHeader_iff {line : Text} :
    isClassHeader line = true ↔ ∃ c, Text.isWordChar c = true ∧ classWord ++ [c] <:+: line := by
  rw [isClassHeader, Text.holdsAt_iff]
  constructor
  · rintro ⟨head, tail, rfl, htail⟩
    rw [Bool.and_eq_true] at htail
    obtain ⟨rest, rfl⟩ := List.isPrefixOf_iff_prefix.mp htail.1
    rw [List.drop_left] at htail
    obtain ⟨c, hc, hword⟩ := (Option.any_eq_true _ _).mp htail.2
    obtain ⟨more, rfl⟩ := List.head?_eq_some_iff.mp hc
    exact ⟨c, hword, head, more, by simp⟩
  · rintro ⟨c, hword, head, more, rfl⟩
    refine ⟨head, classWord ++ c :: more, by simp, ?_⟩
    rw [Bool.and_eq_true, List.drop_left]
    exact ⟨List.isPrefixOf_iff_prefix.mpr (List.prefix_append classWord _), hword⟩

theorem isProperty_iff {line : Text} :
    isProperty line = true ↔ ∃ mark ∈ propertyMarks, mark <:+: line := by
  rw [isProperty, List.any_eq_true]
  simp only [Text.occursIn_iff]

/-! ### Carriage returns -/

section Return

variable (line : Text)

theorem isConstructorSignature_dropReturn :
    isConstructorSignature (Text.dropReturn line) = isConstructorSignature line := by
  refine Text.eq_of_append_return (f := isConstructorSignature) (fun text => ?_) line
  rw [Bool.eq_iff_iff, isConstructorSignature_iff, isConstructorSignature_iff,
    Text.infix_barrier_iff (by decide) (by decide), List.infix_nil]
  exact or_iff_left (by decide)

theorem isClassHeader_dropReturn : isClassHeader (Text.dropReturn line) = isClassHeader line := by
  refine Text.eq_of_append_return (f := isClassHeader) (fun text => ?_) line
  rw [Bool.eq_iff_iff, isClassHeader_iff, isClassHeader_iff]
  refine exists_congr fun c => and_congr_right fun hword => ?_
  have hreturn : '\r' ∉ classWord ++ [c] := by
    rw [List.mem_append, List.mem_singleton]
    rintro (hmem | rfl)
    · exact absurd hmem (by decide)
    · exact absurd hword (by decide)
  rw [Text.infix_barrier_iff hreturn (by simp)]
  simp

theorem isNestedClose_dropReturn : isNestedClose (Text.dropReturn line) = isNestedClose line := by
  refine Text.eq_of_append_return (f := isNestedClose) (fun text => ?_) line
  cases text with
  | nil => decide
  | cons c text =>
      have hreturn : Text.allBlank ['\r'] = true := by decide
      rw [isNestedClose, isNestedClose, Text.closesWith_append_blank _ _ hreturn]
      rfl

theorem inlineBody?_isSome_dropReturn :
    (inlineBody? (Text.dropReturn line)).isSome = (inlineBody? line).isSome := by
  refine Text.eq_of_append_return (f := fun line => (inlineBody? line).isSome) (fun text => ?_) line
  have hreturn : Text.allBlank ['\r'] = true := by decide
  rw [Bool.eq_iff_iff, inlineBody?_isSome_iff_braces, inlineBody?_isSome_iff_braces,
    Text.closesWith_append_blank _ _ hreturn]
  refine and_congr_right fun _ => ?_
  constructor
  · rintro ⟨left, right, hsplit, hmark⟩
    have hbrace : left ++ ['{'] ++ right = text ++ '\r' :: [] := by
      rw [hsplit]
      simp
    rcases Text.split_at_barrier (by decide) (by simp) hbrace with
      ⟨between, htext, -⟩ | ⟨between, hnil, -⟩
    · exact ⟨left, between, by rw [htext]; simp, hmark⟩
    · simp at hnil
  · rintro ⟨left, right, rfl, hmark⟩
    exact ⟨left, right ++ ['\r'], by simp, hmark⟩

theorem opensDocblock_dropReturn (single : Bool) :
    View.opensDocblock single (Text.dropReturn line) = View.opensDocblock single line := by
  refine Text.eq_of_append_return (f := View.opensDocblock single) (fun text => ?_) line
  have hreturn : Text.allBlank ['\r'] = true := by decide
  rw [View.opensDocblock, View.opensDocblock, Text.trim, Text.trim,
    Text.trimEnd_append_blank _ hreturn]

end Return

/-! ### Parentheses -/

theorem closing?_eq_some_iff {text inside after : Text} :
    closing? text = some (inside, after) ↔
      text = inside ++ ')' :: after ∧ ')' ∉ inside ∧ '\n' ∉ inside := by
  have htest : ∀ c, (c != ')' && c != '\n') = true ↔ c ≠ ')' ∧ c ≠ '\n' := by simp
  constructor
  · intro h
    rw [closing?] at h
    split at h
    next rest hdrop =>
      obtain ⟨rfl, rfl⟩ := Prod.mk.inj (Option.some.inj h)
      have hall : ∀ c ∈ text.takeWhile (fun c => c != ')' && c != '\n'), c ≠ ')' ∧ c ≠ '\n' := by
        intro c hc
        exact (htest c).mp (List.all_eq_true.mp List.all_takeWhile c hc)
      refine ⟨?_, fun hc => (hall ')' hc).1 rfl, fun hc => (hall '\n' hc).2 rfl⟩
      have hstart : text.takeWhile (fun c => c != ')' && c != '\n') <+: text :=
        List.takeWhile_prefix _
      rw [← hdrop]
      exact (List.prefix_iff_eq_append.mp hstart).symm
    next => cases h
  · rintro ⟨rfl, hclose, hbreak⟩
    have hinside : (inside ++ ')' :: after).takeWhile (fun c => c != ')' && c != '\n') =
        inside := by
      rw [List.takeWhile_append_of_pos]
      · simp
      · intro c hc
        exact (htest c).mpr ⟨fun h => hclose (h ▸ hc), fun h => hbreak (h ▸ hc)⟩
    simp [closing?, hinside]

theorem exists_closing? {text : Text} (hclose : ')' ∈ text) (hbreak : '\n' ∉ text) :
    ∃ inside after, closing? text = some (inside, after) := by
  obtain ⟨inside, after, rfl, hinside⟩ := List.eq_append_cons_of_mem hclose
  refine ⟨inside, after, closing?_eq_some_iff.mpr ⟨rfl, hinside, ?_⟩⟩
  exact fun h => hbreak (List.mem_append_left _ h)

theorem mem_of_parentheses? {line : Text} {group : Parentheses}
    (h : parentheses? line = some group) : ')' ∈ line := by
  induction line generalizing group with
  | nil => contradiction
  | cons c line ih =>
      rw [parentheses?] at h
      split at h
      next inside after hclosing =>
        split at hclosing
        next =>
          rw [(closing?_eq_some_iff.mp hclosing).1]
          simp
        next => contradiction
      next =>
        obtain ⟨rest, hrest, -⟩ := Option.map_eq_some_iff.mp h
        exact List.mem_cons_of_mem c (ih hrest)

/-- On one line the first parentheses are those at the first opening one. -/
theorem parentheses?_eq_some_iff {line : Text} {group : Parentheses} (hline : '\n' ∉ line) :
    parentheses? line = some group ↔
      line = group.before ++ '(' :: (group.inside ++ ')' :: group.after) ∧
        '(' ∉ group.before ∧ ')' ∉ group.inside := by
  constructor
  · intro h
    induction line generalizing group with
    | nil => contradiction
    | cons c line ih =>
        rw [List.mem_cons, not_or] at hline
        rw [parentheses?] at h
        split at h
        next inside after hclosing =>
          split at hclosing
          next hc =>
            rw [← Option.some.inj h, hc]
            obtain ⟨hsplit, hinside, -⟩ := closing?_eq_some_iff.mp hclosing
            exact ⟨by rw [hsplit]; rfl, List.not_mem_nil, hinside⟩
          next => contradiction
        next hclosing =>
          obtain ⟨rest, hrest, rfl⟩ := Option.map_eq_some_iff.mp h
          obtain ⟨hsplit, hbefore, hinside⟩ := ih hline.2 hrest
          -- an opening parenthesis here would have found the same closing one
          have hc : c ≠ '(' := by
            intro hc
            obtain ⟨inside, after, hsome⟩ := exists_closing? (mem_of_parentheses? hrest) hline.2
            rw [if_pos hc, hsome] at hclosing
            contradiction
          refine ⟨by rw [hsplit]; rfl, ?_, hinside⟩
          rw [List.mem_cons, not_or]
          exact ⟨hc.symm, hbefore⟩
  · rintro ⟨rfl, hbefore, hinside⟩
    obtain ⟨before, inside, after⟩ := group
    simp only at hline hbefore hinside ⊢
    have hclosing : closing? (inside ++ ')' :: after) = some (inside, after) := by
      refine closing?_eq_some_iff.mpr ⟨rfl, hinside, fun h => hline ?_⟩
      simp [h]
    clear hline
    induction before with
    | nil => rw [List.nil_append, parentheses?, if_pos rfl, hclosing]
    | cons c before ih =>
        rw [List.mem_cons, not_or] at hbefore
        rw [List.cons_append, parentheses?, if_neg (Ne.symm hbefore.1), ih hbefore.2]
        rfl

end Line

end PropertyInsertion

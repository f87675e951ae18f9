import Mathlib.Data.List.Basic

/-!
# Entries under keys

Open documents and the members of an object are lists of entries, and the first entry under a key
counts. Here entries are removed, put in front and changed, and what is then under a key is told
from what was there before.
-/

namespace PropertyInsertion

variable {κ α : Type} [DecidableEq κ]

theorem lookup_filter_ne (entries : List (κ × α)) (key other : κ) :
    (entries.filter (·.1 != key)).lookup other =
      if other = key then none else entries.lookup other := by
  induction entries with
  | nil => simp
  | cons entry entries ih =>
      obtain ⟨first, value⟩ := entry
      by_cases hfirst : first = key
      · rw [List.filter_cons_of_neg (by simp [hfirst]), ih, List.lookup_cons, hfirst]
        by_cases hother : other = key
        · rw [if_pos hother, if_pos hother]
        · rw [if_neg hother, if_neg hother, beq_eq_false_iff_ne.mpr hother]
      · rw [List.filter_cons_of_pos (by simp [hfirst]), List.lookup_cons, List.lookup_cons, ih]
        by_cases hother : other = key
        · rw [if_pos hother, if_pos hother, hother, beq_eq_false_iff_ne.mpr (Ne.symm hfirst)]
        · rw [if_neg hother, if_neg hother]

/-- An entry in front takes the place of all others under its key. -/
theorem lookup_cons_filter_ne (entries : List (κ × α)) (key other : κ) (value : α) :
    ((key, value) :: entries.filter (·.1 != key)).lookup other =
      if other = key then some value else entries.lookup other := by
  rw [List.lookup_cons, lookup_filter_ne]
  by_cases hother : other = key
  · rw [if_pos hother, if_pos hother, hother, beq_self_eq_true]
  · rw [if_neg hother, if_neg hother, beq_eq_false_iff_ne.mpr hother]

theorem lookup_map_key (entries : List (κ × α)) (key : κ) (change : α → α) :
    (entries.map fun (other, value) =>
        (other, if other = key then change value else value)).lookup key =
      (entries.lookup key).map change := by
  induction entries with
  | nil => rfl
  | cons entry entries ih =>
      obtain ⟨first, value⟩ := entry
      rw [List.map_cons, List.lookup_cons, List.lookup_cons, ih]
      by_cases hfirst : key = first
      · rw [hfirst, beq_self_eq_true, if_pos rfl]
        rfl
      · rw [beq_eq_false_iff_ne.mpr hfirst]

end PropertyInsertion

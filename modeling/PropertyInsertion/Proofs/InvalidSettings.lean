import PropertyInsertion.Proofs.Entries
import PropertyInsertion.Proofs.SettingsSources

/-!
# Settings of the wrong form

An editor's settings are read key by key, and what has the wrong form under one key says nothing
about another setting. Within one setting this is not so: the constructor's visibility has two
names, and what is under the first of them hides what is under the second, whatever its form. So a
key of the wrong form counts as left out exactly if it hides no other value.
-/

namespace PropertyInsertion

namespace Json

/-- The object without what is under a key; other values as they are. -/
def without (name : String) : Json → Json
  | .object fields => .object (fields.filter (·.1 != name))
  | json => json

theorem field?_without (json : Json) (name other : String) :
    (json.without name).field? other = if other = name then none else json.field? other := by
  cases json with
  | object fields => exact lookup_filter_ne fields name other
  | _ => simp [without, field?]

/-- The object with what is under one key changed; other values as they are. -/
def modify (name : String) (change : Json → Json) : Json → Json
  | .object fields =>
    .object (fields.map fun (key, value) => (key, if key = name then change value else value))
  | json => json

theorem field?_modify (json : Json) (name : String) (change : Json → Json) :
    (json.modify name change).field? name = (json.field? name).map change := by
  cases json with
  | object fields => exact lookup_map_key fields name change
  | _ => rfl

end Json

namespace Settings

/-- An editor's settings without what is under one key of the part that is ours. -/
def remove (name : String) (sent : Json) : Json :=
  match sent.field? Layer.sectionKey with
  | some _ => sent.modify Layer.sectionKey (Json.without name)
  | none => sent.without name

theorem own_remove (name : String) (sent : Json) :
    own (remove name sent) = (own sent).without name := by
  unfold remove own
  cases hsection : sent.field? Layer.sectionKey with
  | some part =>
      dsimp only
      rw [Json.field?_modify, hsection]
      rfl
  | none =>
      dsimp only
      rw [Json.field?_without, hsection, ite_self]
      rfl

theorem eq_iff_forall_get {settings settings' : Settings} :
    settings = settings' ↔ ∀ (α : Type) (key : Key α), key.get settings = key.get settings' := by
  constructor
  · rintro rfl α key
    rfl
  · intro h
    have hvisibility := h _ .visibility
    have hconstructor := h _ .constructorVisibility
    have hindent := h _ .indent
    cases settings
    cases settings'
    simp_all [Key.get]

/-- The value is of the wrong form for every setting that goes by this name. -/
def Invalid (name : String) (json : Json) : Prop :=
  ∀ (α : Type) (key : Key α), name ∈ key.names → ∀ value, ¬key.IsJson value json

/-- What is under the name hides a valid value under the other name of the same setting. -/
def Hides (sent : Json) (name : String) (value : Visibility) : Prop :=
  name = "constructor_visibility" ∧
    ∃ json, (own sent).field? "constructorVisibility" = some json ∧ value.IsJson json

namespace Key

variable {α : Type} (key : Key α) {sent json : Json} {name : String}

theorem ofJson?_of_invalid (hinvalid : Invalid name json) (hname : name ∈ key.names) :
    key.ofJson? json = none := by
  rw [Option.eq_none_iff_forall_ne_some]
  exact fun value hvalue => hinvalid α key hname value (key.ofJson?_eq_some_iff.mp hvalue)

theorem given?_remove (sent : Json) (name : String) :
    key.given? (Layer.ofJson (remove name sent)) =
      (key.first? fun other => if other = name then none else (own sent).field? other).bind
        key.ofJson? := by
  rw [given?_ofJson, own_remove]
  congr 2
  funext other
  exact Json.field?_without (own sent) name other

theorem given?_remove_of_notMem (hname : name ∉ key.names) :
    key.given? (Layer.ofJson (remove name sent)) = key.given? (Layer.ofJson sent) := by
  rw [given?_remove, given?_ofJson]
  congr 1
  refine key.first?_congr fun other hother => ?_
  rw [if_neg]
  rintro rfl
  exact hname hother

end Key

/-- With the first name of the constructor's visibility left out, the second one counts. -/
theorem given?_remove_eq_some_iff {sent : Json} {value : Visibility} :
    Key.constructorVisibility.given? (Layer.ofJson (remove "constructor_visibility" sent)) =
        some value ↔ Hides sent "constructor_visibility" value := by
  have hne : "constructorVisibility" ≠ "constructor_visibility" := by decide
  rw [Key.given?_remove, Key.first?_eq]
  simp only [if_true, if_neg hne, Option.none_or, Option.bind_eq_some_iff,
    Key.ofJson?_eq_some_iff, Hides, true_and]
  rfl

section Invalid

variable {sent json : Json} {name : String} (hfield : (own sent).field? name = some json)
  (hinvalid : Invalid name json)

include hfield hinvalid

/-- What is of the wrong form under the first name of a setting sets nothing. -/
theorem given?_of_invalid_first {α : Type} (key : Key α) {others : List String}
    (hnames : key.names = name :: others) : key.given? (Layer.ofJson sent) = none := by
  have hname : name ∈ key.names := hnames ▸ List.mem_cons_self
  rw [key.given?_ofJson, Key.first?, hnames, List.findSome?_cons, hfield]
  exact key.ofJson?_of_invalid hinvalid hname

/-- A setting without such a key is given what it was given, unless the key stood in front of
another of its names. -/
theorem given?_remove_of_invalid {α : Type} (key : Key α)
    (hfirst : ∀ other, key.names ≠ [name, other]) :
    key.given? (Layer.ofJson (remove name sent)) = key.given? (Layer.ofJson sent) := by
  by_cases hname : name ∈ key.names
  · have hnone := key.ofJson?_of_invalid hinvalid hname
    rw [key.given?_remove, key.given?_ofJson, Key.first?_eq, Key.first?_eq]
    cases key with
    | visibility =>
        obtain rfl : name = "visibility" := List.mem_singleton.mp hname
        simp [hfield, hnone]
    | indent =>
        obtain rfl : name = "indent" := List.mem_singleton.mp hname
        simp [hfield, hnone]
    | constructorVisibility =>
        rcases List.mem_pair.mp hname with rfl | rfl
        · exact absurd rfl (hfirst _)
        · cases hsnake : (own sent).field? "constructor_visibility" <;> simp [hfield, hnone]
  · exact key.given?_remove_of_notMem hname

theorem constructorVisibility_of_hides (settings : Settings) {value : Visibility}
    (hhides : Hides sent name value) :
    (settings.overlay (Layer.ofJson sent)).constructorVisibility =
        settings.constructorVisibility ∧
      (settings.overlay (Layer.ofJson (remove name sent))).constructorVisibility = value := by
  obtain ⟨rfl, -⟩ := id hhides
  constructor
  · refine Key.constructorVisibility.get_overlay_of_forall_not fun other hgiven => ?_
    rw [given?_of_invalid_first hfield hinvalid .constructorVisibility rfl] at hgiven
    contradiction
  · exact Key.constructorVisibility.get_overlay_of_accepts
      (given?_remove_eq_some_iff.mpr hhides) trivial

theorem get_remove_of_hides (settings : Settings)
    (hhides : ∀ value, Hides sent name value → value = settings.constructorVisibility)
    {α : Type} (key : Key α) :
    key.get (settings.overlay (Layer.ofJson (remove name sent))) =
      key.get (settings.overlay (Layer.ofJson sent)) := by
  by_cases hfirst : ∃ other, key.names = [name, other]
  · obtain ⟨other, hnames⟩ := hfirst
    -- only one setting has two names
    cases key with
    | visibility => simp [Key.names] at hnames
    | indent => simp [Key.names] at hnames
    | constructorVisibility =>
        obtain ⟨rfl, -⟩ := List.cons.inj hnames
        cases hgiven : Key.constructorVisibility.given?
            (Layer.ofJson (remove "constructor_visibility" sent)) with
        | none =>
            have hpresent := given?_of_invalid_first hfield hinvalid .constructorVisibility rfl
            exact Key.get_overlay_congr _ (hgiven.trans hpresent.symm)
        | some value =>
            have hhidden := given?_remove_eq_some_iff.mp hgiven
            obtain ⟨hkept, hremoved⟩ :=
              constructorVisibility_of_hides hfield hinvalid settings hhidden
            exact hremoved.trans ((hhides value hhidden).trans hkept.symm)
  · exact key.get_overlay_congr
      (given?_remove_of_invalid hfield hinvalid key (not_exists.mp hfirst))

end Invalid

/-- **A setting of the wrong form counts as left out**, unless it hides a valid value under the
other name of the same setting, and that value would change the settings. Other settings never
depend on it. A value that is hidden counts for nothing, and would count if the key were left
out. -/
theorem invalid_counts_as_absent_iff (settings : Settings) {sent json : Json} {name : String}
    (hfield : (own sent).field? name = some json) (hinvalid : Invalid name json) :
    (settings.overlay (Layer.ofJson (remove name sent)) = settings.overlay (Layer.ofJson sent) ↔
      ∀ value, Hides sent name value → value = settings.constructorVisibility) ∧
    (∀ (α : Type) (key : Key α), name ∉ key.names →
      key.get (settings.overlay (Layer.ofJson (remove name sent))) =
        key.get (settings.overlay (Layer.ofJson sent))) ∧
    ∀ value, Hides sent name value →
      (settings.overlay (Layer.ofJson sent)).constructorVisibility =
        settings.constructorVisibility ∧
      (settings.overlay (Layer.ofJson (remove name sent))).constructorVisibility = value := by
  have hhidden := fun value (hhides : Hides sent name value) =>
    constructorVisibility_of_hides hfield hinvalid settings hhides
  refine ⟨⟨fun hsame value hhides => ?_, fun hhides => ?_⟩, fun α key hname => ?_, hhidden⟩
  · obtain ⟨hkept, hgiven⟩ := hhidden value hhides
    rw [← hgiven, hsame, hkept]
  · exact eq_iff_forall_get.mpr fun α key =>
      get_remove_of_hides hfield hinvalid settings hhides key
  · exact key.get_overlay_congr (key.given?_remove_of_notMem hname)

/-- Both names of the constructor's visibility, the first one with a wrong word, and an indentation
that is no text. -/
def misspelled : Json :=
  .object [(Layer.sectionKey, .object [("constructorVisibility", .string "private"),
    ("constructor_visibility", .string "friendly"), ("indent", .integer 2)])]

theorem misspelled_indent_counts_as_absent :
    Invalid "indent" (.integer 2) ∧
    ({} : Settings).overlay (Layer.ofJson (remove "indent" misspelled)) =
      ({} : Settings).overlay (Layer.ofJson misspelled) := by
  have hfield : (own misspelled).field? "indent" = some (.integer 2) := rfl
  have hinvalid : Invalid "indent" (.integer 2) := by
    intro α key hname value
    cases key with
    | visibility => simp [Key.names] at hname
    | constructorVisibility => simp [Key.names] at hname
    | indent => simp [Key.IsJson]
  refine ⟨hinvalid, (invalid_counts_as_absent_iff {} hfield hinvalid).1.mpr ?_⟩
  rintro value ⟨hname, -⟩
  contradiction

/-- The wrong word takes away the valid one. -/
theorem misspelled_word_hides :
    (own misspelled).field? "constructor_visibility" = some (.string "friendly") ∧
    Invalid "constructor_visibility" (.string "friendly") ∧
    (({} : Settings).overlay (Layer.ofJson misspelled)).constructorVisibility = .public ∧
    (({} : Settings).overlay (Layer.ofJson
      (remove "constructor_visibility" misspelled))).constructorVisibility = .private := by
  refine ⟨rfl, ?_, rfl, rfl⟩
  intro α key hname value hvalue
  cases key with
  | visibility => simp [Key.names] at hname
  | indent => simp [Key.names] at hname
  | constructorVisibility =>
      have hnone : Layer.visibilityOfJson? (.string "friendly") = none := rfl
      rw [Key.IsJson, ← Layer.visibilityOfJson?_eq_some_iff, hnone] at hvalue
      contradiction

end Settings

end PropertyInsertion

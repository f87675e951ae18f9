import PropertyInsertion.Settings.Json
import PropertyInsertion.Settings.Load
import Mathlib.Data.List.Basic

/-!
# What a source says about a setting

Settings are written as JSON by an editor and as TOML in files. What either says about one setting
is told here from the entries under the names of this setting, and with it why a table is refused.
An editor's settings are never refused; each of their values counts for itself.
-/

namespace PropertyInsertion

/-! ### How values are written -/

namespace Visibility

theorem ofKeyword?_eq_some_iff {word : String} {visibility : Visibility} :
    ofKeyword? word = some visibility ↔ word = visibility.keyword := by
  constructor
  · intro h
    unfold ofKeyword? at h
    split at h
    next hword => rw [hword, ← Option.some.inj h, keyword]
    next =>
      split at h
      next hword => rw [hword, ← Option.some.inj h, keyword]
      next =>
        split at h
        next hword => rw [hword, ← Option.some.inj h, keyword]
        next => contradiction
  · rintro rfl
    exact ofKeyword?_keyword visibility

/-- In JSON a visibility is its keyword, alone or with null under it. -/
inductive IsJson (visibility : Visibility) : Json → Prop
  | word : IsJson visibility (.string visibility.keyword)
  | object : IsJson visibility (.object [(visibility.keyword, .null)])

/-- In TOML a visibility is its keyword, alone or with nothing under it. -/
inductive IsToml (visibility : Visibility) : Toml.Value → Prop
  | word : IsToml visibility (.string visibility.keyword.toList)
  | array (origin : Toml.Origin) :
    IsToml visibility (.table origin [(visibility.keyword.toList, .array [])])
  | table (origin inner : Toml.Origin) :
    IsToml visibility (.table origin [(visibility.keyword.toList, .table inner [])])

end Visibility

namespace Settings

/-- A setting, by the type of its values. -/
inductive Key : Type → Type
  | visibility : Key Visibility
  | constructorVisibility : Key Visibility
  | indent : Key Text

namespace Key

variable {α : Type}

def get : Key α → Settings → α
  | .visibility, settings => settings.visibility
  | .constructorVisibility, settings => settings.constructorVisibility
  | .indent, settings => settings.indent

/-- The names that a setting goes by. -/
def names : Key α → List String
  | .visibility => ["visibility"]
  | .constructorVisibility => ["constructor_visibility", "constructorVisibility"]
  | .indent => ["indent"]

/-- The JSON value is of the right form for the setting, and it means this value. -/
def IsJson : Key α → α → Json → Prop
  | .visibility, value, json => value.IsJson json
  | .constructorVisibility, value, json => value.IsJson json
  | .indent, text, json => json = .string (String.ofList text)

/-- The TOML value is of the right form for the setting, and it means this value. -/
def IsToml : Key α → α → Toml.Value → Prop
  | .visibility, value, toml => value.IsToml toml
  | .constructorVisibility, value, toml => value.IsToml toml
  | .indent, text, toml => toml = .string text

/-- An empty indentation is of the right form, but it sets nothing. -/
def Accepts : Key α → α → Prop
  | .visibility, _ => True
  | .constructorVisibility, _ => True
  | .indent, text => text ≠ []

/-- What is under the first name of the setting that anything is under. -/
def first? {β : Type} (key : Key α) (lookup : String → Option β) : Option β :=
  key.names.findSome? lookup

theorem first?_eq {β : Type} (key : Key α) (lookup : String → Option β) :
    key.first? lookup =
      match key with
      | .visibility => lookup "visibility"
      | .constructorVisibility =>
        (lookup "constructor_visibility").or (lookup "constructorVisibility")
      | .indent => lookup "indent" := by
  cases key with
  | visibility => cases h : lookup "visibility" <;> simp [first?, names, h]
  | constructorVisibility =>
      cases hsnake : lookup "constructor_visibility" <;>
        cases hcamel : lookup "constructorVisibility" <;> simp [first?, names, hsnake, hcamel]
  | indent => cases h : lookup "indent" <;> simp [first?, names, h]

theorem first?_congr {β : Type} (key : Key α) {lookup other : String → Option β}
    (h : ∀ name ∈ key.names, lookup name = other name) : key.first? lookup = key.first? other := by
  rw [first?_eq, first?_eq]
  cases key <;> simp_all [names]

/-! ### What a layer gives -/

def given? : Key α → Layer → Option α
  | .visibility, layer => layer.visibility
  | .constructorVisibility, layer => layer.constructorVisibility
  | .indent, layer => layer.indent

section Overlay

variable (key : Key α) {settings : Settings} {layer : Layer}

theorem get_overlay_congr {other : Layer} (h : key.given? layer = key.given? other) :
    key.get (settings.overlay layer) = key.get (settings.overlay other) := by
  cases key <;> rw [given?, given?] at h <;> rw [get, get, overlay, overlay, h]

theorem get_overlay_of_accepts {value : α} (hgiven : key.given? layer = some value)
    (haccepts : key.Accepts value) : key.get (settings.overlay layer) = value := by
  cases key with
  | visibility =>
      rw [given?] at hgiven
      rw [get, overlay, hgiven, Option.getD_some]
  | constructorVisibility =>
      rw [given?] at hgiven
      rw [get, overlay, hgiven, Option.getD_some]
  | indent =>
      rw [given?] at hgiven
      rw [Accepts] at haccepts
      simp [get, overlay, hgiven, Option.filter_some, haccepts]

theorem get_overlay_of_forall_not
    (h : ∀ value, key.given? layer = some value → ¬key.Accepts value) :
    key.get (settings.overlay layer) = key.get settings := by
  cases hgiven : key.given? layer with
  | none => cases key <;> rw [given?] at hgiven <;> simp [get, overlay, hgiven]
  | some value =>
      have hrefused := h value hgiven
      cases key with
      | visibility => exact absurd trivial hrefused
      | constructorVisibility => exact absurd trivial hrefused
      | indent =>
          rw [given?] at hgiven
          rw [Accepts, not_not] at hrefused
          simp [get, overlay, hgiven, Option.filter_some, hrefused]

end Overlay

end Key

/-! ### What an editor's settings give -/

theorem Layer.visibilityOfJson?_eq_some_iff {json : Json} {visibility : Visibility} :
    visibilityOfJson? json = some visibility ↔ visibility.IsJson json := by
  constructor
  · intro h
    unfold visibilityOfJson? at h
    split at h
    · rw [Visibility.ofKeyword?_eq_some_iff.mp h]
      exact .word
    · rw [Visibility.ofKeyword?_eq_some_iff.mp h]
      exact .object
    · contradiction
  · rintro (_ | _) <;> simp [visibilityOfJson?]

/-- The part of an editor's settings that is ours. -/
def own (sent : Json) : Json := (sent.field? Layer.sectionKey).getD sent

namespace Key

variable {α : Type}

def ofJson? : Key α → Json → Option α
  | .visibility => Layer.visibilityOfJson?
  | .constructorVisibility => Layer.visibilityOfJson?
  | .indent => Layer.indentOfJson?

variable (key : Key α)

theorem ofJson?_eq_some_iff {json : Json} {value : α} :
    key.ofJson? json = some value ↔ key.IsJson value json := by
  cases key with
  | visibility => exact Layer.visibilityOfJson?_eq_some_iff
  | constructorVisibility => exact Layer.visibilityOfJson?_eq_some_iff
  | indent =>
      rw [ofJson?, IsJson, Layer.indentOfJson?]
      cases json <;> simp [Json.string?, String.ext_iff]

theorem given?_ofJson (sent : Json) :
    key.given? (Layer.ofJson sent) =
      (key.first? fun name => (own sent).field? name).bind key.ofJson? := by
  rw [first?_eq]
  cases key <;> rfl

end Key

/-! ### What a TOML text gives -/

theorem Layer.visibilityOfToml?_eq_some_iff {toml : Toml.Value} {visibility : Visibility} :
    visibilityOfToml? toml = some visibility ↔ visibility.IsToml toml := by
  have hword : ∀ word : Text, Visibility.ofKeyword? (String.ofList word) = some visibility →
      word = visibility.keyword.toList := by
    intro word h
    rw [← Visibility.ofKeyword?_eq_some_iff.mp h, String.toList_ofList]
  constructor
  · intro h
    unfold visibilityOfToml? at h
    split at h
    · rw [hword _ h]
      exact .word
    · rw [hword _ h]
      exact .array _
    · rw [hword _ h]
      exact .table _ _
    · contradiction
  · rintro (_ | _ | _) <;> simp [visibilityOfToml?]

theorem Layer.setting?_eq_some_iff {α : Type} {decode? : Toml.Value → Option α}
    {written? : Option Toml.Value} {given? : Option α} :
    setting? decode? written? = some given? ↔
      written? = none ∧ given? = none ∨
        ∃ toml value, written? = some toml ∧ decode? toml = some value ∧ given? = some value := by
  cases written? with
  | none => simp [setting?, eq_comm]
  | some toml => simp [setting?, eq_comm]

/-- Both spellings of the constructor's visibility are in the table. -/
def TwoSpellings (entries : Toml.Entries) : Prop :=
  (entries.get? "constructor_visibility".toList).isSome ∧
    (entries.get? "constructorVisibility".toList).isSome

/-- Why a table is refused: something under a name of a setting has the wrong form, or one setting
has two names. -/
inductive Faulty (entries : Toml.Entries) : Prop
  | wrongForm {α : Type} (key : Key α) (name : String) (toml : Toml.Value)
    (hname : name ∈ key.names) (hentry : entries.get? name.toList = some toml)
    (hwrong : ∀ value, ¬key.IsToml value toml)
  | twoNames {α : Type} (key : Key α) (name other : String) (hname : name ∈ key.names)
    (hother : other ∈ key.names) (hne : name ≠ other)
    (hentry : (entries.get? name.toList).isSome) (hentry' : (entries.get? other.toList).isSome)

namespace Key

variable {α : Type}

def ofToml? : Key α → Toml.Value → Option α
  | .visibility => Layer.visibilityOfToml?
  | .constructorVisibility => Layer.visibilityOfToml?
  | .indent => Layer.indentOfToml?

variable (key : Key α)

theorem ofToml?_eq_some_iff {toml : Toml.Value} {value : α} :
    key.ofToml? toml = some value ↔ key.IsToml value toml := by
  cases key with
  | visibility => exact Layer.visibilityOfToml?_eq_some_iff
  | constructorVisibility => exact Layer.visibilityOfToml?_eq_some_iff
  | indent =>
      rw [ofToml?, IsToml]
      cases toml <;> simp [Layer.indentOfToml?]

/-- What a table has under the first name of the setting that it has. -/
def written? (entries : Toml.Entries) : Option Toml.Value :=
  key.first? fun name => entries.get? name.toList

theorem written?_eq_some_iff {entries : Toml.Entries} {toml : Toml.Value}
    (hone : ¬TwoSpellings entries) :
    key.written? entries = some toml ↔
      ∃ name ∈ key.names, entries.get? name.toList = some toml := by
  rw [written?, first?_eq]
  cases key with
  | visibility => simp [names]
  | constructorVisibility =>
      -- with both spellings there, the second would count for nothing
      cases hsnake : entries.get? "constructor_visibility".toList <;>
        cases hcamel : entries.get? "constructorVisibility".toList <;>
          simp_all [names, TwoSpellings]
  | indent => simp [names]

/-- Only the constructor's visibility has two names. -/
theorem twoSpellings_of_ne {entries : Toml.Entries} {name other : String}
    (hname : name ∈ key.names) (hother : other ∈ key.names) (hne : name ≠ other)
    (hentry : (entries.get? name.toList).isSome) (hentry' : (entries.get? other.toList).isSome) :
    TwoSpellings entries := by
  cases key <;> simp only [names, List.mem_cons, List.not_mem_nil, or_false] at hname hother
  case visibility => exact absurd (hname.trans hother.symm) hne
  case indent => exact absurd (hname.trans hother.symm) hne
  case constructorVisibility =>
    rcases hname with rfl | rfl <;> rcases hother with rfl | rfl
    · contradiction
    · exact ⟨hentry, hentry'⟩
    · exact ⟨hentry', hentry⟩
    · contradiction

end Key

section Entries

variable {entries : Toml.Entries} {layer : Layer}

theorem ofEntries?_eq_some_iff :
    Layer.ofEntries? entries = some layer ↔
      ¬TwoSpellings entries ∧ ∀ (α : Type) (key : Key α),
        Layer.setting? key.ofToml? (key.written? entries) = some (key.given? layer) := by
  unfold Layer.ofEntries?
  dsimp only
  split
  next hboth =>
    rw [Bool.and_eq_true] at hboth
    exact iff_of_false nofun fun hone => hone.1 hboth
  next hboth =>
    rw [Bool.and_eq_true] at hboth
    simp only [Option.bind_eq_bind, Option.bind_eq_some_iff, Key.written?, Key.first?_eq]
    constructor
    · rintro ⟨visibility, hvisibility, constructorVisibility, hconstructor, indent, hindent, hlayer⟩
      obtain rfl := Option.some.inj hlayer
      refine ⟨hboth, fun α key => ?_⟩
      cases key with
      | visibility => exact hvisibility
      | constructorVisibility => exact hconstructor
      | indent => exact hindent
    · rintro ⟨-, hkeys⟩
      exact ⟨_, hkeys _ .visibility, _, hkeys _ .constructorVisibility, _, hkeys _ .indent, rfl⟩

/-- A table gives a setting the value that it has under one of its names. -/
theorem given?_eq_some_iff (hlayer : Layer.ofEntries? entries = some layer) {α : Type}
    (key : Key α) {value : α} :
    key.given? layer = some value ↔
      ∃ name ∈ key.names, ∃ toml, entries.get? name.toList = some toml ∧ key.IsToml value toml := by
  obtain ⟨hone, hkeys⟩ := ofEntries?_eq_some_iff.mp hlayer
  rcases Layer.setting?_eq_some_iff.mp (hkeys α key) with
    ⟨hwritten, hgiven⟩ | ⟨toml, given, hwritten, hdecoded, hgiven⟩
  · rw [hgiven]
    refine iff_of_false nofun ?_
    rintro ⟨name, hname, toml, htoml, -⟩
    have hfound := (key.written?_eq_some_iff hone).mpr ⟨name, hname, htoml⟩
    rw [hwritten] at hfound
    contradiction
  · rw [hgiven, ← hdecoded, key.ofToml?_eq_some_iff]
    constructor
    · intro hvalue
      obtain ⟨name, hname, htoml⟩ := (key.written?_eq_some_iff hone).mp hwritten
      exact ⟨name, hname, toml, htoml, hvalue⟩
    · rintro ⟨name, hname, other, hother, hvalue⟩
      have hfound := (key.written?_eq_some_iff hone).mpr ⟨name, hname, hother⟩
      rwa [Option.some.inj (hwritten.symm.trans hfound)]

theorem not_faulty_of_ofEntries? (hlayer : Layer.ofEntries? entries = some layer) :
    ¬Faulty entries := by
  obtain ⟨hone, hkeys⟩ := ofEntries?_eq_some_iff.mp hlayer
  rintro (⟨key, name, toml, hname, hentry, hwrong⟩ |
    ⟨key, name, other, hname, hother, hne, hentry, hentry'⟩)
  · have hfound := (key.written?_eq_some_iff hone).mpr ⟨name, hname, hentry⟩
    rcases Layer.setting?_eq_some_iff.mp (hkeys _ key) with
      ⟨hnone, -⟩ | ⟨found, value, hsome, hdecoded, -⟩
    · rw [hfound] at hnone
      contradiction
    · obtain rfl := Option.some.inj (hfound.symm.trans hsome)
      exact hwrong value (key.ofToml?_eq_some_iff.mp hdecoded)
  · exact hone (key.twoSpellings_of_ne hname hother hne hentry hentry')

section Faultless

variable (hfaultless : ¬Faulty entries)

include hfaultless

theorem not_twoSpellings_of_not_faulty : ¬TwoSpellings entries := by
  rintro ⟨hsnake, hcamel⟩
  exact hfaultless (.twoNames .constructorVisibility "constructor_visibility"
    "constructorVisibility" (by simp [Key.names]) (by simp [Key.names]) (by decide) hsnake hcamel)

theorem exists_setting?_of_not_faulty {α : Type} (key : Key α) :
    ∃ given, Layer.setting? key.ofToml? (key.written? entries) = some given := by
  cases hwritten : key.written? entries with
  | none => exact ⟨none, rfl⟩
  | some toml =>
      obtain ⟨name, hname, htoml⟩ :=
        (key.written?_eq_some_iff (not_twoSpellings_of_not_faulty hfaultless)).mp hwritten
      cases hdecoded : key.ofToml? toml with
      | some value => exact ⟨some value, by rw [Layer.setting?, hdecoded, Option.map_some]⟩
      | none =>
          refine absurd (.wrongForm key name toml hname htoml fun value hvalue => ?_) hfaultless
          rw [← key.ofToml?_eq_some_iff, hdecoded] at hvalue
          contradiction

theorem exists_ofEntries?_of_not_faulty : ∃ layer, Layer.ofEntries? entries = some layer := by
  obtain ⟨visibility, hvisibility⟩ := exists_setting?_of_not_faulty hfaultless .visibility
  obtain ⟨constructorVisibility, hconstructor⟩ :=
    exists_setting?_of_not_faulty hfaultless .constructorVisibility
  obtain ⟨indent, hindent⟩ := exists_setting?_of_not_faulty hfaultless .indent
  refine ⟨⟨visibility, constructorVisibility, indent⟩, ofEntries?_eq_some_iff.mpr
    ⟨not_twoSpellings_of_not_faulty hfaultless, fun α key => ?_⟩⟩
  cases key with
  | visibility => exact hvisibility
  | constructorVisibility => exact hconstructor
  | indent => exact hindent

end Faultless

theorem ofEntries?_eq_none_iff : Layer.ofEntries? entries = none ↔ Faulty entries := by
  constructor
  · intro hnone
    by_contra hfaultless
    obtain ⟨layer, hlayer⟩ := exists_ofEntries?_of_not_faulty hfaultless
    rw [hnone] at hlayer
    contradiction
  · intro hfaulty
    cases hlayer : Layer.ofEntries? entries with
    | none => rfl
    | some layer => exact absurd hfaulty (not_faulty_of_ofEntries? hlayer)

end Entries

end Settings

end PropertyInsertion

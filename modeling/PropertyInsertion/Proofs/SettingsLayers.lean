import PropertyInsertion.Proofs.Runs
import PropertyInsertion.Proofs.SettingsSources

/-!
# Layers of settings, key by key

Settings are laid over others from TOML texts, from files and from what an editor sends. For each
setting the last source that gives it a valid value counts. A TOML text counts as a whole or not at
all, while an editor's values count one by one.

The service lays the files of the user and the workspace over the defaults, and over these what the
editor sends, in the order in which it comes.
-/

namespace PropertyInsertion

namespace Settings

/-! ### Steps -/

/-- A source of settings that is laid over others. -/
inductive Step where
  | toml (content : Text)
  | file (files : Files) (path : Path)
  | editor (sent : Json)

namespace Step

/-- The settings with a source on top, unless the source is refused. -/
def run? (settings : Settings) : Step → Option Settings
  | .toml content => settings.overlayToml? content
  | .file files path => (settings.overlayFile files path).toOption
  | .editor sent => some (settings.overlay (Layer.ofJson sent))

/-- The source is refused. A file that is missing is not, and neither is anything from an editor. -/
inductive Fails : Step → Prop
  | invalid (content : Text) (hread : Toml.read? content = none) : Fails (.toml content)
  | faulty (content : Text) (entries : Toml.Entries) (hread : Toml.read? content = some entries)
    (hfaulty : Faulty entries) : Fails (.toml content)
  | unreadable (files : Files) (path : Path) (cause : ReadError) (hread : files path = .error cause)
    (hcause : cause ≠ .notFound) : Fails (.file files path)
  | content (files : Files) (path : Path) (content : Text) (hread : files path = .ok content)
    (hfails : Fails (.toml content)) : Fails (.file files path)

/-- The source gives a setting a valid value. -/
inductive Sets {α : Type} (key : Key α) : Step → α → Prop
  | toml (content : Text) (entries : Toml.Entries) (name : String) (toml : Toml.Value) (value : α)
    (hread : Toml.read? content = some entries) (hfaultless : ¬Faulty entries)
    (hname : name ∈ key.names) (hentry : entries.get? name.toList = some toml)
    (hvalue : key.IsToml value toml) (haccepts : key.Accepts value) : Sets key (.toml content) value
  | file (files : Files) (path : Path) (content : Text) (value : α)
    (hread : files path = .ok content) (hsets : Sets key (.toml content) value) :
    Sets key (.file files path) value
  | editor (sent json : Json) (value : α)
    (hfield : (key.first? fun name => (own sent).field? name) = some json)
    (hvalue : key.IsJson value json) (haccepts : key.Accepts value) : Sets key (.editor sent) value

/-- The layer that a source amounts to, unless it is refused. -/
def layer? : Step → Option Layer
  | .toml content => Layer.ofToml? content
  | .file files path =>
    match files path with
    | .error .notFound => some {}
    | .error _ => none
    | .ok content => Layer.ofToml? content
  | .editor sent => some (Layer.ofJson sent)

theorem run?_eq_map (settings : Settings) (step : Step) :
    step.run? settings = step.layer?.map settings.overlay := by
  cases step with
  | toml content => rfl
  | file files path =>
      rw [run?, overlayFile, layer?]
      cases files path with
      | error cause => cases cause <;> rfl
      | ok content =>
          dsimp only
          rw [overlayToml?]
          cases Layer.ofToml? content <;> rfl
  | editor sent => rfl

theorem ofToml?_eq_none_iff {content : Text} :
    Layer.ofToml? content = none ↔ Fails (.toml content) := by
  rw [Layer.ofToml?]
  cases hread : Toml.read? content with
  | none => exact iff_of_true rfl (.invalid content hread)
  | some entries =>
      rw [Option.bind_eq_bind, Option.bind_some, ofEntries?_eq_none_iff]
      constructor
      · exact .faulty content entries hread
      · rintro (⟨_, hnone⟩ | ⟨_, other, hother, hfaulty⟩)
        · rw [hread] at hnone
          contradiction
        · rwa [Option.some.inj (hread.symm.trans hother)]

section File

variable {files : Files} {path : Path}

theorem layer?_file_of_error {cause : ReadError} (hread : files path = .error cause) :
    (Step.file files path).layer? = if cause = .notFound then some {} else none := by
  rw [layer?, hread]
  cases cause <;> rfl

theorem layer?_file_of_ok {content : Text} (hread : files path = .ok content) :
    (Step.file files path).layer? = Layer.ofToml? content := by
  rw [layer?, hread]

theorem fails_file_of_error_iff {cause : ReadError} (hread : files path = .error cause) :
    Fails (.file files path) ↔ cause ≠ .notFound := by
  constructor
  · rintro (_ | _ | ⟨_, _, other, hother, hcause⟩ | ⟨_, _, content, hcontent, -⟩)
    · rwa [Except.error.inj (hread.symm.trans hother)]
    · rw [hread] at hcontent
      contradiction
  · exact .unreadable files path cause hread

theorem fails_file_of_ok_iff {content : Text} (hread : files path = .ok content) :
    Fails (.file files path) ↔ Fails (.toml content) := by
  constructor
  · rintro (_ | _ | ⟨_, _, cause, hcause⟩ | ⟨_, _, other, hother, hfails⟩)
    · rw [hread] at hcause
      contradiction
    · rwa [Except.ok.inj (hread.symm.trans hother)]
  · exact .content files path content hread

end File

theorem layer?_eq_none_iff {step : Step} : step.layer? = none ↔ step.Fails := by
  cases step with
  | toml content => exact ofToml?_eq_none_iff
  | file files path =>
      cases hread : files path with
      | error cause =>
          rw [layer?_file_of_error hread, fails_file_of_error_iff hread]
          split
          next hcause => exact iff_of_false nofun fun hne => hne hcause
          next hcause => exact iff_of_true rfl hcause
      | ok content =>
          rw [layer?_file_of_ok hread, fails_file_of_ok_iff hread, ofToml?_eq_none_iff]
  | editor sent => exact iff_of_false nofun nofun

section Sets

variable {α : Type} {key : Key α} {value : α} {settings : Settings}

theorem sets_toml_iff {content : Text} {layer : Layer}
    (hlayer : Layer.ofToml? content = some layer) :
    Sets key (.toml content) value ↔ key.given? layer = some value ∧ key.Accepts value := by
  rw [Layer.ofToml?, Option.bind_eq_bind, Option.bind_eq_some_iff] at hlayer
  obtain ⟨entries, hread, hlayer⟩ := hlayer
  rw [given?_eq_some_iff hlayer]
  constructor
  · rintro ⟨_, other, name, toml, _, hother, -, hname, hentry, hvalue, haccepts⟩
    obtain rfl := Option.some.inj (hread.symm.trans hother)
    exact ⟨⟨name, hname, toml, hentry, hvalue⟩, haccepts⟩
  · rintro ⟨⟨name, hname, toml, hentry, hvalue⟩, haccepts⟩
    exact .toml content entries name toml value hread (not_faulty_of_ofEntries? hlayer) hname hentry
      hvalue haccepts

theorem sets_iff {step : Step} {layer : Layer} (hlayer : step.layer? = some layer) :
    step.Sets key value ↔ key.given? layer = some value ∧ key.Accepts value := by
  cases step with
  | toml content => exact sets_toml_iff hlayer
  | file files path =>
      cases hread : files path with
      | error cause =>
          -- the file is missing, for it is not refused
          have hempty : layer = {} := by
            rw [layer?_file_of_error hread] at hlayer
            split at hlayer
            · exact (Option.some.inj hlayer).symm
            · contradiction
          refine iff_of_false ?_ ?_
          · rintro (_ | ⟨_, _, content, _, hcontent, -⟩)
            rw [hread] at hcontent
            contradiction
          · rintro ⟨hgiven, -⟩
            rw [hempty] at hgiven
            cases key <;> contradiction
      | ok content =>
          rw [layer?_file_of_ok hread] at hlayer
          rw [← sets_toml_iff hlayer]
          constructor
          · rintro (_ | ⟨_, _, other, _, hother, hsets⟩)
            rwa [Except.ok.inj (hread.symm.trans hother)]
          · exact .file files path content value hread
  | editor sent =>
      obtain rfl := Option.some.inj hlayer
      rw [key.given?_ofJson, Option.bind_eq_some_iff]
      constructor
      · rintro (_ | _ | ⟨_, json, _, hfield, hvalue, haccepts⟩)
        exact ⟨⟨json, hfield, key.ofJson?_eq_some_iff.mpr hvalue⟩, haccepts⟩
      · rintro ⟨⟨json, hfield, hvalue⟩, haccepts⟩
        exact .editor sent json value hfield (key.ofJson?_eq_some_iff.mp hvalue) haccepts

theorem Sets.not_fails {step : Step} (hsets : step.Sets key value) : ¬step.Fails := by
  induction hsets with
  | toml content entries name toml value hread hfaultless =>
      rintro (⟨_, hnone⟩ | ⟨_, other, hother, hfaulty⟩)
      · rw [hread] at hnone
        contradiction
      · rw [Option.some.inj (hother.symm.trans hread)] at hfaulty
        exact hfaultless hfaulty
  | file files path content value hread hsets ih => rwa [fails_file_of_ok_iff hread]
  | editor => exact nofun

end Sets

end Step

/-- The settings with a source on top. A source that is refused leaves them as they are. -/
def take (settings : Settings) (step : Step) : Settings := (step.run? settings).getD settings

def after (settings : Settings) (steps : List Step) : Settings := steps.foldl take settings

theorem after_append (settings : Settings) (front back : List Step) :
    settings.after (front ++ back) = (settings.after front).after back :=
  List.foldl_append

section Take

variable {settings : Settings} {step : Step} {α : Type} {key : Key α}

theorem take_of_layer? {layer : Layer} (hlayer : step.layer? = some layer) :
    settings.take step = settings.overlay layer := by
  rw [take, Step.run?_eq_map, hlayer, Option.map_some, Option.getD_some]

theorem run?_eq_none_iff : step.run? settings = none ↔ step.Fails := by
  rw [Step.run?_eq_map, Option.map_eq_none_iff, Step.layer?_eq_none_iff]

theorem take_of_fails (h : step.Fails) : settings.take step = settings := by
  rw [take, run?_eq_none_iff.mpr h, Option.getD_none]

theorem get_take_of_sets {value : α} (h : step.Sets key value) :
    key.get (settings.take step) = value := by
  have hsome : step.layer? ≠ none := mt Step.layer?_eq_none_iff.mp h.not_fails
  obtain ⟨layer, hlayer⟩ := Option.ne_none_iff_exists'.mp hsome
  obtain ⟨hgiven, haccepts⟩ := (Step.sets_iff hlayer).mp h
  rw [take_of_layer? hlayer, key.get_overlay_of_accepts hgiven haccepts]

theorem get_take_of_not_sets (h : ∀ value, ¬step.Sets key value) :
    key.get (settings.take step) = key.get settings := by
  cases hlayer : step.layer? with
  | none => rw [take_of_fails (Step.layer?_eq_none_iff.mp hlayer)]
  | some layer =>
      rw [take_of_layer? hlayer]
      refine key.get_overlay_of_forall_not fun value hgiven haccepts => ?_
      exact h value ((Step.sets_iff hlayer).mpr ⟨hgiven, haccepts⟩)

end Take

/-- After steps a setting has the value of the last step that sets it. -/
theorem get_after_iff {α : Type} (key : Key α) (settings : Settings) (steps : List Step)
    (value : α) :
    key.get (settings.after steps) = value ↔
      LastSets (Step.Sets key) steps value ∨
        (∀ step ∈ steps, ∀ value, ¬step.Sets key value) ∧ value = key.get settings :=
  get_foldl_eq_iff (Step.Sets key) key.get (fun _ _ _ => get_take_of_sets)
    fun _ _ => get_take_of_not_sets

/-! ### Loading -/

/-- Files are laid on top of each other if none is refused; else nothing comes of them. -/
theorem overlayFiles_cases (settings : Settings) (files : Files) (paths : List Path) :
    (∀ step ∈ paths.map (Step.file files), ¬step.Fails) ∧
        settings.overlayFiles files paths = .ok (settings.after (paths.map (.file files))) ∨
      (∃ step ∈ paths.map (Step.file files), step.Fails) ∧
        ∃ cause, settings.overlayFiles files paths = .error cause := by
  induction paths generalizing settings with
  | nil => exact Or.inl ⟨fun step hstep => absurd hstep List.not_mem_nil, rfl⟩
  | cons path paths ih =>
      have hrun : settings.overlayFiles files (path :: paths) =
          settings.overlayFile files path >>= (·.overlayFiles files paths) := List.foldlM_cons
      have hfails : (Step.file files path).run? settings = none ↔ (Step.file files path).Fails :=
        run?_eq_none_iff
      -- a file that is refused ends the loading, any other is a step
      rw [hrun, List.map_cons, List.forall_mem_cons, List.exists_mem_cons_iff, after,
        List.foldl_cons, ← after, ← hfails, take, Step.run?]
      cases settings.overlayFile files path with
      | error cause => exact Or.inr ⟨Or.inl rfl, cause, rfl⟩
      | ok next =>
          rcases ih next with ⟨hsteps, hok⟩ | ⟨hstep, herror⟩
          · exact Or.inl ⟨⟨nofun, hsteps⟩, hok⟩
          · exact Or.inr ⟨Or.inr hstep, herror⟩

end Settings

/-! ### Settings of a session -/

open Settings

namespace Session

/-- The settings files of a start: the user's, and on top of it the workspace's. -/
def startFiles (place : Place) (root : Option Uri) : List Step :=
  (place.userSettings.map (.file place.files)).toList ++
    ((root.bind Uri.filePath?).map fun directory =>
      .file place.files (directory.child workspaceFile)).toList

theorem startFiles_eq_map (place : Place) (root : Option Uri) :
    startFiles place root =
      (Settings.paths place.userSettings (root.bind Uri.filePath?)).map (.file place.files) := by
  rw [startFiles, Settings.paths]
  cases place.userSettings <;> cases root.bind Uri.filePath? <;> rfl

/-- Loading succeeds at a start. -/
def Loads (place : Place) (root : Option Uri) : Prop :=
  ∃ loaded, Settings.load place.files place.userSettings (root.bind Uri.filePath?) = .ok loaded

/-- A start begins with the files, unless one is refused, and the editor's settings follow. -/
theorem start_settings_cases (session : Session) (place : Place) (root : Option Uri)
    (options : Json) :
    (Loads place root ∧ ∀ step ∈ startFiles place root, ¬step.Fails) ∧
        (session.start place root options).settings =
          ({} : Settings).after (startFiles place root ++ [.editor options]) ∨
      (¬Loads place root ∧ ∃ step ∈ startFiles place root, step.Fails) ∧
        (session.start place root options).settings = session.settings.after [.editor options] := by
  rw [startFiles_eq_map, Session.start, Loads, Settings.load]
  dsimp only
  rcases overlayFiles_cases {} place.files
    (Settings.paths place.userSettings (root.bind Uri.filePath?)) with
    ⟨hsteps, hload⟩ | ⟨hstep, cause, hload⟩
  · refine Or.inl ⟨⟨⟨_, hload⟩, hsteps⟩, ?_⟩
    rw [hload, Settings.after_append]
    rfl
  · rw [hload]
    exact Or.inr ⟨⟨nofun, hstep⟩, rfl⟩

/-- The change of settings that a call brings. -/
def Call.change? : Call → Option Step
  | .notification (.settingsChanged sent) => some (.editor sent)
  | _ => none

theorem settings_take {session : Session} {call : Call} (hcall : ¬call.IsStart) :
    (session.take call).settings = session.settings.after call.change?.toList := by
  cases call with
  | request place request =>
      rw [take_request fun root options hstart => hcall ⟨place, root, options, hstart ▸ rfl⟩]
      rfl
  | notification notification =>
      cases notification with
      | changed uri texts =>
          rw [take, notify]
          cases texts.getLast? <;> rfl
      | started | opened | closed | settingsChanged | ignored => rfl

theorem settings_after {session : Session} {calls : List Call}
    (hcalls : ∀ call ∈ calls, ¬call.IsStart) :
    (session.after calls).settings = session.settings.after (calls.filterMap Call.change?) := by
  induction calls generalizing session with
  | nil => rfl
  | cons call calls ih =>
      rw [List.forall_mem_cons] at hcalls
      have hchange : (call :: calls).filterMap Call.change? =
          call.change?.toList ++ calls.filterMap Call.change? := by
        cases hcall : call.change? <;> simp [hcall]
      rw [hchange, Settings.after_append, ← settings_take hcalls.1, ← ih hcalls.2]
      rfl

theorem settings_after_start {session : Session} {place : Place} {root : Option Uri}
    {options : Json} {rest : List Call} (hrest : ∀ call ∈ rest, ¬call.IsStart) :
    (session.after (.request place (.start root options) :: rest)).settings =
      (session.start place root options).settings.after (rest.filterMap Call.change?) := by
  rw [← settings_after hrest]
  rfl

/-- **Settings come in layers, key by key.** After any steps a setting has the value of the last
step that sets it, and its old value if none does. A step that is refused changes nothing, while of
an editor's settings each one counts for itself. So a service has the defaults, the user's file, the
workspace's file, the options of its one start and every later change on top of each other, and does
without the files if one of them is refused. -/
theorem settings_layer_by_key :
    (∀ (settings : Settings) (steps : List Step) (α : Type) (key : Key α) (value : α),
      key.get (settings.after steps) = value ↔
        LastSets (Step.Sets key) steps value ∨
          (∀ step ∈ steps, ∀ value, ¬step.Sets key value) ∧ value = key.get settings) ∧
    (∀ (settings : Settings) (step : Step),
      (step.run? settings = none ↔ step.Fails) ∧
        (step.Fails → settings.take step = settings)) ∧
    (∀ (settings : Settings) (sent other : Json) (α : Type) (key : Key α),
      (∀ name ∈ key.names, (own sent).field? name = (own other).field? name) →
        key.get (settings.take (.editor sent)) = key.get (settings.take (.editor other))) ∧
    ∀ (attached : Bool) (arrivals : List Service.Arrival) (service : Service),
      service = ⟨.waiting, fresh {} attached⟩ →
      service.calls arrivals = [] ∧ (service.after arrivals).session.settings = {} ∨
      ∃ place root options rest,
        service.calls arrivals = .request place (.start root options) :: rest ∧
        (∀ call ∈ rest, ¬call.IsStart) ∧
        (Loads place root ↔ ∀ step ∈ startFiles place root, ¬step.Fails) ∧
        (Loads place root → (service.after arrivals).session.settings =
          ({} : Settings).after
            (startFiles place root ++ .editor options :: rest.filterMap Call.change?)) ∧
        (¬Loads place root → (service.after arrivals).session.settings =
          ({} : Settings).after (.editor options :: rest.filterMap Call.change?)) := by
  refine ⟨fun settings steps α key => get_after_iff key settings steps, fun settings step =>
    ⟨run?_eq_none_iff, take_of_fails⟩, ?_, ?_⟩
  · intro settings sent other α key hsame
    refine key.get_overlay_congr ?_
    rw [key.given?_ofJson, key.given?_ofJson, key.first?_congr hsame]
  · rintro attached arrivals service rfl
    rw [Service.after_session]
    have hwaiting : (⟨.waiting, fresh {} attached⟩ : Service).phase = .waiting := rfl
    rcases Service.calls_of_waiting hwaiting arrivals with
      hnil | ⟨place, root, options, rest, hcalls, hrest⟩
    · rw [hnil]
      exact Or.inl ⟨rfl, rfl⟩
    · refine Or.inr ⟨place, root, options, rest, hcalls, hrest, ?_⟩
      rw [hcalls, settings_after_start hrest]
      rcases start_settings_cases (fresh {} attached) place root options with
        ⟨⟨hloads, hsteps⟩, hstart⟩ | ⟨⟨hloads, step, hstep, hfails⟩, hstart⟩
      · refine ⟨iff_of_true hloads hsteps, fun _ => ?_, absurd hloads⟩
        rw [hstart, ← Settings.after_append, List.append_assoc, List.singleton_append]
      · refine ⟨iff_of_false hloads fun hsteps => hsteps step hstep hfails,
          fun h => absurd h hloads, fun _ => ?_⟩
        rw [hstart, ← Settings.after_append, List.singleton_append]
        rfl

/-- A valid text. -/
def validText : Text := "visibility = \"protected\"\n".toList

/-- A text with a valid value and a wrong one. -/
def halfText : Text := "visibility = \"public\"\nindent = 2\n".toList

/-- Settings of an editor with a wrong value and a valid one. -/
def halfSent : Json :=
  .object [(Layer.sectionKey,
    .object [("visibility", .string "friendly"), ("indent", .string "  ")])]

/-- The text that is half wrong counts for nothing, and the settings that are half wrong for the
other half. -/
theorem half_settings_layer_by_key :
    Step.Fails (.toml halfText) ∧
    Key.visibility.get (({} : Settings).after [.toml validText, .toml halfText, .editor halfSent]) =
      .protected ∧
    Key.indent.get (({} : Settings).after [.toml validText, .toml halfText, .editor halfSent]) =
      [' ', ' '] := by
  obtain ⟨hvalue, hrun, -, -⟩ := settings_layer_by_key
  have hfails : Step.Fails (.toml halfText) := (hrun {} (.toml halfText)).1.mp (by decide +kernel)
  have hvalid : Layer.ofToml? validText = some { visibility := some .protected } := by
    decide +kernel
  have hsent : (Step.editor halfSent).layer? = some { indent := some [' ', ' '] } := by
    decide +kernel
  have hvisibility : LastSets (Step.Sets Key.visibility)
      [.toml validText, .toml halfText, .editor halfSent] .protected := by
    refine ⟨[], _, _, rfl, (Step.sets_toml_iff hvalid).mpr ⟨rfl, trivial⟩, ?_⟩
    intro step hstep value hsets
    rcases List.mem_pair.mp hstep with rfl | rfl
    · exact hsets.not_fails hfails
    · exact nomatch ((Step.sets_iff hsent).mp hsets).1
  have hindent : LastSets (Step.Sets Key.indent)
      [.toml validText, .toml halfText, .editor halfSent] [' ', ' '] :=
    ⟨[.toml validText, .toml halfText], _, [], rfl, (Step.sets_iff hsent).mpr ⟨rfl, nofun⟩,
      fun step hstep => absurd hstep List.not_mem_nil⟩
  exact ⟨hfails, (hvalue {} _ _ Key.visibility _).mpr (Or.inl hvisibility),
    (hvalue {} _ _ Key.indent _).mpr (Or.inl hindent)⟩

end Session

end PropertyInsertion

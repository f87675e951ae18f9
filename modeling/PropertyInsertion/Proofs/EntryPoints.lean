import PropertyInsertion.Command.Run
import PropertyInsertion.Proofs.SyncedText

/-!
# The ways to an insertion

An editor gets an insertion as a plan in JSON or as an edit in a code action, and the command line
prints the text with the insertion made. All three make the same edit. An editor that takes the plan
reads it back from JSON, so the readers of positions, ranges and edits come first.
-/

namespace PropertyInsertion

/-! ### Plans and edits read from JSON -/

def Json.nat? : Json → Option Nat
  | .integer value => if 0 ≤ value then some value.toNat else none
  | _ => none

@[simp] theorem Json.nat?_nat (n : Nat) : (Json.nat n).nat? = some n := by
  simp [nat, nat?]

def Position.ofJson? (value : Json) : Option Position := do
  let line ← value.field? "line" >>= Json.nat?
  let column ← value.field? "character" >>= Json.nat?
  return ⟨line, column⟩

@[simp] theorem Position.ofJson?_toJson (position : Position) :
    ofJson? position.toJson = some position := by
  simp [ofJson?, toJson, Json.field?, List.lookup_cons]

def Range.ofJson? (value : Json) : Option Range := do
  let start ← value.field? "start" >>= Position.ofJson?
  let stop ← value.field? "end" >>= Position.ofJson?
  return ⟨start, stop⟩

@[simp] theorem Range.ofJson?_toJson (range : Range) : ofJson? range.toJson = some range := by
  simp [ofJson?, toJson, Json.field?, List.lookup_cons]

def Target.ofJson? (value : Json) : Option Target :=
  match value.stringField? "kind" with
  | some "insert" => (value.field? "at" >>= Position.ofJson?).map .insert
  | some "replace" => (value.field? "range" >>= Range.ofJson?).map .replace
  | _ => none

@[simp] theorem Target.ofJson?_toJson (target : Target) : ofJson? target.toJson = some target := by
  cases target <;>
    simp [ofJson?, toJson, Json.stringField?, Json.string?, Json.field?, List.lookup_cons]

namespace Edit

def ofJson? (value : Json) : Option Edit := do
  let range ← value.field? "range" >>= Range.ofJson?
  let text ← value.stringField? "newText"
  return ⟨range, text.toList⟩

@[simp] theorem ofJson?_toJson (edit : Edit) : ofJson? edit.toJson = some edit := by
  simp [ofJson?, toJson, Json.stringField?, Json.string?, Json.field?, List.lookup_cons]

/-- The edit that an editor makes from a plan in JSON if its user types nothing. -/
def ofPlanJson? (value : Json) : Option Edit := do
  let target ← value.field? "target" >>= Target.ofJson?
  let snippet ← value.stringField? "text"
  return ⟨target.range, Snippet.render snippet.toList⟩

@[simp] theorem ofPlanJson?_toJson (plan : Plan) : ofPlanJson? plan.toJson = some plan.edit := by
  simp [ofPlanJson?, Plan.toJson, Plan.edit, Json.stringField?, Json.string?, Json.field?,
    List.lookup_cons]

end Edit

/-! ### The command line -/

namespace Command

theorem ofArguments?_plan_apply {file : String} (hfile : file ≠ "")
    (hword : Argument.ofString file = .word file) :
    Invocation.ofArguments? ["plan", file, "--apply"] = some (.plan { file, apply := true }) := by
  have hplan : Argument.ofString "plan" = .word "plan" := by decide +kernel
  have happly : Argument.ofString "--apply" = .long "apply" none := by decide +kernel
  simp [Invocation.ofArguments?, arguments?, planArguments?, hplan, happly, hword, asksHelp,
    Options.setFile?, Options.once, Options.setFlag?, Options.request?, hfile]

theorem run_plan_apply {place : Place} {arguments : List String} {request : PlanRequest}
    {content : Text} {loaded : Settings} {plan : Plan}
    (harguments : Invocation.ofArguments? arguments = some (.plan request))
    (happly : request.apply = true) (hfile : place.files request.path = .ok content)
    (hload : Settings.load place.files place.userSettings place.directory = .ok loaded)
    (hplan : Plan.ofText content (request.settings loaded) request.name = .ok plan) :
    run place arguments = { code := 0, output := String.ofList (plan.edit.apply content) } := by
  rw [run, harguments]
  dsimp only [Invocation.run]
  rw [PlanRequest.plan, hfile, hload]
  simp [Except.mapError, bind, Except.bind, pure, Except.pure, PlanRequest.print, happly, hplan]

end Command

namespace Session

/-! ### Code actions -/

/-- The edits of the one code action in an answer, by document. -/
def actionChanges? : Json → Option (List (String × List Edit))
  | .array [action] => do
    match ← action.field? "edit" >>= Json.field? "changes" with
    | .object fields => fields.mapM fun (uri, edits) => do
        return (uri, ← (← edits.array?).mapM Edit.ofJson?)
    | _ => none
  | _ => none

theorem actionChanges?_actionJson (document : Uri) (edit : Edit) :
    actionChanges? (.array [actionJson document edit]) = some [(document.toString, [edit])] := by
  simp [actionChanges?, actionJson, Json.field?, List.lookup_cons, Json.array?]

theorem isWanted_iff {only : Option (List String)} :
    isWanted only = true ↔
      ∀ kinds, only = some kinds → ∃ kind ∈ kinds, kind.toList <+: actionKind.toList := by
  cases only <;> simp [isWanted]

/-! ### The same edit -/

/-- A document that is open is known by the written form of a URI. -/
theorem Reachable.exists_uri {session : Session} {uri : String} {text : Text}
    (hreachable : session.Reachable) (hopen : session.text? uri = some text) :
    ∃ document : Uri, document.toString = uri := by
  obtain ⟨settings, attached, calls, rfl⟩ := hreachable
  rcases (text?_after_iff settings attached calls uri _).mp hopen with
    ⟨-, call, -, -, hcall, -⟩ | ⟨-, hnone⟩
  · cases hcall with
    | opened document text huri => exact ⟨document, huri⟩
    | changed document texts text huri hlast => exact ⟨document, huri⟩
  · contradiction

theorem plannedFor_some_eq_some_iff {text name : Text} {settings : Settings} {plan : Plan} :
    plannedFor (some text) settings name = some plan ↔
      Plan.ofText text settings name = .ok plan := by
  rw [plannedFor, Option.bind_some]
  cases Plan.ofText text settings name <;> simp [Except.toOption]

/-- A request for a plan is answered from the text and leaves the session as it is. -/
theorem request_of_asksPlan {session : Session} {place : Place} {request : Request} {uri : String}
    {name text : Text} {form : Plan → Json} (hasks : request.AsksPlan uri name form)
    (hopen : session.text? uri = some text) :
    session.request place request =
      (session, .ok ((plannedFor (some text) session.settings name).elim .null form),
        (session.request place request).2.2) := by
  have hsame : session.take (.request place request) = session := by
    refine take_request fun root options hstart => ?_
    rw [hstart] at hasks
    cases hasks
  refine Prod.ext hsame (Prod.ext ?_ rfl)
  rw [answer_of_asksPlan hasks, hopen]

/-- **All ways lead to the same edit.** For an open document, code actions and the command answer
nothing at the same time. Else the code action makes one edit, the one that the plan of the command
spells, and the command line prints the text with this edit made, given a file with that text and
the same settings. Neither request changes the session. -/
theorem entry_points_agree {session : Session} {uri : String} {text : Text}
    (hreachable : session.Reachable) (hopen : session.text? uri = some text) :
    (∃ document : Uri, document.toString = uri) ∧
    ∀ (document : Uri) (only : Option (List String)) (place : Place), document.toString = uri →
      (∀ kinds, only = some kinds → ∃ kind ∈ kinds, kind.toList <+: actionKind.toList) →
      ∃ action command tellings,
        session.request place (.codeActions document only) = (session, .ok action, []) ∧
        session.request place (.runCommand insertCommand [.string uri]) =
          (session, .ok command, tellings) ∧
        (action = .null ↔ command = .null) ∧
        (command ≠ .null → ∃ edit, Edit.ofPlanJson? command = some edit ∧
          actionChanges? action = some [(uri, [edit])] ∧
          ∀ (directory : Command.Place) (file : String), file ≠ "" →
            Command.Argument.ofString file = .word file →
            directory.files (.ofString file) = .ok text →
            Settings.load directory.files directory.userSettings directory.directory =
              .ok session.settings →
            Command.run directory ["plan", file, "--apply"] =
              { code := 0, output := String.ofList (edit.apply text) }) := by
  refine ⟨hreachable.exists_uri hopen, ?_⟩
  rintro document only place rfl honly
  have haction : session.request place (.codeActions document only) = _ :=
    request_of_asksPlan (.action document only (isWanted_iff.mpr honly) rfl rfl) hopen
  have hcommand :
      session.request place (.runCommand insertCommand [.string document.toString]) = _ :=
    request_of_asksPlan (.command [.string document.toString] rfl) hopen
  refine ⟨_, _, _, haction, hcommand, ?_⟩
  cases hplanned : plannedFor (some text) session.settings Plan.defaultName with
  | none => exact ⟨iff_of_true rfl rfl, fun hsome => absurd rfl hsome⟩
  | some plan =>
      refine ⟨iff_of_false Json.noConfusion Json.noConfusion, fun _ => ⟨plan.edit,
        Edit.ofPlanJson?_toJson plan, actionChanges?_actionJson document plan.edit, ?_⟩⟩
      intro directory file hfile hword hcontent hload
      -- without options the command line plans for the name that the requests plan for
      exact Command.run_plan_apply (Command.ofArguments?_plan_apply hfile hword) rfl hcontent hload
        (plannedFor_some_eq_some_iff.mp hplanned)

def sampleText : Text := "class A\n\x7b\n    function __construct() \x7b\x7d\n\x7d\n".toList

/-- A session with one open document. -/
def sampleSession : Session :=
  (fresh {} true).after [.notification (.opened sampleUri sampleText)]

/-- A directory with the same text in a file. -/
def sampleDirectory : Command.Place :=
  ⟨fun path => if path = .ofString "a.php" then .ok sampleText else .error .notFound, none, none⟩

theorem sample_entry_points_agree :
    sampleSession.Reachable ∧ sampleSession.text? sampleUri.toString = some sampleText ∧
    ∃ action command tellings edit,
      sampleSession.request ⟨sampleDirectory.files, none⟩ (.codeActions sampleUri none) =
        (sampleSession, .ok action, []) ∧
      sampleSession.request ⟨sampleDirectory.files, none⟩
        (.runCommand insertCommand [.string sampleUri.toString]) =
        (sampleSession, .ok command, tellings) ∧
      Edit.ofPlanJson? command = some edit ∧
      actionChanges? action = some [(sampleUri.toString, [edit])] ∧
      Command.run sampleDirectory ["plan", "a.php", "--apply"] =
        { code := 0, output := String.ofList (edit.apply sampleText) } := by
  have hreachable : sampleSession.Reachable := ⟨{}, true, _, rfl⟩
  have hopen : sampleSession.text? sampleUri.toString = some sampleText :=
    text?_take_of_syncs (.opened sampleUri sampleText rfl)
  obtain ⟨action, command, tellings, haction, hcommand, -, hedit⟩ :=
    (entry_points_agree hreachable hopen).2 sampleUri none ⟨sampleDirectory.files, none⟩ rfl nofun
  have hsome : command ≠ .null := by
    have hanswer : sampleSession.request ⟨sampleDirectory.files, none⟩
        (.runCommand insertCommand [.string sampleUri.toString]) = _ :=
      request_of_asksPlan (.command [.string sampleUri.toString] rfl) hopen
    have hplanned : (plannedFor (some sampleText) {} Plan.defaultName).isSome = true := by
      decide +kernel
    obtain ⟨plan, hplan⟩ := Option.isSome_iff_exists.mp hplanned
    have hsettings : sampleSession.settings = {} := rfl
    rw [hcommand, hsettings, hplan] at hanswer
    rw [Except.ok.inj (Prod.mk.inj (Prod.mk.inj hanswer).2).1]
    exact Json.noConfusion
  obtain ⟨edit, hplan, hchanges, hrun⟩ := hedit hsome
  exact ⟨hreachable, hopen, action, command, tellings, edit, haction, hcommand, hplan, hchanges,
    hrun sampleDirectory "a.php" (by decide) (by decide +kernel) (if_pos rfl) rfl⟩

end Session

end PropertyInsertion

import PropertyInsertion.Proofs.EntryPoints
import PropertyInsertion.Proofs.Failures

/-!
# Documents under the URI they were opened with

A message about a document holds a spelling of its URI. Opening a document and asking for its code
actions go by the normal form of that spelling, the command goes by the spelling itself. So the
command finds the document that was opened with the same spelling exactly if that is the normal
form.
-/

namespace PropertyInsertion.Session

/-! ### Messages with a spelling -/

def openParams (uri : String) (text : Text) : Json :=
  .object [("textDocument", .object [("uri", .string uri), ("languageId", .string "php"),
    ("version", .nat 1), ("text", .string (String.ofList text))])]

def actionParams (uri : String) : Json :=
  .object [("textDocument", .object [("uri", .string uri)]),
    ("range", (Range.empty ⟨0, 0⟩).toJson), ("context", .object [("diagnostics", .array [])])]

def commandParams (uri : String) : Json :=
  .object [("command", .string insertCommand), ("arguments", .array [.string uri])]

/-- The session after a message that opens a document under a spelling of its URI. -/
def opening (session : Session) (uri : String) (text : Text) : Session :=
  session.take (.notification
    (Notification.ofMessage "textDocument/didOpen" (some (openParams uri text))))

/-- The answer to a message that holds a request. -/
def reply (session : Session) (place : Place) (method : String) (params : Json) :
    Except Refusal Json :=
  (Request.ofMessage method (some params)).bind fun request => (session.request place request).2.1

theorem ofMessage_commandParams (uri : String) :
    Request.ofMessage "workspace/executeCommand" (some (commandParams uri)) =
      .ok (.runCommand insertCommand [.string uri]) := by
  have hread : Params.read "workspace/executeCommand" (commandParams uri) =
      .ok (commandParams uri) := by
    simp [Params.read, Params.answered, List.lookup_cons, Params.executeCommand, Params.progress,
      commandParams, Shape.read, Shape.readField, Shape.readText, Shape.readParts,
      Shape.refuseMissing, Shape.missing?, Shape.isNeeded, bind, Except.bind, pure, Except.pure]
  rw [Request.ofMessage, if_neg (by decide)]
  rw [hread]
  simp [Request.read, Message.runCommand?, commandParams, Json.field?, Json.stringField?,
    Json.string?, Json.array?, List.lookup_cons]

section Spelling

variable {uri : String} {document : Uri} (huri : Uri.parse? uri = some document)

include huri

theorem readUri_of_parse? : Shape.readUri (.string uri) = .ok (.string uri) := by
  rw [Uri.parse?] at huri
  cases hparse : Uri.parse uri with
  | error error =>
      rw [hparse] at huri
      contradiction
  | ok same => simp [Shape.readUri, hparse]

theorem ofMessage_openParams (text : Text) :
    Notification.ofMessage "textDocument/didOpen" (some (openParams uri text)) =
      .opened document text := by
  have hread : Params.read "textDocument/didOpen" (openParams uri text) =
      .ok (openParams uri text) := by
    simp [Params.read, Params.answered, List.lookup_cons, Params.didOpen, Params.number, openParams,
      Json.nat, Shape.read, Shape.readField, Shape.readText, Shape.readInteger,
      readUri_of_parse? huri, Shape.refuseMissing, Shape.missing?, Shape.isNeeded, bind,
      Except.bind, pure, Except.pure]
  rw [Notification.ofMessage, Option.map_some, hread]
  simp [Notification.read, Message.opened?, Message.documentUri?, openParams, Json.field?,
    Json.stringField?, Json.string?, List.lookup_cons, huri]

theorem ofMessage_actionParams :
    Request.ofMessage "textDocument/codeAction" (some (actionParams uri)) =
      .ok (.codeActions document none) := by
  have hread : Params.read "textDocument/codeAction" (actionParams uri) =
      .ok (actionParams uri) := by
    simp [Params.read, Params.answered, List.lookup_cons, Params.codeAction, Params.document,
      Params.range, Params.position, Params.natural, Params.progress, Params.partialResults,
      actionParams, Range.empty, Range.toJson, Position.toJson, Json.nat, Shape.read,
      Shape.readField, Shape.readInteger, readUri_of_parse? huri, Shape.readParts,
      Shape.refuseMissing, Shape.missing?, Shape.isNeeded, bind, Except.bind, pure, Except.pure]
  rw [Request.ofMessage, if_neg (by decide)]
  rw [hread]
  simp [Request.read, Message.codeActions?, Message.documentUri?, actionParams, Json.field?,
    Json.stringField?, Json.string?, List.lookup_cons, huri]

/-! ### Texts and plans under a spelling -/

variable (session : Session) (place : Place) (text : Text)

/-- An opened document is kept under the normal form of its URI. -/
theorem text?_opening (other : String) :
    (session.opening uri text).text? other =
      if other = document.toString then some text else session.text? other := by
  rw [opening, ofMessage_openParams huri, take, notify, text?_remember]

theorem settings_opening : (session.opening uri text).settings = session.settings := by
  rw [opening, ofMessage_openParams huri]
  rfl

theorem reply_actionParams :
    (session.opening uri text).reply place "textDocument/codeAction" (actionParams uri) =
      .ok ((plannedFor (some text) session.settings Plan.defaultName).elim .null
        fun plan => .array [actionJson document plan.edit]) := by
  have hasks : (Request.codeActions document none).AsksPlan document.toString Plan.defaultName
      fun plan => .array [actionJson document plan.edit] := .action document none rfl rfl rfl
  rw [reply, ofMessage_actionParams huri, Except.bind, answer_of_asksPlan hasks,
    text?_opening huri, if_pos rfl, settings_opening huri]

theorem reply_commandParams :
    (session.opening uri text).reply place "workspace/executeCommand" (commandParams uri) =
      .ok ((plannedFor (if uri = document.toString then some text else session.text? uri)
        session.settings Plan.defaultName).elim .null Plan.toJson) := by
  have hasks : (Request.runCommand insertCommand [.string uri]).AsksPlan uri Plan.defaultName
      Plan.toJson := .command [.string uri] rfl
  rw [reply, ofMessage_commandParams, Except.bind, answer_of_asksPlan hasks, text?_opening huri,
    settings_opening huri]

end Spelling

theorem elim_null_ne_iff {plan? : Option Plan} {form : Plan → Json}
    (hform : ∀ plan, form plan ≠ .null) :
    (.ok (plan?.elim .null form) : Except Refusal Json) ≠ .ok .null ↔ plan?.isSome = true := by
  cases plan? with
  | none => simp
  | some plan => simpa using hform plan

def emptyClass : Text := "class A \x7b\n\x7d".toList

theorem plannedFor_emptyClass (settings : Settings) :
    (plannedFor (some emptyClass) settings Plan.defaultName).isSome = true := by
  have hscan : (Declarations.scan (Document.ofText emptyClass).view).constructor? = none ∧
      (Declarations.scan (Document.ofText emptyClass).view).insertionLine
        (Document.ofText emptyClass).view.numbers = some 1 ∧
      1 < (Document.ofText emptyClass).lineCount ∧
      isPropertyName Plan.defaultName = true := by decide +kernel
  obtain ⟨hctor, hline, hcount, hname⟩ := hscan
  obtain ⟨plan, hplan⟩ : ∃ plan, Plan.ofText emptyClass settings Plan.defaultName = .ok plan :=
    Plan.exists_plan_of_no_constructor hname hctor hline hcount
  rw [plannedFor_some_eq_some_iff.mpr hplan, Option.isSome_some]

/-- **Under which URI a document is found.** After a document was opened with a spelling of its URI,
its code actions are those for its text. The command with the same spelling finds that text exactly
if the spelling is the normal form, and else what was known under the spelling before. So it answers
with a plan wherever there is a code action exactly if the spelling is the normal form, or if it had
a plan to answer with all along. -/
theorem command_finds_opened_iff {uri : String} {document : Uri}
    (huri : Uri.parse? uri = some document) (session : Session) (place : Place) :
    (∀ text,
      (session.opening uri text).text? document.toString = some text ∧
      (session.opening uri text).text? uri =
        (if uri = document.toString then some text else session.text? uri) ∧
      (session.opening uri text).reply place "textDocument/codeAction" (actionParams uri) =
        .ok ((plannedFor (some text) session.settings Plan.defaultName).elim .null
          fun plan => .array [actionJson document plan.edit]) ∧
      (session.opening uri text).reply place "workspace/executeCommand" (commandParams uri) =
        .ok ((plannedFor (if uri = document.toString then some text else session.text? uri)
          session.settings Plan.defaultName).elim .null Plan.toJson)) ∧
    ((∀ text,
      (session.opening uri text).reply place "textDocument/codeAction" (actionParams uri) ≠
        .ok .null →
      (session.opening uri text).reply place "workspace/executeCommand" (commandParams uri) ≠
        .ok .null) ↔
      uri = document.toString ∨
        (plannedFor (session.text? uri) session.settings Plan.defaultName).isSome = true) := by
  constructor
  · intro text
    refine ⟨?_, text?_opening huri session text uri, reply_actionParams huri session place text,
      reply_commandParams huri session place text⟩
    rw [text?_opening huri, if_pos rfl]
  · have haction : ∀ plan : Plan, Json.array [actionJson document plan.edit] ≠ .null :=
      fun _ => Json.noConfusion
    have hcommand : ∀ plan : Plan, plan.toJson ≠ .null := fun _ => Json.noConfusion
    simp only [reply_actionParams huri, reply_commandParams huri, elim_null_ne_iff haction,
      elim_null_ne_iff hcommand]
    by_cases hnormal : uri = document.toString
    · simp only [if_pos hnormal]
      exact iff_of_true (fun _ h => h) (Or.inl hnormal)
    · simp only [if_neg hnormal]
      constructor
      · intro h
        exact Or.inr (h emptyClass (plannedFor_emptyClass session.settings))
      · rintro (h | h) text -
        · exact absurd h hnormal
        · exact h

theorem sample_command_finds_opened :
    Uri.parse? "file:///a.php" = some sampleUri ∧
    ((fresh {} true).opening "file:///a.php" emptyClass).reply ⟨sampleDirectory.files, none⟩
      "workspace/executeCommand" (commandParams "file:///a.php") ≠ .ok .null := by
  have huri : Uri.parse? "file:///a.php" = some sampleUri ∧
      "file:///a.php" = sampleUri.toString := by decide +kernel
  have hfinds := command_finds_opened_iff huri.1 (fresh {} true) ⟨sampleDirectory.files, none⟩
  refine ⟨huri.1, hfinds.2.mpr (Or.inl huri.2) emptyClass ?_⟩
  rw [(hfinds.1 emptyClass).2.2.1, elim_null_ne_iff fun _ => Json.noConfusion]
  exact plannedFor_emptyClass _

def spacedUri : Uri := ⟨Uri.fileScheme, some ⟨[], []⟩, "/a%20b.php".toList, none, none⟩

/-- A blank in a URI has a code in the normal form, so the command does not find the document. -/
theorem spaced_command_finds_nothing :
    Uri.parse? "file:///a b.php" = some spacedUri ∧
    ((fresh {} true).opening "file:///a b.php" emptyClass).reply ⟨sampleDirectory.files, none⟩
      "textDocument/codeAction" (actionParams "file:///a b.php") ≠ .ok .null ∧
    ((fresh {} true).opening "file:///a b.php" emptyClass).reply ⟨sampleDirectory.files, none⟩
      "workspace/executeCommand" (commandParams "file:///a b.php") = .ok .null := by
  have huri : Uri.parse? "file:///a b.php" = some spacedUri ∧
      "file:///a b.php" ≠ spacedUri.toString := by decide +kernel
  refine ⟨huri.1, ?_, ?_⟩
  · rw [reply_actionParams huri.1, elim_null_ne_iff fun _ => Json.noConfusion]
    exact plannedFor_emptyClass _
  · rw [reply_commandParams huri.1, if_neg huri.2]
    rfl

end PropertyInsertion.Session

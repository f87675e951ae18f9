import PropertyInsertion.Proofs.Entries
import PropertyInsertion.Proofs.Runs

/-!
# What a session knows of a document

A session plans against the text that the editor sent last. Here that text is told from the calls of
a run, without the session: the last one to open, change or close the document decides. Plans leave
no trace, and neither do messages that the service drops.
-/

namespace PropertyInsertion.Session

/-! ### The open documents -/

theorem text?_forget (session : Session) (uri other : String) :
    (session.forget uri).text? other = if other = uri then none else session.text? other :=
  lookup_filter_ne session.documents uri other

theorem text?_remember (session : Session) (uri other : String) (text : Text) :
    (session.remember uri text).text? other =
      if other = uri then some text else session.text? other :=
  lookup_cons_filter_ne session.documents uri other text

theorem text?_request (session : Session) (place : Place) (request : Request) (uri : String) :
    (session.request place request).1.text? uri = session.text? uri := by
  by_cases hstart : ∃ root options, request = .start root options
  · obtain ⟨root, options, rfl⟩ := hstart
    rfl
  · have hsame : session.take (.request place request) = session :=
      take_request fun root options h => hstart ⟨root, options, h⟩
    rw [take] at hsame
    rw [hsame]

/-- The call gives the document with this URI a text or takes its text away. All other calls, such
as changes without a text, messages about other documents, settings and requests, do neither. -/
inductive Call.Syncs (uri : String) : Call → Option Text → Prop
  | opened (document : Uri) (text : Text) (huri : document.toString = uri) :
    Syncs uri (.notification (.opened document text)) (some text)
  | changed (document : Uri) (texts : List Text) (text : Text) (huri : document.toString = uri)
    (hlast : texts.getLast? = some text) :
    Syncs uri (.notification (.changed document texts)) (some text)
  | closed (document : Uri) (huri : document.toString = uri) :
    Syncs uri (.notification (.closed document)) none

section Take

variable {session : Session} {call : Call} {uri : String} {text? : Option Text}

theorem text?_take_of_syncs (h : call.Syncs uri text?) : (session.take call).text? uri = text? := by
  cases h with
  | opened document text huri =>
      rw [take, notify, text?_remember, if_pos huri.symm]
  | changed document texts text huri hlast =>
      rw [take, notify, hlast]
      dsimp only
      rw [text?_remember, if_pos huri.symm]
  | closed document huri =>
      rw [take, notify, text?_forget, if_pos huri.symm]

theorem text?_take_of_not_syncs (h : ∀ text?, ¬call.Syncs uri text?) :
    (session.take call).text? uri = session.text? uri := by
  cases call with
  | request place request => exact text?_request session place request uri
  | notification notification =>
      cases notification with
      | started => rfl
      | opened document text =>
          have hother : uri ≠ document.toString :=
            fun huri => h (some text) (.opened document text huri.symm)
          rw [take, notify, text?_remember, if_neg hother]
      | changed document texts =>
          rw [take, notify]
          cases hlast : texts.getLast? with
          | none => rfl
          | some text =>
              have hother : uri ≠ document.toString :=
                fun huri => h (some text) (.changed document texts text huri.symm hlast)
              dsimp only
              rw [text?_remember, if_neg hother]
      | closed document =>
          have hother : uri ≠ document.toString :=
            fun huri => h none (.closed document huri.symm)
          rw [take, notify, text?_forget, if_neg hother]
      | settingsChanged settings => rfl
      | ignored => rfl

end Take

/-- The text that calls leave behind for a document: that of the last call that gave it one or took
it away, and none if no call did. -/
def SyncedText (calls : List Call) (uri : String) (text? : Option Text) : Prop :=
  LastSets (Call.Syncs uri) calls text? ∨
    (∀ call ∈ calls, ∀ text?, ¬call.Syncs uri text?) ∧ text? = none

theorem text?_after_iff (settings : Settings) (attached : Bool) (calls : List Call) (uri : String)
    (text? : Option Text) :
    ((fresh settings attached).after calls).text? uri = text? ↔ SyncedText calls uri text? :=
  get_foldl_eq_iff (Call.Syncs uri) (Session.text? · uri) (fun _ _ _ => text?_take_of_syncs)
    fun _ _ => text?_take_of_not_syncs

/-! ### Plans along a run -/

/-- The request asks for the plan for a document and a name, and answers with a form of it. -/
inductive Request.AsksPlan (uri : String) (name : Text) : Request → (Plan → Json) → Prop
  | command (arguments : List Json) (harguments : commandArguments? arguments = some (uri, name)) :
    AsksPlan uri name (.runCommand insertCommand arguments) Plan.toJson
  | action (document : Uri) (only : Option (List String)) (hwanted : isWanted only = true)
    (huri : document.toString = uri) (hname : name = Plan.defaultName) :
    AsksPlan uri name (.codeActions document only)
      fun plan => .array [actionJson document plan.edit]

/-- The plan for a text that may be missing. -/
def plannedFor (text? : Option Text) (settings : Settings) (name : Text) : Option Plan :=
  text?.bind fun text => (Plan.ofText text settings name).toOption

theorem answer_of_asksPlan {session : Session} {place : Place} {request : Request} {uri : String}
    {name : Text} {form : Plan → Json} (h : request.AsksPlan uri name form) :
    (session.request place request).2.1 =
      .ok ((plannedFor (session.text? uri) session.settings name).elim .null form) := by
  cases h with
  | command arguments harguments =>
      rw [Session.request, if_pos rfl]
      dsimp only
      rw [Session.insert, harguments]
      dsimp only
      rw [plan?, plannedFor]
      cases session.text? uri with
      | none => rfl
      | some text =>
          cases hplan : Plan.ofText text session.settings name <;>
            simp [hplan, Except.toOption]
  | action document only hwanted huri hname =>
      rw [Session.request, codeActions, if_pos hwanted, huri, hname, plan?, plannedFor]
      cases session.text? uri with
      | none => rfl
      | some text =>
          cases hplan : Plan.ofText text session.settings Plan.defaultName <;>
            simp [hplan, Except.toOption]

/-- The call runs a command or asks for code actions. -/
def Call.isPlanning : Call → Bool
  | .request _ (.runCommand _ _) => true
  | .request _ (.codeActions _ _) => true
  | _ => false

theorem take_of_isPlanning (session : Session) {call : Call} (h : call.isPlanning = true) :
    session.take call = session := by
  cases call with
  | request place request =>
      refine take_request fun root options hstart => ?_
      rw [hstart] at h
      contradiction
  | notification notification => contradiction

/-- A run without its plans ends in the same session. -/
theorem after_filter_isPlanning (session : Session) (calls : List Call) :
    session.after (calls.filter (!·.isPlanning)) = session.after calls := by
  induction calls generalizing session with
  | nil => rfl
  | cons call calls ih =>
      cases hcall : call.isPlanning with
      | true =>
          rw [List.filter_cons_of_neg (by simp [hcall]), ih, after, after, List.foldl_cons,
            take_of_isPlanning session hcall]
      | false =>
          rw [List.filter_cons_of_pos (by simp [hcall]), after, List.foldl_cons, ← after, ih, after,
            after, List.foldl_cons]

/-- **Every request sees the last text.** After a run, in a session or through the service, the text
of a document is the one that the last call about it left. What else is called does not matter to
it. A plan is the one for this text and the settings of that moment, whatever was planned before,
and messages that the service drops change no later answer. -/
theorem run_sees_last_text (settings : Settings) (attached : Bool) :
    (∀ calls,
      (∀ uri text?, ((fresh settings attached).after calls).text? uri = text? ↔
        SyncedText calls uri text?) ∧
      (∀ call uri, (∀ text?, ¬call.Syncs uri text?) →
        ((fresh settings attached).after (calls ++ [call])).text? uri =
          ((fresh settings attached).after calls).text? uri) ∧
      (∀ place request uri name form text?, request.AsksPlan uri name form →
        SyncedText calls uri text? →
        (((fresh settings attached).after calls).request place request).2.1 =
          .ok ((plannedFor text? ((fresh settings attached).after calls).settings name).elim
            .null form)) ∧
      (fresh settings attached).after (calls.filter (!·.isPlanning)) =
        (fresh settings attached).after calls) ∧
    ∀ (service : Service) (arrivals : List Service.Arrival),
      service.session = fresh settings attached →
      (∀ uri text?, (service.after arrivals).session.text? uri = text? ↔
        SyncedText (service.calls arrivals) uri text?) ∧
      (∀ arrival place request uri name form text?,
        (service.after arrivals).call? arrival = some (.request place request) →
        request.AsksPlan uri name form → SyncedText (service.calls arrivals) uri text? →
        ((service.after arrivals).answer arrival).1 =
          .result ((plannedFor text? (service.after arrivals).session.settings name).elim
            .null form)) ∧
      ∀ arrival, (service.after (service.heard arrivals)).answer arrival =
        (service.after arrivals).answer arrival := by
  refine ⟨fun calls => ⟨?_, ?_, ?_, ?_⟩, fun service arrivals hsession => ⟨?_, ?_, ?_⟩⟩
  · exact text?_after_iff settings attached calls
  · intro call uri hcall
    rw [after_append]
    exact text?_take_of_not_syncs hcall
  · intro place request uri name form text? hasks hsynced
    rw [answer_of_asksPlan hasks, (text?_after_iff settings attached calls uri text?).mpr hsynced]
  · exact after_filter_isPlanning (fresh settings attached) calls
  · intro uri text?
    rw [Service.after_session, hsession]
    exact text?_after_iff settings attached _ uri text?
  · intro arrival place request uri name form text? hcall hasks hsynced
    rw [← text?_after_iff settings attached, ← hsession, ← Service.after_session] at hsynced
    rw [Service.answer_of_call? hcall, answer_of_asksPlan hasks, hsynced]
    rfl
  · intro arrival
    rw [Service.after_heard]

def sampleUri : Uri := ⟨Uri.fileScheme, some ⟨[], []⟩, "/a.php".toList, none, none⟩

def otherUri : Uri := ⟨Uri.fileScheme, some ⟨[], []⟩, "/b.php".toList, none, none⟩

/-- A document is closed and opened again, and another one changes. -/
def reopening : List Call :=
  [.notification (.opened sampleUri ['a']), .notification (.closed sampleUri),
    .notification (.opened sampleUri ['b']), .notification (.changed otherUri [['c']]),
    .notification (.changed sampleUri [])]

theorem reopening_sees_last_text :
    SyncedText reopening sampleUri.toString (some ['b']) ∧
    ((fresh {} true).after reopening).text? sampleUri.toString = some ['b'] := by
  have hsynced : SyncedText reopening sampleUri.toString (some ['b']) := by
    refine Or.inl ⟨reopening.take 2, _, reopening.drop 3, rfl, .opened sampleUri ['b'] rfl, ?_⟩
    intro call hcall text? hsyncs
    rcases List.mem_pair.mp hcall with rfl | rfl
    · have hne : otherUri.toString ≠ sampleUri.toString := by decide +kernel
      cases hsyncs with
      | changed document texts text huri hlast => exact hne huri
    · cases hsyncs with
      | changed document texts text huri hlast => simp at hlast
  exact ⟨hsynced, (((run_sees_last_text {} true).1 reopening).1 _ _).mpr hsynced⟩

end PropertyInsertion.Session

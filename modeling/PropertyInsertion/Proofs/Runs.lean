import PropertyInsertion.Session.Service
import Mathlib.Data.List.Basic

/-!
# Runs of a session and of the service

A run of a session is a list of calls, a run of the service a list of messages. Most messages amount
to a call of the session inside; the others, among them those before the start and behind the
shutdown, leave the session as it is. So a run of the service is a run of its session.
-/

namespace PropertyInsertion

/-! ### The last one counts -/

/-- The last of the items that sets anything sets this value. -/
def LastSets {α β : Type} (Sets : α → β → Prop) (items : List α) (value : β) : Prop :=
  ∃ before item later, items = before ++ item :: later ∧ Sets item value ∧
    ∀ other ∈ later, ∀ value, ¬Sets other value

theorem exists_lastSets_or_forall_not {α β : Type} (Sets : α → β → Prop) (items : List α) :
    (∃ value, LastSets Sets items value) ∨ ∀ item ∈ items, ∀ value, ¬Sets item value := by
  induction items with
  | nil => exact Or.inr fun item hitem => absurd hitem List.not_mem_nil
  | cons item items ih =>
      rcases ih with ⟨value, before, last, later, rfl, hlast, hlater⟩ | hnone
      · exact Or.inl ⟨value, item :: before, last, later, rfl, hlast, hlater⟩
      · by_cases hitem : ∃ value, Sets item value
        · obtain ⟨value, hvalue⟩ := hitem
          exact Or.inl ⟨value, [], item, items, rfl, hvalue, hnone⟩
        · refine Or.inr fun other hother value hsets => ?_
          rcases List.mem_cons.mp hother with rfl | hmem
          · exact hitem ⟨value, hsets⟩
          · exact hnone other hmem value hsets

section LastSets

variable {α β σ : Type} (Sets : α → β → Prop) (get : σ → β) {step : σ → α → σ} {items : List α}
  (hsets : ∀ state item value, Sets item value → get (step state item) = value)
  (hkeeps : ∀ state item, (∀ value, ¬Sets item value) → get (step state item) = get state)

include hkeeps

theorem get_foldl_of_forall_not (hnone : ∀ item ∈ items, ∀ value, ¬Sets item value) (state : σ) :
    get (items.foldl step state) = get state := by
  induction items generalizing state with
  | nil => rfl
  | cons item items ih =>
      rw [List.foldl_cons, ih fun other hother => hnone other (List.mem_cons_of_mem item hother),
        hkeeps state item (hnone item List.mem_cons_self)]

include hsets

theorem get_foldl_of_lastSets {value : β} (hlast : LastSets Sets items value) (state : σ) :
    get (items.foldl step state) = value := by
  obtain ⟨before, item, later, rfl, hitem, hlater⟩ := hlast
  rw [List.foldl_append, List.foldl_cons, get_foldl_of_forall_not Sets get hkeeps hlater,
    hsets _ item value hitem]

/-- The value after a run is that of the last item that sets one, or the old value if there is
none. -/
theorem get_foldl_eq_iff {value : β} {state : σ} :
    get (items.foldl step state) = value ↔
      LastSets Sets items value ∨
        (∀ item ∈ items, ∀ value, ¬Sets item value) ∧ value = get state := by
  constructor
  · rintro rfl
    rcases exists_lastSets_or_forall_not Sets items with ⟨value, hlast⟩ | hnone
    · rw [get_foldl_of_lastSets Sets get hsets hkeeps hlast]
      exact Or.inl hlast
    · exact Or.inr ⟨hnone, get_foldl_of_forall_not Sets get hkeeps hnone state⟩
  · rintro (hlast | ⟨hnone, rfl⟩)
    · exact get_foldl_of_lastSets Sets get hsets hkeeps hlast state
    · exact get_foldl_of_forall_not Sets get hkeeps hnone state

end LastSets

/-! ### Runs of a session -/

namespace Session

/-- A call of a session. A request is made where certain files can be read. -/
inductive Call where
  | request (place : Place) (request : Request)
  | notification (notification : Notification)

def take (session : Session) : Call → Session
  | .request place request => (session.request place request).1
  | .notification notification => (session.notify notification).1

def after (session : Session) (calls : List Call) : Session :=
  calls.foldl take session

/-- A session before its first call. -/
def fresh (settings : Settings) (attached : Bool) : Session := { settings, attached }

/-- A session that came about by calls alone. -/
def Reachable (session : Session) : Prop :=
  ∃ settings attached calls, session = (fresh settings attached).after calls

theorem after_append (session : Session) (front back : List Call) :
    session.after (front ++ back) = (session.after front).after back :=
  List.foldl_append

/-- The call starts the session. -/
def Call.IsStart (call : Call) : Prop :=
  ∃ place root options, call = .request place (.start root options)

/-- Only the start makes a request change the session. -/
theorem take_request {session : Session} {place : Place} {request : Request}
    (h : ∀ root options, request ≠ .start root options) :
    session.take (.request place request) = session := by
  cases request with
  | start root options => exact absurd rfl (h root options)
  | shutdown => rfl
  | runCommand command arguments =>
      rw [take, Session.request]
      split <;> rfl
  | codeActions uri only => rfl
  | unsupported => rfl

end Session

/-! ### Runs of the service -/

namespace Service

open Session

/-- A message, and where the service takes it. -/
structure Arrival where
  place : Place
  message : Message

def take (service : Service) (arrival : Arrival) : Service :=
  (service.step arrival.place arrival.message).1

/-- The reply to a message and what is told. -/
def answer (service : Service) (arrival : Arrival) : Reply × List Telling :=
  (service.step arrival.place arrival.message).2

def after (service : Service) (arrivals : List Arrival) : Service :=
  arrivals.foldl take service

/-- The message comes before the start or behind the shutdown. Only the start is taken before the
start, and only the exit at any time. -/
def drops (phase : Phase) (message : Message) : Bool :=
  match phase with
  | .waiting => message.method != "exit" && !(message.isRequest && message.method == "initialize")
  | .running => false
  | .stopped => message.method != "exit"
  | .exited => true

/-- The messages of a run that are not dropped. -/
def heard (service : Service) : List Arrival → List Arrival
  | [] => []
  | arrival :: rest =>
    if drops service.phase arrival.message then service.heard rest
    else arrival :: (service.take arrival).heard rest

/-- The call of the session that a message amounts to. -/
def call? (service : Service) (arrival : Arrival) : Option Call :=
  let message := arrival.message
  if service.phase = .exited ∨ message.method = "exit" then none
  else if message.isRequest then
    if (refusal? service.phase message.method).isSome then none
    else (Request.ofMessage message.method message.params).toOption.map (.request arrival.place)
  else if service.phase = .running then
    some (.notification (Notification.ofMessage message.method message.params))
  else none

/-- The calls of the session that the messages of a run amount to. -/
def calls (service : Service) : List Arrival → List Call
  | [] => []
  | arrival :: rest => (service.call? arrival).toList ++ (service.take arrival).calls rest

/-- The reply that carries the answer of a session. -/
def Reply.ofAnswer : Except Refusal Json → Reply
  | .ok value => .result value
  | .error cause => .refused cause

/-! ### One message -/

theorem refusal?_eq_none {phase : Phase} {method : String} (h : refusal? phase method = none) :
    (phase = .waiting ∧ method = "initialize") ∨ (phase = .running ∧ method ≠ "initialize") := by
  unfold refusal? at h
  split at h
  · contradiction
  · split at h
    · contradiction
    · cases phase with
      | waiting =>
          refine Or.inl ⟨rfl, ?_⟩
          by_contra hmethod
          simp [hmethod] at h
      | running =>
          refine Or.inr ⟨rfl, ?_⟩
          rintro rfl
          simp at h
      | stopped => contradiction
      | exited => contradiction

theorem isStart_read_iff {method : String} {params : Json} :
    (∃ root options, Request.read method params = .start root options) ↔
      method = "initialize" := by
  unfold Request.read
  split
  next hmethod => simp [hmethod, Message.start?]
  next hmethod =>
    simp only [hmethod, iff_false, not_exists]
    intro root options
    split
    · cases hcommand : params.stringField? "command" <;> simp [Message.runCommand?, hcommand]
    · split
      · cases huri : Message.documentUri? params <;> cases hcontext : params.field? "context" <;>
          simp [Message.codeActions?, huri, hcontext]
      · simp

theorem isStart_ofMessage_iff {method : String} {params : Option Json} {request : Request}
    (h : Request.ofMessage method params = .ok request) :
    (∃ root options, request = .start root options) ↔ method = "initialize" := by
  unfold Request.ofMessage at h
  split at h
  next hmethod =>
    cases params with
    | none =>
        obtain rfl := Except.ok.inj h
        simp [hmethod]
    | some params => contradiction
  next =>
    cases params with
    | none => contradiction
    | some params =>
        dsimp only at h
        split at h
        · contradiction
        · obtain rfl := Except.ok.inj h
          exact isStart_read_iff

theorem enter_eq_waiting_iff {phase : Phase} {method : String} :
    phase.enter method = .waiting ↔ phase = .waiting := by
  unfold Phase.enter
  split
  next h => simp [h.1]
  next => rfl

/-- What the service does with a message: it leaves the session alone, or it makes one call of it
and answers with the answer of that call. The start is the one call that ends the waiting. -/
inductive Step (service : Service) (arrival : Arrival) : Service × Reply × List Telling → Prop
  | idle (phase : Phase) (reply : Reply) (hcall : service.call? arrival = none)
    (hphase : phase = .waiting ↔ service.phase = .waiting ∧ arrival.message.method ≠ "exit") :
    Step service arrival (⟨phase, service.session⟩, reply, [])
  | request (request : Request) (phase : Phase)
    (hcall : service.call? arrival = some (.request arrival.place request))
    (hstart : service.phase = .waiting ↔ ∃ root options, request = .start root options)
    (hphase : phase ≠ .waiting) :
    Step service arrival (⟨phase, (service.session.request arrival.place request).1⟩,
      .ofAnswer (service.session.request arrival.place request).2.1,
      (service.session.request arrival.place request).2.2)
  | notification (notification : Notification) (phase : Phase)
    (hcall : service.call? arrival = some (.notification notification))
    (hrunning : service.phase = .running) (hphase : phase ≠ .waiting) :
    Step service arrival (⟨phase, (service.session.notify notification).1⟩, .none,
      (service.session.notify notification).2)

section Step

variable {service : Service} {arrival : Arrival}

theorem step_of_request (hphase : service.phase ≠ .exited)
    (hexit : arrival.message.method ≠ "exit") (hrequest : arrival.message.isRequest = true) :
    Step service arrival
      (service.request arrival.place arrival.message.method arrival.message.params) := by
  unfold Service.request
  cases hrefusal : refusal? service.phase arrival.message.method with
  | some cause =>
      exact .idle service.phase _ (by simp [call?, hphase, hexit, hrequest, hrefusal])
        (by simp [hexit])
  | none =>
      have hcall : service.call? arrival =
          (Request.ofMessage arrival.message.method arrival.message.params).toOption.map
            (.request arrival.place) := by
        simp [call?, hphase, hexit, hrequest, hrefusal]
      dsimp only
      cases hmessage : Request.ofMessage arrival.message.method arrival.message.params with
      | error cause =>
          rw [hmessage] at hcall
          exact .idle _ _ hcall (by rw [enter_eq_waiting_iff]; simp [hexit])
      | ok request =>
          rw [hmessage] at hcall
          have hstart := isStart_ofMessage_iff hmessage
          have hgate := refusal?_eq_none hrefusal
          have hwaiting : service.phase = .waiting ↔
              ∃ root options, request = .start root options := by
            rw [hstart]
            rcases hgate with ⟨hphase, hmethod⟩ | ⟨hphase, hmethod⟩ <;> simp [hphase, hmethod]
          have hstep := fun phase => Step.request request phase hcall hwaiting
          -- a start is always answered, so an error leaves the phase of a session that runs
          have herror : ∀ cause,
              (service.session.request arrival.place request).2.1 = .error cause →
                service.phase ≠ .waiting := by
            rintro cause hcause hphase
            obtain ⟨root, options, rfl⟩ := hwaiting.mp hphase
            contradiction
          dsimp only
          generalize service.session.request arrival.place request = outcome at hstep herror ⊢
          obtain ⟨session, answer, tellings⟩ := outcome
          cases answer with
          | ok value =>
              refine hstep _ ?_
              rcases hgate with ⟨hphase, -⟩ | ⟨hphase, -⟩
              · obtain ⟨root, options, rfl⟩ := hwaiting.mp hphase
                exact nofun
              · cases request <;> simp [Phase.behind, enter_eq_waiting_iff, hphase]
          | error cause =>
              refine hstep _ ?_
              rw [Ne, enter_eq_waiting_iff]
              exact herror cause rfl

theorem step_of_notification (hexit : arrival.message.method ≠ "exit")
    (hrequest : arrival.message.isRequest = false) :
    Step service arrival
      ((service.notify arrival.message.method arrival.message.params).1, .none,
        (service.notify arrival.message.method arrival.message.params).2) := by
  unfold Service.notify
  split
  next hrunning =>
    exact .notification _ _ (by simp [call?, hexit, hrequest, hrunning]) hrunning
      (by rw [Ne, enter_eq_waiting_iff, hrunning]; exact nofun)
  next hrunning =>
    exact .idle service.phase _ (by simp [call?, hexit, hrequest, hrunning]) (by simp [hexit])

theorem step_cases (service : Service) (arrival : Arrival) :
    Step service arrival (service.step arrival.place arrival.message) := by
  unfold Service.step
  split
  next hexited =>
    exact .idle service.phase _ (by simp [call?, hexited]) (by simp [hexited])
  next hphase =>
    split
    next hexit => exact .idle _ _ (by simp [call?, hexit]) (by simp [hexit])
    next hexit =>
      split
      next hrequest => exact step_of_request hphase hexit hrequest
      next hrequest => exact step_of_notification hexit (Bool.eq_false_iff.mpr hrequest)

/-- A message changes the session by the call that it amounts to. -/
theorem take_session (service : Service) (arrival : Arrival) :
    (service.take arrival).session = service.session.after (service.call? arrival).toList := by
  have hstep := step_cases service arrival
  unfold take
  generalize service.step arrival.place arrival.message = result at hstep ⊢
  cases hstep with
  | idle phase reply hcall => rw [hcall]; rfl
  | request request phase hcall => rw [hcall]; rfl
  | notification notification phase hcall => rw [hcall]; rfl

/-- A request that gets through is answered by the session. -/
theorem answer_of_call? {place : Place} {request : Request}
    (hcall : service.call? arrival = some (.request place request)) :
    service.answer arrival = (.ofAnswer (service.session.request place request).2.1,
      (service.session.request place request).2.2) := by
  have hstep := step_cases service arrival
  unfold answer
  generalize service.step arrival.place arrival.message = result at hstep ⊢
  cases hstep with
  | idle phase reply hnone =>
      rw [hnone] at hcall
      contradiction
  | request other phase hother =>
      obtain ⟨rfl, rfl⟩ := Call.request.inj (Option.some.inj (hother.symm.trans hcall))
      rfl
  | notification notification phase hother =>
      have hsame := Option.some.inj (hother.symm.trans hcall)
      contradiction

/-- A message that is dropped leaves the service as it is. -/
theorem take_of_drops (h : drops service.phase arrival.message = true) :
    service.take arrival = service := by
  have hgate : service.phase = .exited ∨ arrival.message.method ≠ "exit" ∧
      service.phase ≠ .running ∧
        (arrival.message.isRequest = true →
          refusal? service.phase arrival.message.method ≠ none) := by
    cases hphase : service.phase with
    | waiting =>
        rw [hphase, drops, Bool.and_eq_true, bne_iff_ne] at h
        refine Or.inr ⟨h.1, nofun, fun hrequest hnone => ?_⟩
        rcases refusal?_eq_none hnone with ⟨-, hmethod⟩ | ⟨hrunning, -⟩
        · simp [hrequest, hmethod] at h
        · contradiction
    | running =>
        rw [hphase] at h
        contradiction
    | stopped =>
        rw [hphase, drops, bne_iff_ne] at h
        refine Or.inr ⟨h, nofun, fun _ hnone => ?_⟩
        rcases refusal?_eq_none hnone with ⟨hphase, -⟩ | ⟨hphase, -⟩ <;> contradiction
    | exited => exact Or.inl rfl
  unfold take Service.step
  rcases hgate with hexited | ⟨hexit, hrunning, hrefusal⟩
  · rw [if_pos hexited]
  · by_cases hexited : service.phase = .exited
    · rw [if_pos hexited]
    · rw [if_neg hexited, if_neg hexit]
      split
      next hrequest =>
        obtain ⟨cause, hcause⟩ := Option.ne_none_iff_exists'.mp (hrefusal hrequest)
        rw [Service.request, hcause]
      next => rw [Service.notify, if_neg hrunning]

end Step

/-! ### Runs -/

/-- The session after a run is the session after the calls that the messages amount to. -/
theorem after_session (service : Service) (arrivals : List Arrival) :
    (service.after arrivals).session = service.session.after (service.calls arrivals) := by
  induction arrivals generalizing service with
  | nil => rfl
  | cons arrival arrivals ih =>
      rw [after, List.foldl_cons, ← after, ih, take_session, calls, after_append]

theorem after_heard (service : Service) (arrivals : List Arrival) :
    service.after (service.heard arrivals) = service.after arrivals := by
  induction arrivals generalizing service with
  | nil => rfl
  | cons arrival arrivals ih =>
      rw [heard]
      split
      next hdrops =>
        rw [ih]
        nth_rewrite 2 [after]
        rw [List.foldl_cons, take_of_drops hdrops, after]
      next =>
        rw [after, List.foldl_cons, ← after, ih, after, after, List.foldl_cons]

/-! ### The start

The first call of a run is the start, and no other call is. -/

section Start

variable {service : Service} {arrival : Arrival}

theorem take_phase_ne_waiting (hphase : service.phase ≠ .waiting) :
    (service.take arrival).phase ≠ .waiting := by
  have hstep := step_cases service arrival
  unfold take
  generalize service.step arrival.place arrival.message = result at hstep ⊢
  cases hstep with
  | idle phase reply hcall hwaiting => exact fun hnext => hphase (hwaiting.mp hnext).1
  | request request phase hcall hstart hnext => exact hnext
  | notification notification phase hcall hrunning hnext => exact hnext

theorem not_isStart_of_call? {call : Call} (hphase : service.phase ≠ .waiting)
    (hcall : service.call? arrival = some call) : ¬call.IsStart := by
  rintro ⟨place, root, options, rfl⟩
  have hstep := step_cases service arrival
  generalize service.step arrival.place arrival.message = result at hstep
  cases hstep with
  | idle phase reply hnone =>
      rw [hnone] at hcall
      contradiction
  | request request phase hrequest hstart =>
      obtain ⟨-, rfl⟩ := Call.request.inj (Option.some.inj (hrequest.symm.trans hcall))
      exact hphase (hstart.mpr ⟨root, options, rfl⟩)
  | notification notification phase hnotification =>
      have hsame := Option.some.inj (hnotification.symm.trans hcall)
      contradiction

/-- A service that waits goes on to wait, until it makes the start or is told to exit. -/
theorem take_of_waiting (hphase : service.phase = .waiting)
    (hexit : arrival.message.method ≠ "exit") :
    service.call? arrival = none ∧ (service.take arrival).phase = .waiting ∨
      ∃ root options, service.call? arrival = some (.request arrival.place (.start root options)) ∧
        (service.take arrival).phase ≠ .waiting := by
  have hstep := step_cases service arrival
  unfold take
  generalize service.step arrival.place arrival.message = result at hstep ⊢
  cases hstep with
  | idle phase reply hcall hwaiting => exact Or.inl ⟨hcall, hwaiting.mpr ⟨hphase, hexit⟩⟩
  | request request phase hcall hstart hnext =>
      obtain ⟨root, options, rfl⟩ := hstart.mp hphase
      exact Or.inr ⟨root, options, hcall, hnext⟩
  | notification notification phase hcall hrunning =>
      rw [hphase] at hrunning
      contradiction

theorem calls_of_exited (hphase : service.phase = .exited) (arrivals : List Arrival) :
    service.calls arrivals = [] := by
  induction arrivals with
  | nil => rfl
  | cons arrival arrivals ih =>
      have hsame : service.take arrival = service := take_of_drops (by rw [hphase]; rfl)
      have hcall : service.call? arrival = none := by simp [call?, hphase]
      rw [calls, hcall, hsame, ih]
      rfl

theorem not_isStart_of_mem_calls {arrivals : List Arrival} (hphase : service.phase ≠ .waiting) :
    ∀ call ∈ service.calls arrivals, ¬call.IsStart := by
  induction arrivals generalizing service with
  | nil => exact fun call hcall => absurd hcall List.not_mem_nil
  | cons arrival arrivals ih =>
      intro call hcall
      rw [calls, List.mem_append, Option.mem_toList] at hcall
      rcases hcall with hcall | hcall
      · exact not_isStart_of_call? hphase hcall
      · exact ih (take_phase_ne_waiting hphase) call hcall

theorem calls_of_waiting (hphase : service.phase = .waiting) (arrivals : List Arrival) :
    service.calls arrivals = [] ∨
      ∃ place root options rest,
        service.calls arrivals = .request place (.start root options) :: rest ∧
          ∀ call ∈ rest, ¬call.IsStart := by
  induction arrivals generalizing service with
  | nil => exact Or.inl rfl
  | cons arrival arrivals ih =>
      rw [calls]
      -- an exit ends the waiting without a start, and then there is no call any more
      by_cases hexit : arrival.message.method = "exit"
      · have hcall : service.call? arrival = none := by simp [call?, hexit]
        have hexited : (service.take arrival).phase = .exited := by
          simp [take, step, hphase, hexit]
        rw [hcall, calls_of_exited hexited]
        exact Or.inl rfl
      · rcases take_of_waiting hphase hexit with ⟨hcall, hnext⟩ | ⟨root, options, hcall, hnext⟩
        · rw [hcall]
          exact ih hnext
        · rw [hcall]
          exact Or.inr ⟨arrival.place, root, options, _, rfl, not_isStart_of_mem_calls hnext⟩

end Start

end Service

end PropertyInsertion

import PropertyInsertion.Session.Message

/-!
# The service around a session

A session is started once and shut down once. Before and after, requests are refused and
notifications are dropped; after the exit nothing is answered at all.
-/

namespace PropertyInsertion

inductive Phase where
  | waiting
  | running
  | stopped
  | exited
deriving DecidableEq, Repr

namespace Phase

/-- The phase that a message brings about by its method alone. -/
def enter (phase : Phase) (method : String) : Phase :=
  if phase = .running ∧ method = "shutdown" then .stopped else phase

/-- The phase behind a request that was answered. -/
def behind (phase : Phase) : Session.Request → Phase
  | .start _ _ => .running
  | _ => phase

end Phase

structure Service where
  phase : Phase := .waiting
  session : Session := {}
deriving DecidableEq, Repr

namespace Service

open Session

structure Message where
  method : String
  params : Option Json
  /-- A request has an answer, a notification has none. -/
  isRequest : Bool

inductive Reply where
  | none
  | result (value : Json)
  | refused (cause : Refusal)
  | exited

/-- The notification that takes a request back. -/
def cancelMethod : String := "$/cancelRequest"

/-- Methods that an editor may send to anyone; who does not know them keeps silent. -/
def isOptional (method : String) : Bool :=
  ['$', '/'].isPrefixOf method.toList

/-- Why a request is refused for its method and time. A method that the protocol does not know is
refused at any time, and so is the taking back of a request, which is not a request itself. -/
def refusal? (phase : Phase) (method : String) : Option Refusal :=
  if method = cancelMethod then some .invalidRequest
  else if !Message.isRequestMethod method && !Message.isNotificationMethod method then
    some .methodNotFound
  else
    match phase with
    | .waiting => if method = "initialize" then none else some .notStarted
    | .running =>
      if method = "initialize" || Message.isNotificationMethod method then some .invalidRequest
      else none
    | .stopped | .exited => some .invalidRequest

def refuse (method : String) : Refusal → Reply
  | .methodNotFound => if isOptional method then .none else .refused .methodNotFound
  | cause => .refused cause

def request (service : Service) (place : Place) (method : String) (params : Option Json) :
    Service × Reply × List Telling :=
  match refusal? service.phase method with
  | some cause => (service, refuse method cause, [])
  | none =>
    let service := { service with phase := service.phase.enter method }
    match Request.ofMessage method params with
    | .error cause => (service, .refused cause, [])
    | .ok request =>
      match service.session.request place request with
      | (session, .ok value, tellings) =>
        (⟨service.phase.behind request, session⟩, .result value, tellings)
      | (session, .error cause, tellings) =>
        ({ service with session }, .refused cause, tellings)

def notify (service : Service) (method : String) (params : Option Json) :
    Service × List Telling :=
  if service.phase = .running then
    let notification := Notification.ofMessage method params
    let (session, tellings) := service.session.notify notification
    (⟨service.phase.enter method, session⟩, tellings)
  else (service, [])

/-- The service after a message, the reply and what is told. -/
def step (service : Service) (place : Place) (message : Message) :
    Service × Reply × List Telling :=
  if service.phase = .exited then (service, .exited, [])
  else if message.method = "exit" then ({ service with phase := .exited }, .none, [])
  else if message.isRequest then service.request place message.method message.params
  else
    let (service, tellings) := service.notify message.method message.params
    (service, .none, tellings)

end Service

end PropertyInsertion

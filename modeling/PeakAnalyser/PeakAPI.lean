import PeakAnalyser.Library.Runs
import Mathlib.Logic.Function.Basic

/-!
# Subscriptions of a `PeakAPI`

`subscribeToObservable` and `subscribeToState` ask the server for a subscription, wait for
the guid, and only then give the callback to the transport and note the guid in
`m_subscribers`; `unsubscribe` waits for the answer of the server before it takes the
callback away. Notifications arrive meanwhile: on the io thread of the WebSocket connection,
in the order of everything the server sends, or over HTTP on the threads of the
notification server, in any order. A step of the system is one statement of the calling
thread, one message taken by the server or by the client, or one notification sent.
Messages are neither lost nor doubled on their way.
-/

namespace PeakAnalyser

set_option autoImplicit false

/-- What `scheme` tells apart. -/
inductive Transport where
  | http | webSocket
  deriving DecidableEq

inductive AttachmentMode where
  | none | inline | http | file
  deriving DecidableEq

def attachmentModeToString : AttachmentMode → String
  | .inline => "Inline"
  | .http => "Http"
  | .file => "File"
  | .none => "None"

/-- The calls `SubscribeToObservable` and `SubscribeToState`. `method` is the topic under which
the notifications come. -/
structure SubscribeCall where
  name : String
  observable : Option String := none
  method : String
  attachmentSetting : List (String × String) := []
  notificationServer : Option String := none
  deriving DecidableEq

inductive PeakRequest where
  | subscribe (call : SubscribeCall)
  | unsubscribe (guid : Nat)
  deriving DecidableEq

/-- The guids are numbered in the order in which the server gives them. -/
inductive CallReply where
  | guid (guid : Nat)
  | done
  | error
  deriving DecidableEq

structure SentNotification where
  number : Nat
  guid : Nat
  topic : String
  deriving DecidableEq

/-- What is on its way from the server. -/
inductive WireMessage where
  | notification (n : SentNotification)
  | reply (r : CallReply)
  deriving DecidableEq

namespace WireMessage

def notification? : WireMessage → Option SentNotification
  | .notification n => some n
  | .reply _ => none

def reply? : WireMessage → Option CallReply
  | .notification _ => none
  | .reply r => some r

end WireMessage

/-- The next statement of the calling thread. -/
inductive PeakAPIPlace (C : Type) where
  | idle
  | subscribing (method : String) (callback : C)
  | registering (method : String) (callback : C) (guid : Nat)
  | recording (method : String) (guid : Nat)
  | unsubscribing (guid : Nat) (method : String)
  | removing (guid : Nat) (method : String)
  | erasing (guid : Nat) (method : String)
  deriving DecidableEq

/-- The thread is between the request for a subscription under the topic and the registration
of its callback. -/
def PeakAPIPlace.subscribes {C : Type} (topic : String) : PeakAPIPlace C → Bool
  | .subscribing method _ | .registering method _ _ => method == topic
  | _ => false

/-- A `PeakAPI`, its transport and its server. A callback that `operator[]` of the WebSocket
client has inserted is empty and counts as none. `accepted` has the subscriptions by their
guids, with the callbacks they were asked for, `sent` the guids of the notifications by their
numbers, `delivered` the calls of callbacks, and `returned` the guids for which `unsubscribe`
has come to its end: these four are records for the statements below. -/
structure PeakAPI (C : Type) where
  transport : Transport
  notificationServer : String := ""
  place : PeakAPIPlace C := .idle
  request : Option PeakRequest := none
  answer : Option CallReply := none
  wire : List WireMessage := []
  callbacks : String → Option C := fun _ => none
  subscribers : List (Nat × String) := []
  observableId : UInt64 := 0
  stateId : UInt64 := 0
  active : List (Nat × String) := []
  accepted : List (String × C) := []
  sent : List Nat := []
  delivered : List (Nat × C) := []
  returned : List Nat := []

namespace PeakAPI

inductive Label (C : Type) where
  | subscribeToObservable (observable : String) (callback : C) (attachmentMode : AttachmentMode)
  | subscribeToState (callback : C)
  | unsubscribe (guid : Nat)
  /-- The calling thread goes on with its next statement. -/
  | proceed
  /-- The call of the calling thread ends with an exception of the transport. -/
  | raise
  /-- Other instances have used the counters, which are static. -/
  | otherInstance (observables states : UInt64)
  | serve (accepts : Bool)
  | notify (guid : Nat)
  | handle (index : Nat)
  deriving DecidableEq

variable {C : Type} (s : PeakAPI C)

def notifications : List SentNotification := s.wire.filterMap WireMessage.notification?

def replies : List CallReply := s.answer.toList ++ s.wire.filterMap WireMessage.reply?

/-- The last argument of the calls over HTTP. -/
def server? : Option String :=
  match s.transport with
  | .http => some s.notificationServer
  | .webSocket => none

def startSubscribing (call : SubscribeCall) (callback : C) : PeakAPI C :=
  { s with place := .subscribing call.method callback, request := some (.subscribe call) }

def subscribeToObservable (observable : String) (callback : C) (attachmentMode : AttachmentMode) :
    Option (PeakAPI C) :=
  match s.place with
  | .idle =>
    some ({ s with observableId := s.observableId + 1 }.startSubscribing
      { name := "SubscribeToObservable"
        observable := some observable
        method := observable ++ toString s.observableId.toNat
        attachmentSetting :=
          [("AttachmentMode", attachmentModeToString attachmentMode),
           ("AttachmentCompressionMode", "None")]
        notificationServer := s.server? } callback)
  | _ => none

def subscribeToState (callback : C) : Option (PeakAPI C) :=
  match s.place with
  | .idle =>
    some ({ s with stateId := s.stateId + 1 }.startSubscribing
      { name := "SubscribeToState"
        method := "State" ++ toString s.stateId.toNat
        notificationServer := s.server? } callback)
  | _ => none

/-- A guid that is not in `m_subscribers` is passed over. -/
def unsubscribe (guid : Nat) : Option (PeakAPI C) :=
  match s.place with
  | .idle =>
    match s.subscribers.find? fun it => it.1 == guid with
    | none => some s
    | some it =>
      some { s with
        place := .unsubscribing guid it.2
        request := some (.unsubscribe guid) }
  | _ => none

/-- The exception leaves `subscribeToObservable`, `subscribeToState` or `unsubscribe`. -/
def thrown : PeakAPI C :=
  { s with
    place := .idle
    request := none
    answer := none
    wire := s.wire.filter fun m => m.reply?.isNone }

/-- `call` waits for the response, and throws on one that is an error or has not the type that
is wanted. -/
def proceed : Option (PeakAPI C) :=
  match s.place with
  | .idle => none
  | .subscribing method callback =>
    match s.answer with
    | none => none
    | some (.guid guid) =>
      some { s with place := .registering method callback guid, answer := none }
    | some _ => some s.thrown
  | .registering method callback guid =>
    some { s with
      place := .recording method guid
      callbacks := Function.update s.callbacks method (some callback) }
  | .recording method guid =>
    some { s with
      place := .idle
      subscribers := if s.subscribers.any fun it => it.1 == guid then s.subscribers
        else s.subscribers ++ [(guid, method)] }
  | .unsubscribing guid method =>
    match s.answer with
    | none => none
    | some .error => some s.thrown
    | some _ => some { s with place := .removing guid method, answer := none }
  | .removing guid method =>
    some { s with
      place := .erasing guid method
      callbacks := Function.update s.callbacks method none }
  | .erasing guid _ =>
    some { s with
      place := .idle
      subscribers := s.subscribers.filter fun it => it.1 != guid
      returned := guid :: s.returned }

def raise : Option (PeakAPI C) :=
  match s.place with
  | .subscribing _ _ | .unsubscribing _ _ => some s.thrown
  | _ => none

def acceptSubscription (method : String) (callback : C) : PeakAPI C :=
  { s with
    request := none
    active := s.active ++ [(s.accepted.length, method)]
    accepted := s.accepted ++ [(method, callback)]
    wire := s.wire ++ [.reply (.guid s.accepted.length)] }

def endSubscription (guid : Nat) : PeakAPI C :=
  { s with
    request := none
    active := s.active.filter fun a => a.1 != guid
    wire := s.wire ++ [.reply .done] }

def decline : PeakAPI C :=
  { s with request := none, wire := s.wire ++ [.reply .error] }

/-- The server takes the request. -/
def serve (accepts : Bool) : Option (PeakAPI C) :=
  match s.request, s.place with
  | some (.subscribe call), .subscribing _ callback =>
    some (if accepts then s.acceptSubscription call.method callback else s.decline)
  | some (.unsubscribe guid), _ =>
    some (if accepts then s.endSubscription guid else s.decline)
  | _, _ => none

/-- The server sends a notification of a subscription it has. -/
def notify (guid : Nat) : Option (PeakAPI C) :=
  (s.active.find? fun a => a.1 == guid).map fun a =>
    { s with
      sent := s.sent ++ [guid]
      wire := s.wire ++ [.notification ⟨s.sent.length, guid, a.2⟩] }

/-- The callback of the topic is called, if there is one. -/
def dispatch (n : SentNotification) : List (Nat × C) :=
  s.delivered ++ ((s.callbacks n.topic).map fun callback => (n.number, callback)).toList

/-- A message is taken on the side of the client. -/
def handle (index : Nat) : Option (PeakAPI C) :=
  if s.transport = .webSocket ∧ index ≠ 0 then none
  else
    match s.wire[index]? with
    | none => none
    | some (.reply r) => some { s with wire := s.wire.eraseIdx index, answer := some r }
    | some (.notification n) =>
      some { s with wire := s.wire.eraseIdx index, delivered := s.dispatch n }

def step : Label C → Option (PeakAPI C)
  | .subscribeToObservable observable callback attachmentMode =>
    s.subscribeToObservable observable callback attachmentMode
  | .subscribeToState callback => s.subscribeToState callback
  | .unsubscribe guid => s.unsubscribe guid
  | .proceed => s.proceed
  | .raise => s.raise
  | .otherInstance observables states =>
    some { s with
      observableId := s.observableId + observables
      stateId := s.stateId + states }
  | .serve accepts => s.serve accepts
  | .notify guid => s.notify guid
  | .handle index => s.handle index

/-- Before the first call. -/
def start (transport : Transport) : PeakAPI C := { transport }

/-- The topic is not used: not by a callback, not by a subscription of the server and not by a
notification on its way. -/
def unused (topic : String) : Bool :=
  (s.callbacks topic).isNone && !(s.active.any fun a => a.2 == topic) &&
    !(s.notifications.any fun n => n.topic == topic)

/-- No topic is taken again while it is in use. -/
def unshared : Label C → Bool
  | .subscribeToObservable observable _ _ => s.unused (observable ++ toString s.observableId.toNat)
  | .subscribeToState _ => s.unused ("State" ++ toString s.stateId.toNat)
  | _ => true

/-- No notification is dispatched between the request for its subscription and the registration
of the callback, nor, over HTTP, overtaken by the removal of the callback; and a call for a
subscription does not fail once the server has accepted it. -/
def prompt : Label C → Bool
  | .handle index =>
    match s.wire[index]? with
    | some (.notification n) => !s.place.subscribes n.topic
    | _ => true
  | .proceed =>
    match s.place with
    | .removing guid _ =>
      decide (s.transport = .webSocket) || !(s.notifications.any fun n => n.guid == guid)
    | _ => true
  | .raise => !(s.active.any fun a => s.place.subscribes a.2)
  | _ => true

/-- Every notification that was sent is either still on its way or was handed over exactly once,
to the callback of its own subscription. -/
def EachDelivered : Prop :=
  ∀ number guid, s.sent[number]? = some guid →
    ∃ topic callback, s.accepted[guid]? = some (topic, callback) ∧
      (s.delivered.filter fun d => d.1 == number) =
        if number ∈ s.notifications.map SentNotification.number then [] else [(number, callback)]

/-- A notification that arrives after `unsubscribe` has returned goes to no callback. -/
def SilentAfterUnsubscribe : Prop :=
  ∀ index n t, s.wire[index]? = some (.notification n) → n.guid ∈ s.returned →
    s.step (.handle index) = some t → t.delivered = s.delivered

end PeakAPI

end PeakAnalyser

import Mathlib.Data.List.Sort
import PeakAnalyser.Dispatch
import PeakAnalyser.PeakAPI

/-!
# All `PeakAPI` clients of a process

The counters of `subscribeToObservable` and `subscribeToState` are static, and so is the
`NotificationServer` of the clients over HTTP; a client over WebSocket has a table of its own.
The clients go on independently of each other, and notifications come in between. A step is
one statement of the thread that calls on a client, the end of a call, or a payload that
arrives. What the calls carry is in `PeakAPI`.
-/

namespace PeakAnalyser

set_option autoImplicit false

/-- What `subscribeToObservable` and `subscribeToState` make of a counter. -/
def numberedMethod (base : Bytes) (id : UInt64) : Bytes := base ++ bytes (toString id.toNat)

/-- A call that makes a method name. -/
inductive NamingCall where
  | observable (name : Bytes)
  | state
  deriving DecidableEq

namespace NamingCall

/-- What the name is made of, from the two counters. -/
def numbered (ids : UInt64 × UInt64) : NamingCall → Bytes × UInt64
  | .observable name => (name, ids.1)
  | .state => (bytes "State", ids.2)

def method (ids : UInt64 × UInt64) (call : NamingCall) : Bytes :=
  numberedMethod (call.numbered ids).1 (call.numbered ids).2

/-- The counters after the call. -/
def next (ids : UInt64 × UInt64) : NamingCall → UInt64 × UInt64
  | .observable _ => (ids.1 + 1, ids.2)
  | .state => (ids.1, ids.2 + 1)

end NamingCall

/-- `std::map<std::string, std::string>`, in the order of the keys. -/
abbrev SubscriberMap : Type := List (Bytes × Bytes)

namespace SubscriberMap

variable (m : SubscriberMap)

/-- A key that is there keeps its value. -/
def emplace (guid method : Bytes) : SubscriberMap :=
  if m.any fun it => it.1 == guid then m
  else m.orderedInsert (fun a b => a.1 ≤ b.1) (guid, method)

def erase (guid : Bytes) : SubscriberMap := m.filter fun it => it.1 != guid

variable {m}

theorem mem_erase {guid : Bytes} {it : Bytes × Bytes} : it ∈ m.erase guid ↔ it ∈ m ∧ it.1 ≠ guid := by
  simp [erase]

theorem mem_emplace {guid method : Bytes} (hfree : ∀ it ∈ m, it.1 ≠ guid) {it : Bytes × Bytes} :
    it ∈ m.emplace guid method ↔ it = (guid, method) ∨ it ∈ m := by
  have hany : (m.any fun it => it.1 == guid) = false := by
    simpa using hfree
  rw [emplace, hany, if_neg Bool.false_ne_true]
  exact List.mem_orderedInsert _

theorem mem_emplace_of_mem {guid method : Bytes} {it : Bytes × Bytes} (h : it ∈ m) :
    it ∈ m.emplace guid method := by
  unfold emplace
  split
  · exact h
  · exact (List.mem_orderedInsert _).mpr (Or.inr h)

end SubscriberMap

namespace CallbackTable

variable {C : Type} (parse : Bytes → Option JsonValue) (raises : C → JsonValue → Bool)
  (c : CallbackTable C)

/-- The method of a payload, if the table has no entry for it. -/
def unmatchedMethod (payload : Bytes) : Option Bytes :=
  match parse payload with
  | none => none
  | some message =>
    if message.contains "id" then none
    else
      match message.methodAndParams with
      | .error _ => none
      | .ok (method, _) => if (c.callbacks method).isNone then some method else none

/-- A message inserts an empty callback at most. -/
theorem callbacks_handle (payload : Bytes) :
    (c.handle parse raises (.payload payload)).1.callbacks = c.callbacks ∨
      ∃ method, c.unmatchedMethod parse payload = some method ∧
        c.callbacks method = none ∧
        (c.handle parse raises (.payload payload)).1.callbacks =
          Function.update c.callbacks method (some none) := by
  unfold unmatchedMethod CallbackTable.handle CallbackTable.on_message
  dsimp only
  cases hparse : parse payload with
  | none => exact Or.inl rfl
  | some value =>
    dsimp only
    by_cases hid : value.contains "id" = true
    · rw [if_pos hid]
      exact Or.inl rfl
    · rw [if_neg hid, if_neg hid]
      cases hread : value.methodAndParams with
      | error exception => exact Or.inl rfl
      | ok read =>
        obtain ⟨method, params⟩ := read
        dsimp only [caught, CallbackTable.callBack]
        cases hentry : c.callbacks method with
        | none => exact Or.inr ⟨method, rfl, hentry, rfl⟩
        | some entry =>
          cases entry with
          | none =>
            left
            dsimp only [Option.getD_some]
            rw [← hentry]
            exact Function.update_eq_self _ _
          | some callback => exact Or.inl rfl

end CallbackTable

theorem NotificationServer.subscribers_handle {C : Type} (parse : Bytes → Option JsonValue)
    (raises : C → JsonValue → Bool) (n : NotificationServer C) (payload : Bytes) :
    (n.handle parse raises (.payload payload)).1.subscribers = n.subscribers := by
  unfold NotificationServer.handle NotificationServer.tryBlock
  dsimp only [caught]
  split
  · rfl
  · split
    · rfl
    · split <;> rfl

/-- The next statement of the thread that calls on a client. -/
inductive ClientPlace (C : Type) where
  | idle
  | subscribing (method : Bytes) (callback : C)
  | registering (method : Bytes) (callback : C) (guid : Bytes)
  | recording (method guid : Bytes)
  | unsubscribing (guid method : Bytes)
  | removing (guid method : Bytes)
  | erasing (guid method : Bytes)
  deriving DecidableEq

/-- A `PeakAPI`; `rpc` is the table of its `JsonRPCClientWS`. -/
structure PeakClient (C : Type) where
  place : ClientPlace C := .idle
  m_subscribers : SubscriberMap := []
  rpc : CallbackTable C := {}

/-- A subscription that the server has given. -/
structure Subscription (Cid C : Type) where
  client : Cid
  guid : Bytes
  method : Bytes
  callback : C
  deriving DecidableEq

/-- The clients of the process. `_notificationServer` is made at the first connection over HTTP;
`undefined` says that a null pointer has been followed. The method names made, the subscriptions
given and the notifications that came to a client without an entry for them are records for the
statements below. -/
structure PeakClients (Cid C : Type) where
  scheme : Cid → Transport
  client : Cid → PeakClient C := fun _ => {}
  notificationServer : Option (NotificationServer C) := none
  observableId : UInt64 := 0
  stateId : UInt64 := 0
  undefined : Bool := false
  names : List Bytes := []
  given : List (Subscription Cid C) := []
  unmatched : List (Cid × Bytes) := []

inductive ClientsLabel (Cid C : Type) where
  | subscribeToObservable (c : Cid) (observable : Bytes) (callback : C)
  | subscribeToState (c : Cid) (callback : C)
  | unsubscribe (c : Cid) (guid : Bytes)
  /-- The call of the thread returns; the guid is that of a new subscription. -/
  | answer (c : Cid) (guid : Bytes)
  /-- The call of the thread ends with an exception. -/
  | raise (c : Cid)
  | proceed (c : Cid)
  /-- A client over HTTP opens a connection. -/
  | connect (c : Cid)
  /-- A message to a client over WebSocket. -/
  | message (c : Cid) (payload : Bytes)
  /-- A request to the notification server. -/
  | post (payload : Bytes)

def ClientsLabel.naming? {Cid C : Type} : ClientsLabel Cid C → Option NamingCall
  | .subscribeToObservable _ observable _ => some (.observable observable)
  | .subscribeToState _ _ => some .state
  | _ => none

namespace PeakClients

variable {Cid C : Type} [DecidableEq Cid] (parse : Bytes → Option JsonValue)
  (raises : C → JsonValue → Bool) (s : PeakClients Cid C)

def setClient (c : Cid) (client : PeakClient C) : PeakClients Cid C :=
  { s with client := Function.update s.client c client }

def goto (c : Cid) (place : ClientPlace C) : PeakClients Cid C :=
  s.setClient c { s.client c with place }

def setSubscribers (c : Cid) (m : SubscriberMap) : PeakClients Cid C :=
  s.setClient c { s.client c with m_subscribers := m }

/-- A null pointer is followed. -/
def crash : PeakClients Cid C := { s with undefined := true }

/-- The callbacks of the transport of a client; empty ones are `some none`. -/
def table (c : Cid) (method : Bytes) : Option (Option C) :=
  match s.scheme c with
  | .webSocket => (s.client c).rpc.callbacks method
  | .http => s.notificationServer.bind fun n => (n.subscribers method).map some

/-- The transport of a client, over HTTP the notification server. -/
def onTransport (c : Cid) (server : NotificationServer C → NotificationServer C)
    (webSocket : CallbackTable C → CallbackTable C) : PeakClients Cid C :=
  match s.scheme c with
  | .webSocket => s.setClient c { s.client c with rpc := webSocket (s.client c).rpc }
  | .http =>
    match s.notificationServer with
    | none => s.crash
    | some n => { s with notificationServer := some (server n) }

/-- `m_rpcClient->subscribe` -/
def register (c : Cid) (method : Bytes) (callback : C) : PeakClients Cid C :=
  s.onTransport c (·.subscribe method callback) (·.subscribe method callback)

/-- `m_rpcClient->unsubscribe` -/
def remove (c : Cid) (method : Bytes) : PeakClients Cid C :=
  s.onTransport c (·.unsubscribe method) (·.unsubscribe method)

def ids : UInt64 × UInt64 := (s.observableId, s.stateId)

/-- A method name is made. -/
def naming (call : NamingCall) : PeakClients Cid C :=
  { s with
    observableId := (call.next s.ids).1
    stateId := (call.next s.ids).2
    names := s.names ++ [call.method s.ids] }

/-- The call is sent; over HTTP the address of the notification server goes with it. -/
def startSubscribing (c : Cid) (method : Bytes) (callback : C) : PeakClients Cid C :=
  if s.scheme c = .http ∧ s.notificationServer.isNone then s.crash
  else s.goto c (.subscribing method callback)

def subscribeToObservable (c : Cid) (observable : Bytes) (callback : C) :
    Option (PeakClients Cid C) :=
  match (s.client c).place with
  | .idle =>
    some ((s.naming (.observable observable)).startSubscribing c
      (numberedMethod observable s.observableId) callback)
  | _ => none

def subscribeToState (c : Cid) (callback : C) : Option (PeakClients Cid C) :=
  match (s.client c).place with
  | .idle =>
    some ((s.naming .state).startSubscribing c (numberedMethod (bytes "State") s.stateId) callback)
  | _ => none

/-- A guid that is not in `m_subscribers` is passed over. -/
def unsubscribe (c : Cid) (guid : Bytes) : Option (PeakClients Cid C) :=
  match (s.client c).place with
  | .idle =>
    match (s.client c).m_subscribers.find? fun it => it.1 == guid with
    | none => some s
    | some it => some (s.goto c (.unsubscribing it.1 it.2))
  | _ => none

/-- The server has given a subscription. -/
def give (r : Subscription Cid C) : PeakClients Cid C := { s with given := s.given ++ [r] }

def answer (c : Cid) (guid : Bytes) : Option (PeakClients Cid C) :=
  match (s.client c).place with
  | .subscribing method callback =>
    some ((s.give ⟨c, guid, method, callback⟩).goto c (.registering method callback guid))
  | .unsubscribing guid method => some (s.goto c (.removing guid method))
  | _ => none

def raise (c : Cid) : Option (PeakClients Cid C) :=
  match (s.client c).place with
  | .subscribing _ _ | .unsubscribing _ _ => some (s.goto c .idle)
  | _ => none

def proceed (c : Cid) : Option (PeakClients Cid C) :=
  match (s.client c).place with
  | .registering method callback guid =>
    some ((s.register c method callback).goto c (.recording method guid))
  | .recording method guid =>
    some ((s.setSubscribers c ((s.client c).m_subscribers.emplace guid method)).goto c .idle)
  | .removing guid method => some ((s.remove c method).goto c (.erasing guid method))
  | .erasing guid _ =>
    some ((s.setSubscribers c ((s.client c).m_subscribers.erase guid)).goto c .idle)
  | _ => none

/-- `connectionCallback` -/
def connect (c : Cid) : Option (PeakClients Cid C) :=
  match s.scheme c with
  | .http => some { s with notificationServer := some (s.notificationServer.getD {}) }
  | .webSocket => none

/-- A payload whose method has no entry is noted. -/
def note (c : Cid) (payload : Bytes) : PeakClients Cid C :=
  { s with
    unmatched := s.unmatched ++
      (((s.client c).rpc.unmatchedMethod parse payload).map fun m => (c, m)).toList }

/-- `on_message`; what leaves it ends the io thread and leaves the table alone. -/
def message (c : Cid) (payload : Bytes) : Option (PeakClients Cid C) :=
  match s.scheme c with
  | .webSocket =>
    some ((s.note parse c payload).setClient c
      { s.client c with rpc := ((s.client c).rpc.handle parse raises (.payload payload)).1 })
  | .http => none

/-- `clientHandler` of the notification server. -/
def post (payload : Bytes) : Option (PeakClients Cid C) :=
  s.notificationServer.map fun n =>
    { s with notificationServer := some (n.handle parse raises (.payload payload)).1 }

def step (l : ClientsLabel Cid C) : Option (PeakClients Cid C) :=
  if s.undefined then none
  else
    match l with
    | .subscribeToObservable c observable callback => s.subscribeToObservable c observable callback
    | .subscribeToState c callback => s.subscribeToState c callback
    | .unsubscribe c guid => s.unsubscribe c guid
    | .answer c guid => s.answer c guid
    | .raise c => s.raise c
    | .proceed c => s.proceed c
    | .connect c => s.connect c
    | .message c payload => s.message parse raises c payload
    | .post payload => s.post parse raises payload

/-- Before the first call. -/
def start (scheme : Cid → Transport) : PeakClients Cid C := { scheme }

/-- Over HTTP a subscription is asked for when the notification server is there. -/
def connected : ClientsLabel Cid C → Prop
  | .subscribeToObservable c _ _ | .subscribeToState c _ =>
    s.scheme c = .http → s.notificationServer.isSome = true
  | _ => True

/-! ### What a step does -/

/-- Two clients have one table. -/
def Shares (c d : Cid) : Prop := s.scheme c = s.scheme d ∧ (s.scheme c = .webSocket → c = d)

instance (c d : Cid) : Decidable (s.Shares c d) := by
  unfold Shares
  infer_instance

section Views

variable {s} {c d : Cid}

omit [DecidableEq Cid] in
theorem Shares.symm (h : s.Shares c d) : s.Shares d c :=
  ⟨h.1.symm, fun hd => (h.2 (h.1.trans hd)).symm⟩

omit [DecidableEq Cid] in
theorem Shares.congr {t : PeakClients Cid C} (hscheme : t.scheme = s.scheme) (h : s.Shares c d) :
    t.Shares c d := by
  unfold Shares at *
  rwa [hscheme]

omit [DecidableEq Cid] in
theorem Shares.table_eq (h : s.Shares c d) : s.table d = s.table c := by
  cases hscheme : s.scheme c with
  | webSocket => rw [h.2 hscheme]
  | http =>
    funext method
    unfold table
    rw [hscheme, ← h.1, hscheme]

omit [DecidableEq Cid] in
theorem client_give (r : Subscription Cid C) : (s.give r).client = s.client := rfl

omit [DecidableEq Cid] in
theorem table_give (r : Subscription Cid C) : (s.give r).table = s.table := rfl

theorem setClient_client (client : PeakClient C) (d : Cid) :
    (s.setClient c client).client d = if d = c then client else s.client d :=
  Function.update_apply _ _ _ _

theorem place_goto (place : ClientPlace C) (d : Cid) :
    ((s.goto c place).client d).place = if d = c then place else (s.client d).place := by
  rw [goto, setClient_client]
  split <;> rfl

theorem subscribers_goto (place : ClientPlace C) (d : Cid) :
    ((s.goto c place).client d).m_subscribers = (s.client d).m_subscribers := by
  rw [goto, setClient_client]
  split
  · rename_i heq
    rw [heq]
  · rfl

theorem place_setSubscribers (m : SubscriberMap) (d : Cid) :
    ((s.setSubscribers c m).client d).place = (s.client d).place := by
  rw [setSubscribers, setClient_client]
  split
  · rename_i heq
    rw [heq]
  · rfl

theorem subscribers_setSubscribers (m : SubscriberMap) (d : Cid) :
    ((s.setSubscribers c m).client d).m_subscribers =
      if d = c then m else (s.client d).m_subscribers := by
  rw [setSubscribers, setClient_client]
  split <;> rfl

omit [DecidableEq Cid] in
theorem table_webSocket (h : s.scheme c = .webSocket) :
    s.table c = (s.client c).rpc.callbacks := by
  funext method
  unfold table
  rw [h]

theorem table_setClient (client : PeakClient C) (hrpc : client.rpc = (s.client c).rpc) (d : Cid) :
    (s.setClient c client).table d = s.table d := by
  funext method
  have hcallbacks : ((s.setClient c client).client d).rpc = (s.client d).rpc := by
    rw [setClient_client]
    split
    · rename_i heq
      rw [heq, hrpc]
    · rfl
  unfold table
  rw [hcallbacks]
  rfl

theorem table_goto (place : ClientPlace C) (d : Cid) : (s.goto c place).table d = s.table d :=
  table_setClient { s.client c with place } rfl d

theorem table_setSubscribers (m : SubscriberMap) (d : Cid) :
    (s.setSubscribers c m).table d = s.table d :=
  table_setClient { s.client c with m_subscribers := m } rfl d

/-- What a step on the tables leaves alone. -/
structure SamePlaces (s t : PeakClients Cid C) : Prop where
  scheme : t.scheme = s.scheme
  server : s.notificationServer.isSome = true → t.notificationServer.isSome = true
  ids : t.ids = s.ids
  names : t.names = s.names
  given : t.given = s.given
  unmatched : t.unmatched = s.unmatched
  place : ∀ d, (t.client d).place = (s.client d).place
  subscribers : ∀ d, (t.client d).m_subscribers = (s.client d).m_subscribers

theorem samePlaces_setRpc (c : Cid) (rpc : CallbackTable C) :
    SamePlaces s (s.setClient c { s.client c with rpc }) := by
  refine ⟨rfl, id, rfl, rfl, rfl, rfl, fun d => ?_, fun d => ?_⟩ <;>
  · rw [setClient_client]
    split
    · rename_i heq
      rw [heq]
    · rfl

theorem samePlaces_onTransport (c : Cid) (server : NotificationServer C → NotificationServer C)
    (webSocket : CallbackTable C → CallbackTable C) :
    SamePlaces s (s.onTransport c server webSocket) := by
  unfold onTransport
  split
  · exact samePlaces_setRpc c _
  · split
    · exact ⟨rfl, id, rfl, rfl, rfl, rfl, fun _ => rfl, fun _ => rfl⟩
    · exact ⟨rfl, fun _ => rfl, rfl, rfl, rfl, rfl, fun _ => rfl, fun _ => rfl⟩

theorem onTransport_undefined (hserver : s.scheme c = .http → s.notificationServer.isSome = true)
    (server : NotificationServer C → NotificationServer C)
    (webSocket : CallbackTable C → CallbackTable C) :
    (s.onTransport c server webSocket).undefined = s.undefined := by
  unfold onTransport
  cases hscheme : s.scheme c with
  | webSocket => rfl
  | http =>
    obtain ⟨n, hn⟩ := Option.isSome_iff_exists.mp (hserver hscheme)
    rw [hn]

/-- The tables after a change of one entry. -/
theorem table_onTransport {server : NotificationServer C → NotificationServer C}
    {webSocket : CallbackTable C → CallbackTable C} (method : Bytes) (entry : Option C)
    (hserver : s.scheme c = .http → s.notificationServer.isSome)
    (hhttp : ∀ n, (server n).subscribers = Function.update n.subscribers method entry)
    (hws : ∀ r, (webSocket r).callbacks = Function.update r.callbacks method (entry.map some))
    (d : Cid) (m : Bytes) :
    (s.onTransport c server webSocket).table d m =
      if s.Shares c d ∧ m = method then entry.map some else s.table d m := by
  unfold onTransport
  cases hscheme : s.scheme c with
  | webSocket =>
    dsimp only
    by_cases heq : d = c
    · subst heq
      have hshares : s.Shares d d := ⟨rfl, fun _ => rfl⟩
      simp only [table, setClient, Function.update_self, hscheme, hws, hshares, true_and]
      exact Function.update_apply _ _ _ _
    · have hshares : ¬ s.Shares c d := fun h => heq (h.2 hscheme).symm
      rw [if_neg (fun h => hshares h.1)]
      unfold table
      rw [setClient_client, if_neg heq]
      rfl
  | http =>
    obtain ⟨n, hn⟩ := Option.isSome_iff_exists.mp (hserver hscheme)
    rw [hn]
    dsimp only
    cases hother : s.scheme d with
    | webSocket =>
      have hshares : ¬ s.Shares c d := by
        intro h
        rw [Shares, hscheme, hother] at h
        cases h.1
      rw [if_neg (fun h => hshares h.1)]
      simp only [table, hother]
    | http =>
      have hshares : s.Shares c d := by
        rw [Shares, hscheme, hother]
        exact ⟨rfl, fun h => absurd h (by decide)⟩
      simp only [table, hother, hn, Option.bind_some, hhttp, hshares, true_and]
      rw [Function.update_apply]
      split <;> rfl

theorem table_register (hserver : s.scheme c = .http → s.notificationServer.isSome) (method : Bytes)
    (callback : C) (d : Cid) (m : Bytes) :
    (s.register c method callback).table d m =
      if s.Shares c d ∧ m = method then some (some callback) else s.table d m :=
  table_onTransport method (some callback) hserver (fun _ => rfl) (fun _ => rfl) d m

theorem table_remove (hserver : s.scheme c = .http → s.notificationServer.isSome) (method : Bytes)
    (d : Cid) (m : Bytes) :
    (s.remove c method).table d m = if s.Shares c d ∧ m = method then none else s.table d m :=
  table_onTransport method none hserver (fun _ => rfl) (fun _ => rfl) d m

/-- A message to a client inserts an empty callback at most, and is noted then. -/
theorem table_message (hscheme : s.scheme c = .webSocket) (payload : Bytes) (d : Cid) (m : Bytes) :
    ((s.note parse c payload).setClient c
        { s.client c with
          rpc := ((s.client c).rpc.handle parse raises (.payload payload)).1 }).table d m =
      s.table d m ∨
    (d = c ∧ (c, m) ∈ (s.note parse c payload).unmatched ∧ s.table d m = none ∧
      ((s.note parse c payload).setClient c
        { s.client c with
          rpc := ((s.client c).rpc.handle parse raises (.payload payload)).1 }).table d m =
        some none) := by
  by_cases heq : d = c
  · subst heq
    have htable : ((s.note parse d payload).setClient d
        { s.client d with
          rpc := ((s.client d).rpc.handle parse raises (.payload payload)).1 }).table d m =
        ((s.client d).rpc.handle parse raises (.payload payload)).1.callbacks m := by
      have hsame : ((s.note parse d payload).setClient d
          { s.client d with
            rpc := ((s.client d).rpc.handle parse raises (.payload payload)).1 }).scheme d =
          .webSocket := hscheme
      rw [table_webSocket hsame, setClient_client, if_pos rfl]
    have hold : s.table d m = (s.client d).rpc.callbacks m := by
      rw [table_webSocket hscheme]
    rw [htable, hold]
    rcases (s.client d).rpc.callbacks_handle parse raises payload with
      hsame | ⟨method, hunmatched, hnone, hinserted⟩
    · rw [hsame]
      exact Or.inl rfl
    · by_cases hm : m = method
      · subst hm
        refine Or.inr ⟨rfl, ?_, hnone, by rw [hinserted, Function.update_self]⟩
        unfold note
        rw [hunmatched]
        exact List.mem_append_right _ List.mem_cons_self
      · rw [hinserted, Function.update_of_ne hm]
        exact Or.inl rfl
  · left
    unfold table
    rw [setClient_client, if_neg heq]
    rfl

omit [DecidableEq Cid] in
theorem table_post {n : NotificationServer C} (hn : s.notificationServer = some n)
    (payload : Bytes) (d : Cid) :
    PeakClients.table
      { s with notificationServer := some (n.handle parse raises (.payload payload)).1 } d =
      s.table d := by
  funext m
  simp only [table, hn, Option.bind_some, n.subscribers_handle parse raises payload]

omit [DecidableEq Cid] in
theorem table_connect (d : Cid) :
    PeakClients.table { s with notificationServer := some (s.notificationServer.getD {}) } d =
      s.table d := by
  funext m
  unfold table
  cases s.notificationServer <;> rfl

end Views

/-- What each step does. -/
inductive Moves (s : PeakClients Cid C) : ClientsLabel Cid C → PeakClients Cid C → Prop where
  | crashed {l : ClientsLabel Cid C} {call : NamingCall} (hcall : l.naming? = some call)
      (hconnected : ¬ s.connected l) : Moves s l (s.naming call).crash
  | named {l : ClientsLabel Cid C} {call : NamingCall} {c : Cid} {callback : C}
      (hcall : l.naming? = some call) (hplace : (s.client c).place = .idle)
      (hserver : s.scheme c = .http → s.notificationServer.isSome = true) :
      Moves s l ((s.naming call).goto c (.subscribing (call.method s.ids) callback))
  | passed {c : Cid} {guid : Bytes} : Moves s (.unsubscribe c guid) s
  | asked {c : Cid} {guid method : Bytes} (hplace : (s.client c).place = .idle)
      (hlisted : (guid, method) ∈ (s.client c).m_subscribers) :
      Moves s (.unsubscribe c guid) (s.goto c (.unsubscribing guid method))
  | answered {c : Cid} {guid method : Bytes} {callback : C}
      (hplace : (s.client c).place = .subscribing method callback) :
      Moves s (.answer c guid)
        ((s.give ⟨c, guid, method, callback⟩).goto c (.registering method callback guid))
  | released {c : Cid} {g guid method : Bytes}
      (hplace : (s.client c).place = .unsubscribing guid method) :
      Moves s (.answer c g) (s.goto c (.removing guid method))
  | raised {c : Cid} (hplace : (∃ method callback, (s.client c).place = .subscribing method callback) ∨
        ∃ guid method, (s.client c).place = .unsubscribing guid method) :
      Moves s (.raise c) (s.goto c .idle)
  | registered {c : Cid} {guid method : Bytes} {callback : C}
      (hplace : (s.client c).place = .registering method callback guid) :
      Moves s (.proceed c) ((s.register c method callback).goto c (.recording method guid))
  | recorded {c : Cid} {guid method : Bytes} (hplace : (s.client c).place = .recording method guid) :
      Moves s (.proceed c)
        ((s.setSubscribers c ((s.client c).m_subscribers.emplace guid method)).goto c .idle)
  | removed {c : Cid} {guid method : Bytes} (hplace : (s.client c).place = .removing guid method) :
      Moves s (.proceed c) ((s.remove c method).goto c (.erasing guid method))
  | erased {c : Cid} {guid method : Bytes} (hplace : (s.client c).place = .erasing guid method) :
      Moves s (.proceed c)
        ((s.setSubscribers c ((s.client c).m_subscribers.erase guid)).goto c .idle)
  | connected {c : Cid} : Moves s (.connect c)
      { s with notificationServer := some (s.notificationServer.getD {}) }
  | messaged {c : Cid} {payload : Bytes} (hscheme : s.scheme c = .webSocket) :
      Moves s (.message c payload)
        ((s.note parse c payload).setClient c
          { s.client c with rpc := ((s.client c).rpc.handle parse raises (.payload payload)).1 })
  | posted {payload : Bytes} {n : NotificationServer C} (hserver : s.notificationServer = some n) :
      Moves s (.post payload)
        { s with notificationServer := some (n.handle parse raises (.payload payload)).1 }

section Moving

variable {parse raises s} {t : PeakClients Cid C} {c : Cid}

theorem moves_startSubscribing {l : ClientsLabel Cid C} {call : NamingCall} {callback : C}
    (hcall : l.naming? = some call) (hplace : (s.client c).place = .idle)
    (hconnected : s.connected l ↔ (s.scheme c = .http → s.notificationServer.isSome = true)) :
    Moves parse raises s l
      ((s.naming call).startSubscribing c (call.method s.ids) callback) := by
  have hscheme : (s.naming call).scheme c = s.scheme c := rfl
  have hsame : (s.naming call).notificationServer = s.notificationServer := rfl
  unfold startSubscribing
  rw [hscheme, hsame]
  split
  · rename_i hnone
    refine .crashed hcall ?_
    rw [hconnected]
    intro hserver
    have hsome := hserver hnone.1
    rw [Option.isNone_iff_eq_none.mp hnone.2] at hsome
    cases hsome
  · rename_i hsome
    refine .named hcall hplace ?_
    intro hhttp
    rw [Option.isSome_iff_ne_none]
    simpa [hhttp] using hsome

theorem moves_of_step {l : ClientsLabel Cid C} (h : s.step parse raises l = some t) :
    Moves parse raises s l t := by
  unfold step at h
  split at h
  · cases h
  · cases l with
    | subscribeToObservable c observable callback =>
      dsimp only [subscribeToObservable] at h
      split at h
      · rename_i hplace
        cases h
        exact moves_startSubscribing rfl hplace Iff.rfl
      · cases h
    | subscribeToState c callback =>
      dsimp only [subscribeToState] at h
      split at h
      · rename_i hplace
        cases h
        exact moves_startSubscribing rfl hplace Iff.rfl
      · cases h
    | unsubscribe c guid =>
      dsimp only [unsubscribe] at h
      split at h
      · rename_i hplace
        split at h
        · cases h
          exact .passed
        · rename_i it hfind
          cases h
          have hguid : it.1 = guid := by simpa using List.find?_some hfind
          subst hguid
          exact .asked hplace (List.mem_of_find?_eq_some hfind)
      · cases h
    | answer c guid =>
      dsimp only [answer] at h
      split at h
      · rename_i hplace
        cases h
        exact .answered hplace
      · rename_i hplace
        cases h
        exact .released hplace
      · cases h
    | raise c =>
      dsimp only [raise] at h
      split at h
      · rename_i hplace
        cases h
        exact .raised (Or.inl ⟨_, _, hplace⟩)
      · rename_i hplace
        cases h
        exact .raised (Or.inr ⟨_, _, hplace⟩)
      · cases h
    | proceed c =>
      dsimp only [proceed] at h
      split at h
      · rename_i hplace
        cases h
        exact .registered hplace
      · rename_i hplace
        cases h
        exact .recorded hplace
      · rename_i hplace
        cases h
        exact .removed hplace
      · rename_i hplace
        cases h
        exact .erased hplace
      · cases h
    | connect c =>
      dsimp only [connect] at h
      split at h
      · cases h
        exact .connected
      · cases h
    | message c payload =>
      dsimp only [message] at h
      split at h
      · rename_i hscheme
        cases h
        exact .messaged hscheme
      · cases h
    | post payload =>
      obtain ⟨n, hserver, rfl⟩ := Option.map_eq_some_iff.mp h
      exact .posted hserver

/-! ### The notification server is there -/

variable (s) in
/-- Where a client over HTTP is at work or has subscriptions, the notification server has been
made. -/
def Ready : Prop :=
  ∀ c, s.scheme c = .http → (s.client c).place ≠ .idle ∨ (s.client c).m_subscribers ≠ [] →
    s.notificationServer.isSome = true

theorem Ready.goto (hs : s.Ready) (hserver : s.scheme c = .http → s.notificationServer.isSome = true)
    (place : ClientPlace C) : (s.goto c place).Ready := by
  intro d hhttp hbusy
  by_cases heq : d = c
  · exact hserver (heq ▸ hhttp)
  · rw [place_goto, subscribers_goto, if_neg heq] at hbusy
    exact hs d hhttp hbusy

theorem Ready.setSubscribers (hs : s.Ready)
    (hserver : s.scheme c = .http → s.notificationServer.isSome = true) (m : SubscriberMap) :
    (s.setSubscribers c m).Ready := by
  intro d hhttp hbusy
  by_cases heq : d = c
  · exact hserver (heq ▸ hhttp)
  · rw [place_setSubscribers, subscribers_setSubscribers, if_neg heq] at hbusy
    exact hs d hhttp hbusy

omit [DecidableEq Cid] in
theorem Ready.of_same (hs : s.Ready) (h : SamePlaces s t) : t.Ready := by
  intro d hhttp hbusy
  rw [h.scheme] at hhttp
  rw [h.place, h.subscribers] at hbusy
  exact h.server (hs d hhttp hbusy)

theorem ready_moves {l : ClientsLabel Cid C} (hs : s.Ready) (h : Moves parse raises s l t) :
    t.Ready := by
  have hwork : ∀ {c : Cid} {place : ClientPlace C}, (s.client c).place = place → place ≠ .idle →
      s.scheme c = .http → s.notificationServer.isSome = true := by
    intro c place hplace hne hhttp
    exact hs c hhttp (Or.inl (hplace ▸ hne))
  cases h with
  | crashed | passed => exact hs
  | named hcall hplace hserver => exact Ready.goto (s := s.naming _) hs hserver _
  | asked hplace hlisted =>
    refine hs.goto ?_ _
    intro hhttp
    exact hs _ hhttp (Or.inr (List.ne_nil_of_mem hlisted))
  | answered hplace => exact Ready.goto (s := s.give _) hs (hwork hplace (by simp)) _
  | released hplace => exact hs.goto (hwork hplace (by simp)) _
  | raised hplace =>
    refine hs.goto ?_ _
    rcases hplace with ⟨_, _, hplace⟩ | ⟨_, _, hplace⟩
    · exact hwork hplace (by simp)
    · exact hwork hplace (by simp)
  | @registered c guid method callback hplace =>
    have hsame : SamePlaces s (s.register c method callback) := samePlaces_onTransport c _ _
    refine (hs.of_same hsame).goto ?_ _
    rw [hsame.scheme]
    exact fun hhttp => hsame.server (hwork hplace (by simp) hhttp)
  | recorded hplace | erased hplace =>
    exact Ready.goto (hs.setSubscribers (hwork hplace (by simp)) _) (hwork hplace (by simp)) _
  | @removed c guid method hplace =>
    have hsame : SamePlaces s (s.remove c method) := samePlaces_onTransport c _ _
    refine (hs.of_same hsame).goto ?_ _
    rw [hsame.scheme]
    exact fun hhttp => hsame.server (hwork hplace (by simp) hhttp)
  | connected => exact fun _ _ _ => rfl
  | @messaged c payload hscheme =>
    exact Ready.of_same (s := s.note parse c payload) hs (samePlaces_setRpc c _)
  | posted hserver => exact fun _ _ _ => rfl

end Moving

end PeakClients

end PeakAnalyser

import PeakAnalyser.PeakSpectrum

/-!
# The two dispatchers of notifications

`NotificationServer::clientHandler` and `JsonRPCClientWS::on_message` hand the
parameters of a notification over to the callback of its method. The first has all of
this in a `try` block, and looks the method up with `at`; the second reads the method
and the parameters outside of its `try` blocks, and looks up with `operator[]`. What a
text parses to is up to nlohmann::json, and the same for both.
-/

namespace PeakAnalyser

set_option autoImplicit false

/-- What is thrown on the way to a callback and by it. -/
inductive NotificationException where
  | parseError | typeError | outOfRange | badFunctionCall | callback
  deriving DecidableEq

namespace JsonValue

/-- `operator[]` of a value that may change: the member, and the value after it. Null becomes an
object, and a missing member is inserted as null. -/
def itemOrNull (value : JsonValue) (key : String) :
    Except NotificationException (JsonValue × JsonValue) :=
  match value with
  | .null => .ok (.null, .object [(key, .null)])
  | .object members =>
    match members.lookup key with
    | some member => .ok (member, value)
    | none => .ok (.null, .object (members ++ [(key, .null)]))
  | _ => .error .typeError

/-- `get<std::string>()` -/
def getText : JsonValue → Except NotificationException Bytes
  | .string s => .ok s
  | _ => .error .typeError

/-- The two lines that both dispatchers have: the method, then the parameters. -/
def methodAndParams (message : JsonValue) : Except NotificationException (Bytes × JsonValue) := do
  let item ← message.itemOrNull "method"
  let method ← item.1.getText
  let params ← item.2.itemOrNull "params"
  return (method, params.1)

end JsonValue

/-- What comes of a statement: the state, and the exception that leaves it, if any. -/
abbrev Outcome (State : Type) : Type := State × Except NotificationException Unit

/-- `try { … } catch (std::exception&) { … }` -/
def caught {State : Type} (body : Outcome State) : Outcome State := (body.1, .ok ())

/-- Statements are run one after the other, up to the first that an exception leaves. -/
def runAll {State Event : Type} (handle : State → Event → Outcome State) (s : State) :
    List Event → Outcome State
  | [] => (s, .ok ())
  | e :: es =>
    match handle s e with
    | (t, .ok ()) => runAll handle t es
    | (t, .error exception) => (t, .error exception)

/-- What reaches a transport: registrations of callbacks, and texts from the server. -/
inductive TransportEvent (C : Type) where
  | subscribe (topic : Bytes) (callback : C)
  | unsubscribe (topic : Bytes)
  | payload (text : Bytes)
  deriving DecidableEq

/-- The part of `NotificationServer` that dispatches, with the calls of callbacks so far. -/
structure NotificationServer (C : Type) where
  subscribers : Bytes → Option C := fun _ => none
  invoked : List (C × JsonValue) := []

/-- The part of `JsonRPCClientWS` that dispatches. A callback that `operator[]` has inserted is
empty; a message with the member `id` is a response, of which only the last is kept. -/
structure CallbackTable (C : Type) where
  callbacks : Bytes → Option (Option C) := fun _ => none
  invoked : List (C × JsonValue) := []
  response : Option JsonValue := none
  callbackEvent : Bool := false

section Dispatch

variable {C : Type} (parse : Bytes → Option JsonValue) (raises : C → JsonValue → Bool)

/-- How a call of a callback ends. -/
def callbackOutcome (callback : C) (params : JsonValue) : Except NotificationException Unit :=
  if raises callback params then .error .callback else .ok ()

namespace NotificationServer

variable (s : NotificationServer C)

def subscribe (topic : Bytes) (callback : C) : NotificationServer C :=
  { s with subscribers := Function.update s.subscribers topic (some callback) }

def unsubscribe (topic : Bytes) : NotificationServer C :=
  { s with subscribers := Function.update s.subscribers topic none }

/-- Lines 247 to 251. -/
def tryBlock (content : Bytes) : Outcome (NotificationServer C) :=
  match parse content with
  | none => (s, .error .parseError)
  | some notification =>
    match notification.methodAndParams with
    | .error exception => (s, .error exception)
    | .ok (method, params) =>
      match s.subscribers method with
      | none => (s, .error .outOfRange)
      | some callback =>
        ({ s with invoked := s.invoked ++ [(callback, params)] },
          callbackOutcome raises callback params)

def handle : TransportEvent C → Outcome (NotificationServer C)
  | .subscribe topic callback => (s.subscribe topic callback, .ok ())
  | .unsubscribe topic => (s.unsubscribe topic, .ok ())
  | .payload text => caught (s.tryBlock parse raises text)

end NotificationServer

namespace CallbackTable

variable (c : CallbackTable C)

def subscribe (topic : Bytes) (callback : C) : CallbackTable C :=
  { c with callbacks := Function.update c.callbacks topic (some (some callback)) }

def unsubscribe (topic : Bytes) : CallbackTable C :=
  { c with callbacks := Function.update c.callbacks topic none }

/-- Line 178: the callback is inserted empty if there is none. -/
def callBack (method : Bytes) (params : JsonValue) : Outcome (CallbackTable C) :=
  match (c.callbacks method).getD none with
  | none =>
    ({ c with callbacks := Function.update c.callbacks method (some none) }, .error .badFunctionCall)
  | some callback =>
    ({ c with invoked := c.invoked ++ [(callback, params)] },
      callbackOutcome raises callback params)

/-- Lines 158 to 183, for a message of opcode text. -/
def on_message (payload : Bytes) : Outcome (CallbackTable C) :=
  match parse payload with
  | none => (c, .ok ())
  | some message =>
    if message.contains "id" then
      ({ c with response := some message, callbackEvent := true }, .ok ())
    else
      match message.methodAndParams with
      | .error exception => (c, .error exception)
      | .ok (method, params) => caught (c.callBack raises method params)

def handle : TransportEvent C → Outcome (CallbackTable C)
  | .subscribe topic callback => (c.subscribe topic callback, .ok ())
  | .unsubscribe topic => (c.unsubscribe topic, .ok ())
  | .payload text => c.on_message parse raises text

end CallbackTable

end Dispatch

/-! ### Regular payloads -/

/-- An object with a method. -/
def JsonValue.isNotification (value : JsonValue) : Prop :=
  ∃ members method, value = .object members ∧ members.lookup "method" = some (.string method)

/-- A payload that does not parse, or parses to an object with a method. -/
def TransportEvent.Regular {C : Type} (parse : Bytes → Option JsonValue) : TransportEvent C → Prop
  | .payload text => ∀ value, parse text = some value → value.isNotification
  | _ => True

/-- No response comes in between. -/
def TransportEvent.NoResponse {C : Type} (parse : Bytes → Option JsonValue) :
    TransportEvent C → Prop
  | .payload text => ∀ value, parse text = some value → value.contains "id" = false
  | _ => True

theorem JsonValue.itemOrNull_object (members : List (String × JsonValue)) (key : String) :
    ∃ value, (object members).itemOrNull key =
      .ok ((members.lookup key).getD .null, value) := by
  cases hmember : members.lookup key with
  | none => exact ⟨_, by simp only [itemOrNull, hmember, Option.getD_none]; rfl⟩
  | some member => exact ⟨_, by simp only [itemOrNull, hmember, Option.getD_some]; rfl⟩

theorem JsonValue.methodAndParams_of_notification {value : JsonValue} (h : value.isNotification) :
    ∃ method params, value.methodAndParams = .ok (method, params) := by
  obtain ⟨members, method, rfl, hmethod⟩ := h
  have hitem : (object members).itemOrNull "method" = .ok (.string method, .object members) := by
    simp only [itemOrNull, hmethod]
  obtain ⟨rest, hparams⟩ := itemOrNull_object members "params"
  refine ⟨method, (members.lookup "params").getD .null, ?_⟩
  unfold methodAndParams
  rw [hitem]
  exact congrArg (· >>= fun params => .ok (method, params.1)) hparams

/-- Where the method cannot be read, an exception is thrown. -/
theorem JsonValue.notification_of_methodAndParams {value : JsonValue} {method : Bytes}
    {params : JsonValue} (h : value.methodAndParams = .ok (method, params)) :
    value.isNotification := by
  cases value with
  | object members =>
    cases hmethod : members.lookup "method" with
    | none =>
      simp only [methodAndParams, itemOrNull, hmethod] at h
      cases h
    | some member =>
      cases member with
      | string s => exact ⟨members, s, rfl, hmethod⟩
      | _ =>
        simp only [methodAndParams, itemOrNull, hmethod] at h
        cases h
  | _ => cases h

/-! ### The two tables side by side -/

section Agreement

variable {C : Type} {parse : Bytes → Option JsonValue} {raises : C → JsonValue → Bool}
variable {s : NotificationServer C} {c : CallbackTable C}

/-- The tables hold the same callbacks, but for empty ones, and these have been called alike. -/
structure SameCallbacks (s : NotificationServer C) (c : CallbackTable C) : Prop where
  callbacks : ∀ topic, (c.callbacks topic).getD none = s.subscribers topic
  invoked : c.invoked = s.invoked

theorem SameCallbacks.subscribe (h : SameCallbacks s c) (topic : Bytes) (callback : C) :
    SameCallbacks (s.subscribe topic callback) (c.subscribe topic callback) := by
  refine ⟨fun other => ?_, h.invoked⟩
  by_cases heq : other = topic
  · subst heq
    simp [NotificationServer.subscribe, CallbackTable.subscribe]
  · simp [NotificationServer.subscribe, CallbackTable.subscribe, heq, h.callbacks]

theorem SameCallbacks.unsubscribe (h : SameCallbacks s c) (topic : Bytes) :
    SameCallbacks (s.unsubscribe topic) (c.unsubscribe topic) := by
  refine ⟨fun other => ?_, h.invoked⟩
  by_cases heq : other = topic
  · subst heq
    simp [NotificationServer.unsubscribe, CallbackTable.unsubscribe]
  · simp [NotificationServer.unsubscribe, CallbackTable.unsubscribe, heq, h.callbacks]

/-- An empty callback counts as none. -/
theorem SameCallbacks.insertEmpty (h : SameCallbacks s c) {method : Bytes}
    (hnone : s.subscribers method = none) :
    SameCallbacks s { c with callbacks := Function.update c.callbacks method (some none) } := by
  refine ⟨fun other => ?_, h.invoked⟩
  by_cases heq : other = method
  · subst heq
    simp [hnone]
  · simp [heq, h.callbacks]

theorem NotificationServer.handle_unparsed {text : Bytes} (hparse : parse text = none) :
    s.handle parse raises (.payload text) = (s, .ok ()) := by
  simp only [handle, tryBlock, hparse, caught]

theorem NotificationServer.handle_read {text : Bytes} {value : JsonValue} {method : Bytes}
    {params : JsonValue} (hparse : parse text = some value)
    (hread : value.methodAndParams = .ok (method, params)) :
    s.handle parse raises (.payload text) =
      ({ s with invoked := s.invoked ++ ((s.subscribers method).map (·, params)).toList },
        .ok ()) := by
  simp only [handle, tryBlock, hparse, hread, caught]
  cases s.subscribers method with
  | none => simp
  | some callback => rfl

theorem CallbackTable.handle_unparsed {text : Bytes} (hparse : parse text = none) :
    c.handle parse raises (.payload text) = (c, .ok ()) := by
  simp only [handle, on_message, hparse]

theorem CallbackTable.handle_read {text : Bytes} {value : JsonValue} {method : Bytes}
    {params : JsonValue} (hparse : parse text = some value) (hid : value.contains "id" = false)
    (hread : value.methodAndParams = .ok (method, params)) :
    c.handle parse raises (.payload text) = ((c.callBack raises method params).1, .ok ()) := by
  simp only [handle, on_message, hparse, hid, hread, caught, Bool.false_eq_true, if_false]

/-- The same callback is called, or none. -/
theorem SameCallbacks.callBack (h : SameCallbacks s c) (method : Bytes) (params : JsonValue) :
    SameCallbacks { s with invoked := s.invoked ++ ((s.subscribers method).map (·, params)).toList }
      (c.callBack raises method params).1 := by
  have hsame := h.callbacks method
  unfold CallbackTable.callBack
  cases hcallback : s.subscribers method with
  | none =>
    rw [hcallback] at hsame
    rw [hsame]
    have hempty := h.insertEmpty hcallback
    exact ⟨hempty.callbacks, by simp [h.invoked]⟩
  | some callback =>
    rw [hcallback] at hsame
    rw [hsame]
    exact ⟨h.callbacks, by simp [h.invoked]⟩

/-- The same notification, taken by both. -/
theorem SameCallbacks.payload (h : SameCallbacks s c) {text : Bytes}
    (hregular : (TransportEvent.payload (C := C) text).Regular parse)
    (hresponse : (TransportEvent.payload (C := C) text).NoResponse parse) :
    ∃ s' c', s.handle parse raises (.payload text) = (s', .ok ()) ∧
      c.handle parse raises (.payload text) = (c', .ok ()) ∧ SameCallbacks s' c' := by
  cases hparse : parse text with
  | none =>
    exact ⟨s, c, NotificationServer.handle_unparsed hparse, CallbackTable.handle_unparsed hparse, h⟩
  | some value =>
    obtain ⟨method, params, hread⟩ :=
      JsonValue.methodAndParams_of_notification (hregular value hparse)
    exact ⟨_, _, NotificationServer.handle_read hparse hread,
      CallbackTable.handle_read hparse (hresponse value hparse) hread, h.callBack method params⟩

theorem SameCallbacks.step (h : SameCallbacks s c) {e : TransportEvent C}
    (hregular : e.Regular parse) (hresponse : e.NoResponse parse) :
    ∃ s' c', s.handle parse raises e = (s', .ok ()) ∧ c.handle parse raises e = (c', .ok ()) ∧
      SameCallbacks s' c' := by
  cases e with
  | subscribe topic callback => exact ⟨_, _, rfl, rfl, h.subscribe topic callback⟩
  | unsubscribe topic => exact ⟨_, _, rfl, rfl, h.unsubscribe topic⟩
  | payload text => exact h.payload hregular hresponse

/-- A payload without a method leaves `on_message` by an exception. -/
theorem regular_of_no_escape {e : TransportEvent C} (hresponse : e.NoResponse parse)
    {c' : CallbackTable C} (h : c.handle parse raises e = (c', .ok ())) : e.Regular parse := by
  cases e with
  | subscribe topic callback => trivial
  | unsubscribe topic => trivial
  | payload text =>
    intro value hparse
    simp only [CallbackTable.handle, CallbackTable.on_message, hparse, hresponse value hparse,
      Bool.false_eq_true, if_false] at h
    cases hread : value.methodAndParams with
    | error exception =>
      rw [hread] at h
      cases h
    | ok read =>
      obtain ⟨method, params⟩ := read
      exact JsonValue.notification_of_methodAndParams hread

variable (parse raises) in
/-- The two transports call the same callbacks in the same order, and no exception escapes. -/
def Agree (s : NotificationServer C) (c : CallbackTable C) (events : List (TransportEvent C)) :
    Prop :=
  (runAll (NotificationServer.handle parse raises) s events).2 = .ok () ∧
    (runAll (CallbackTable.handle parse raises) c events).2 = .ok () ∧
    (runAll (CallbackTable.handle parse raises) c events).1.invoked =
      (runAll (NotificationServer.handle parse raises) s events).1.invoked

theorem runAll_cons {State Event : Type} {handle : State → Event → Outcome State} {a b : State}
    {e : Event} (h : handle a e = (b, .ok ())) (es : List Event) :
    runAll handle a (e :: es) = runAll handle b es := by
  simp only [runAll, h]

theorem agree_cons {e : TransportEvent C} {es : List (TransportEvent C)} {s' : NotificationServer C}
    {c' : CallbackTable C} (hs : s.handle parse raises e = (s', .ok ()))
    (hc : c.handle parse raises e = (c', .ok ())) :
    Agree parse raises s c (e :: es) ↔ Agree parse raises s' c' es := by
  unfold Agree
  rw [runAll_cons hs, runAll_cons hc]

/-- The run stops at an event that an exception leaves. -/
theorem handled_of_agree {e : TransportEvent C} {es : List (TransportEvent C)}
    (h : Agree parse raises s c (e :: es)) : ∃ c', c.handle parse raises e = (c', .ok ()) := by
  obtain ⟨-, hno, -⟩ := h
  cases hstep : c.handle parse raises e with
  | mk c' result =>
    cases result with
    | ok u => exact ⟨c', rfl⟩
    | error exception =>
      simp only [runAll, hstep] at hno
      cases hno

theorem agree_iff_of_same (h : SameCallbacks s c) {events : List (TransportEvent C)}
    (hresponse : ∀ e ∈ events, e.NoResponse parse) :
    Agree parse raises s c events ↔ ∀ e ∈ events, e.Regular parse := by
  induction events generalizing s c with
  | nil =>
    refine ⟨fun _ e he => absurd he List.not_mem_nil, fun _ => ?_⟩
    exact ⟨rfl, rfl, h.invoked⟩
  | cons e es ih =>
    have hhead : e.NoResponse parse := hresponse e List.mem_cons_self
    have htail : ∀ a ∈ es, a.NoResponse parse := fun a ha =>
      hresponse a (List.mem_cons_of_mem e ha)
    constructor
    · intro hagree
      obtain ⟨c', hhandled⟩ := handled_of_agree hagree
      have hregular := regular_of_no_escape hhead hhandled
      obtain ⟨s', d, hs, hd, hsame⟩ : ∃ s' d, s.handle parse raises e = (s', .ok ()) ∧
        c.handle parse raises e = (d, .ok ()) ∧ SameCallbacks s' d := h.step hregular hhead
      have hrest := (ih hsame htail).mp ((agree_cons hs hd).mp hagree)
      intro a ha
      rcases List.mem_cons.mp ha with rfl | ha
      · exact hregular
      · exact hrest a ha
    · intro hall
      obtain ⟨s', d, hs, hd, hsame⟩ : ∃ s' d, s.handle parse raises e = (s', .ok ()) ∧
        c.handle parse raises e = (d, .ok ()) ∧ SameCallbacks s' d :=
        h.step (hall e List.mem_cons_self) hhead
      refine (agree_cons hs hd).mpr ((ih hsame htail).mpr ?_)
      exact fun a ha => hall a (List.mem_cons_of_mem e ha)

/-- For every sequence of registrations and payloads, the two transports agree exactly if every
payload that parses is an object with a method. -/
theorem transports_agree_iff {events : List (TransportEvent C)}
    (hresponse : ∀ e ∈ events, e.NoResponse parse) :
    Agree parse raises {} {} events ↔ ∀ e ∈ events, e.Regular parse :=
  agree_iff_of_same ⟨fun _ => rfl, rfl⟩ hresponse

end Agreement

/-- A notification of the topic `State0`. -/
def stateText : Bytes := bytes "\x7b\"method\":\"State0\"\x7d"

/-- The empty object. -/
def emptyText : Bytes := bytes "\x7b\x7d"

/-- A parser that knows these two texts. -/
def parseTwo (text : Bytes) : Option JsonValue :=
  if text = stateText then some (.object [("method", .string (bytes "State0"))])
  else if text = emptyText then some (.object [])
  else none

theorem parseTwo_empty : parseTwo emptyText = some (.object []) := by
  have hne : emptyText ≠ stateText := by decide +kernel
  rw [parseTwo, if_neg hne, if_pos rfl]

theorem parseTwo_state :
    parseTwo stateText = some (.object [("method", .string (bytes "State0"))]) := by
  rw [parseTwo, if_pos rfl]

/-- A callback that throws is called by both, and the text before it is passed over. -/
theorem transports_agree_on_state :
    Agree parseTwo (fun _ _ => true) {} {}
      [.subscribe (bytes "State0") 7, .payload (bytes "unknown"), .payload stateText] := by
  have hunknown : parseTwo (bytes "unknown") = none := by
    have hstate : bytes "unknown" ≠ stateText := by decide +kernel
    have hempty : bytes "unknown" ≠ emptyText := by decide +kernel
    rw [parseTwo, if_neg hstate, if_neg hempty]
  refine (transports_agree_iff ?_).mpr ?_
  · simp [TransportEvent.NoResponse, hunknown, parseTwo_state, JsonValue.contains]
  · simp [TransportEvent.Regular, hunknown, parseTwo_state, JsonValue.isNotification]

/-- The empty object ends the io thread of the one transport and is passed over by the other. -/
theorem method_missing_escapes :
    ¬ ∀ events : List (TransportEvent Nat),
      (∀ e ∈ events, e.NoResponse parseTwo) → Agree parseTwo (fun _ _ => false) {} {} events := by
  intro hclaim
  have hresponse : ∀ e ∈ [TransportEvent.payload (C := Nat) emptyText], e.NoResponse parseTwo := by
    simp [TransportEvent.NoResponse, parseTwo_empty, JsonValue.contains]
  obtain ⟨c', hhandled⟩ := handled_of_agree (hclaim _ hresponse)
  obtain ⟨members, method, heq, hmethod⟩ :=
    regular_of_no_escape (hresponse _ List.mem_cons_self) hhandled _ parseTwo_empty
  cases heq
  cases hmethod

end PeakAnalyser

import PeakAnalyser.WebSocketCalls
import PeakAnalyser.WebSocketSession

/-!
# One event for four happenings

Opened, failed, closed and answered are all told by `m_callbackEventId`. The waits of
`connect` and `call` are matched with the signals meant for them as long as `on_close`
signals no other moment than a wait.
-/

namespace PeakAnalyser

set_option autoImplicit false

open Runs

variable {Json : Type}

/-- What lines 80 to 91 make of the message in `m_response`. -/
def JsonRPCRequest.conclusion (json : JsonLibrary Json) (request : JsonRPCRequest Json)
    (reply : JsonRPCReply Json) : Except JsonRPCException Json :=
  match reply.error, reply.result with
  | some error, _ => .error
      { code := .jsonrpcError, message := request.method ++ " error: " ++ json.dump error }
  | none, some result => .ok result
  | none, none => .error
      { code := .badResponse
        message := request.method ++ " invalid response: " ++ json.dumpReply reply }

/-- A handler that tells `connect` what has become of its connection. -/
def HandlerPlace.reports : HandlerPlace → Bool
  | .assign .opened | .assign .failed | .signal .opened | .signal .failed => true
  | _ => false

/-- A handler of a connection that is lost. -/
def HandlerPlace.loses : HandlerPlace → Bool
  | .assign .failed | .assign .closed | .signal .failed | .signal .closed => true
  | _ => false

namespace WebSocketSession

/-- The message is the reply of the server to this very call, or the empty one of a call that
was waiting when the connection closed. -/
def Owns (s : WebSocketSession Json) (request : JsonRPCRequest Json) (message : JsonRPCReply Json) :
    Prop :=
  ((request.call, message) ∈ s.replies ∧ message.id = some request.id) ∨
    (message = {} ∧ request.call ∈ s.cutOff)

/-- How a call may end: its request could not be sent, or it has made of its own message what
there is to make of it. -/
def Accounted (json : JsonLibrary Json) (s : WebSocketSession Json)
    (entry : JsonRPCRequest Json × Except JsonRPCException Json) : Prop :=
  (∃ text, entry.2 = .error { code := .networkException, message := text }) ∨
    ∃ message, Owns s entry.1 message ∧ entry.2 = entry.1.conclusion json message

/-- The event is empty but in the two waits, no call goes on while its connection is still
being opened, and every call ends with its own answer. -/
structure Paired (json : JsonLibrary Json) (s : WebSocketSession Json) : Prop where
  event : s.m_callbackEventId = true → s.connect.isWait = true ∨ (s.thread ()).isWait = true
  reported : s.connect.isWait = false → ∀ session ∈ s.sessions, session ≠ Session.connecting
  answers : ∀ entry ∈ s.finished, Accounted json s entry

/-- `on_close` signals the event while a call waits for its reply, or while `connect` waits with
the event signalled already. -/
def closesInWait (s : WebSocketSession Json) : SessionLabel Json → Prop
  | .io => s.handler = .signal .closed → (s.thread ()).isWait = true ∨
      (s.connect.isWait = true ∧ s.m_callbackEventId = true)
  | _ => True

instance (s : WebSocketSession Json) : DecidablePred s.closesInWait
  | .io => inferInstanceAs (Decidable (_ → _))
  | .call _ _ | .caller _ | .session _ _ | .answer _ _ _ | .notify _ _ | .garble => .isTrue trivial

/-! ### The connections -/

/-- `connect` has nothing more to hear of. -/
def Reported (s : WebSocketSession Json) : Prop :=
  (∀ handle : Nat, s.sessions[handle]? ≠ some .connecting) ∧ s.handler.reports = false

/-- What holds of the connections and the event, wherever the call is. -/
structure Attended (s : WebSocketSession Json) : Prop where
  alone : s.thread () = .outside ∨ s.connect = .outside
  event : s.m_callbackEventId = true → s.connect.isWait = true ∨ (s.thread ()).isWait = true
  unreported : s.connect.isWait = false ∨ s.m_callbackEventId = true → Reported s
  connecting : ∀ handle, s.sessions[handle]? = some .connecting →
    s.m_hdl = some handle ∧ s.handler.reports = false
  opened : ∀ handle, s.sessions[handle]? = some .opened → s.m_hdl = some handle ∧
    s.handler.loses = false ∧ (s.m_connected = true ∨ s.handler = .assign .opened)
  starting : ∀ method params, s.connect = .getConnection method params → s.m_connected = false
  sequential : s.handler = .outside ∨ s.io = .ready

/-- The event is empty unless somebody waits for it. -/
theorem Attended.event_empty {s : WebSocketSession Json} (hs : Attended s)
    (houtside : s.thread () = .outside) (hquiet : s.connect.isWait = false) :
    s.m_callbackEventId = false := by
  by_contra hfull
  rcases hs.event (by simpa using hfull) with hwait | hwait
  · cases hquiet.symm.trans hwait
  · rw [houtside] at hwait
    cases hwait

/-- Nothing that the connections and the event are made of has changed. -/
structure SameSessions (s s' : WebSocketSession Json) : Prop where
  thread : (s'.thread ()).isWait = (s.thread ()).isWait
  connect : s'.connect = s.connect
  event : s'.m_callbackEventId = s.m_callbackEventId
  sessions : s'.sessions = s.sessions
  handler : s'.handler = s.handler
  m_hdl : s'.m_hdl = s.m_hdl
  m_connected : s'.m_connected = s.m_connected

theorem Reported.same {s s' : WebSocketSession Json} (h : SameSessions s s') (hs : Reported s) :
    Reported s' := by
  unfold Reported
  rw [h.sessions, h.handler]
  exact hs

theorem Attended.same {s s' : WebSocketSession Json} (h : SameSessions s s') (hs : Attended s)
    (halone : s'.thread () = .outside ∨ s'.connect = .outside)
    (hio : s'.handler = .outside ∨ s'.io = .ready) : Attended s' where
  alone := halone
  event := by
    rw [h.event, h.connect, h.thread]
    exact hs.event
  unreported := by
    rw [h.connect, h.event]
    exact fun hquiet => (hs.unreported hquiet).same h
  connecting := by
    rw [h.sessions, h.m_hdl, h.handler]
    exact hs.connecting
  opened := by
    rw [h.sessions, h.m_hdl, h.handler, h.m_connected]
    exact hs.opened
  starting := by
    rw [h.connect, h.m_connected]
    exact hs.starting
  sequential := hio

theorem Attended.withClient {s : WebSocketSession Json} {client : JsonRPCClientWS Json Unit}
    (hs : Attended s) (hthread : client.thread = s.thread)
    (hevent : client.m_callbackEventId = s.m_callbackEventId)
    (hio : s.handler = .outside ∨ client.io = .ready) : Attended (s.withClient client) := by
  have hsame : SameSessions s (s.withClient client) := by
    refine ⟨?_, rfl, hevent, rfl, rfl, rfl, rfl⟩
    change (client.thread ()).isWait = _
    rw [hthread]
  apply hs.same hsame _ hio
  change client.thread () = .outside ∨ _
  rw [hthread]
  exact hs.alone

/-! ### The exchange of a call -/

/-- No reply is on its way. -/
def Quiet (s : WebSocketSession Json) : Prop :=
  s.requests = [] ∧ s.replying = [] ∧ s.io ≠ .signal

/-- The request was sent on the connection of `m_hdl`, which is open. -/
def Carried (s : WebSocketSession Json) (request : JsonRPCRequest Json) : Prop :=
  s.sentOn request.call = s.m_hdl ∧ s.isOpen = true

/-- How far the exchange of a waiting call is while its event is empty. -/
inductive Exchange (s : WebSocketSession Json) (request : JsonRPCRequest Json) : Prop where
  | asked (hrequests : s.requests = [request]) (hframes : s.replying = []) (hio : s.io ≠ .signal)
      (hempty : s.m_response = {}) (hcarried : Carried s request)
  | answered {message : JsonRPCReply Json} (hrequests : s.requests = [])
      (hframes : s.replying = [(request.call, message)]) (hio : s.io ≠ .signal)
      (hempty : s.m_response = {}) (hcarried : Carried s request)
      (hsent : (request.call, message) ∈ s.replies) (hid : message.id = some request.id)
  | arrived (hrequests : s.requests = []) (hframes : s.replying = [])
      (hio : s.io = .signal) (hsent : (request.call, s.m_response) ∈ s.replies)
      (hid : s.m_response.id = some request.id)
  | cut (hquiet : Quiet s) (hempty : s.m_response = {})

/-- What holds where the caller is in `call`. -/
def Placed (s : WebSocketSession Json) : CallPlace Json → Prop
  | .outside | .clear _ => Quiet s
  | .send _ => Quiet s ∧ s.m_response = {}
  | .wait request =>
    (s.m_callbackEventId = false → Exchange s request) ∧
      (s.m_callbackEventId = true → Quiet s ∧ Owns s request s.m_response)
  | .checkError request => Quiet s ∧ Owns s request s.m_response
  | .raiseError request =>
    Quiet s ∧ Owns s request s.m_response ∧ s.m_response.error.isSome = true
  | .checkResult request => Quiet s ∧ Owns s request s.m_response ∧ s.m_response.error = none
  | .raiseInvalid request =>
    Quiet s ∧ Owns s request s.m_response ∧ s.m_response.error = none ∧ s.m_response.result = none
  | .takeResult request =>
    Quiet s ∧ Owns s request s.m_response ∧ s.m_response.error = none ∧
      s.m_response.result.isSome = true

structure Matched (json : JsonLibrary Json) (s : WebSocketSession Json) : Prop extends
    Attended s where
  placed : Placed s (s.thread ())
  answers : ∀ entry ∈ s.finished, Accounted json s entry

theorem Matched.paired {json : JsonLibrary Json} {s : WebSocketSession Json} (hs : Matched json s) :
    Paired json s where
  event := hs.event
  reported := by
    rintro hconnect session hmem rfl
    obtain ⟨handle, hhandle⟩ := List.mem_iff_getElem?.mp hmem
    exact (hs.unreported (Or.inl hconnect)).1 handle hhandle
  answers := hs.answers

theorem Owns.mono {s s' : WebSocketSession Json} {request : JsonRPCRequest Json}
    {message : JsonRPCReply Json} (hreplies : ∀ r ∈ s.replies, r ∈ s'.replies)
    (hcut : ∀ c ∈ s.cutOff, c ∈ s'.cutOff) (h : Owns s request message) :
    Owns s' request message := by
  rcases h with ⟨hsent, hid⟩ | ⟨hempty, hmem⟩
  · exact Or.inl ⟨hreplies _ hsent, hid⟩
  · exact Or.inr ⟨hempty, hcut _ hmem⟩

theorem Accounted.mono {json : JsonLibrary Json} {s s' : WebSocketSession Json}
    {entry : JsonRPCRequest Json × Except JsonRPCException Json}
    (hreplies : ∀ r ∈ s.replies, r ∈ s'.replies) (hcut : ∀ c ∈ s.cutOff, c ∈ s'.cutOff)
    (h : Accounted json s entry) : Accounted json s' entry := by
  rcases h with hfailed | ⟨message, howns, houtcome⟩
  · exact Or.inl hfailed
  · exact Or.inr ⟨message, howns.mono hreplies hcut, houtcome⟩

section Steps
variable {json : JsonLibrary Json} {s s' : WebSocketSession Json}

/-- Nothing of the exchange has changed. -/
structure SameExchange (s s' : WebSocketSession Json) : Prop where
  requests : s'.requests = s.requests
  replying : s'.replying = s.replying
  io : s'.io = .signal ↔ s.io = .signal
  m_response : s'.m_response = s.m_response
  replies : s'.replies = s.replies
  cutOff : s'.cutOff = s.cutOff

theorem Quiet.same (h : SameExchange s s') (hs : Quiet s) : Quiet s' := by
  obtain ⟨hrequests, hframes, hio⟩ := hs
  refine ⟨h.requests.trans hrequests, h.replying.trans hframes, ?_⟩
  intro hsignal
  exact hio (h.io.mp hsignal)

theorem Owns.same {request : JsonRPCRequest Json} {message : JsonRPCReply Json}
    (h : SameExchange s s') (hs : Owns s request message) : Owns s' request message := by
  unfold Owns
  rw [h.replies, h.cutOff]
  exact hs

theorem Exchange.same {request : JsonRPCRequest Json} (h : SameExchange s s')
    (hcarried : Carried s request → Carried s' request) (hs : Exchange s request) :
    Exchange s' request := by
  cases hs with
  | asked hrequests hframes hio hempty hc =>
    apply Exchange.asked (h.requests.trans hrequests) (h.replying.trans hframes) _
      (h.m_response.trans hempty) (hcarried hc)
    intro hsignal
    exact hio (h.io.mp hsignal)
  | @answered message hrequests hframes hio hempty hc hsent hid =>
    apply Exchange.answered (h.requests.trans hrequests) (h.replying.trans hframes) _
      (h.m_response.trans hempty) (hcarried hc) _ hid
    · intro hsignal
      exact hio (h.io.mp hsignal)
    · rw [h.replies]
      exact hsent
  | arrived hrequests hframes hio hsent hid =>
    apply Exchange.arrived (h.requests.trans hrequests) (h.replying.trans hframes) (h.io.mpr hio)
    · rw [h.replies, h.m_response]
      exact hsent
    · rw [h.m_response]
      exact hid
  | cut hquiet hempty => exact .cut (hquiet.same h) (h.m_response.trans hempty)

theorem Placed.same {place : CallPlace Json} (h : SameExchange s s')
    (hevent : s'.m_callbackEventId = s.m_callbackEventId)
    (hcarried : ∀ request, Carried s request → Carried s' request) (hs : Placed s place) :
    Placed s' place := by
  cases place with
  | outside | clear request => exact Quiet.same h hs
  | send request => exact ⟨hs.1.same h, h.m_response.trans hs.2⟩
  | wait request =>
    constructor
    · intro hfalse
      exact (hs.1 (hevent.symm.trans hfalse)).same h (hcarried request)
    · intro htrue
      obtain ⟨hquiet, howns⟩ := hs.2 (hevent.symm.trans htrue)
      rw [h.m_response]
      exact ⟨hquiet.same h, howns.same h⟩
  | checkError request =>
    obtain ⟨hquiet, howns⟩ := hs
    refine ⟨hquiet.same h, ?_⟩
    rw [h.m_response]
    exact howns.same h
  | raiseError request | checkResult request | raiseInvalid request | takeResult request =>
    obtain ⟨hquiet, howns, hmembers⟩ := hs
    refine ⟨hquiet.same h, ?_⟩
    rw [h.m_response]
    exact ⟨howns.same h, hmembers⟩

/-- An exchange goes on only while its call waits. -/
theorem Placed.exchange {place : CallPlace Json} (hs : Placed s place) (hnot : ¬ Quiet s) :
    ∃ request, place = .wait request ∧ s.m_callbackEventId = false ∧ Exchange s request := by
  cases place with
  | outside | clear _ => exact absurd hs hnot
  | send _ | checkError _ | raiseError _ | checkResult _ | raiseInvalid _ | takeResult _ =>
    exact absurd hs.1 hnot
  | wait request =>
    cases hevent : s.m_callbackEventId with
    | true => exact absurd (hs.2 hevent).1 hnot
    | false => exact ⟨request, rfl, rfl, hs.1 hevent⟩

/-- A request is unanswered only while its call waits. -/
theorem Placed.asked {place : CallPlace Json} (hs : Placed s place) (hne : s.requests ≠ []) :
    ∃ request, place = .wait request ∧ s.m_callbackEventId = false ∧ s.requests = [request] ∧
      s.replying = [] ∧ s.io ≠ .signal ∧ s.m_response = {} ∧ Carried s request := by
  have hnot : ¬ Quiet s := fun hquiet => hne hquiet.1
  obtain ⟨request, rfl, hevent, hexchange⟩ := hs.exchange hnot
  cases hexchange with
  | asked hrequests hframes hio hempty hcarried =>
    exact ⟨request, rfl, hevent, hrequests, hframes, hio, hempty, hcarried⟩
  | answered hrequests => exact absurd hrequests hne
  | arrived hrequests => exact absurd hrequests hne
  | cut hquiet => exact absurd hquiet hnot

/-- A reply is on its way only while its call waits. -/
theorem Placed.answered {place : CallPlace Json} (hs : Placed s place) (hne : s.replying ≠ []) :
    ∃ request message, place = .wait request ∧ s.m_callbackEventId = false ∧ s.requests = [] ∧
      s.replying = [(request.call, message)] ∧ Carried s request ∧
      (request.call, message) ∈ s.replies ∧ message.id = some request.id := by
  have hnot : ¬ Quiet s := fun hquiet => hne hquiet.2.1
  obtain ⟨request, rfl, hevent, hexchange⟩ := hs.exchange hnot
  cases hexchange with
  | asked _ hframes => exact absurd hframes hne
  | @answered message hrequests hframes _ _ hcarried hsent hid =>
    exact ⟨request, message, rfl, hevent, hrequests, hframes, hcarried, hsent, hid⟩
  | arrived _ hframes => exact absurd hframes hne
  | cut hquiet => exact absurd hquiet hnot

/-- The io thread is about to signal for a reply only while its call waits. -/
theorem Placed.arrived {place : CallPlace Json} (hs : Placed s place) (hio : s.io = .signal) :
    ∃ request, place = .wait request ∧ s.requests = [] ∧ s.replying = [] ∧
      (request.call, s.m_response) ∈ s.replies ∧ s.m_response.id = some request.id := by
  have hnot : ¬ Quiet s := fun hquiet => hquiet.2.2 hio
  obtain ⟨request, rfl, -, hexchange⟩ := hs.exchange hnot
  cases hexchange with
  | asked _ _ hready => exact absurd hio hready
  | answered _ _ hready => exact absurd hio hready
  | arrived hrequests hframes _ hsent hid => exact ⟨request, rfl, hrequests, hframes, hsent, hid⟩
  | cut hquiet => exact absurd hquiet hnot

theorem placed_outside (houtside : s.thread () = .outside) (hquiet : Quiet s) :
    Placed s (s.thread ()) := by
  rw [houtside]
  exact hquiet

theorem Matched.quiet (hs : Matched json s) (houtside : s.thread () = .outside) : Quiet s := by
  have hplaced := hs.placed
  rw [houtside] at hplaced
  exact hplaced

/-! ### What the server and the io thread do -/

/-- Neither the sessions nor the exchange are touched. -/
theorem Matched.untouched (hs : Matched json s) (hsessions : SameSessions s s')
    (hexchange : SameExchange s s') (hsentOn : s'.sentOn = s.sentOn) (hthread : s'.thread = s.thread)
    (hfinished : s'.finished = s.finished) (hio : s'.handler = .outside ∨ s'.io = .ready) :
    Matched json s' where
  toAttended := by
    apply hs.toAttended.same hsessions _ hio
    rw [hthread, hsessions.connect]
    exact hs.alone
  placed := by
    rw [hthread]
    apply hs.placed.same hexchange hsessions.event
    intro request hcarried
    unfold Carried isOpen at *
    rw [hsentOn, hsessions.m_hdl, hsessions.sessions]
    exact hcarried
  answers := by
    rw [hfinished]
    intro entry hmem
    apply (hs.answers entry hmem).mono
    · rw [hexchange.replies]
      exact fun _ hr => hr
    · rw [hexchange.cutOff]
      exact fun _ hc => hc

theorem replying_append {frame : Frame Json} (h : frame.reply? = none) :
    (s.incoming ++ [frame]).filterMap Frame.reply? = s.replying := by
  rw [List.filterMap_append, List.filterMap_cons_none h, List.filterMap_nil, List.append_nil]
  rfl

theorem Matched.incoming (hs : Matched json s) {frame : Frame Json} (h : frame.reply? = none) :
    Matched json { s with incoming := s.incoming ++ [frame] } :=
  hs.untouched ⟨rfl, rfl, rfl, rfl, rfl, rfl, rfl⟩ ⟨rfl, replying_append h, Iff.rfl, rfl, rfl, rfl⟩ rfl
    rfl rfl hs.sequential

/-- The server answers the one request that there is. -/
theorem Matched.answer {position : Nat} {error result : Option Json} (hs : Matched json s)
    (h : (s.answer position error result).map s.withClient = some s') : Matched json s' := by
  obtain ⟨client, hanswer, rfl⟩ := Option.map_eq_some_iff.mp h
  obtain ⟨request, hrequest, rfl⟩ := Option.map_eq_some_iff.mp hanswer
  have hne : s.requests ≠ [] := by
    intro hnil
    rw [hnil] at hrequest
    cases hrequest
  obtain ⟨asked, hplace, hevent, hrequests, hframes, hio, hempty, hcarried⟩ := hs.placed.asked hne
  rw [hrequests] at hrequest
  obtain ⟨hlt, hget⟩ := List.getElem?_eq_some_iff.mp hrequest
  have hposition : position = 0 := by simpa using hlt
  subst hposition
  have heq : asked = request := by simpa using hget
  subst heq
  refine ⟨hs.toAttended.withClient rfl rfl hs.sequential, ?_, ?_⟩
  · change Placed _ (s.thread ())
    rw [hplace]
    refine ⟨fun _ => ?_, fun htrue => ?_⟩
    · refine .answered ?_ ?_ hio hempty hcarried
        (List.mem_append_right _ List.mem_cons_self) rfl
      · change s.requests.eraseIdx 0 = []
        rw [hrequests]
        rfl
      · change (s.incoming ++ [_]).filterMap Frame.reply? = _
        rw [List.filterMap_append]
        change s.replying ++ _ = _
        rw [hframes]
        rfl
    · cases hevent.symm.trans htrue
  · intro entry hmem
    exact (hs.answers entry hmem).mono (fun _ hr => List.mem_append_left _ hr) fun _ hc => hc

/-- `on_message` passes over a frame that is no reply. -/
theorem Matched.skip {frame : Frame Json} {rest : List (Frame Json)} {io : IoPlace Json}
    (hs : Matched json s) (hhandler : s.handler = .outside) (hincoming : s.incoming = frame :: rest)
    (hreply : frame.reply? = none) (hio : s.io ≠ .signal) (hnext : io ≠ .signal) :
    Matched json (s.withClient { s.toJsonRPCClientWS with incoming := rest, io }) := by
  refine hs.untouched ⟨rfl, rfl, rfl, rfl, rfl, rfl, rfl⟩ ⟨rfl, ?_, ?_, rfl, rfl, rfl⟩ rfl rfl
    rfl (Or.inl hhandler)
  · change rest.filterMap Frame.reply? = s.incoming.filterMap Frame.reply?
    rw [hincoming, List.filterMap_cons_none hreply]
  · exact ⟨fun h => absurd h hnext, fun h => absurd h hio⟩

/-- `on_message` takes the reply that its call waits for. -/
theorem Matched.on_message (hs : Matched json s) (hhandler : s.handler = .outside)
    (h : s.on_message.map s.withClient = some s') : Matched json s' := by
  obtain ⟨client, hmessage, rfl⟩ := Option.map_eq_some_iff.mp h
  unfold JsonRPCClientWS.on_message at hmessage
  cases hio : s.io with
  | callback method params =>
    simp only [hio] at hmessage
    obtain rfl := Option.some.inj hmessage
    refine hs.untouched ⟨rfl, rfl, rfl, rfl, rfl, rfl, rfl⟩ ⟨rfl, rfl, ?_, rfl, rfl, rfl⟩ rfl rfl rfl
      (Or.inl hhandler)
    simp [withClient, hio]
  | signal =>
    simp only [hio] at hmessage
    obtain rfl := Option.some.inj hmessage
    obtain ⟨request, hplace, hrequests, hframes, hsent, hid⟩ := hs.placed.arrived hio
    have hconnect : s.connect = .outside := by
      rcases hs.alone with houtside | hconnect
      · rw [hplace] at houtside
        cases houtside
      · exact hconnect
    have hreported : Reported s := hs.unreported (Or.inl (by rw [hconnect]; rfl))
    refine ⟨⟨hs.alone, fun _ => Or.inr ?_, fun _ => hreported, hs.connecting, hs.opened,
      hs.starting, Or.inr rfl⟩, ?_, hs.answers⟩
    · change (s.thread ()).isWait = true
      rw [hplace]
      rfl
    · change Placed _ (s.thread ())
      rw [hplace]
      refine ⟨?_, fun _ => ⟨⟨hrequests, hframes, ?_⟩, Or.inl ⟨hsent, hid⟩⟩⟩
      · rintro ⟨⟩
      · rintro ⟨⟩
  | ready =>
    have hready : s.io ≠ .signal := by simp [hio]
    simp only [hio] at hmessage
    cases hincoming : s.incoming with
    | nil =>
      simp only [hincoming] at hmessage
      cases hmessage
    | cons frame rest =>
      cases frame with
      | unusable =>
        simp only [hincoming] at hmessage
        obtain rfl := Option.some.inj hmessage
        exact hs.skip hhandler hincoming rfl hready (by simp)
      | notification method params =>
        simp only [hincoming] at hmessage
        obtain rfl := Option.some.inj hmessage
        exact hs.skip hhandler hincoming rfl hready (by simp)
      | reply call message =>
        simp only [hincoming] at hmessage
        obtain rfl := Option.some.inj hmessage
        have hhead : s.replying = (call, message) :: rest.filterMap Frame.reply? := by
          unfold JsonRPCClientWS.replying
          rw [hincoming]
          rfl
        obtain ⟨request, own, hplace, hevent, hrequests, hframes, -, hsent, hid⟩ :=
          hs.placed.answered (by rw [hhead]; exact List.cons_ne_nil _ _)
        obtain ⟨hown, hrest⟩ := List.cons.inj (hhead.symm.trans hframes)
        obtain ⟨rfl, rfl⟩ := Prod.mk.inj hown
        refine ⟨hs.toAttended.withClient rfl rfl (Or.inl hhandler), ?_, hs.answers⟩
        change Placed _ (s.thread ())
        rw [hplace]
        refine ⟨fun _ => .arrived hrequests hrest rfl hsent hid, fun htrue => ?_⟩
        cases hevent.symm.trans htrue

/-- A handler stores whether there is a connection. -/
theorem Matched.assign {event : SessionEvent} (hs : Matched json s)
    (hhandler : s.handler = .assign event) :
    Matched json { s with m_connected := event == .opened, handler := .signal event } := by
  have hio : s.io = .ready := by
    rcases hs.sequential with houtside | hready
    · rw [hhandler] at houtside
      cases houtside
    · exact hready
  have hreports : (HandlerPlace.signal event).reports = s.handler.reports := by
    rw [hhandler]
    cases event <;> rfl
  have hloses : (HandlerPlace.signal event).loses = s.handler.loses := by
    rw [hhandler]
    cases event <;> rfl
  refine ⟨⟨hs.alone, hs.event, fun hquiet => ?_, fun handle hconnecting => ?_, fun handle hopen => ?_,
    fun method params hstart => ?_, Or.inr hio⟩, ?_, hs.answers⟩
  · obtain ⟨hsessions, hquiet⟩ := hs.unreported hquiet
    exact ⟨hsessions, hreports.trans hquiet⟩
  · obtain ⟨hhdl, hquiet⟩ := hs.connecting handle hconnecting
    exact ⟨hhdl, hreports.trans hquiet⟩
  · obtain ⟨hhdl, hkept, -⟩ := hs.opened handle hopen
    refine ⟨hhdl, hloses.trans hkept, Or.inl ?_⟩
    cases event with
    | opened => rfl
    | failed | closed =>
      rw [hhandler] at hkept
      cases hkept
  · have hquiet : s.connect.isWait = false := by
      rw [show s.connect = .getConnection method params from hstart]
      rfl
    have hreported := (hs.unreported (Or.inl hquiet)).2
    cases event with
    | opened =>
      rw [hhandler] at hreported
      cases hreported
    | failed | closed => rfl
  · exact Placed.same (s := s) ⟨rfl, rfl, Iff.rfl, rfl, rfl, rfl⟩ rfl (fun _ h => h) hs.placed

/-- `on_open` and `on_fail` signal the event for the `connect` that waits for it. -/
theorem Matched.report {event : SessionEvent} (hs : Matched json s)
    (hhandler : s.handler = .signal event) (hevent : event ≠ .closed) :
    Matched json { s with m_callbackEventId := true, handler := .outside, cutOff := s.cutOff } := by
  have hreports : s.handler.reports = true := by
    rw [hhandler]
    cases event <;> first | rfl | exact absurd rfl hevent
  have hnot : ¬ Reported s := by
    rintro ⟨-, hquiet⟩
    rw [hreports] at hquiet
    cases hquiet
  have hwait : s.connect.isWait = true := by
    by_contra hno
    exact hnot (hs.unreported (Or.inl (by simpa using hno)))
  have houtside : s.thread () = .outside := by
    rcases hs.alone with houtside | hconnect
    · exact houtside
    · rw [hconnect] at hwait
      cases hwait
  have hnone : ∀ handle : Nat, s.sessions[handle]? ≠ some .connecting := by
    intro handle hconnecting
    have hquiet := (hs.connecting handle hconnecting).2
    rw [hreports] at hquiet
    cases hquiet
  have hopened : ∀ handle, s.sessions[handle]? = some .opened →
      s.m_hdl = some handle ∧ HandlerPlace.outside.loses = false ∧
        (s.m_connected = true ∨ HandlerPlace.outside = .assign .opened) := by
    intro handle hopen
    obtain ⟨hhdl, -, hconnected | hassign⟩ := hs.opened handle hopen
    · exact ⟨hhdl, rfl, Or.inl hconnected⟩
    · rw [hhandler] at hassign
      cases hassign
  exact ⟨⟨hs.alone, fun _ => Or.inl hwait, fun _ => ⟨hnone, rfl⟩,
    fun handle hconnecting => absurd hconnecting (hnone handle), hopened, hs.starting, Or.inl rfl⟩,
    placed_outside houtside (hs.quiet houtside), hs.answers⟩

/-- `on_close` signals the event in a wait: it cuts off the call, or comes on top of the
signal that `connect` has got. -/
theorem Matched.close (hs : Matched json s) (hhandler : s.handler = .signal .closed)
    (hwait : (s.thread ()).isWait = true ∨
      (s.connect.isWait = true ∧ s.m_callbackEventId = true)) :
    Matched json { s with
      m_callbackEventId := true
      handler := .outside
      cutOff :=
        match SessionEvent.closed, s.thread () with
        | .closed, .wait request => s.cutOff ++ [request.call]
        | _, _ => s.cutOff } := by
  have hready : s.io = .ready := by
    rcases hs.sequential with houtside | hready
    · rw [hhandler] at houtside
      cases houtside
    · exact hready
  have hreported : Reported s := by
    apply hs.unreported
    rcases hwait with hthread | ⟨-, hevent⟩
    · left
      rcases hs.alone with houtside | hconnect
      · rw [houtside] at hthread
        cases hthread
      · rw [hconnect]
        rfl
    · exact Or.inr hevent
  have hnone : ∀ handle : Nat, s.sessions[handle]? ≠ some .opened := by
    intro handle hopen
    have hkept := (hs.opened handle hopen).2.1
    rw [hhandler] at hkept
    cases hkept
  have hcarried : ∀ request, ¬ Carried s request := by
    rintro request ⟨-, hopen⟩
    unfold isOpen at hopen
    cases hhdl : s.m_hdl with
    | none =>
      rw [hhdl] at hopen
      cases hopen
    | some handle =>
      rw [hhdl] at hopen
      exact hnone handle (by simpa using hopen)
  refine ⟨⟨hs.alone, fun _ => ?_, fun _ => ⟨hreported.1, rfl⟩,
    fun handle hconnecting => absurd hconnecting (hreported.1 handle),
    fun handle hopen => absurd hopen (hnone handle), hs.starting, Or.inl rfl⟩, ?_, ?_⟩
  · rcases hwait with hthread | ⟨hconnect, -⟩
    · exact Or.inr hthread
    · exact Or.inl hconnect
  · have hplaced := hs.placed
    rcases hwait with hthread | ⟨hconnect, -⟩
    · cases hplace : s.thread () with
      | wait request =>
        rw [hplace] at hplaced
        refine ⟨nofun, fun _ => ?_⟩
        have hown : request.call ∈ s.cutOff ++ [request.call] :=
          List.mem_append_right _ List.mem_cons_self
        cases hevent : s.m_callbackEventId with
        | true =>
          obtain ⟨hquiet, howns⟩ := hplaced.2 hevent
          exact ⟨hquiet, Owns.mono (s := s) (fun _ hr => hr)
            (fun _ hc => List.mem_append_left _ hc) howns⟩
        | false =>
          cases hplaced.1 hevent with
          | asked _ _ _ _ hcarry => exact absurd hcarry (hcarried request)
          | answered _ _ _ _ hcarry => exact absurd hcarry (hcarried request)
          | arrived _ _ hio =>
            rw [hready] at hio
            cases hio
          | cut hquiet hempty => exact ⟨hquiet, Or.inr ⟨hempty, hown⟩⟩
      | _ =>
        rw [hplace] at hthread
        cases hthread
    · have houtside : s.thread () = .outside := by
        rcases hs.alone with houtside | hno
        · exact houtside
        · rw [hno] at hconnect
          cases hconnect
      exact placed_outside houtside (hs.quiet houtside)
  · intro entry hmem
    refine Accounted.mono (s := s) (fun _ hr => hr) (fun c hc => ?_) (hs.answers entry hmem)
    cases hplace : s.thread () with
    | wait request => exact List.mem_append_left _ hc
    | _ => exact hc

theorem Matched.ioStep (hs : Matched json s) (hok : s.closesInWait .io)
    (h : s.ioStep = some s') : Matched json s' := by
  unfold WebSocketSession.ioStep at h
  cases hhandler : s.handler with
  | outside =>
    simp only [hhandler] at h
    exact hs.on_message hhandler h
  | assign event =>
    simp only [hhandler] at h
    obtain rfl := Option.some.inj h
    exact hs.assign hhandler
  | signal event =>
    simp only [hhandler] at h
    obtain rfl := Option.some.inj h
    cases event with
    | closed => exact hs.close hhandler (hok hhandler)
    | opened => exact hs.report hhandler (by simp)
    | failed => exact hs.report hhandler (by simp)

/-- A connection comes about or fails: `connect` waits for it. -/
theorem Matched.settle {handle : Nat} {event : SessionEvent} {session : Session}
    (hs : Matched json s) (hio : s.io = .ready)
    (hconnecting : s.sessions[handle]? = some .connecting)
    (hevent : event = .opened ∧ session = .opened ∨ event = .failed ∧ session = .closed) :
    Matched json { s with
      sessions := s.sessions.set handle session
      handler := .assign event } := by
  obtain ⟨hhdl, -⟩ := hs.connecting handle hconnecting
  have hnot : ¬ Reported s := fun hreported => hreported.1 handle hconnecting
  have hwait : s.connect.isWait = true := by
    by_contra hno
    exact hnot (hs.unreported (Or.inl (by simpa using hno)))
  have hempty : s.m_callbackEventId = false := by
    by_contra hfull
    exact hnot (hs.unreported (Or.inr (by simpa using hfull)))
  have houtside : s.thread () = .outside := by
    rcases hs.alone with houtside | hconnect
    · exact houtside
    · rw [hconnect] at hwait
      cases hwait
  have hother : ∀ other, other ≠ handle → s.sessions[other]? ≠ some .connecting ∧
      s.sessions[other]? ≠ some .opened := by
    intro other hne
    constructor
    · intro hsame
      exact hne (Option.some.inj ((hs.connecting other hsame).1.symm.trans hhdl))
    · intro hsame
      exact hne (Option.some.inj ((hs.opened other hsame).1.symm.trans hhdl))
  have hset : ∀ other, (s.sessions.set handle session)[other]? =
      if other = handle then some session else s.sessions[other]? := by
    intro other
    have hlt : handle < s.sessions.length := (List.getElem?_eq_some_iff.mp hconnecting).1
    rw [List.getElem?_set]
    by_cases heq : handle = other
    · subst heq
      simp [hlt]
    · simp [heq, Ne.symm heq]
  refine ⟨⟨hs.alone, hs.event, fun hquiet => ?_, fun other hsame => ?_, fun other hsame => ?_,
    hs.starting, Or.inr hio⟩, ?_, hs.answers⟩
  · rcases hquiet with hno | hfull
    · cases hwait.symm.trans hno
    · cases hempty.symm.trans hfull
  · rw [hset] at hsame
    split at hsame
    · rcases hevent with ⟨-, rfl⟩ | ⟨-, rfl⟩
      · cases hsame
      · cases hsame
    · rename_i hne
      exact absurd hsame (hother other hne).1
  · rw [hset] at hsame
    split at hsame
    · rename_i heq
      subst heq
      rcases hevent with ⟨rfl, -⟩ | ⟨-, rfl⟩
      · exact ⟨hhdl, rfl, Or.inr rfl⟩
      · cases hsame
    · rename_i hne
      exact absurd hsame (hother other hne).2
  · exact placed_outside houtside (hs.quiet houtside)

/-- A connection that closes keeps back every reply that it carries. -/
theorem replying_dropped {sentOn : Nat → Option Nat} {handle : Nat} {incoming : List (Frame Json)}
    (h : ∀ reply ∈ incoming.filterMap Frame.reply?, sentOn reply.1 = some handle) :
    (incoming.filter fun frame => frame.call?.bind sentOn ≠ some handle).filterMap
      Frame.reply? = [] := by
  rw [List.filterMap_eq_nil_iff]
  intro frame hmem
  obtain ⟨hin, hkept⟩ := List.mem_filter.mp hmem
  cases frame with
  | reply call message =>
    have hsent : sentOn call = some handle :=
      h (call, message) (List.mem_filterMap.mpr ⟨_, hin, rfl⟩)
    simp [Frame.call?, hsent] at hkept
  | notification _ _ | unusable => rfl

/-- The open connection closes: what it carries is lost, and a waiting call is cut off. -/
theorem Matched.lose {handle : Nat} (hs : Matched json s) (hio : s.io = .ready)
    (hopen : s.sessions[handle]? = some .opened) :
    Matched json { s with
      sessions := s.sessions.set handle .closed
      handler := .assign .closed
      requests := s.requests.filter fun request => s.sentOn request.call ≠ some handle
      incoming := s.incoming.filter fun frame => frame.call?.bind s.sentOn ≠ some handle } := by
  obtain ⟨hhdl, -, -⟩ := hs.opened handle hopen
  have hset : ∀ other session, (s.sessions.set handle .closed)[other]? = some session →
      session ≠ .closed → other ≠ handle ∧ s.sessions[other]? = some session := by
    intro other session hsame hlive
    rw [List.getElem?_set] at hsame
    split at hsame
    · split at hsame
      · exact absurd (Option.some.inj hsame).symm hlive
      · cases hsame
    · rename_i hne
      exact ⟨Ne.symm hne, hsame⟩
  have hnoneOpen : ∀ other : Nat, (s.sessions.set handle .closed)[other]? ≠ some .opened := by
    intro other hsame
    obtain ⟨hne, hold⟩ := hset other .opened hsame (by simp)
    exact hne (Option.some.inj ((hs.opened other hold).1.symm.trans hhdl))
  have hnoneConnecting : ∀ other : Nat,
      (s.sessions.set handle .closed)[other]? ≠ some .connecting := by
    intro other hsame
    obtain ⟨hne, hold⟩ := hset other .connecting hsame (by simp)
    exact hne (Option.some.inj ((hs.connecting other hold).1.symm.trans hhdl))
  have hquiet : ∀ s' : WebSocketSession Json, s' = { s with
      sessions := s.sessions.set handle .closed
      handler := .assign .closed
      requests := s.requests.filter fun request => s.sentOn request.call ≠ some handle
      incoming := s.incoming.filter fun frame => frame.call?.bind s.sentOn ≠ some handle } →
      Quiet s → Quiet s' := by
    rintro s' rfl ⟨hrequests, hframes, hsignal⟩
    refine ⟨?_, replying_dropped fun reply hreply => ?_, hsignal⟩
    · change s.requests.filter _ = []
      rw [hrequests]
      rfl
    · change reply ∈ s.replying at hreply
      rw [hframes] at hreply
      cases hreply
  refine ⟨⟨hs.alone, hs.event, fun _ => ⟨hnoneConnecting, rfl⟩,
    fun other hsame => absurd hsame (hnoneConnecting other),
    fun other hsame => absurd hsame (hnoneOpen other), hs.starting, Or.inr hio⟩, ?_, hs.answers⟩
  have hplaced := hs.placed
  change Placed _ (s.thread ())
  cases hplace : s.thread () with
  | outside | clear _ =>
    rw [hplace] at hplaced
    exact hquiet _ rfl hplaced
  | send _ =>
    rw [hplace] at hplaced
    exact ⟨hquiet _ rfl hplaced.1, hplaced.2⟩
  | checkError _ | raiseError _ | checkResult _ | raiseInvalid _ | takeResult _ =>
    rw [hplace] at hplaced
    exact ⟨hquiet _ rfl hplaced.1, hplaced.2⟩
  | wait request =>
    rw [hplace] at hplaced
    refine ⟨fun hfalse => ?_, fun htrue => ?_⟩
    · cases hplaced.1 hfalse with
      | asked hrequests hframes hsignal hempty hcarried =>
        refine .cut ⟨?_, replying_dropped fun reply hreply => ?_, hsignal⟩ hempty
        · change s.requests.filter _ = []
          rw [hrequests]
          simp [hcarried.1, hhdl]
        · change reply ∈ s.replying at hreply
          rw [hframes] at hreply
          cases hreply
      | @answered message hrequests hframes hsignal hempty hcarried =>
        refine .cut ⟨?_, replying_dropped fun reply hreply => ?_, hsignal⟩ hempty
        · change s.requests.filter _ = []
          rw [hrequests]
          rfl
        · change reply ∈ s.replying at hreply
          rw [hframes, List.mem_singleton] at hreply
          rw [hreply]
          exact hcarried.1.trans hhdl
      | arrived _ _ hsignal =>
        rw [hio] at hsignal
        cases hsignal
      | cut hcut hempty => exact .cut (hquiet _ rfl hcut) hempty
    · obtain ⟨hidle, howns⟩ := hplaced.2 htrue
      exact ⟨hquiet _ rfl hidle, howns⟩

theorem Matched.sessionStep {handle : Nat} {event : SessionEvent} (hs : Matched json s)
    (h : s.sessionStep handle event = some s') : Matched json s' := by
  unfold WebSocketSession.sessionStep at h
  split at h
  · rename_i hio hhandler hconnecting
    obtain rfl := Option.some.inj h
    exact hs.settle hio hconnecting (Or.inl ⟨rfl, rfl⟩)
  · rename_i hio hhandler hconnecting
    obtain rfl := Option.some.inj h
    exact hs.settle hio hconnecting (Or.inr ⟨rfl, rfl⟩)
  · rename_i hio hhandler hopen
    obtain rfl := Option.some.inj h
    exact hs.lose hio hopen
  · cases h

/-! ### What the caller does -/

/-- The call goes on to its exchange, its connection being settled and the event empty. -/
theorem Matched.proceed {method : String} {params : Json} (hs : Matched json s)
    (houtside : s.thread () = .outside) (hreported : Reported s) (s₀ : WebSocketSession Json)
    (hs₀ : s₀ = { s with m_callbackEventId := false })
    (h : s₀.proceed method params = some s') : Matched json s' := by
  subst hs₀
  obtain ⟨client, hcall, rfl⟩ := Option.map_eq_some_iff.mp h
  unfold JsonRPCClientWS.beginCall at hcall
  simp only [houtside] at hcall
  obtain rfl := Option.some.inj hcall
  refine ⟨⟨Or.inr rfl, nofun, fun _ => hreported, hs.connecting, hs.opened, nofun, hs.sequential⟩,
    ?_, hs.answers⟩
  change Placed _ (Function.update s.thread () _ ())
  rw [Function.update_self]
  exact hs.quiet houtside

theorem Matched.beginCall {method : String} {params : Json} (hs : Matched json s)
    (h : s.beginCall method params = some s') : Matched json s' := by
  unfold WebSocketSession.beginCall at h
  split at h
  · rename_i houtside hconnect
    have hquiet : s.connect.isWait = false := by
      rw [hconnect]
      rfl
    have hreported : Reported s := hs.unreported (Or.inl hquiet)
    have hempty : s.m_callbackEventId = false := hs.event_empty houtside hquiet
    split at h
    · refine hs.proceed houtside hreported s ?_ h
      rw [← hempty]
    · rename_i hconnected
      obtain rfl := Option.some.inj h
      refine ⟨⟨Or.inl houtside, ?_, fun _ => hreported, hs.connecting, hs.opened, ?_,
        hs.sequential⟩, placed_outside houtside (hs.quiet houtside), hs.answers⟩
      · intro hfull
        cases hempty.symm.trans hfull
      · intro _ _ _
        simpa using hconnected
  · cases h

/-- A step of the caller outside of `connect`. -/
theorem Matched.move {client : JsonRPCClientWS Json Unit} {sentOn : Nat → Option Nat}
    (hs : Matched json s) (hconnect : s.connect = .outside) (hio : client.io = s.io)
    (hevent : client.m_callbackEventId = true → (client.thread ()).isWait = true)
    (hplaced : Placed { s.withClient client with sentOn } (client.thread ()))
    (hanswers : ∀ entry ∈ client.finished, Accounted json { s.withClient client with sentOn } entry) :
    Matched json { s.withClient client with sentOn } := by
  have hreported : Reported s := by
    apply hs.unreported
    rw [hconnect]
    exact Or.inl rfl
  refine ⟨⟨Or.inr hconnect, fun hfull => Or.inr (hevent hfull), fun _ => hreported, hs.connecting,
    hs.opened, hs.starting, ?_⟩, hplaced, hanswers⟩
  rcases hs.sequential with houtside | hready
  · exact Or.inl houtside
  · exact Or.inr (hio.trans hready)

theorem Matched.moved {client : JsonRPCClientWS Json Unit} (hs : Matched json s)
    (hconnect : s.connect = .outside)
    (hevent : client.m_callbackEventId = true → (client.thread ()).isWait = true)
    (hplaced : Placed (s.withClient client) (client.thread ()))
    (hanswers : ∀ entry ∈ client.finished, Accounted json (s.withClient client) entry)
    (hio : client.io = s.io) : Matched json (s.withClient client) :=
  Matched.move hs hconnect hio hevent hplaced hanswers

/-- The event is empty where the caller waits for nothing. -/
theorem Matched.empty (hs : Matched json s) (hconnect : s.connect = .outside)
    (hthread : (s.thread ()).isWait = false) : s.m_callbackEventId = false := by
  by_contra hfull
  rcases hs.event (by simpa using hfull) with hwait | hwait
  · rw [hconnect] at hwait
    cases hwait
  · cases hthread.symm.trans hwait

theorem Matched.goto {place : CallPlace Json} (hs : Matched json s) (hconnect : s.connect = .outside)
    (hthread : (s.thread ()).isWait = false) {response : JsonRPCReply Json}
    (hplaced : Placed (s.withClient { s.goto () place with m_response := response }) place) :
    Matched json (s.withClient { s.goto () place with m_response := response }) := by
  have hempty := hs.empty hconnect hthread
  refine hs.moved hconnect (fun hfull => ?_) ?_ hs.answers (by rfl)
  · cases hempty.symm.trans hfull
  · change Placed _ (Function.update s.thread () place ())
    rw [Function.update_self]
    exact hplaced

/-- A call ends. -/
theorem Matched.finish {request : JsonRPCRequest Json} {outcome : Except JsonRPCException Json}
    (hs : Matched json s) (hconnect : s.connect = .outside)
    (hthread : (s.thread ()).isWait = false) {response : JsonRPCReply Json} (hquiet : Quiet s)
    (houtcome : Accounted json s (request, outcome)) :
    Matched json (s.withClient { s.finish () request outcome with m_response := response }) := by
  have hempty := hs.empty hconnect hthread
  refine hs.moved hconnect (fun hfull => ?_) ?_ (fun entry hmem => ?_) (by rfl)
  · cases hempty.symm.trans hfull
  · change Placed _ (Function.update s.thread () _ ())
    rw [Function.update_self]
    exact hquiet
  · rcases List.mem_append.mp hmem with hold | hnew
    · exact hs.answers entry hold
    · rw [List.mem_singleton.mp hnew]
      exact houtcome

theorem conclusion_error {request : JsonRPCRequest Json} {reply : JsonRPCReply Json}
    (h : reply.error.isSome = true) : request.conclusion json reply = .error
      { code := .jsonrpcError
        message := request.method ++ " error: " ++ json.dump (reply.error.getD json.null) } := by
  obtain ⟨error, herror⟩ := Option.isSome_iff_exists.mp h
  simp [JsonRPCRequest.conclusion, herror]

theorem conclusion_result {request : JsonRPCRequest Json} {reply : JsonRPCReply Json}
    (herror : reply.error = none) (h : reply.result.isSome = true) :
    request.conclusion json reply = .ok (reply.result.getD json.null) := by
  obtain ⟨result, hresult⟩ := Option.isSome_iff_exists.mp h
  simp [JsonRPCRequest.conclusion, herror, hresult]

/-- The request goes out on the open connection. -/
theorem Matched.send {request : JsonRPCRequest Json} (hs : Matched json s)
    (hconnect : s.connect = .outside) (hplace : s.thread () = .send request)
    (hopen : s.isOpen = true) :
    Matched json
      { s.withClient { s.goto () (.wait request) with requests := s.requests ++ [request] } with
        sentOn := Function.update s.sentOn request.call s.m_hdl } := by
  have hempty := hs.empty hconnect (by rw [hplace]; rfl)
  have hplaced := hs.placed
  rw [hplace] at hplaced
  obtain ⟨⟨hrequests, hframes, hio⟩, hresponse⟩ := hplaced
  refine hs.move hconnect (by rfl) (fun hfull => ?_) ?_ hs.answers
  · cases hempty.symm.trans hfull
  · change Placed _ (Function.update s.thread () _ ())
    rw [Function.update_self]
    refine ⟨fun _ => .asked ?_ hframes hio hresponse ⟨?_, hopen⟩, fun hfull => ?_⟩
    · change s.requests ++ [request] = [request]
      rw [hrequests]
      rfl
    · exact Function.update_self ..
    · cases hempty.symm.trans hfull

/-- A wait of `call` that the event ends. -/
theorem Matched.wake {request : JsonRPCRequest Json} (hs : Matched json s)
    (hconnect : s.connect = .outside) (hplace : s.thread () = .wait request)
    (hfull : s.m_callbackEventId = true) :
    Matched json (s.withClient
      { s.goto () (.checkError request) with m_callbackEventId := false }) := by
  have hplaced := hs.placed
  rw [hplace] at hplaced
  refine hs.moved hconnect nofun ?_ hs.answers (by rfl)
  change Placed _ (Function.update s.thread () _ ())
  rw [Function.update_self]
  exact hplaced.2 hfull

/-- Lines 70 to 91. -/
theorem Matched.callStep {fault : Option String} {client : JsonRPCClientWS Json Unit}
    (hs : Matched json s) (hconnect : s.connect = .outside)
    (hsend : ∀ request, s.thread () = .send request → fault.isSome = true)
    (h : s.callStep json () fault = some client) : Matched json (s.withClient client) := by
  have hplaced := hs.placed
  unfold JsonRPCClientWS.callStep at h
  cases hplace : s.thread () with
  | outside =>
    simp only [hplace] at h
    cases h
  | clear request =>
    rw [hplace] at hplaced
    simp only [hplace] at h
    obtain rfl := Option.some.inj h
    exact hs.goto hconnect (by rw [hplace]; rfl) ⟨hplaced, rfl⟩
  | send request =>
    rw [hplace] at hplaced
    obtain ⟨text, rfl⟩ := Option.isSome_iff_exists.mp (hsend request hplace)
    simp only [hplace] at h
    obtain rfl := Option.some.inj h
    exact hs.finish hconnect (by rw [hplace]; rfl) hplaced.1 (Or.inl ⟨_, rfl⟩)
  | wait request =>
    simp only [hplace] at h
    split at h
    · rename_i hfull
      obtain rfl := Option.some.inj h
      exact hs.wake hconnect hplace hfull
    · cases h
  | checkError request =>
    rw [hplace] at hplaced
    obtain ⟨hquiet, howns⟩ := hplaced
    have hthread : (s.thread ()).isWait = false := by
      rw [hplace]
      rfl
    simp only [hplace] at h
    split at h
    · rename_i herror
      obtain rfl := Option.some.inj h
      exact hs.goto hconnect hthread ⟨hquiet, howns, herror⟩
    · rename_i herror
      have hnone : s.m_response.error = none := by simpa using herror
      obtain rfl := Option.some.inj h
      exact hs.goto hconnect hthread ⟨hquiet, howns, hnone⟩
  | raiseError request =>
    rw [hplace] at hplaced
    obtain ⟨hquiet, howns, herror⟩ := hplaced
    simp only [hplace] at h
    obtain rfl := Option.some.inj h
    exact hs.finish hconnect (by rw [hplace]; rfl) hquiet
      (Or.inr ⟨_, howns, (conclusion_error herror).symm⟩)
  | checkResult request =>
    rw [hplace] at hplaced
    obtain ⟨hquiet, howns, herror⟩ := hplaced
    have hthread : (s.thread ()).isWait = false := by
      rw [hplace]
      rfl
    simp only [hplace] at h
    split at h
    · rename_i hresult
      obtain rfl := Option.some.inj h
      exact hs.goto hconnect hthread ⟨hquiet, howns, herror, hresult⟩
    · rename_i hresult
      have hnone : s.m_response.result = none := by simpa using hresult
      obtain rfl := Option.some.inj h
      exact hs.goto hconnect hthread ⟨hquiet, howns, herror, hnone⟩
  | raiseInvalid request =>
    rw [hplace] at hplaced
    obtain ⟨hquiet, howns, herror, hresult⟩ := hplaced
    simp only [hplace] at h
    obtain rfl := Option.some.inj h
    refine hs.finish hconnect (by rw [hplace]; rfl) hquiet (Or.inr ⟨_, howns, ?_⟩)
    simp [JsonRPCRequest.conclusion, herror, hresult]
  | takeResult request =>
    rw [hplace] at hplaced
    obtain ⟨hquiet, howns, herror, hresult⟩ := hplaced
    simp only [hplace] at h
    obtain rfl := Option.some.inj h
    exact hs.finish hconnect (by rw [hplace]; rfl) hquiet
      (Or.inr ⟨_, howns, (conclusion_result herror hresult).symm⟩)

/-- `connect` asks for a connection. -/
theorem Matched.queue {method : String} {params : Json} (hs : Matched json s)
    (hconnect : s.connect = .getConnection method params) :
    Matched json { s with
      sessions := s.sessions ++ [.connecting]
      m_hdl := some s.sessions.length
      connect := .wait method params } := by
  have hquiet : s.connect.isWait = false := by
    rw [hconnect]
    rfl
  have houtside : s.thread () = .outside := by
    rcases hs.alone with houtside | hno
    · exact houtside
    · rw [hconnect] at hno
      cases hno
  have hreported : Reported s := hs.unreported (Or.inl hquiet)
  have hempty : s.m_callbackEventId = false := hs.event_empty houtside hquiet
  have hnoneOpen : ∀ handle : Nat, s.sessions[handle]? ≠ some .opened := by
    intro handle hopen
    obtain ⟨-, -, hconnected | hassign⟩ := hs.opened handle hopen
    · cases hconnected.symm.trans (hs.starting method params hconnect)
    · have hno := hreported.2
      rw [hassign] at hno
      cases hno
  have hlast : ∀ handle session, (s.sessions ++ [Session.connecting])[handle]? = some session →
      s.sessions[handle]? = some session ∨ handle = s.sessions.length ∧ session = .connecting := by
    intro handle session hget
    rw [List.getElem?_append] at hget
    split at hget
    · exact Or.inl hget
    · rename_i hge
      obtain ⟨hlt, hget⟩ := List.getElem?_eq_some_iff.mp hget
      have hlength : handle - s.sessions.length < 1 := hlt
      refine Or.inr ⟨by omega, ?_⟩
      rw [← hget]
      simp
  refine ⟨⟨Or.inl houtside, fun _ => Or.inl rfl, fun hno => ?_, fun handle hsame => ?_,
    fun handle hsame => ?_, nofun, hs.sequential⟩, placed_outside houtside (hs.quiet houtside),
    hs.answers⟩
  · rcases hno with hno | hfull
    · cases hno
    · cases hempty.symm.trans hfull
  · rcases hlast handle _ hsame with hold | ⟨rfl, -⟩
    · exact absurd hold (hreported.1 handle)
    · exact ⟨rfl, hreported.2⟩
  · rcases hlast handle _ hsame with hold | ⟨-, hno⟩
    · exact absurd hold (hnoneOpen handle)
    · cases hno

theorem Matched.callerStep {fault : Option String} (hs : Matched json s)
    (h : s.callerStep json fault = some s') : Matched json s' := by
  unfold WebSocketSession.callerStep at h
  have hidle : s.connect ≠ .outside → s.thread () = .outside := by
    intro hne
    rcases hs.alone with houtside | hconnect
    · exact houtside
    · exact absurd hconnect hne
  cases hconnect : s.connect with
  | getConnection method params =>
    have houtside : s.thread () = .outside := hidle (by rw [hconnect]; simp)
    have hquiet : s.connect.isWait = false := by
      rw [hconnect]
      rfl
    simp only [hconnect] at h
    cases fault with
    | some text =>
      have hempty : s.m_callbackEventId = false := hs.event_empty houtside hquiet
      refine hs.proceed houtside (hs.unreported (Or.inl hquiet)) s ?_ h
      rw [← hempty]
    | none =>
      obtain rfl := Option.some.inj h
      exact hs.queue hconnect
  | wait method params =>
    have houtside : s.thread () = .outside := hidle (by rw [hconnect]; simp)
    simp only [hconnect] at h
    split at h
    · rename_i hfull
      exact hs.proceed houtside (hs.unreported (Or.inr hfull)) _ rfl h
    · cases h
  | outside =>
    simp only [hconnect] at h
    split at h
    · rename_i request hplace
      split at h
      · cases h
      · rename_i hsend
        obtain ⟨client, hcall, rfl⟩ := Option.map_eq_some_iff.mp h
        cases fault with
        | some text => exact hs.callStep hconnect (fun _ _ => rfl) hcall
        | none =>
          have hopen : s.isOpen = true := by simpa using hsend
          simp only [JsonRPCClientWS.callStep, hplace] at hcall
          obtain rfl := Option.some.inj hcall
          exact hs.send hconnect hplace hopen
    · rename_i hplace
      obtain ⟨client, hcall, rfl⟩ := Option.map_eq_some_iff.mp h
      exact hs.callStep hconnect (fun request hsend => absurd hsend (hplace request)) hcall

/-! ### Runs -/

theorem Matched.step {label : SessionLabel Json} (hs : Matched json s)
    (hok : s.closesInWait label) (h : s.step json label = some s') : Matched json s' := by
  cases label with
  | call method params => exact hs.beginCall h
  | caller fault => exact hs.callerStep h
  | session handle event => exact hs.sessionStep h
  | answer position error result => exact hs.answer h
  | notify method params =>
    obtain rfl := Option.some.inj h
    exact hs.incoming rfl
  | garble =>
    obtain rfl := Option.some.inj h
    exact hs.incoming rfl
  | io => exact hs.ioStep hok h

end Steps

/-- A client that has not been used yet. -/
theorem matched_fresh (json : JsonLibrary Json) : Matched json {} where
  alone := Or.inl rfl
  event := nofun
  unreported _ := ⟨fun _ => by simp, rfl⟩
  connecting handle h := by simp at h
  opened handle h := by simp at h
  starting := nofun
  sequential := Or.inl rfl
  placed := ⟨rfl, rfl, nofun⟩
  answers := nofun

/-- As long as `on_close` signals in a wait only, every wait is matched with its own signal, and
every call ends with its own answer. -/
theorem signals_paired {json : JsonLibrary Json} {s : WebSocketSession Json}
    (hrun : Run (step json) closesInWait {} s) : Paired json s := by
  have hmatched : Matched json s :=
    hrun.invariant (fun _ _ _ hs hok hstep => hs.step hok hstep) (matched_fresh json)
  exact hmatched.paired

/-- A first call that connects and is answered with 7. -/
def answeredCall : List (SessionLabel (Option Nat)) :=
  [.call "GetState" none, .caller none, .session 0 .opened, .io, .io, .caller none, .caller none,
    .caller none, .answer 0 none (some (some 7)), .io, .io, .caller none, .caller none, .caller none,
    .caller none]

/-- The connection closes while a second call waits; a third one connects again. -/
theorem signals_paired_cut_off :
    ∃ s : WebSocketSession (Option Nat), Run (step .numbers) closesInWait {} s ∧
      s.cutOff = [1] ∧ s.sessions = [.closed, .opened] ∧
      s.finished.map (fun entry => entry.2.toOption) = [some (some 7), none, some (some 9)] ∧
      Paired .numbers s := by
  have hreach : reaches (step .numbers) closesInWait {}
      (answeredCall ++
        [.call "GetState" none, .caller none, .caller none, .session 0 .closed, .io, .io,
          .caller none, .caller none, .caller none, .caller none, .call "GetState" none,
          .caller none, .session 1 .opened, .io, .io, .caller none, .caller none, .caller none,
          .answer 0 none (some (some 9)), .io, .io, .caller none, .caller none, .caller none,
          .caller none])
      (fun s : WebSocketSession (Option Nat) => s.cutOff = [1] ∧ s.sessions = [.closed, .opened] ∧
        s.finished.map (fun entry => entry.2.toOption) = [some (some 7), none, some (some 9)]) := by
    decide +kernel
  obtain ⟨s, hrun, hs⟩ := run_of_reaches hreach
  obtain ⟨hcut, hsessions, hfinished⟩ := of_decide_eq_true hs
  exact ⟨s, hrun, hcut, hsessions, hfinished, signals_paired hrun⟩

/-- The connection closes while no call is pending: the event stays full, and the next call goes
on before its connection has come about, though the server accepts it. -/
theorem closed_while_idle :
    (¬ ∀ s : WebSocketSession (Option Nat), Run (step .numbers) always {} s → Paired .numbers s) ∧
      ∃ s : WebSocketSession (Option Nat), Run (step .numbers) always {} s ∧
        s.sessions = [.closed, .opened] ∧
        s.finished.map (fun entry => entry.2.toOption) = [some (some 7), none] := by
  have hidle : reaches (step .numbers) always {}
      (answeredCall ++ [.session 0 .closed, .io, .io])
      (fun s : WebSocketSession (Option Nat) => s.m_callbackEventId ∧ s.connect.isWait = false ∧
        (s.thread ()).isWait = false) := by
    decide +kernel
  have hnext : reaches (step .numbers) always {}
      (answeredCall ++ [.session 0 .closed, .io, .io, .call "GetState" none, .caller none,
        .caller none, .caller none, .caller (some "invalid state"), .session 1 .opened, .io, .io])
      (fun s : WebSocketSession (Option Nat) => s.sessions = [.closed, .opened] ∧
        s.finished.map (fun entry => entry.2.toOption) = [some (some 7), none]) := by
    decide +kernel
  obtain ⟨s, hrun, hs⟩ := run_of_reaches hidle
  obtain ⟨hfull, hconnect, hthread⟩ := of_decide_eq_true hs
  obtain ⟨s', hrun', hs'⟩ := run_of_reaches hnext
  obtain ⟨hsessions, hfinished⟩ := of_decide_eq_true hs'
  refine ⟨fun hclaim => ?_, s', hrun', hsessions, hfinished⟩
  rcases (hclaim s hrun).event hfull with hwait | hwait
  · cases hconnect.symm.trans hwait
  · cases hthread.symm.trans hwait

end WebSocketSession

end PeakAnalyser

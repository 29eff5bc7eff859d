import PeakAnalyser.JsonRPCClientWS

/-!
# Connecting and losing the connection

One thread calls on a client. `call` connects first when there is no connection, and
the endpoint reports through `on_open`, `on_fail` and `on_close` what becomes of a
connection; its io thread runs these handlers and `on_message` one at a time. All
four signal the one event that `connect` and `call` wait for.
-/

namespace PeakAnalyser

set_option autoImplicit false

/-- The state of a connection inside the endpoint. -/
inductive Session where
  | connecting
  | opened
  | closed
  deriving DecidableEq

/-- What the endpoint reports of a connection: `on_open`, `on_fail` or `on_close`. -/
inductive SessionEvent where
  | opened
  | failed
  | closed
  deriving DecidableEq

/-- Where the caller is in `connect`, with the call that it goes on with. -/
inductive ConnectPlace (Json : Type) where
  | outside
  | getConnection (method : String) (params : Json)  -- line 110
  | wait (method : String) (params : Json)        -- line 125
  deriving DecidableEq

/-- Where the io thread is in a handler of a session event. -/
inductive HandlerPlace where
  | outside
  | assign (event : SessionEvent)  -- line 142, 148 or 154
  | signal (event : SessionEvent)  -- line 143, 149 or 155
  deriving DecidableEq

/-- A client with its connections, one for each `connect`; `m_hdl` is the last of them. Of
the ghosts, `sentOn` says which connection carries the request of a call, and `cutOff` which
calls `on_close` has found waiting. -/
structure WebSocketSession (Json : Type) extends JsonRPCClientWS Json Unit where
  connect : ConnectPlace Json := .outside
  handler : HandlerPlace := .outside
  m_connected : Bool := false
  m_hdl : Option Nat := none
  sessions : List Session := []
  sentOn : Nat → Option Nat := fun _ => none
  cutOff : List Nat := []

/-- What can happen. `fault` is the error that `get_connection` or `send` reports, if any. -/
inductive SessionLabel (Json : Type) where
  | call (method : String) (params : Json)
  | caller (fault : Option String)
  | session (handle : Nat) (event : SessionEvent)
  | answer (position : Nat) (error result : Option Json)
  | notify (method : String) (params : Json)
  | garble
  | io

def ConnectPlace.isWait {Json : Type} : ConnectPlace Json → Bool
  | .wait _ _ => true
  | _ => false

/-- The connection of a reply, if the frame is one. -/
def Frame.call? {Json : Type} : Frame Json → Option Nat
  | .reply call _ => some call
  | _ => none

namespace WebSocketSession

variable {Json : Type} (json : JsonLibrary Json) (s : WebSocketSession Json)

def withClient (client : JsonRPCClientWS Json Unit) : WebSocketSession Json :=
  { s with toJsonRPCClientWS := client }

/-- The connection of `m_hdl` is open: `send` refuses any other. -/
def isOpen : Bool := (s.m_hdl.bind fun handle => s.sessions[handle]?) == some .opened

/-- Lines 62 to 68, once `connect` is done with or was not needed. -/
def proceed (method : String) (params : Json) : Option (WebSocketSession Json) :=
  (s.toJsonRPCClientWS.beginCall () method params).map { s with connect := .outside }.withClient

/-- Lines 59 and 60. -/
def beginCall (method : String) (params : Json) : Option (WebSocketSession Json) :=
  match s.thread (), s.connect with
  | .outside, .outside =>
    if s.m_connected then s.proceed method params
    else some { s with connect := .getConnection method params }
  | _, _ => none

/-- The next access of the caller to what it shares with the io thread. -/
def callerStep (fault : Option String) : Option (WebSocketSession Json) :=
  match s.connect with
  | .getConnection method params =>
    match fault with
    | some _ => s.proceed method params
    | none => some { s with
        sessions := s.sessions ++ [.connecting]
        m_hdl := some s.sessions.length
        connect := .wait method params }
  | .wait method params =>
    if s.m_callbackEventId then
      (s.withClient { s.toJsonRPCClientWS with m_callbackEventId := false }).proceed method params
    else none
  | .outside =>
    match s.thread () with
    | .send request =>
      if fault.isNone && !s.isOpen then none
      else (s.callStep json () fault).map fun client =>
        { s.withClient client with
          sentOn := if fault.isNone then Function.update s.sentOn request.call s.m_hdl else s.sentOn }
    | _ => (s.callStep json () fault).map s.withClient

/-- A connection changes its state, and the io thread enters the handler for it. A connection
that closes takes with it what it has not delivered. -/
def sessionStep (handle : Nat) (event : SessionEvent) : Option (WebSocketSession Json) :=
  match s.io, s.handler, event, s.sessions[handle]? with
  | .ready, .outside, .opened, some .connecting => some { s with
      sessions := s.sessions.set handle .opened
      handler := .assign .opened }
  | .ready, .outside, .failed, some .connecting => some { s with
      sessions := s.sessions.set handle .closed
      handler := .assign .failed }
  | .ready, .outside, .closed, some .opened => some { s with
      sessions := s.sessions.set handle .closed
      handler := .assign .closed
      requests := s.requests.filter fun request => s.sentOn request.call ≠ some handle
      incoming := s.incoming.filter fun frame => frame.call?.bind s.sentOn ≠ some handle }
  | _, _, _, _ => none

/-- The io thread goes on in a handler, or with `on_message`. -/
def ioStep : Option (WebSocketSession Json) :=
  match s.handler with
  | .assign event => some { s with
      m_connected := event == .opened
      handler := .signal event }
  | .signal event => some { s with
      m_callbackEventId := true
      handler := .outside
      cutOff :=
        match event, s.thread () with
        | .closed, .wait request => s.cutOff ++ [request.call]
        | _, _ => s.cutOff }
  | .outside => s.on_message.map s.withClient

def step : SessionLabel Json → Option (WebSocketSession Json)
  | .call method params => s.beginCall method params
  | .caller fault => s.callerStep json fault
  | .session handle event => s.sessionStep handle event
  | .answer position error result => (s.answer position error result).map s.withClient
  | .notify method params => some
      { s with incoming := s.incoming ++ [.notification method params] }
  | .garble => some { s with incoming := s.incoming ++ [.unusable] }
  | .io => s.ioStep

end WebSocketSession

end PeakAnalyser

import PeakAnalyser.JsonRPC
import PeakAnalyser.Library.Runs
import PeakAnalyser.Library.Threads

/-!
# `JsonRPCClientWS::call`

Any number of threads call on one client, whose connection is open and stays
open. The io thread of the endpoint runs `on_message`. The callers share the slot
`m_response` and one binary event; each access to them is a step of its own. The
server answers the requests one by one, in any order and at any time, and may
send notifications in between.
-/

namespace PeakAnalyser

set_option autoImplicit false

open Runs Threads

variable {Json Tid : Type}

/-- Where a thread is in `call`. -/
inductive CallPlace (Json : Type) where
  | outside
  | clear (request : JsonRPCRequest Json)        -- line 70
  | send (request : JsonRPCRequest Json)         -- line 72
  | wait (request : JsonRPCRequest Json)         -- line 78
  | checkError (request : JsonRPCRequest Json)   -- line 80
  | raiseError (request : JsonRPCRequest Json)   -- line 83
  | checkResult (request : JsonRPCRequest Json)  -- line 86
  | raiseInvalid (request : JsonRPCRequest Json) -- line 89
  | takeResult (request : JsonRPCRequest Json)   -- line 91
  deriving DecidableEq

def CallPlace.isWait {Json : Type} : CallPlace Json → Bool
  | .wait _ => true
  | _ => false

/-- What the server sends, by what `on_message` does with it: a message with the member `id`,
one without, and one that is not text or does not parse. `reply` names the call that it
answers. -/
inductive Frame (Json : Type) where
  | reply (call : Nat) (message : JsonRPCReply Json)
  | notification (method : String) (params : Json)
  | unusable
  deriving DecidableEq

/-- Where the io thread is: between two handlers, in `on_message` about to signal the
event (line 173), or in the callback of a notification (line 178). -/
inductive IoPlace (Json : Type) where
  | ready
  | signal
  | callback (method : String) (params : Json)
  deriving DecidableEq

/-- The client and its connection. `calls` and the lists `replies` and `finished` record the
history: the calls begun, the replies sent and how the calls ended. -/
structure JsonRPCClientWS (Json Tid : Type) where
  thread : Tid → CallPlace Json := fun _ => .outside
  io : IoPlace Json := .ready
  m_response : JsonRPCReply Json := {}
  m_callbackEventId : Bool := false
  m_msgId : UInt32 := 1
  requests : List (JsonRPCRequest Json) := []
  incoming : List (Frame Json) := []
  calls : Nat := 0
  replies : List (Nat × JsonRPCReply Json) := []
  finished : List (JsonRPCRequest Json × Except JsonRPCException Json) := []

/-- What can happen. `fault` is the error that `send` reports, if any; `answer` makes the
server answer the request at a position. -/
inductive CallLabel (Json Tid : Type) where
  | call (t : Tid) (method : String) (params : Json)
  | thread (t : Tid) (fault : Option String)
  | answer (position : Nat) (error result : Option Json)
  | notify (method : String) (params : Json)
  | garble
  | io

namespace JsonRPCClientWS

variable [DecidableEq Tid] (json : JsonLibrary Json) (c : JsonRPCClientWS Json Tid)

def goto (t : Tid) (place : CallPlace Json) : JsonRPCClientWS Json Tid :=
  { c with thread := Function.update c.thread t place }

/-- The call of a thread ends, with a value or an exception. -/
def finish (t : Tid) (request : JsonRPCRequest Json) (outcome : Except JsonRPCException Json) :
    JsonRPCClientWS Json Tid :=
  { c.goto t .outside with finished := c.finished ++ [(request, outcome)] }

/-- Lines 59 to 68; the client is connected. -/
def beginCall (t : Tid) (method : String) (params : Json) : Option (JsonRPCClientWS Json Tid) :=
  match c.thread t with
  | .outside =>
    some { c.goto t (.clear { call := c.calls, msgId := c.m_msgId, method, params }) with
      m_msgId := c.m_msgId + 1
      calls := c.calls + 1 }
  | _ => none

/-- Lines 70 to 91, one access to what the threads share at a time. -/
def callStep (t : Tid) (fault : Option String) : Option (JsonRPCClientWS Json Tid) :=
  match c.thread t with
  | .outside => none
  | .clear request => some { c.goto t (.send request) with m_response := {} }
  | .send request =>
    match fault with
    | some message =>
      some (c.finish t request (.error
        { code := .networkException, message := "JSON-RPC WebSocket send failed: " ++ message }))
    | none => some { c.goto t (.wait request) with requests := c.requests ++ [request] }
  | .wait request =>
    if c.m_callbackEventId then
      some { c.goto t (.checkError request) with m_callbackEventId := false }
    else none
  | .checkError request =>
    if c.m_response.error.isSome then some (c.goto t (.raiseError request))
    else some (c.goto t (.checkResult request))
  | .raiseError request =>
    some { c.finish t request (.error
        { code := .jsonrpcError
          message := request.method ++ " error: " ++
            json.dump (c.m_response.error.getD json.null) }) with
      m_response := c.m_response.insertError json }
  | .checkResult request =>
    if c.m_response.result.isSome then some (c.goto t (.takeResult request))
    else some (c.goto t (.raiseInvalid request))
  | .raiseInvalid request =>
    some (c.finish t request (.error
      { code := .badResponse
        message := request.method ++ " invalid response: " ++ json.dumpReply c.m_response }))
  | .takeResult request =>
    some { c.finish t request (.ok (c.m_response.result.getD json.null)) with
      m_response := c.m_response.insertResult json }

/-- The server answers a request: the reply carries the id of the request. -/
def answer (position : Nat) (error result : Option Json) : Option (JsonRPCClientWS Json Tid) :=
  c.requests[position]?.map fun request =>
    let message : JsonRPCReply Json := { id := some request.id, error, result }
    { c with
      requests := c.requests.eraseIdx position
      incoming := c.incoming ++ [.reply request.call message]
      replies := c.replies ++ [(request.call, message)] }

/-- The io thread takes the next frame, signals the event or leaves the callback, whose
exceptions are caught. -/
def on_message : Option (JsonRPCClientWS Json Tid) :=
  match c.io with
  | .ready =>
    match c.incoming with
    | [] => none
    | .unusable :: rest => some { c with incoming := rest }
    | .reply _ message :: rest => some { c with
        incoming := rest
        m_response := message
        io := .signal }
    | .notification method params :: rest => some { c with
        incoming := rest
        io := .callback method params }
  | .signal => some { c with m_callbackEventId := true, io := .ready }
  | .callback _ _ => some { c with io := .ready }

def step : CallLabel Json Tid → Option (JsonRPCClientWS Json Tid)
  | .call t method params => c.beginCall t method params
  | .thread t fault => c.callStep json t fault
  | .answer position error result => c.answer position error result
  | .notify method params => some { c with incoming := c.incoming ++ [.notification method params] }
  | .garble => some { c with incoming := c.incoming ++ [.unusable] }
  | .io => c.on_message

end JsonRPCClientWS

end PeakAnalyser

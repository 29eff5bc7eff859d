import Mathlib.Logic.Function.Basic
import PeakAnalyser.HTTPCommon
import PeakAnalyser.JsonRPC
import PeakAnalyser.Library.Runs
import PeakAnalyser.Library.Threads

/-!
# `HTTPClient::doRequest`, called through `JsonRPCClientHTTP::call`

Any number of threads call on one client. They share the pool of sockets; a step is one
system call, one operation on a mutex or one reading of `s->fd`. The kernel may hand out
any descriptor that is not open. The server answers a request when it has received all
of it, with a response of its choice that is framed as HTTP wants it, and
may close a connection at any time.
-/

namespace PeakAnalyser

set_option autoImplicit false

abbrev maxSockets : Nat := 5

def maxHttpRetries : Nat := 1

/-- `socket_t`; `fd` is `none` for `INVALID_SOCKET`. -/
structure Socket where
  fd : Option Nat := none
  mutex : Bool := false
  closed : Bool := true

/-- A request on its way through `doRequest`. -/
structure Errand (Json : Type) where
  request : JsonRPCRequest Json
  socket : Fin maxSockets
  retries : Nat := 0

/-- What follows `this->close(s)`: line 200 or 235, a return of false, or line 292. -/
inductive Exit where
  | reconnect
  | fail
  | success (response : Response)

/-- Where a thread is in `doRequest`; `fd` is the descriptor that `write` or a reading
function was called with. At `overrun` the memory behind `version` has been overwritten, and
what the thread does is not defined. -/
inductive RequestPlace (Json : Type) where
  | outside
  | select (request : JsonRPCRequest Json) (i : Nat)              -- line 168
  | guard (w : Errand Json)                                       -- line 177
  | connect (w : Errand Json)                                     -- line 71
  | connecting (w : Errand Json)                                  -- line 84
  | write (w : Errand Json)                                       -- line 198
  | send (w : Errand Json) (fd : Option Nat) (remaining : Bytes)
  | poll (w : Errand Json)                                        -- line 218
  | read (w : Errand Json) (reading : Reading)
  | recv (w : Errand Json) (fd : Option Nat) (reading : Reading)
  | close (w : Errand Json) (exit : Exit)
  | overrun (w : Errand Json)                                     -- line 243

/-- A connection: what the client has sent and the server has not taken, each byte with the
request it belongs to, and what the client has not received. -/
structure Connection (Json : Type) where
  outgoing : List (JsonRPCRequest Json × UInt8) := []
  incoming : Bytes := []
  hungUp : Bool := false

/-- What the constructor takes from the URL, and the largest buffer that can be allocated. -/
structure HTTPConfig where
  mHostname : Bytes
  mPath : Bytes
  memory : Nat

/-- The client, its connections and the history: the calls begun, the responses sent and how
the calls ended. -/
structure HTTPClient (Json Tid : Type) where
  thread : Tid → RequestPlace Json := fun _ => .outside
  mSockets : Fin maxSockets → Socket := fun _ => {}
  mMsgId : UInt32 := 0
  connection : Nat → Option (Connection Json) := fun _ => none
  calls : Nat := 0
  responses : List (JsonRPCRequest Json × Bytes) := []
  finished : List (JsonRPCRequest Json × Except (JsonRPCException ⊕ StdException) Json) := []

/-- How a system call, or `try_lock`, comes out. -/
inductive SysResult where
  | ok
  | fault
  | amount (n : Nat)
  | descriptor (fd : Nat)

inductive HTTPLabel (Json Tid : Type) where
  | call (t : Tid) (method : String) (params : Json)
  | thread (t : Tid) (result : SysResult)
  | respond (fd : Nat) (response : Bytes)
  | hangUp (fd : Nat)

/-- `doRequest` begins to parse a response. -/
def responseStart : Progress := .more (.line .status [])

/-- A response that ends where the parser says it ends, and that makes nothing throw. -/
def Framed (memory : Nat) (response : Bytes) : Prop :=
  match responseStart.run memory response with
  | (.done _, rest) => rest = []
  | (.thrown _, _) => False
  | _ => True

instance (memory : Nat) (response : Bytes) : Decidable (Framed memory response) := by
  unfold Framed
  rcases responseStart.run memory response with ⟨progress, rest⟩
  cases progress <;> infer_instance

namespace JsonRPCRequest

variable {Json : Type} (json : JsonLibrary Json) (config : HTTPConfig) (request : JsonRPCRequest Json)

/-- What `call` and `post` give to `doRequest`. -/
def toHTTP : Request where
  method := bytes "POST"
  path := config.mPath
  headers := [(bytes "Attachment-Mode", bytes "Http"), (bytes "Content-Type", bytes "application/json")]
  content := bytes (json.dumpRequest request)

def data : Bytes := (request.toHTTP json config).data config.mHostname

/-- `call` after `post` has returned false. -/
def networkException : Except (JsonRPCException ⊕ StdException) Json :=
  .error (.inl
    { code := .networkException
      message := "JSON-RPC HTTP request failed: " ++ json.dumpRequest request })

/-- `post` (lines 340 to 348) and `call` (lines 318 to 337) after `doRequest` has returned true. -/
def outcome (response : Response) : Except (JsonRPCException ⊕ StdException) Json :=
  if response.code ≠ 200 then request.networkException json
  else
    match json.parse response.content with
    | none => .error (.inl
        { code := .badResponse
          message := request.method ++ " invalid json: " ++ text response.content })
    | some reply =>
      match reply.error, reply.result with
      | some error, _ => .error (.inl
          { code := .jsonrpcError, message := request.method ++ " error: " ++ json.dump error })
      | none, none => .error (.inl
          { code := .badResponse
            message := request.method ++ " invalid response: " ++ text response.content })
      | none, some result => .ok result

end JsonRPCRequest

namespace HTTPClient

variable {Json Tid : Type} [DecidableEq Json] [DecidableEq Tid]
variable (json : JsonLibrary Json) (config : HTTPConfig) (c : HTTPClient Json Tid) (t : Tid)

def goto (place : RequestPlace Json) : HTTPClient Json Tid :=
  { c with thread := Function.update c.thread t place }

def finish (request : JsonRPCRequest Json) (outcome : Except (JsonRPCException ⊕ StdException) Json) :
    HTTPClient Json Tid :=
  { c.goto t .outside with finished := c.finished ++ [(request, outcome)] }

def setSocket (s : Fin maxSockets) (socket : Socket) : HTTPClient Json Tid :=
  { c with mSockets := Function.update c.mSockets s socket }

def setConnection (fd : Nat) (connection : Option (Connection Json)) : HTTPClient Json Tid :=
  { c with connection := Function.update c.connection fd connection }

/-- `epicsSocketDestroy(s->fd)`, unless the descriptor is invalid. -/
def destroy (s : Fin maxSockets) : HTTPClient Json Tid :=
  match (c.mSockets s).fd with
  | none => c
  | some fd => c.setConnection fd none

/-- Lines 300 to 310 of `JsonRPCClientHTTP.cpp`. -/
def beginCall (method : String) (params : Json) : Option (HTTPClient Json Tid) :=
  match c.thread t with
  | .outside =>
    some { c.goto t (.select { call := c.calls, msgId := c.mMsgId, method, params } 0) with
      mMsgId := c.mMsgId + 1
      calls := c.calls + 1 }
  | _ => none

/-- Lines 166 to 176. `try_lock` may also fail when the mutex is free. -/
def select (request : JsonRPCRequest Json) (i : Nat) : SysResult → Option (HTTPClient Json Tid)
  | .ok =>
    if h : i < maxSockets then
      let s : Fin maxSockets := ⟨i, h⟩
      if (c.mSockets s).mutex then some (c.goto t (.select request (i + 1)))
      else some ((c.setSocket s { c.mSockets s with mutex := true }).goto t
        (.guard { request, socket := s }))
    else some (c.finish t request (request.networkException json))
  | .fault => if i < maxSockets then some (c.goto t (.select request (i + 1))) else none
  | _ => none

/-- Line 177: the guard has no name, so it is destroyed, and the mutex unlocked, at the end
of the statement. -/
def guard (w : Errand Json) : HTTPClient Json Tid :=
  (c.setSocket w.socket { c.mSockets w.socket with mutex := false }).goto t (.connect w)

/-- Lines 71 to 80. -/
def connect (w : Errand Json) (result : SysResult) : Option (HTTPClient Json Tid) :=
  if !(c.mSockets w.socket).closed then some (c.goto t (.write w))
  else
    match result with
    | .descriptor fd =>
      if (c.connection fd).isNone then
        some (((c.setSocket w.socket { c.mSockets w.socket with fd := some fd }).setConnection fd
          (some {})).goto t (.connecting w))
      else none
    | .fault =>
      some ((c.setSocket w.socket { c.mSockets w.socket with fd := none }).finish t w.request
        (w.request.networkException json))
    | _ => none

/-- Lines 84 to 140. -/
def connecting (w : Errand Json) : SysResult → Option (HTTPClient Json Tid)
  | .ok =>
    some ((c.setSocket w.socket { c.mSockets w.socket with closed := false }).goto t (.write w))
  | .fault =>
    some (((c.destroy w.socket).setSocket w.socket { c.mSockets w.socket with fd := none }).finish t
      w.request (w.request.networkException json))
  | _ => none

/-- The loop of `write`. -/
def sending (w : Errand Json) (fd : Option Nat) (remaining : Bytes) : RequestPlace Json :=
  if remaining = [] then .poll w else .send w fd remaining

def send (w : Errand Json) (fd : Option Nat) (remaining : Bytes) :
    SysResult → Option (HTTPClient Json Tid)
  | .amount n =>
    match fd with
    | none => none
    | some f =>
      match c.connection f with
      | none => none
      | some k =>
        if n ≤ remaining.length then
          some ((c.setConnection f (some { k with
            outgoing := k.outgoing ++ (remaining.take n).map fun b => (w.request, b) })).goto t
              (sending w fd (remaining.drop n)))
        else none
  | .fault => some (c.goto t (.close w .reconnect))
  | _ => none

/-- Lines 218 to 229: `select` finds the descriptor readable, or fails or times out. -/
def poll (w : Errand Json) : SysResult → Option (HTTPClient Json Tid)
  | .ok =>
    match (c.mSockets w.socket).fd with
    | none => none
    | some f =>
      match c.connection f with
      | none => none
      | some k =>
        if k.incoming ≠ [] ∨ k.hungUp then some (c.goto t (.read w (.line .status []))) else none
  | .fault => some (c.goto t (.close w .fail))
  | _ => none

/-- What `doRequest` does after a call of `recv`. -/
def proceed (w : Errand Json) (fd : Option Nat) : Progress → HTTPClient Json Tid
  | .more reading => c.goto t (.recv w fd reading)
  | .next reading => c.goto t (.read w reading)
  | .done response =>
    if response.reconnect then c.goto t (.close w (.success response))
    else c.finish t w.request (w.request.outcome json response)
  | .retry => c.goto t (.close w .reconnect)
  | .failed => c.goto t (.close w .fail)
  | .thrown exception => c.finish t w.request (.error (.inr exception))
  | .overrun => c.goto t (.overrun w)

def recv (w : Errand Json) (fd : Option Nat) (reading : Reading) :
    SysResult → Option (HTTPClient Json Tid)
  | .amount n =>
    match fd with
    | none => none
    | some f =>
      match c.connection f with
      | none => none
      | some k =>
        if n = 0 then
          if k.incoming = [] ∧ k.hungUp then some (c.proceed json t w fd (reading.atEnd config.memory))
          else none
        else if n ≤ reading.wanted ∧ n ≤ k.incoming.length then
          some ((c.setConnection f (some { k with incoming := k.incoming.drop n })).proceed json t w fd
            (reading.receive config.memory (k.incoming.take n)))
        else none
  | .fault => some (c.proceed json t w fd reading.fault)
  | _ => none

/-- `this->close(s)` and what follows it. -/
def close (w : Errand Json) (exit : Exit) : HTTPClient Json Tid :=
  let closed := (c.destroy w.socket).setSocket w.socket { c.mSockets w.socket with closed := true }
  match exit with
  | .reconnect =>
    if w.retries < maxHttpRetries then closed.goto t (.connect { w with retries := w.retries + 1 })
    else closed.finish t w.request (w.request.networkException json)
  | .fail => closed.finish t w.request (w.request.networkException json)
  | .success response => closed.finish t w.request (w.request.outcome json response)

/-- A step of `doRequest`. -/
def doRequest (result : SysResult) : Option (HTTPClient Json Tid) :=
  match c.thread t with
  | .outside => none
  | .select request i => c.select json t request i result
  | .guard w => some (c.guard t w)
  | .connect w => c.connect json t w result
  | .connecting w => c.connecting json t w result
  | .write w => some (c.goto t (sending w (c.mSockets w.socket).fd (w.request.data json config)))
  | .send w fd remaining => c.send t w fd remaining result
  | .poll w => c.poll t w result
  | .read w reading => some (c.goto t (.recv w (c.mSockets w.socket).fd reading))
  | .recv w fd reading => c.recv json config t w fd reading result
  | .close w exit => some (c.close json t w exit)
  | .overrun _ => none

/-- The server has received a whole request on a connection and responds. -/
def respond (fd : Nat) (response : Bytes) : Option (HTTPClient Json Tid) :=
  match c.connection fd with
  | none => none
  | some k =>
    match k.outgoing.head? with
    | none => none
    | some (request, _) =>
      let whole := (request.data json config).map fun b => (request, b)
      if whole <+: k.outgoing ∧ k.hungUp = false ∧ Framed config.memory response then
        some { c.setConnection fd (some { k with
            outgoing := k.outgoing.drop whole.length
            incoming := k.incoming ++ response }) with
          responses := c.responses ++ [(request, response)] }
      else none

def step : HTTPLabel Json Tid → Option (HTTPClient Json Tid)
  | .call t method params => c.beginCall t method params
  | .thread t result => c.doRequest json config t result
  | .respond fd response => c.respond json config fd response
  | .hangUp fd =>
    (c.connection fd).map fun k => c.setConnection fd (some { k with hungUp := true })

end HTTPClient

end PeakAnalyser

import PeakAnalyser.HTTPClient
import PeakAnalyser.Library.Feeding

/-!
# `NotificationServer::clientHandler`

The thread of one connection: it waits for bytes, parses a request, calls the
subscriber and responds. Requests arrive in pieces, and `recv` hands over what it likes
of what has arrived. What the subscriber does has no effect on the connection: the
exceptions of the JSON library and of the callback are caught.
-/

namespace PeakAnalyser

set_option autoImplicit false

/-- `std::vector<char>::max_size()`; no other shortage of memory is modelled. -/
def maxSize : Nat := 0x7fffffffffffffff

/-- `request_t`, as the server fills it in; nothing sets the path. -/
structure ReceivedRequest where
  method : Bytes := []
  headers : Headers := []
  content : Bytes := []
  contentLength : Nat := 0
  close : Bool := false
  deriving DecidableEq

/-- Where the handler is between two calls of `recv`, with what the reading function that it
is in has read. -/
inductive RequestReading where
  | requestLine (line : Bytes)
  | header (request : ReceivedRequest) (line : Bytes)
  | content (request : ReceivedRequest) (bufSize : Nat) (buf : Bytes)
  deriving DecidableEq

/-- What comes of a call of `recv`: reading goes on; line 246 is reached; the socket is
destroyed; or an exception ends the process. -/
inductive RequestProgress where
  | reading (reading : RequestReading)
  | parsed (request : ReceivedRequest)
  | destroyed
  | thrown (exception : StdException)
  deriving DecidableEq

/-- Lines 208 to 216. A word that overruns the buffer of `method`, or no word at all, is not
`POST` either. -/
def finishRequestLine (line : Bytes) : RequestProgress :=
  if scanWord line ≠ bytes "POST" then .destroyed
  else .reading (.header { method := scanWord line } [])

/-- Lines 239 to 244. -/
def endRequestHeaders (request : ReceivedRequest) : RequestProgress :=
  match stoi (getHeaderValue request.headers (bytes "Content-Length") (bytes "0")) with
  | .error exception => .thrown exception
  | .ok length =>
    let request := { request with
      contentLength := (length % 0x10000000000000000).toNat
      close := getHeaderValue request.headers (bytes "Connection") [] = bytes "close" }
    if request.contentLength = 0 then .parsed request
    else if maxSize < request.contentLength then .thrown .allocation
    else .reading (.content request request.contentLength [])

/-- Lines 227 to 235. -/
def finishRequestHeader (request : ReceivedRequest) (line : Bytes) : RequestProgress :=
  if ¬ EOL <:+ line then .reading (.header request [])
  else if line.length = 2 then endRequestHeaders request
  else
    match parseHeaderLine line request.headers with
    | .error exception => .thrown exception
    | .ok none => .reading (.header request [])
    | .ok (some headers) => .reading (.header { request with headers } [])

namespace RequestReading

def push (reading : RequestReading) (b : UInt8) : RequestProgress :=
  match reading with
  | .requestLine line =>
    if b = newline then finishRequestLine (line ++ [b]) else .reading (.requestLine (line ++ [b]))
  | .header request line =>
    if b = newline then finishRequestHeader request (line ++ [b])
    else .reading (.header request (line ++ [b]))
  | .content request bufSize buf =>
    if bufSize ≤ 1 then .parsed { request with content := request.content ++ (buf ++ [b]) }
    else .reading (.content request (bufSize - 1) (buf ++ [b]))

/-- How many bytes the next call of `recv` asks for. -/
def wanted : RequestReading → Nat
  | .requestLine _ | .header _ _ => 1
  | .content _ bufSize _ => bufSize

/-- `recv` failed. The result of `readFixedContent` is not looked at. -/
def fault : RequestReading → RequestProgress
  | .requestLine _ | .header _ _ => .destroyed
  | .content request _ _ => .parsed request

/-- `recv` returned 0. -/
def atEnd : RequestReading → RequestProgress
  | .requestLine line => if line = [] then .destroyed else finishRequestLine line
  | .header request line => if line = [] then .destroyed else finishRequestHeader request line
  | .content request _ _ => .parsed request

end RequestReading

def RequestProgress.take : RequestProgress → Option (UInt8 → RequestProgress)
  | .reading r => some r.push
  | _ => none

/-- Where the thread of a connection is. -/
inductive ClientHandlerPlace where
  | select
  | reading (reading : RequestReading)
  | callback (request : ReceivedRequest)
  | respond (request : ReceivedRequest)
  | ended
  | terminated (exception : StdException)
  deriving DecidableEq

/-- A connection to the notification server: what the client has sent and has not arrived, what
has arrived, what the handler has read since it last waited, and the requests it has parsed,
each with the bytes that it has read for it. -/
structure NotificationConnection where
  place : ClientHandlerPlace := .select
  stop : Bool := false
  pending : Bytes := []
  incoming : Bytes := []
  hungUp : Bool := false
  outgoing : Bytes := []
  text : Bytes := []
  parsed : List (ReceivedRequest × Bytes) := []

inductive ConnectionLabel where
  | arrive (n : Nat)
  | hangUp
  | stop
  | clientHandler (result : SysResult)

namespace NotificationConnection

variable (c : NotificationConnection)

/-- What the handler does after a call of `recv`. -/
def proceed : RequestProgress → NotificationConnection
  | .reading reading => { c with place := .reading reading }
  | .parsed request => { c with place := .callback request, parsed := c.parsed ++ [(request, c.text)] }
  | .destroyed => { c with place := .ended }
  | .thrown exception => { c with place := .terminated exception }

def recv (reading : RequestReading) : SysResult → Option NotificationConnection
  | .amount n =>
    if n = 0 then
      if c.incoming = [] ∧ c.hungUp then some (c.proceed reading.atEnd) else none
    else if n ≤ reading.wanted ∧ n ≤ c.incoming.length then
      some ({ c with incoming := c.incoming.drop n, text := c.text ++ c.incoming.take n }.proceed
        (Feeding.run RequestProgress.take (.reading reading) (c.incoming.take n)).1)
    else none
  | .fault => some (c.proceed reading.fault)
  | _ => none

/-- Lines 184 to 199: `select` finds bytes or the end of the connection, runs into its timeout,
or fails. -/
def select : SysResult → Option NotificationConnection
  | .ok =>
    if c.incoming ≠ [] ∨ c.hungUp then some { c with place := .reading (.requestLine []), text := [] }
    else none
  | .amount 0 => some c
  | .fault => some { c with place := .ended }
  | _ => none

def response : Bytes := bytes "HTTP/1.1 204 OK" ++ EOL ++ bytes "Content-Length: 0" ++ EOL ++ EOL

/-- Lines 259 to 271. -/
def respond (request : ReceivedRequest) : SysResult → Option NotificationConnection
  | .ok => some { c with
      outgoing := c.outgoing ++ response
      place := if request.close then .ended else .select }
  | .fault => some { c with place := .ended }
  | _ => none

/-- A step of `clientHandler`. -/
def clientHandler (result : SysResult) : Option NotificationConnection :=
  match c.place with
  | .select => if c.stop then some { c with place := .ended } else c.select result
  | .reading reading => c.recv reading result
  | .callback request => some { c with place := .respond request }
  | .respond request => c.respond request result
  | .ended | .terminated _ => none

def step : ConnectionLabel → Option NotificationConnection
  | .arrive n =>
    if 0 < n ∧ n ≤ c.pending.length then
      some { c with pending := c.pending.drop n, incoming := c.incoming ++ c.pending.take n }
    else none
  | .hangUp => if c.pending = [] then some { c with hungUp := true } else none
  | .stop => some { c with stop := true }
  | .clientHandler result => c.clientHandler result

end NotificationConnection

end PeakAnalyser

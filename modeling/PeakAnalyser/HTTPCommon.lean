import Mathlib.Data.List.DropRight

/-!
# Reading HTTP messages from a socket

The functions of `HTTPCommon.cpp` and the part of `HTTPClient::doRequest` that
parses a response (lines 231 to 286). A read can stop at every `recv`, so the
parser is a machine that is fed what `recv` hands over, byte after byte. Of the
allocations only that of an announced length depends on its size; that memory runs
out at any other one is a step of its own, in `SocketPositions.lean`.
-/

namespace PeakAnalyser

set_option autoImplicit false

abbrev Bytes := List UInt8

def bytes (s : String) : Bytes := s.toUTF8.toList

/-- `std::string` of bytes, for the text of an exception. -/
def text (value : Bytes) : String := String.ofList (value.map fun b => Char.ofNat b.toNat)

def EOL : Bytes := bytes "\r\n"

def newline : UInt8 := 10

/-- The exceptions of the standard library that reach the caller. -/
inductive StdException where
  | invalidArgument | outOfRange | allocation
  deriving DecidableEq

/-! ### Numbers in texts -/

/-- `isspace` of the C locale. -/
def isSpace (b : UInt8) : Bool := b = 32 || (9 ≤ b && b ≤ 13)

/-- The set `" \t\r\n"` of `parseHeaderLine`. -/
def isBlank (b : UInt8) : Bool := b = 32 || b = 9 || b = 13 || b = 10

def digitValue (b : UInt8) : Option Nat :=
  if 48 ≤ b && b ≤ 57 then some (b.toNat - 48)
  else if 65 ≤ b && b ≤ 90 then some (b.toNat - 55)
  else if 97 ≤ b && b ≤ 122 then some (b.toNat - 87)
  else none

def isDigit (base : Nat) (b : UInt8) : Bool := (digitValue b).any (· < base)

/-- The value of the leading digits, if there are any. -/
def leadingNumber (base : Nat) (s : Bytes) : Option Nat :=
  match s.takeWhile (isDigit base) with
  | [] => none
  | digits => some (digits.foldl (fun n b => n * base + (digitValue b).getD 0) 0)

/-- The sign that `strtol` and `strtoul` accept, and the text after it. -/
def takeSign : Bytes → Bool × Bytes
  | 45 :: s => (true, s)
  | 43 :: s => (false, s)
  | s => (false, s)

/-- `strtol` to base 10, before it is cut to the range of its type. -/
def strtol (s : Bytes) : Option Int :=
  let (negative, digits) := takeSign (s.dropWhile isSpace)
  (leadingNumber 10 digits).map fun n => if negative then -n else n

/-- `std::stoi`; an `int` has 32 bits. -/
def stoi (s : Bytes) : Except StdException Int :=
  match strtol s with
  | none => .error .invalidArgument
  | some n => if n < -0x80000000 ∨ 0x7fffffff < n then .error .outOfRange else .ok n

/-- The prefix `0x` counts only before a digit. -/
def takeHexPrefix : Bytes → Bytes
  | 48 :: x :: b :: s => if (x = 120 || x = 88) && isDigit 16 b then b :: s else 48 :: x :: b :: s
  | s => s

/-- `std::strtoul(s, NULL, 16)` with a 64-bit `unsigned long`. -/
def strtoul (s : Bytes) : Nat :=
  let (negative, digits) := takeSign (s.dropWhile isSpace)
  match leadingNumber 16 (takeHexPrefix digits) with
  | none => 0
  | some n =>
    if 0xffffffffffffffff < n then 0xffffffffffffffff
    else if negative then (0x10000000000000000 - n) % 0x10000000000000000
    else n

/-- The word that `sscanf` stores for `%s`. -/
def scanWord (line : Bytes) : Bytes :=
  ((line.takeWhile (· ≠ 0)).dropWhile isSpace).takeWhile fun b => !isSpace b

/-- The code that `sscanf(status, "%s %d", …)` stores; it stays 0 if there is none. -/
def scanCode (status : Bytes) : Int :=
  let line := status.takeWhile (· ≠ 0)
  let afterVersion := (line.dropWhile isSpace).dropWhile fun b => !isSpace b
  match strtol afterVersion with
  | none => 0
  | some n => (max (-0x8000000000000000) (min n 0x7fffffffffffffff)).bmod 0x100000000

/-! ### Headers -/

/-- `std::map<std::string, std::string>`, in the order of its keys. -/
abbrev Headers := List (Bytes × Bytes)

/-- `headers[key] = value` -/
def Headers.insert (headers : Headers) (key value : Bytes) : Headers :=
  match headers with
  | [] => [(key, value)]
  | (k, v) :: rest =>
    if key < k then (key, value) :: (k, v) :: rest
    else if key = k then (key, value) :: rest
    else (k, v) :: Headers.insert rest key value

def getHeaderValue (headers : Headers) (header defaultValue : Bytes) : Bytes :=
  (headers.lookup header).getD defaultValue

/-- `parseHeaderLine`: `none` is its `false`. The call of `substr` throws if nothing but
blanks follows the colon. -/
def parseHeaderLine (header : Bytes) (headers : Headers) : Except StdException (Option Headers) :=
  match header.dropWhile (· ≠ 58) with
  | [] => .ok none
  | _ :: rest =>
    match rest.dropWhile isBlank with
    | [] => .error .outOfRange
    | value => .ok (some (headers.insert (header.takeWhile (· ≠ 58)) (value.rdropWhile isBlank)))

/-- `response_t`; the version stays empty if `sscanf` finds no word. -/
structure Response where
  headers : Headers := []
  reconnect : Bool := false
  chunked : Bool := false
  content : Bytes := []
  contentLength : Nat := 0
  code : Int := 0
  version : Bytes := []
  deriving DecidableEq

/-- The first word of the status line and its null character do not fit into `version`. -/
def overrunsVersion (status : Bytes) : Bool := 40 ≤ (scanWord status).length

/-! ### The parser -/

/-- What a call of `readLine` is for. -/
inductive LineKind where
  | status
  | header (response : Response)
  | chunkSize (response : Response)
  | chunkEnd (last : Bool) (response : Response)
  deriving DecidableEq

/-- What a call of `readFixedContent` is for. -/
inductive BlockKind where
  | content (response : Response)
  | chunk (response : Response)
  deriving DecidableEq

/-- Where the parser is between two calls of `recv`: in `readLine`, `readFixedContent` or
`readIndefiniteContent`, with what that call has read. -/
inductive Reading where
  | line (kind : LineKind) (start : Bytes)
  | fixed (kind : BlockKind) (bufSize : Nat) (buf : Bytes)
  | indefinite (response : Response)
  deriving DecidableEq

/-- What comes of a call of `recv`: `more` on the same descriptor, `next` after `s->fd` is
read anew; or the parser has stopped. `retry` is the failure after which `doRequest` may
reconnect (line 233). After an `overrun` nothing is defined: `sscanf` has written past the
end of `version`. -/
inductive Progress where
  | more (reading : Reading)
  | next (reading : Reading)
  | done (response : Response)
  | retry
  | failed
  | thrown (exception : StdException)
  | overrun
  deriving DecidableEq

def Progress.reading? : Progress → Option Reading
  | .more reading | .next reading => some reading
  | _ => none

section Parser

variable (memory : Nat)

/-- Lines 270 to 286; `memory` is the size of the largest buffer that can be allocated. -/
def readContent (response : Response) : Progress :=
  if response.chunked then .next (.line (.chunkSize response) [])
  else if (response.headers.lookup (bytes "Content-Length")).isNone then .next (.indefinite response)
  else if response.contentLength = 0 then .done response
  else if memory < response.contentLength then .thrown .allocation
  else .next (.fixed (.content response) response.contentLength [])

/-- Lines 265 to 268. -/
def endHeaders (response : Response) : Progress :=
  match stoi (getHeaderValue response.headers (bytes "Content-Length") (bytes "0")) with
  | .error exception => .thrown exception
  | .ok length =>
    readContent memory { response with
      contentLength := (length % 0x10000000000000000).toNat
      reconnect := getHeaderValue response.headers (bytes "Connection") [] = bytes "close"
      chunked := getHeaderValue response.headers (bytes "Transfer-Encoding") [] = bytes "chunked" }

/-- What the caller of `readLine` does with a line. -/
def LineKind.finish (kind : LineKind) (line : Bytes) : Progress :=
  match kind with
  | .status =>
    if overrunsVersion line then .overrun
    else .next (.line (.header { code := scanCode line, version := scanWord line }) [])
  | .header response =>
    if ¬ EOL <:+ line then .next (.line (.header response) [])
    else if line.length = 2 then endHeaders memory response
    else
      match parseHeaderLine line response.headers with
      | .error exception => .thrown exception
      | .ok none => .next (.line (.header response) [])
      | .ok (some headers) => .next (.line (.header { response with headers }) [])
  | .chunkSize response =>
    let length := strtoul line
    if length = 0 then .more (.line (.chunkEnd true response) [])
    else if memory < length then .thrown .allocation
    else .more (.fixed (.chunk response) length [])
  | .chunkEnd last response =>
    if line ≠ EOL then .failed
    else if last then .done response
    else .more (.line (.chunkSize response) [])

/-- What the caller of `readFixedContent` does with a block. -/
def BlockKind.finish (kind : BlockKind) (block : Bytes) : Progress :=
  match kind with
  | .content response => .done { response with content := response.content ++ block }
  | .chunk response =>
    .more (.line (.chunkEnd false { response with content := response.content ++ block }) [])

/-- What the caller of `readLine` does when it fails. -/
def LineKind.fault : LineKind → Progress
  | .status => .retry
  | _ => .failed

/-- The parser takes a byte. -/
def Reading.push (reading : Reading) (b : UInt8) : Progress :=
  match reading with
  | .line kind start =>
    if b = newline then kind.finish memory (start ++ [b]) else .more (.line kind (start ++ [b]))
  | .fixed kind bufSize buf =>
    if bufSize ≤ 1 then kind.finish (buf ++ [b]) else .more (.fixed kind (bufSize - 1) (buf ++ [b]))
  | .indefinite response => .more (.indefinite { response with content := response.content ++ [b] })

/-- How many bytes the next call of `recv` asks for. -/
def Reading.wanted : Reading → Nat
  | .line _ _ => 1
  | .fixed _ bufSize _ => bufSize
  | .indefinite _ => 4096

/-- `recv` failed. -/
def Reading.fault : Reading → Progress
  | .line kind _ => kind.fault
  | _ => .failed

/-- `recv` returned 0: the server has closed the connection. A line that has begun counts as
a whole one. -/
def Reading.atEnd : Reading → Progress
  | .line kind start => if start = [] then kind.fault else kind.finish memory start
  | .fixed _ _ _ => .failed
  | .indefinite response => .done response

/-- The parser takes a text as far as it wants it: where it is then, and what it leaves. -/
def Progress.run (progress : Progress) : Bytes → Progress × Bytes
  | [] => (progress, [])
  | b :: s =>
    match progress.reading? with
    | some reading => (reading.push memory b).run s
    | none => (progress, b :: s)

/-- `recv` returned `data`. -/
def Reading.receive (reading : Reading) (data : Bytes) : Progress :=
  ((Progress.more reading).run memory data).1

/-- The connection has ended: `n` more calls of `recv` return 0. -/
def Progress.afterEnd (progress : Progress) : Nat → Progress
  | 0 => progress
  | n + 1 =>
    match (progress.afterEnd n).reading? with
    | some reading => reading.atEnd memory
    | none => progress.afterEnd n

end Parser

/-- The members of `request_t` that a client sets. -/
structure Request where
  method : Bytes
  path : Bytes
  headers : Headers
  content : Bytes

/-- What `doRequest` sends (lines 179 to 189). -/
def Request.data (hostname : Bytes) (request : Request) : Bytes :=
  request.method ++ bytes " " ++ request.path ++ bytes " HTTP/1.1" ++ EOL ++
    bytes "Host: " ++ hostname ++ EOL ++
    request.headers.flatMap (fun (key, value) => key ++ bytes ": " ++ value ++ EOL) ++
    (if request.content.length = 0 then []
      else bytes "Content-Length: " ++ bytes (toString request.content.length) ++ EOL) ++
    EOL ++ request.content

theorem Request.data_ne_nil (hostname : Bytes) (request : Request) : request.data hostname ≠ [] := by
  have hspace : bytes " " ≠ [] := by decide +kernel
  simp [Request.data, hspace]

/-! ### Reading on -/

section Running

variable {memory : Nat} {progress : Progress} {reading : Reading}

theorem Progress.run_of_stopped (h : progress.reading? = none) (s : Bytes) :
    progress.run memory s = (progress, s) := by
  cases s with
  | nil => rfl
  | cons b s => simp [Progress.run, h]

theorem Progress.run_cons (h : progress.reading? = some reading) (b : UInt8) (s : Bytes) :
    progress.run memory (b :: s) = (reading.push memory b).run memory s := by
  simp [Progress.run, h]

theorem Progress.afterEnd_succ {n : Nat} (h : (progress.afterEnd memory n).reading? = some reading) :
    progress.afterEnd memory (n + 1) = reading.atEnd memory := by
  simp [Progress.afterEnd, h]

theorem Progress.afterEnd_of_stopped (h : progress.reading? = none) (n : Nat) :
    progress.afterEnd memory n = progress := by
  induction n with
  | zero => rfl
  | succ n ih => simp [Progress.afterEnd, ih, h]

/-- Within a call the parser takes no more than it has asked for, so nothing of what `recv`
handed over is lost. -/
theorem Reading.run_wanted {data : Bytes} (h : data.length ≤ reading.wanted) :
    ((Progress.more reading).run memory data).2 = [] := by
  induction data generalizing reading with
  | nil => rfl
  | cons b data ih =>
    rw [Progress.run_cons rfl]
    cases reading with
    | line kind start =>
      have hdata : data = [] := by simpa [Reading.wanted] using h
      rw [hdata]
      rfl
    | fixed kind bufSize buf =>
      simp only [Reading.wanted, List.length_cons] at h
      by_cases hlast : bufSize ≤ 1
      · have hdata : data = [] := List.length_eq_zero_iff.mp (by omega)
        rw [hdata]
        rfl
      · simp only [Reading.push, if_neg hlast]
        exact ih (by simp only [Reading.wanted]; omega)
    | indefinite response =>
      simp only [Reading.wanted, List.length_cons] at h
      exact ih (by simp only [Reading.wanted]; omega)

/-- Whether `s->fd` is read anew makes no difference to the parser. -/
theorem Progress.run_eq (h : progress.reading? = some reading) {s : Bytes} (hs : s ≠ []) :
    progress.run memory s = (Progress.more reading).run memory s := by
  obtain ⟨b, s, rfl⟩ := List.exists_cons_of_ne_nil hs
  rw [Progress.run_cons h, Progress.run_cons rfl]

theorem Progress.run_append {s : Bytes} (h : (progress.run memory s).2 = []) (s' : Bytes) :
    progress.run memory (s ++ s') = (progress.run memory s).1.run memory s' := by
  induction s generalizing progress with
  | nil => rfl
  | cons b s ih =>
    cases hreading : progress.reading? with
    | none =>
      rw [Progress.run_of_stopped hreading] at h
      cases h
    | some reading =>
      rw [List.cons_append, Progress.run_cons hreading, Progress.run_cons hreading]
      rw [Progress.run_cons hreading] at h
      exact ih h

/-- However `recv` cuts a text, the parser makes the same of it. -/
theorem Reading.run_receive {data : Bytes} (h : data.length ≤ reading.wanted) (s : Bytes) :
    (Progress.more reading).run memory (data ++ s) =
      (reading.receive memory data).run memory s :=
  Progress.run_append (Reading.run_wanted h) s

end Running

end PeakAnalyser

import PeakAnalyser.NotificationServer
import PeakAnalyser.RequestEncoding

/-!
# From the client's encoder to the notification server

What `doRequest` writes, `clientHandler` reads: request after request on one connection,
however the bytes arrive and whatever `recv` makes of them.
-/

namespace PeakAnalyser

set_option autoImplicit false

open Feeding Runs

/-! ### What is sent and what should be received -/

/-- A header that the encoder can write. -/
structure PlainHeader (name value : Bytes) : Prop where
  name_ne : name ≠ []
  colon : 58 ∉ name
  name_cr : 13 ∉ name
  name_lf : newline ∉ name
  host : name ≠ bytes "Host"
  length : name ≠ bytes "Content-Length"
  value_ne : value ≠ []
  value_cr : 13 ∉ value
  value_lf : newline ∉ value
  head : ∀ b ∈ value.head?, isBlank b = false
  last : ∀ b ∈ value.getLast?, isBlank b = false

/-- A POST request that keeps the connection open. -/
structure Request.Sendable (request : Request) : Prop where
  method : request.method = bytes "POST"
  path_cr : 13 ∉ request.path
  path_lf : newline ∉ request.path
  sorted : request.headers.Sorted
  headers : ∀ entry ∈ request.headers, PlainHeader entry.1 entry.2
  close : (bytes "Connection", bytes "close") ∉ request.headers
  content : request.content.length < 0x80000000

/-- A host name in one line, with something other than blanks in it. -/
structure PlainHost (hostname : Bytes) : Prop where
  newline : newline ∉ hostname
  value : ∃ b ∈ hostname, isBlank b = false

namespace Request

variable (hostname : Bytes) (request : Request)

def receivedHeaders : Headers :=
  let headers := request.headers.insert (bytes "Host") (trim hostname)
  if request.content.length = 0 then headers
  else headers.insert (bytes "Content-Length") (bytes (toString request.content.length))

def received : ReceivedRequest where
  method := request.method
  headers := request.receivedHeaders hostname
  content := request.content
  contentLength := request.content.length
  close := false

end Request

/-! ### The parser on one request -/

section Parsing

variable {received : ReceivedRequest} {line s : Bytes}

/-- `readLine`, for the request line and for header lines. -/
theorem run_line {reading : Bytes → RequestReading} {finish : Bytes → RequestProgress}
    (hpush : ∀ start b, (reading start).push b =
      if b = newline then finish (start ++ [b]) else .reading (reading (start ++ [b])))
    (hline : newline ∉ line) (start s : Bytes) :
    run RequestProgress.take (.reading (reading start)) (line ++ newline :: s) =
      run RequestProgress.take (finish (start ++ line ++ [newline])) s := by
  induction line generalizing start with
  | nil =>
    rw [List.nil_append, run_cons rfl, hpush, if_pos rfl]
    simp
  | cons b line ih =>
    rw [List.mem_cons, not_or] at hline
    obtain ⟨hb, hrest⟩ := hline
    rw [List.cons_append, run_cons rfl, hpush, if_neg (Ne.symm hb), ih hrest]
    simp

theorem run_requestLine (hline : newline ∉ line) (s : Bytes) :
    run RequestProgress.take (.reading (.requestLine [])) (line ++ newline :: s) =
      run RequestProgress.take (finishRequestLine (line ++ [newline])) s :=
  run_line (fun _ _ => rfl) hline [] s

theorem run_header (hline : newline ∉ line) (s : Bytes) :
    run RequestProgress.take (.reading (.header received [])) (line ++ newline :: s) =
      run RequestProgress.take (finishRequestHeader received (line ++ [newline])) s :=
  run_line (fun _ _ => rfl) hline [] s

theorem eol_eq : EOL = [13, newline] := by decide +kernel

theorem run_headerLine {key value : Bytes} (hcolon : 58 ∉ key) (hkey : newline ∉ key)
    (hvalue : newline ∉ value) (hne : ∃ b ∈ value, isBlank b = false) (s : Bytes) :
    run RequestProgress.take (.reading (.header received [])) (headerLine key value ++ s) =
      run RequestProgress.take (.reading (.header
        { received with headers := received.headers.insert key (trim value) } [])) s := by
  have hseparator : bytes ": " = [58, 32] := by decide +kernel
  have hline : headerLine key value = (key ++ [58, 32] ++ value ++ [13]) ++ [newline] := by
    simp [headerLine, hseparator, eol_eq]
  have hplain : newline ∉ key ++ [58, 32] ++ value ++ [13] := by
    have h58 : newline ∉ ([58, 32] : Bytes) := by decide
    have h13 : newline ∉ ([13] : Bytes) := by decide
    simp only [List.mem_append, not_or]
    exact ⟨⟨⟨hkey, h58⟩, hvalue⟩, h13⟩
  have htext : headerLine key value ++ s =
      (key ++ [58, 32] ++ value ++ [13]) ++ newline :: s := by simp [hline]
  have hEOL : EOL <:+ headerLine key value := List.suffix_append ..
  have hlength : (headerLine key value).length ≠ 2 := by
    rw [hline]
    simp only [List.length_append, List.length_cons, List.length_nil]
    omega
  rw [htext, run_header hplain, ← hline]
  simp only [finishRequestHeader, hEOL, not_true_eq_false, if_false, hlength,
    parseHeaderLine_headerLine hcolon hne]

theorem exists_not_blank {value : Bytes} (hne : value ≠ [])
    (hhead : ∀ b ∈ value.head?, isBlank b = false) : ∃ b ∈ value, isBlank b = false := by
  cases value with
  | nil => exact absurd rfl hne
  | cons b s => exact ⟨b, List.mem_cons_self, hhead b rfl⟩

theorem run_headerLines {entries : Headers} (h : ∀ entry ∈ entries, PlainHeader entry.1 entry.2)
    (received : ReceivedRequest) (s : Bytes) :
    run RequestProgress.take (.reading (.header received []))
        (entries.flatMap (fun (key, value) => headerLine key value) ++ s) =
      run RequestProgress.take (.reading (.header
        { received with headers := received.headers.insertAll entries } [])) s := by
  induction entries generalizing received with
  | nil => rfl
  | cons entry entries ih =>
    obtain ⟨key, value⟩ := entry
    have hplain := h _ List.mem_cons_self
    rw [List.flatMap_cons, List.append_assoc,
      run_headerLine hplain.colon hplain.name_lf hplain.value_lf
        (exists_not_blank hplain.value_ne hplain.head),
      trim_eq hplain.head hplain.last,
      ih fun entry hentry => h entry (List.mem_cons_of_mem _ hentry)]
    rfl

theorem run_content {content : Bytes} (hne : content ≠ []) (buf : Bytes) :
    run RequestProgress.take (.reading (.content received content.length buf)) content =
      (.parsed { received with content := received.content ++ (buf ++ content) }, []) := by
  induction content generalizing buf with
  | nil => exact absurd rfl hne
  | cons b content ih =>
    rw [run_cons rfl]
    cases content with
    | nil => rfl
    | cons b' content =>
      have hlast : ¬ (b :: b' :: content).length ≤ 1 := by simp
      have hlength : (b :: b' :: content).length - 1 = (b' :: content).length := rfl
      simp only [RequestReading.push, if_neg hlast]
      rw [hlength, ih (by simp)]
      simp

theorem not_blank_of_le {b : UInt8} (h : 33 ≤ b.toNat) : isBlank b = false := by
  by_contra hblank
  simp only [isBlank, Bool.not_eq_false, Bool.or_eq_true, decide_eq_true_eq] at hblank
  rcases hblank with ((rfl | rfl) | rfl) | rfl <;> exact absurd h (by decide)

/-- What the server makes of the headers of a request. -/
theorem endRequestHeaders_received {hostname : Bytes} {request : Request} (h : request.Sendable) :
    endRequestHeaders { method := request.method, headers := request.receivedHeaders hostname } =
      if request.content.length = 0 then .parsed (request.received hostname)
      else .reading (.content { request.received hostname with content := [] }
        request.content.length []) := by
  have hhostKey : bytes "Content-Length" ≠ bytes "Host" := by decide +kernel
  have hlength : getHeaderValue (request.receivedHeaders hostname) (bytes "Content-Length")
      (bytes "0") = bytes (toString request.content.length) := by
    unfold getHeaderValue Request.receivedHeaders
    by_cases hempty : request.content.length = 0
    · have hnone : request.headers.lookup (bytes "Content-Length") = none :=
        Headers.lookup_eq_none fun entry hentry => (h.headers entry hentry).length
      have hzero : bytes "0" = bytes (toString 0) := by decide +kernel
      simp only [hempty, if_true, Headers.lookup_insert, if_neg hhostKey, hnone, hzero]
      rfl
    · simp only [hempty, if_false, Headers.lookup_insert, if_true]
      rfl
  have hclose : getHeaderValue (request.receivedHeaders hostname) (bytes "Connection") [] ≠
      bytes "close" := by
    have hconnection : (request.receivedHeaders hostname).lookup (bytes "Connection") =
        request.headers.lookup (bytes "Connection") := by
      have h₁ : bytes "Connection" ≠ bytes "Host" := by decide +kernel
      have h₂ : bytes "Connection" ≠ bytes "Content-Length" := by decide +kernel
      unfold Request.receivedHeaders
      by_cases hempty : request.content.length = 0
      · simp only [hempty, if_true, Headers.lookup_insert, if_neg h₁]
      · simp only [hempty, if_false, Headers.lookup_insert, if_neg h₁, if_neg h₂]
    unfold getHeaderValue
    rw [hconnection]
    intro hvalue
    cases hlookup : request.headers.lookup (bytes "Connection") with
    | none =>
      rw [hlookup] at hvalue
      have hne : ([] : Bytes) ≠ bytes "close" := by decide +kernel
      exact hne hvalue
    | some value =>
      rw [hlookup] at hvalue
      obtain ⟨l₁, l₂, hheaders, _⟩ := List.lookup_eq_some_iff.mp hlookup
      apply h.close
      rw [hheaders, ← (show value = bytes "close" from hvalue)]
      simp
  have hcontent : ((request.content.length : Int) % 0x10000000000000000).toNat =
      request.content.length := by
    have hsmall := h.content
    omega
  have hallocated : ¬ maxSize < request.content.length := by
    have hsmall := h.content
    unfold maxSize
    omega
  unfold endRequestHeaders
  simp only [hlength, stoi_toString h.content, hcontent, hclose, hallocated, decide_false, if_false]
  by_cases hempty : request.content.length = 0
  · have hnil : request.content = [] := List.length_eq_zero_iff.mp hempty
    simp [Request.received, hnil]
  · simp [hempty, Request.received]

theorem scanWord_post (s : Bytes) : scanWord (bytes "POST" ++ 32 :: s) = bytes "POST" := by
  have hpost : bytes "POST" = [80, 79, 83, 84] := by decide +kernel
  rw [hpost]
  simp [scanWord, isSpace]

/-- The header lines that the encoder adds. -/
def ownHeaders (hostname : Bytes) (request : Request) : Bytes :=
  headerLine (bytes "Host") hostname ++
    request.headers.flatMap (fun (key, value) => headerLine key value) ++
    if request.content.length = 0 then []
    else headerLine (bytes "Content-Length") (bytes (toString request.content.length))

theorem data_eq {hostname : Bytes} {request : Request} (hmethod : request.method = bytes "POST") :
    request.data hostname =
      (bytes "POST" ++ 32 :: (request.path ++ bytes " HTTP/1.1" ++ [13])) ++
        newline :: (ownHeaders hostname request ++ (EOL ++ request.content)) := by
  have hspace : bytes " " = [32] := by decide +kernel
  have hhost : bytes "Host: " = bytes "Host" ++ bytes ": " := by decide +kernel
  have hlength : bytes "Content-Length: " = bytes "Content-Length" ++ bytes ": " := by decide +kernel
  simp [Request.data, ownHeaders, headerLine, hmethod, hspace, hhost, hlength, eol_eq]

theorem run_ownHeaders {hostname : Bytes} {request : Request} (hhost : PlainHost hostname)
    (h : request.Sendable) (method s : Bytes) :
    run RequestProgress.take (.reading (.header { method } [])) (ownHeaders hostname request ++ s) =
      run RequestProgress.take
        (.reading (.header { method, headers := request.receivedHeaders hostname } [])) s := by
  have hcolon : 58 ∉ bytes "Host" ∧ newline ∉ bytes "Host" ∧ 58 ∉ bytes "Content-Length" ∧
      newline ∉ bytes "Content-Length" := by decide +kernel
  obtain ⟨hhost58, hhost10, hlength58, hlength10⟩ := hcolon
  have hall : Headers.insertAll [(bytes "Host", trim hostname)] request.headers =
      request.headers.insert (bytes "Host") (trim hostname) :=
    Headers.insertAll_singleton h.sorted fun entry hentry => (h.headers entry hentry).host
  unfold ownHeaders
  rw [List.append_assoc, List.append_assoc,
    run_headerLine hhost58 hhost10 hhost.newline hhost.value, run_headerLines h.headers]
  have hfirst : Headers.insert [] (bytes "Host") (trim hostname) =
      [(bytes "Host", trim hostname)] := rfl
  simp only [hfirst, hall]
  by_cases hempty : request.content.length = 0
  · simp only [hempty, if_true, List.nil_append, Request.receivedHeaders]
  · have hplain : ∀ b ∈ bytes (toString request.content.length), b ≠ newline ∧ isBlank b = false := by
      intro b hb
      have hlow := (mem_bytes_toString hb).1
      refine ⟨?_, not_blank_of_le (by omega)⟩
      rintro rfl
      exact absurd hlow (by decide)
    have hne := bytes_toString_ne_nil request.content.length
    have htrim : trim (bytes (toString request.content.length)) =
        bytes (toString request.content.length) := by
      apply trim_eq
      · exact fun b hb => (hplain b (List.mem_of_mem_head? hb)).2
      · exact fun b hb => (hplain b (List.mem_of_mem_getLast? hb)).2
    have hhead : ∀ b ∈ (bytes (toString request.content.length)).head?, isBlank b = false :=
      fun b hb => (hplain b (List.mem_of_mem_head? hb)).2
    simp only [hempty, if_false, Request.receivedHeaders]
    rw [run_headerLine hlength58 hlength10 (fun hmem => (hplain _ hmem).1 rfl)
      (exists_not_blank hne hhead), htrim]

/-- The server parses a request as a whole and takes nothing of what follows. -/
theorem run_data {hostname : Bytes} {request : Request} (hhost : PlainHost hostname)
    (h : request.Sendable) :
    run RequestProgress.take (.reading (.requestLine [])) (request.data hostname) =
      (.parsed (request.received hostname), []) := by
  have hline : newline ∉ bytes "POST" ++ 32 :: (request.path ++ bytes " HTTP/1.1" ++ [13]) := by
    have hconstants : newline ∉ bytes "POST" ∧ newline ∉ bytes " HTTP/1.1" ∧ newline ≠ 32 ∧
        newline ≠ 13 := by decide +kernel
    obtain ⟨hpost, hversion, h32, h13⟩ := hconstants
    simp [hpost, hversion, h32, h13, h.path_lf]
  have hfinish : finishRequestLine
      (bytes "POST" ++ 32 :: (request.path ++ bytes " HTTP/1.1" ++ [13]) ++ [newline]) =
      .reading (.header { method := bytes "POST" } []) := by
    rw [List.append_assoc, List.cons_append]
    simp [finishRequestLine, scanWord_post]
  have hempty : EOL ++ request.content = [13] ++ newline :: request.content := by simp [eol_eq]
  have hend : finishRequestHeader
      { method := bytes "POST", headers := request.receivedHeaders hostname } ([13] ++ [newline]) =
      endRequestHeaders { method := request.method, headers := request.receivedHeaders hostname } := by
    rw [h.method]
    simp [finishRequestHeader, eol_eq]
  rw [data_eq h.method, run_requestLine hline, hfinish, run_ownHeaders hhost h, hempty,
    run_header (by decide), hend, endRequestHeaders_received h]
  split
  · rename_i hzero
    rw [List.length_eq_zero_iff.mp hzero]
    rfl
  · rename_i hpos
    have hne : request.content ≠ [] := fun hnil => hpos (by simp [hnil])
    rw [run_content hne]
    simp [Request.received]

end Parsing

/-! ### The connection -/

namespace NotificationConnection

/-- A connection on which the client has sent the requests one after the other. -/
def start (hostname : Bytes) (requests : List Request) : NotificationConnection where
  pending := requests.flatMap (·.data hostname)

/-- The connection stays up, and the server runs on. -/
def undisturbed (_ : NotificationConnection) : ConnectionLabel → Prop
  | .hangUp | .stop | .clientHandler .fault => False
  | _ => True

instance (c : NotificationConnection) : DecidablePred c.undisturbed
  | .hangUp | .stop | .clientHandler .fault => .isFalse id
  | .arrive _ | .clientHandler .ok | .clientHandler (.amount _) | .clientHandler (.descriptor _) =>
    .isTrue trivial

/-- What is parsed of a request, and the bytes that are read for it. -/
def entry (hostname : Bytes) (request : Request) : ReceivedRequest × Bytes :=
  (request.received hostname, request.data hostname)

/-- What has not been read. -/
def unread (c : NotificationConnection) : Bytes := c.incoming ++ c.pending

/-- Nothing happens but that `select` runs into its timeout. -/
def timesOut (c : NotificationConnection) (l : ConnectionLabel) : Prop :=
  c.place = .select ∧ l = .clientHandler (.amount 0)

/-- Nothing more can happen. -/
def Finished (c : NotificationConnection) : Prop :=
  ∀ l, c.undisturbed l → ¬ c.timesOut l → c.step l = none

/-- The steps from a place to the next call of `recv`. -/
def rank : ClientHandlerPlace → Nat
  | .select => 1
  | .respond _ => 2
  | .callback _ => 3
  | _ => 0

/-- A bound on what can still happen. -/
def work (c : NotificationConnection) : Nat :=
  5 * c.pending.length + 4 * c.incoming.length + rank c.place

/-- The handler has parsed the first of the requests, each from exactly its own bytes; when
nothing more can happen it has parsed all of them, and every step but a timeout brings it closer
to that. -/
structure Delivers (hostname : Bytes) (requests : List Request) (c : NotificationConnection) :
    Prop where
  first : ∃ n, c.parsed = (requests.take n).map (entry hostname)
  all : c.Finished → c.parsed = requests.map (entry hostname)
  progress : ∀ l c', c.undisturbed l → ¬ c.timesOut l → c.step l = some c' → c'.work < c.work

/-- What the handler has still to read for `todo`. -/
def Reads (hostname : Bytes) (c : NotificationConnection) (todo : List Request) :
    ClientHandlerPlace → Prop
  | .select => c.unread = todo.flatMap (·.data hostname)
  | .callback request | .respond request =>
    c.unread = todo.flatMap (·.data hostname) ∧ request.close = false
  | .reading reading =>
    ∃ request rest, todo = request :: rest ∧
      c.text ++ c.unread = request.data hostname ++ rest.flatMap (·.data hostname) ∧
      run RequestProgress.take (.reading (.requestLine [])) c.text = (.reading reading, [])
  | .ended | .terminated _ => False

structure InStep (hostname : Bytes) (requests : List Request) (c : NotificationConnection) :
    Prop where
  stop : c.stop = false
  hungUp : c.hungUp = false
  reads : ∃ done todo, requests = done ++ todo ∧ c.parsed = done.map (entry hostname) ∧
    c.Reads hostname todo c.place

section Steps

variable {hostname : Bytes} {requests : List Request} {c c' : NotificationConnection}
  {reading : RequestReading}

/-- Within a call the handler takes all that it has asked for. -/
theorem run_wanted {data : Bytes} (h : data.length ≤ reading.wanted) :
    (run RequestProgress.take (.reading reading) data).2 = [] := by
  induction data generalizing reading with
  | nil => rfl
  | cons b data ih =>
    rw [run_cons rfl]
    cases reading with
    | requestLine line =>
      have hdata : data = [] := by simpa [RequestReading.wanted] using h
      rw [hdata]
      rfl
    | header request line =>
      have hdata : data = [] := by simpa [RequestReading.wanted] using h
      rw [hdata]
      rfl
    | content request bufSize buf =>
      simp only [RequestReading.wanted, List.length_cons] at h
      by_cases hlast : bufSize ≤ 1
      · have hdata : data = [] := List.length_eq_zero_iff.mp (by omega)
        rw [hdata]
        rfl
      · simp only [RequestReading.push, if_neg hlast]
        exact ih (by simp only [RequestReading.wanted]; omega)

/-- `recv` has handed over more of a request: it lies within this request, and if the handler
has stopped it has parsed it. -/
theorem run_received {request : Request} {text data rest tail : Bytes} (hhost : PlainHost hostname)
    (hrequest : request.Sendable)
    (htext : run RequestProgress.take (.reading (.requestLine [])) text = (.reading reading, []))
    (hdata : data.length ≤ reading.wanted)
    (hall : (text ++ data) ++ rest = request.data hostname ++ tail) :
    (∃ reading', (run RequestProgress.take (.reading reading) data).1 = .reading reading' ∧
        run RequestProgress.take (.reading (.requestLine [])) (text ++ data) = (.reading reading', [])) ∨
      ((run RequestProgress.take (.reading reading) data).1 = .parsed (request.received hostname) ∧
        text ++ data = request.data hostname ∧ rest = tail) := by
  have hrun : run RequestProgress.take (.reading (.requestLine [])) (text ++ data) =
      run RequestProgress.take (.reading reading) data := by
    rw [run_append (by rw [htext]), htext]
  have hleft : (run RequestProgress.take (.reading (.requestLine [])) (text ++ data)).2 = [] := by
    rw [hrun]
    exact run_wanted hdata
  have hwhole := run_data hhost hrequest
  obtain ⟨t, hbegins, htail⟩ : ∃ t, request.data hostname = (text ++ data) ++ t ∧ rest = t ++ tail := by
    rcases List.append_eq_append_iff.mp hall with ⟨t, ht, hrest⟩ | ⟨t, ht, hrest⟩
    · exact ⟨t, ht, hrest⟩
    · -- the bytes beyond the request would have been left over
      rw [ht, run_append (by rw [hwhole]), hwhole, run_of_stopped rfl] at hleft
      have hnil : t = [] := hleft
      subst hnil
      exact ⟨[], by rw [ht]; simp, by rw [hrest]; rfl⟩
  rw [hbegins] at hwhole
  cases hprogress : (run RequestProgress.take (.reading reading) data).1 with
  | reading reading' =>
    left
    refine ⟨reading', rfl, Prod.ext ?_ hleft⟩
    rw [hrun, hprogress]
  | _ =>
    right
    have hstopped := eq_nil_of_stopped hwhole (by rw [hrun, hprogress]; rfl)
    rw [hrun, hprogress] at hstopped
    obtain ⟨hnil, hparsed⟩ := hstopped
    refine ⟨hparsed, ?_, ?_⟩
    · rw [hbegins, hnil, List.append_nil]
    · rw [htail, hnil, List.nil_append]

theorem inStep_start : InStep hostname requests (start hostname requests) :=
  ⟨rfl, rfl, [], requests, rfl, rfl, by simp [start, Reads, unread]⟩

theorem inStep_select {result : SysResult} (hc : InStep hostname requests c)
    (hplace : c.place = .select) (hok : c.undisturbed (.clientHandler result))
    (h : c.select result = some c') : InStep hostname requests c' := by
  obtain ⟨hstop, hhungUp, done, todo, hrequests, hparsed, hreads⟩ := hc
  rw [hplace] at hreads
  cases result with
  | ok =>
    simp only [select] at h
    split at h
    · rename_i hbytes
      obtain rfl := Option.some.inj h
      have hincoming : c.incoming ≠ [] := by simpa [hhungUp] using hbytes
      refine ⟨hstop, hhungUp, done, todo, hrequests, hparsed, ?_⟩
      have hunread : c.unread = todo.flatMap (·.data hostname) := hreads
      cases todo with
      | nil =>
        have hnil := (List.append_eq_nil_iff.mp hunread).1
        exact absurd hnil hincoming
      | cons request rest => exact ⟨request, rest, rfl, hunread, rfl⟩
    · cases h
  | amount n =>
    cases n with
    | zero =>
      obtain rfl := Option.some.inj h
      exact ⟨hstop, hhungUp, done, todo, hrequests, hparsed, hplace ▸ hreads⟩
    | succ n => cases h
  | fault => exact absurd hok id
  | descriptor fd => cases h

theorem inStep_recv {result : SysResult} (hhost : PlainHost hostname)
    (hsend : ∀ request ∈ requests, request.Sendable) (hc : InStep hostname requests c)
    (hplace : c.place = .reading reading) (hok : c.undisturbed (.clientHandler result))
    (h : c.recv reading result = some c') : InStep hostname requests c' := by
  obtain ⟨hstop, hhungUp, done, todo, hrequests, hparsed, hreads⟩ := hc
  rw [hplace] at hreads
  obtain ⟨request, rest, rfl, hunread, htext⟩ := hreads
  cases result with
  | amount n =>
    simp only [recv] at h
    split at h
    · simp [hhungUp] at h
    · split at h
      · rename_i hn
        obtain rfl := Option.some.inj h
        have hlength : (c.incoming.take n).length ≤ reading.wanted :=
          (List.length_take_le n c.incoming).trans hn.1
        have hall : (c.text ++ c.incoming.take n) ++ (c.incoming.drop n ++ c.pending) =
            request.data hostname ++ rest.flatMap (·.data hostname) := by
          rw [← hunread, unread, List.append_assoc, ← List.append_assoc (c.incoming.take n),
            List.take_append_drop]
        have hrequest : request.Sendable := hsend request (by rw [hrequests]; simp)
        rcases run_received hhost hrequest htext hlength hall with
          ⟨reading', hreading, hrun⟩ | ⟨hfinished, hbytes, htail⟩
        · rw [hreading]
          exact ⟨hstop, hhungUp, done, request :: rest, hrequests, hparsed, request, rest, rfl, hall, hrun⟩
        · rw [hfinished]
          refine ⟨hstop, hhungUp, done ++ [request], rest, ?_, ?_, htail, rfl⟩
          · rw [hrequests]
            simp
          · have hentry : (request.received hostname, c.text ++ c.incoming.take n) =
                entry hostname request := by
              rw [hbytes]
              rfl
            simp only [proceed, hparsed, hentry, List.map_append, List.map_cons, List.map_nil]
      · cases h
  | fault => exact absurd hok id
  | ok => cases h
  | descriptor fd => cases h

theorem inStep_step {l : ConnectionLabel} (hhost : PlainHost hostname)
    (hsend : ∀ request ∈ requests, request.Sendable) (hc : InStep hostname requests c)
    (hok : c.undisturbed l) (h : c.step l = some c') : InStep hostname requests c' := by
  cases l with
  | arrive n =>
    simp only [step] at h
    split at h
    · obtain rfl := Option.some.inj h
      obtain ⟨hstop, hhungUp, done, todo, hrequests, hparsed, hreads⟩ := hc
      refine ⟨hstop, hhungUp, done, todo, hrequests, hparsed, ?_⟩
      have hunread : (c.incoming ++ c.pending.take n) ++ c.pending.drop n = c.unread := by
        rw [List.append_assoc, List.take_append_drop]
        rfl
      simpa only [Reads, unread, hunread] using hreads
    · cases h
  | hangUp => exact absurd hok id
  | stop => exact absurd hok id
  | clientHandler result =>
    have hstop := hc.stop
    simp only [step, clientHandler] at h
    cases hplace : c.place with
    | select =>
      simp only [hplace, hstop, Bool.false_eq_true, if_false] at h
      exact inStep_select hc hplace hok h
    | reading reading =>
      simp only [hplace] at h
      exact inStep_recv hhost hsend hc hplace hok h
    | callback request =>
      simp only [hplace] at h
      obtain rfl := Option.some.inj h
      obtain ⟨_, hhungUp, done, todo, hrequests, hparsed, hreads⟩ := hc
      rw [hplace] at hreads
      exact ⟨hstop, hhungUp, done, todo, hrequests, hparsed, hreads⟩
    | respond request =>
      simp only [hplace] at h
      obtain ⟨_, hhungUp, done, todo, hrequests, hparsed, hreads⟩ := hc
      rw [hplace] at hreads
      obtain ⟨hunread, hclose⟩ := hreads
      cases result with
      | ok =>
        obtain rfl := Option.some.inj h
        refine ⟨hstop, hhungUp, done, todo, hrequests, hparsed, ?_⟩
        simp only [hclose, Bool.false_eq_true, if_false]
        exact hunread
      | fault => exact absurd hok id
      | amount n => cases h
      | descriptor fd => cases h
    | ended => simp [hplace] at h
    | terminated exception => simp [hplace] at h

theorem rank_proceed (progress : RequestProgress) : rank (c.proceed progress).place ≤ 3 := by
  cases progress <;> simp [proceed, rank]

theorem length_proceed (progress : RequestProgress) :
    (c.proceed progress).pending = c.pending ∧ (c.proceed progress).incoming = c.incoming := by
  cases progress <;> exact ⟨rfl, rfl⟩

theorem work_lt {l : ConnectionLabel} (hc : InStep hostname requests c) (hok : c.undisturbed l)
    (htime : ¬ c.timesOut l) (h : c.step l = some c') : c'.work < c.work := by
  cases l with
  | arrive n =>
    simp only [step] at h
    split at h
    · obtain rfl := Option.some.inj h
      simp only [work, List.length_append, List.length_take, List.length_drop]
      omega
    · cases h
  | hangUp => exact absurd hok id
  | stop => exact absurd hok id
  | clientHandler result =>
    simp only [step, clientHandler] at h
    cases hplace : c.place with
    | select =>
      simp only [hplace, hc.stop, Bool.false_eq_true, if_false] at h
      cases result with
      | ok =>
        simp only [select] at h
        split at h
        · obtain rfl := Option.some.inj h
          simp [work, hplace, rank]
        · cases h
      | amount n =>
        cases n with
        | zero => exact absurd ⟨hplace, rfl⟩ htime
        | succ n => cases h
      | fault => exact absurd hok id
      | descriptor fd => cases h
    | reading reading =>
      simp only [hplace] at h
      cases result with
      | amount n =>
        simp only [recv] at h
        split at h
        · simp [hc.hungUp] at h
        · rename_i hpos
          split at h
          · rename_i hn
            have hc' := Option.some.inj h
            have hrank := rank_proceed (c := { c with
              incoming := c.incoming.drop n, text := c.text ++ c.incoming.take n })
              (run RequestProgress.take (.reading reading) (c.incoming.take n)).1
            have hlength := length_proceed (c := { c with
              incoming := c.incoming.drop n, text := c.text ++ c.incoming.take n })
              (run RequestProgress.take (.reading reading) (c.incoming.take n)).1
            rw [hc'] at hrank hlength
            have hplace' : rank c.place = 0 := by rw [hplace]; rfl
            simp only [work, hlength.1, hlength.2, List.length_drop, hplace']
            omega
          · cases h
      | fault => exact absurd hok id
      | ok => cases h
      | descriptor fd => cases h
    | callback request =>
      simp only [hplace] at h
      obtain rfl := Option.some.inj h
      simp [work, hplace, rank]
    | respond request =>
      simp only [hplace] at h
      cases result with
      | ok =>
        obtain rfl := Option.some.inj h
        have hplace' : rank c.place = 2 := by rw [hplace]; rfl
        have hnext : rank (if request.close then .ended else .select) ≤ 1 := by
          split <;> simp [rank]
        simp only [work, hplace']
        omega
      | fault => exact absurd hok id
      | amount n => cases h
      | descriptor fd => cases h
    | ended => simp [hplace] at h
    | terminated exception => simp [hplace] at h

theorem finishRequestLine_wanted {line : Bytes} (h : finishRequestLine line = .reading reading) :
    0 < reading.wanted := by
  unfold finishRequestLine at h
  split at h
  · cases h
  · obtain rfl := RequestProgress.reading.inj h
    exact Nat.one_pos

theorem endRequestHeaders_wanted {request : ReceivedRequest}
    (h : endRequestHeaders request = .reading reading) : 0 < reading.wanted := by
  unfold endRequestHeaders at h
  split at h
  · cases h
  · dsimp only at h
    split at h
    · cases h
    · split at h
      · cases h
      · obtain rfl := RequestProgress.reading.inj h
        simp only [RequestReading.wanted]
        omega

theorem finishRequestHeader_wanted {request : ReceivedRequest} {line : Bytes}
    (h : finishRequestHeader request line = .reading reading) : 0 < reading.wanted := by
  unfold finishRequestHeader at h
  split at h
  · obtain rfl := RequestProgress.reading.inj h
    exact Nat.one_pos
  · split at h
    · exact endRequestHeaders_wanted h
    · split at h
      · cases h
      · obtain rfl := RequestProgress.reading.inj h
        exact Nat.one_pos
      · obtain rfl := RequestProgress.reading.inj h
        exact Nat.one_pos

/-- A handler that reads on asks for at least one byte. -/
theorem push_wanted {reading' : RequestReading} {b : UInt8}
    (h : reading.push b = .reading reading') : 0 < reading'.wanted := by
  cases reading with
  | requestLine line =>
    simp only [RequestReading.push] at h
    split at h
    · exact finishRequestLine_wanted h
    · obtain rfl := RequestProgress.reading.inj h
      exact Nat.one_pos
  | header request line =>
    simp only [RequestReading.push] at h
    split at h
    · exact finishRequestHeader_wanted h
    · obtain rfl := RequestProgress.reading.inj h
      exact Nat.one_pos
  | content request bufSize buf =>
    simp only [RequestReading.push] at h
    split at h
    · cases h
    · obtain rfl := RequestProgress.reading.inj h
      simp only [RequestReading.wanted]
      omega

theorem run_wanted_pos {progress : RequestProgress} {text rest : Bytes}
    (hstart : ∀ r, progress = .reading r → 0 < r.wanted)
    (h : run RequestProgress.take progress text = (.reading reading, rest)) : 0 < reading.wanted := by
  induction text generalizing progress with
  | nil => exact hstart reading (Prod.mk.inj h).1
  | cons b text ih =>
    cases progress with
    | reading r =>
      rw [run_cons rfl] at h
      exact ih (fun _ => push_wanted) h
    | _ =>
      rw [run_of_stopped rfl] at h
      cases h

theorem all_parsed (hhost : PlainHost hostname) (hsend : ∀ request ∈ requests, request.Sendable)
    (hc : InStep hostname requests c) (hfinished : c.Finished) :
    c.parsed = requests.map (entry hostname) := by
  have hpending : c.pending = [] := by
    by_contra hne
    have hlength : 1 ≤ c.pending.length := List.length_pos_iff.mpr hne
    have harrive := hfinished (.arrive 1) trivial (by rintro ⟨_, hl⟩; cases hl)
    simp [step, hlength] at harrive
  obtain ⟨hstop, hhungUp, done, todo, hrequests, hparsed, hreads⟩ := hc
  cases hplace : c.place with
  | select =>
    have hincoming : c.incoming = [] := by
      by_contra hne
      have hselect := hfinished (.clientHandler .ok) trivial (by rintro ⟨_, hl⟩; cases hl)
      simp [step, clientHandler, hplace, hstop, select, hne] at hselect
    rw [hplace] at hreads
    have hunread : c.unread = todo.flatMap (·.data hostname) := hreads
    have hnil : todo.flatMap (·.data hostname) = [] := by
      rw [← hunread, unread, hincoming, hpending]
      rfl
    cases todo with
    | nil => rw [hparsed, hrequests, List.append_nil]
    | cons request rest =>
      rw [List.flatMap_cons] at hnil
      exact absurd (List.append_eq_nil_iff.mp hnil).1 (request.data_ne_nil hostname)
  | reading reading =>
    rw [hplace] at hreads
    obtain ⟨request, rest, rfl, hunread, htext⟩ := hreads
    exfalso
    have hwanted : 0 < reading.wanted := by
      apply run_wanted_pos _ htext
      intro r hr
      obtain rfl := RequestProgress.reading.inj hr
      exact Nat.one_pos
    have hincoming : c.incoming = [] := by
      by_contra hne
      have hlength : 1 ≤ c.incoming.length := List.length_pos_iff.mpr hne
      have hrecv := hfinished (.clientHandler (.amount 1)) trivial
        (by rintro ⟨hselect, _⟩; rw [hplace] at hselect; cases hselect)
      simp [step, clientHandler, hplace, recv, hlength] at hrecv
      omega
    have hwhole := run_data hhost (hsend request (by rw [hrequests]; simp))
    rw [unread, hincoming, hpending, List.append_nil, List.append_nil] at hunread
    rw [hunread, run_append (by rw [hwhole]), hwhole, run_of_stopped rfl] at htext
    cases htext
  | callback request =>
    have hstep := hfinished (.clientHandler .ok) trivial (by rintro ⟨_, hl⟩; cases hl)
    simp [step, clientHandler, hplace] at hstep
  | respond request =>
    have hstep := hfinished (.clientHandler .ok) trivial (by rintro ⟨_, hl⟩; cases hl)
    simp [step, clientHandler, hplace, respond] at hstep
  | ended =>
    rw [hplace] at hreads
    exact absurd hreads id
  | terminated exception =>
    rw [hplace] at hreads
    exact absurd hreads id

theorem delivers_of_run (hhost : PlainHost hostname) (hsend : ∀ request ∈ requests, request.Sendable)
    (hrun : Run step undisturbed (start hostname requests) c) : c.Delivers hostname requests := by
  have hc : InStep hostname requests c :=
    hrun.invariant (fun _ _ _ ha hok hs => inStep_step hhost hsend ha hok hs) inStep_start
  constructor
  · obtain ⟨_, _, done, todo, hrequests, hparsed, _⟩ := hc
    refine ⟨done.length, ?_⟩
    rw [hrequests, List.take_left, hparsed]
  · exact all_parsed hhost hsend hc
  · intro l c' hok htime h
    exact work_lt hc hok htime h

/-- The name under which the constructor has found an address is fit for a header. -/
theorem plainHost_mHostname {hostToIPAddr : Bytes → Option IPAddress} {host : Bytes}
    (h : (hostToIPAddr host).isSome) : PlainHost (mHostname hostToIPAddr host) := by
  obtain ⟨address, haddress⟩ := Option.isSome_iff_exists.mp h
  have hname : mHostname hostToIPAddr host = dotDecimals address := by simp [mHostname, haddress]
  rw [hname]
  constructor
  · intro hnewline
    exact absurd (mem_dotDecimals hnewline) (by decide)
  · obtain ⟨b, s, hb⟩ := List.exists_cons_of_ne_nil (dotDecimals_ne_nil address)
    have hmem : b ∈ dotDecimals address := hb ▸ List.mem_cons_self
    have hlow := mem_dotDecimals hmem
    exact ⟨b, hmem, not_blank_of_le (by omega)⟩

end Steps

/-! ### Two requests -/

def plainRequest (headers : Headers) (content : Bytes) : Request where
  method := bytes "POST"
  path := bytes "/"
  headers := headers
  content := content

/-- A request with a header and a body, and one with neither. -/
def twoRequests : List Request :=
  [plainRequest [(bytes "Content-Type", bytes "application/json")] (bytes "[]"), plainRequest [] []]

theorem plainRequest_sendable : (plainRequest [] []).Sendable where
  method := rfl
  path_cr := by decide +kernel
  path_lf := by decide +kernel
  sorted := List.Pairwise.nil
  headers := nofun
  close := nofun
  content := by decide

theorem twoRequests_sendable : ∀ request ∈ twoRequests, request.Sendable := by
  intro request hrequest
  rcases List.mem_cons.mp hrequest with rfl | hrest
  · refine ⟨rfl, by decide +kernel, by decide +kernel, List.pairwise_singleton .., ?_,
      by decide +kernel, by decide +kernel⟩
    intro entry hentry
    obtain rfl := List.mem_singleton.mp hentry
    constructor <;> decide +kernel
  · obtain rfl := List.mem_singleton.mp hrest
    exact plainRequest_sendable

/-- The address of this very host. -/
def loopback (_ : Bytes) : Option IPAddress := some (127, 0, 0, 1)

end NotificationConnection

end PeakAnalyser

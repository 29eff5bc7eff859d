import PeakAnalyser.HTTPCalls
import PeakAnalyser.MessageHeaders

/-!
# What a call over HTTP returns

A response as a server writes it is read back as its body, whether a length, chunks or the end of
the connection delimit it and however `recv` cuts it. So a server that answers each request in
this way makes every call return the answer to its own request, or report the network.
-/

namespace PeakAnalyser

set_option autoImplicit false

open Runs

/-! ### Responses as a server writes them -/

/-- The status line of a success; `reason` includes the blank before it. -/
def okStatus (reason : Bytes) : Bytes := bytes "HTTP/1.1 200" ++ (reason ++ EOL)

/-- What comes behind the headers so that the body is read as `body`. -/
inductive Carries (memory : Nat) (fields : List HeaderField) : Bytes → Bytes → Prop where
  | length {body : Bytes} (hlength : spelledValue fields "Content-Length" =
      some (bytes (toString body.length)))
      (hcoding : spelledValue fields "Transfer-Encoding" ≠ some (bytes "chunked"))
      (hrange : body.length < 0x80000000) (hmemory : body.length ≤ memory) :
      Carries memory fields body body
  | chunked {chunks : List (Bytes × Bytes)} {last : Bytes}
      (hcoding : spelledValue fields "Transfer-Encoding" = some (bytes "chunked"))
      (hlength : spelledValue fields "Content-Length" = none)
      (hchunks : Sized ChunkSize chunks last)
      (hmemory : ∀ chunk ∈ chunks, chunk.2.length ≤ memory ∧ chunk.2.length < 0x100000000) :
      Carries memory fields (chunks.flatMap Prod.snd) (bodyText chunks last)
  | untilClose {body : Bytes}
      (hcoding : spelledValue fields "Transfer-Encoding" ≠ some (bytes "chunked"))
      (hlength : spelledValue fields "Content-Length" = none) : Carries memory fields body body

/-- A whole response with this body. -/
def Serves (memory : Nat) (text body : Bytes) : Prop :=
  ∃ reason fields s, newline ∉ reason ∧ (∀ b ∈ reason.head?, isDigit 10 b = false) ∧
    (∀ f ∈ fields, f.Plain ∧ f.blank = false) ∧ Carries memory fields body s ∧
    text = messageText (okStatus reason) fields s

section Serving

variable {memory : Nat} {fields : List HeaderField} {body s reason : Bytes}

theorem okStatus_line (h : newline ∉ reason) : Line (okStatus reason) := by
  refine ⟨bytes "HTTP/1.1 200" ++ (reason ++ [13]), ?_, ?_⟩
  · have hversion : newline ∉ bytes "HTTP/1.1 200" := by decide +kernel
    simp only [List.mem_append, List.mem_singleton, not_or]
    exact ⟨hversion, h, by decide⟩
  · simp [okStatus, eol_eq]

/-- `sscanf` finds the code behind the version. -/
theorem overrunsVersion_okStatus : ¬ overrunsVersion (okStatus reason) = true := by
  have hbytes : bytes "HTTP/1.1 200" = [72, 84, 84, 80, 47, 49, 46, 49] ++ 32 :: [50, 48, 48] := by
    decide +kernel
  have hword : scanWord (okStatus reason) = [72, 84, 84, 80, 47, 49, 46, 49] := by
    simp [scanWord, okStatus, hbytes, isSpace]
  rw [overrunsVersion, hword]
  decide

theorem scanCode_okStatus (h : ∀ b ∈ reason.head?, isDigit 10 b = false) :
    scanCode (okStatus reason) = 200 := by
  have hbytes : bytes "HTTP/1.1 200" = [72, 84, 84, 80, 47, 49, 46, 49, 32, 50, 48, 48] := by
    decide +kernel
  obtain ⟨tail, htail, hdigit⟩ : ∃ tail, (okStatus reason).takeWhile (· ≠ 0) =
      [72, 84, 84, 80, 47, 49, 46, 49, 32, 50, 48, 48] ++ tail ∧
        ∀ b ∈ tail.head?, isDigit 10 b = false := by
    refine ⟨(reason ++ EOL).takeWhile (· ≠ 0), ?_, ?_⟩
    · rw [okStatus, hbytes, List.takeWhile_append_of_pos (by decide +kernel)]
    · cases reason with
      | nil => simp [eol_eq, isDigit, digitValue]
      | cons b reason =>
        have hb := h b rfl
        rw [List.cons_append, List.takeWhile_cons]
        split
        · simpa using hb
        · simp
  have hnumber : leadingNumber 10 ([50, 48, 48] ++ tail) = some 200 := by
    have htake : ([50, 48, 48] ++ tail).takeWhile (isDigit 10) = [50, 48, 48] := by
      rw [List.takeWhile_append_of_pos (by decide +kernel)]
      cases tail with
      | nil => rfl
      | cons b tail => simp [hdigit b rfl]
    unfold leadingNumber
    rw [htake]
    decide
  have hstrtol : strtol (32 :: 50 :: 48 :: 48 :: tail) = some 200 := by
    have hdrop : (32 :: 50 :: 48 :: 48 :: tail : Bytes).dropWhile isSpace = 50 :: 48 :: 48 :: tail := by
      simp [isSpace]
    have hsign : takeSign (50 :: 48 :: 48 :: tail) = (false, [50, 48, 48] ++ tail) := rfl
    unfold strtol
    rw [hdrop, hsign]
    simp only [hnumber]
    rfl
  have hafter : (([72, 84, 84, 80, 47, 49, 46, 49, 32, 50, 48, 48] ++ tail : Bytes).dropWhile
      isSpace).dropWhile (fun b => !isSpace b) = 32 :: 50 :: 48 :: 48 :: tail := by
    simp [isSpace]
  unfold scanCode
  rw [htail]
  simp only [hafter, hstrtol]
  decide

theorem readContent_length {response : Response} (hchunked : response.chunked = false)
    (hlength : response.headers.lookup (bytes "Content-Length") ≠ none)
    (hcontent : response.content = []) (hbody : response.contentLength = body.length)
    (hmemory : body.length ≤ memory) :
    ∃ done : Response, (readContent memory response).run memory body = (.done done, []) ∧
      done.code = response.code ∧ done.content = body := by
  have hsome : (response.headers.lookup (bytes "Content-Length")).isNone = false := by
    cases hlookup : response.headers.lookup (bytes "Content-Length") with
    | none => exact absurd hlookup hlength
    | some value => rfl
  by_cases hzero : body.length = 0
  · obtain rfl := List.length_eq_zero_iff.mp hzero
    refine ⟨response, ?_, rfl, hcontent⟩
    simp [readContent, hchunked, hsome, hbody, Progress.run]
  · have hne : body ≠ [] := fun hnil => hzero (by rw [hnil]; rfl)
    have hread : readContent memory response =
        .next (.fixed (.content response) body.length []) := by
      simp [readContent, hchunked, hsome, hbody, hne, Nat.not_lt.mpr hmemory]
    have hblock : (Progress.more (.fixed (.content response) body.length [])).run memory
        (body ++ []) = ((BlockKind.content response).finish ([] ++ body)).run memory [] :=
      Progress.run_block [] hne []
    rw [List.append_nil] at hblock
    rw [hread, Progress.run_eq rfl hne, hblock]
    exact ⟨_, rfl, rfl, by simp [hcontent]⟩

theorem readContent_chunked {response : Response} {chunks : List (Bytes × Bytes)} {last : Bytes}
    (hchunked : response.chunked = true) (hcontent : response.content = [])
    (hchunks : Sized (ReadAsSize memory) chunks last) :
    ∃ done : Response, (readContent memory response).run memory (bodyText chunks last) =
      (.done done, []) ∧ done.code = response.code ∧ done.content = chunks.flatMap Prod.snd := by
  have hne : bodyText chunks last ≠ [] := by simp [bodyText, eol_eq]
  have hread : readContent memory response = .next (.line (.chunkSize response) []) := by
    simp [readContent, hchunked]
  have hbody : (Progress.more (.line (.chunkSize response) [])).run memory
      (bodyText chunks last ++ []) =
        (.done { response with content := response.content ++ chunks.flatMap Prod.snd }, []) :=
    run_body hchunks []
  rw [List.append_nil] at hbody
  rw [hread, Progress.run_eq rfl hne, hbody]
  exact ⟨_, rfl, rfl, by simp [hcontent]⟩

theorem run_indefinite (response : Response) (body : Bytes) :
    (Progress.next (.indefinite response)).run memory body = (.next (.indefinite response), []) ∧
      body = [] ∨
    (Progress.next (.indefinite response)).run memory body =
      (.more (.indefinite { response with content := response.content ++ body }), []) := by
  have hmore : ∀ (response : Response) (body : Bytes),
      (Progress.more (.indefinite response)).run memory body =
        (.more (.indefinite { response with content := response.content ++ body }), []) := by
    intro response body
    induction body generalizing response with
    | nil => simp [Progress.run]
    | cons b body ih =>
      rw [Progress.run_cons rfl, Reading.push, ih]
      simp
  cases body with
  | nil => exact .inl ⟨rfl, rfl⟩
  | cons b body =>
    right
    rw [Progress.run_eq rfl (List.cons_ne_nil b body)]
    exact hmore response (b :: body)

/-- Without a length the body ends with the connection. -/
theorem readContent_untilClose {response : Response} (hchunked : response.chunked = false)
    (hlength : response.headers.lookup (bytes "Content-Length") = none)
    (hcontent : response.content = []) (body : Bytes) :
    ((readContent memory response).run memory body).2 = [] ∧
    ∃ reading, ((readContent memory response).run memory body).1.reading? =
      some (.indefinite reading) ∧ reading.code = response.code ∧ reading.content = body := by
  have hread : readContent memory response = .next (.indefinite response) := by
    simp [readContent, hchunked, hlength]
  rw [hread]
  rcases run_indefinite response body with ⟨hrun, rfl⟩ | hrun
  · rw [hrun]
    exact ⟨rfl, response, rfl, rfl, hcontent⟩
  · rw [hrun]
    exact ⟨rfl, _, rfl, rfl, by simp [hcontent]⟩

/-- Where the parser stands once it has taken a response with this body: at its end, or with
nothing to wait for but the end of the connection. -/
def Took (progress : Progress) (code : Int) (body : Bytes) : Prop :=
  (∃ done : Response, progress = .done done ∧ done.code = code ∧ done.content = body) ∨
    ∃ reading, progress.reading? = some (.indefinite reading) ∧ reading.code = code ∧
      reading.content = body

/-- The members that lines 265 to 268 fill in, for a length that `std::stoi` has read. -/
def Response.delimited (response : Response) (length : Nat) : Response :=
  { response with
    contentLength := length
    reconnect := getHeaderValue response.headers (bytes "Connection") [] = bytes "close"
    chunked := getHeaderValue response.headers (bytes "Transfer-Encoding") [] = bytes "chunked" }

theorem endHeaders_delimited {response : Response} {length : Nat} (hrange : length < 0x80000000)
    (h : stoi (getHeaderValue response.headers (bytes "Content-Length") (bytes "0")) =
      .ok (length : Int)) :
    endHeaders memory response = readContent memory (response.delimited length) := by
  have hint : ((length : Int) % 0x10000000000000000).toNat = length := by omega
  simp only [endHeaders, h, hint]
  rfl

/-- The framing headers lead to the body. -/
theorem endHeaders_carries {response : Response} (h : Carries memory fields body s)
    (hheaders : ∀ key, response.headers.lookup (bytes key) = spelledValue fields key)
    (hcontent : response.content = []) :
    ((endHeaders memory response).run memory s).2 = [] ∧
      Took ((endHeaders memory response).run memory s).1 response.code body := by
  have hvalue : getHeaderValue response.headers (bytes "Content-Length") (bytes "0") =
      (spelledValue fields "Content-Length").getD (bytes "0") := by
    rw [getHeaderValue, hheaders]
  have hchunked : ∀ length, (response.delimited length).chunked = true ↔
      spelledValue fields "Transfer-Encoding" = some (bytes "chunked") := by
    intro length
    rw [← hheaders, ← getHeaderValue_eq_iff chunked_ne_nil]
    exact decide_eq_true_iff
  cases h with
  | length hlength hcoding hrange hmemory =>
    have hread : endHeaders memory response =
        readContent memory (response.delimited body.length) := by
      refine endHeaders_delimited hrange ?_
      rw [hvalue, hlength, Option.getD_some, stoi_toString hrange]
    obtain ⟨done, hrun, hcode, hdone⟩ : ∃ done : Response,
        (readContent memory (response.delimited body.length)).run memory body = (.done done, []) ∧
          done.code = response.code ∧ done.content = body := by
      refine readContent_length ?_ ?_ hcontent rfl hmemory
      · exact Bool.eq_false_iff.mpr (mt (hchunked _).mp hcoding)
      · change response.headers.lookup (bytes "Content-Length") ≠ none
        rw [hheaders, hlength]
        exact Option.some_ne_none _
    rw [hread, hrun]
    exact ⟨rfl, .inl ⟨done, rfl, hcode, hdone⟩⟩
  | @chunked chunks last hcoding hlength hchunks hmemory =>
    have hread : endHeaders memory response = readContent memory (response.delimited 0) := by
      refine endHeaders_delimited (by decide) ?_
      rw [hvalue, hlength, Option.getD_none, stoi_zero]
      rfl
    have hsized : Sized (ReadAsSize memory) chunks last := by
      refine ⟨fun chunk hchunk => ?_, hchunks.last.readAsSize (Nat.zero_le _) (by decide)⟩
      obtain ⟨hne, hsize⟩ := hchunks.chunk chunk hchunk
      obtain ⟨hle, hlt⟩ := hmemory chunk hchunk
      exact ⟨hne, hsize.readAsSize hle hlt⟩
    obtain ⟨done, hrun, hcode, hdone⟩ : ∃ done : Response,
        (readContent memory (response.delimited 0)).run memory (bodyText chunks last) =
          (.done done, []) ∧ done.code = response.code ∧ done.content = chunks.flatMap Prod.snd :=
      readContent_chunked ((hchunked 0).mpr hcoding) hcontent hsized
    rw [hread, hrun]
    exact ⟨rfl, .inl ⟨done, rfl, hcode, hdone⟩⟩
  | untilClose hcoding hlength =>
    have hread : endHeaders memory response = readContent memory (response.delimited 0) := by
      refine endHeaders_delimited (by decide) ?_
      rw [hvalue, hlength, Option.getD_none, stoi_zero]
      rfl
    obtain ⟨hrest, reading, hreading, hcode, hbody⟩ :
        ((readContent memory (response.delimited 0)).run memory body).2 = [] ∧
        ∃ reading, ((readContent memory (response.delimited 0)).run memory body).1.reading? =
          some (.indefinite reading) ∧ reading.code = response.code ∧ reading.content = body := by
      have hempty : (response.delimited 0).content = [] := hcontent
      refine readContent_untilClose ?_ ?_ hempty body
      · exact Bool.eq_false_iff.mpr (mt (hchunked _).mp hcoding)
      · change response.headers.lookup (bytes "Content-Length") = none
        rw [hheaders, hlength]
    rw [hread]
    exact ⟨hrest, .inr ⟨reading, hreading, hcode, hbody⟩⟩

/-- A response as a server writes it is taken as a whole, with its code and its body. -/
theorem run_serves {text : Bytes} (h : Serves memory text body) :
    (responseStart.run memory text).2 = [] ∧ Took (responseStart.run memory text).1 200 body := by
  obtain ⟨reason, fields, s, hreason, hdigit, hfields, hcarries, rfl⟩ := h
  have hblank : ¬ fields.any HeaderField.blank = true := by
    simp only [List.any_eq_true, not_exists, not_and]
    intro f hf
    rw [(hfields f hf).2]
    exact Bool.false_ne_true
  rw [run_message (fun f hf => (hfields f hf).1) (okStatus_line hreason)
    overrunsVersion_okStatus, if_neg hblank, ← scanCode_okStatus hdigit]
  let response : Response := afterHeaders (okStatus reason) fields
  have hheaders : ∀ key, response.headers.lookup (bytes key) = spelledValue fields key :=
    lookup_entries fields
  exact endHeaders_carries hcarries hheaders rfl

theorem Took.afterEnd {progress : Progress} {code : Int} (h : Took progress code body) (n : Nat) :
    Took (progress.afterEnd memory n) code body := by
  rcases h with ⟨done, rfl, hcode, hcontent⟩ | ⟨reading, hreading, hcode, hcontent⟩
  · rw [Progress.afterEnd_of_stopped rfl]
    exact .inl ⟨done, rfl, hcode, hcontent⟩
  · induction n with
    | zero => exact .inr ⟨reading, hreading, hcode, hcontent⟩
    | succ n ih =>
      cases hnext : (progress.afterEnd memory n).reading? with
      | none => simpa [Progress.afterEnd, hnext] using ih
      | some next =>
        rw [Progress.afterEnd_succ hnext]
        rcases ih with ⟨done, hdone, _⟩ | ⟨reading', hreading', hcode', hcontent'⟩
        · rw [hdone] at hnext
          cases hnext
        · obtain rfl := Option.some.inj (hnext.symm.trans hreading')
          exact .inl ⟨reading', rfl, hcode', hcontent'⟩

/-- However the connection ends, nothing else is decoded of it. -/
theorem decodes_serves {text : Bytes} {response : Response} (h : Serves memory text body)
    (hdecodes : Decodes memory text response) : response.code = 200 ∧ response.content = body := by
  obtain ⟨_, n, hn⟩ := hdecodes
  have htook : Took ((responseStart.run memory text).1.afterEnd memory n) 200 body :=
    (run_serves h).2.afterEnd n
  rw [hn] at htook
  rcases htook with ⟨done, hdone, hcode, hcontent⟩ | ⟨reading, hreading, _⟩
  · obtain rfl := Progress.done.inj hdone
    exact ⟨hcode, hcontent⟩
  · cases hreading

end Serving

/-! ### What the calls of a run return -/

variable {Json Tid : Type}

/-- What `call` makes of the answer to its request. -/
def JsonRPCRequest.Returns (json : JsonLibrary Json) (request : JsonRPCRequest Json)
    (answer : JsonRPCReply Json) (outcome : Except (JsonRPCException ⊕ StdException) Json) : Prop :=
  (∀ error, answer.error = some error → outcome = .error (.inl
    { code := .jsonrpcError, message := request.method ++ " error: " ++ json.dump error })) ∧
  ∀ value, answer.error = none → answer.result = some value → outcome = .ok value

namespace HTTPClient

variable {json : JsonLibrary Json} {config : HTTPConfig} {c c' : HTTPClient Json Tid}
  {answer : JsonRPCRequest Json → JsonRPCReply Json} {request : JsonRPCRequest Json}
  {k : Connection Json} {s : Fin maxSockets} {t : Tid}

/-- The text is a response with the answer to the request. -/
def Answers (json : JsonLibrary Json) (config : HTTPConfig)
    (answer : JsonRPCRequest Json → JsonRPCReply Json) (request : JsonRPCRequest Json)
    (text : Bytes) : Prop :=
  ∃ body, Serves config.memory text body ∧ json.parse body = some (answer request)

/-- The server answers the request that it has received; a mutex is locked only when no other
request works on the socket any more. -/
def answersAll (json : JsonLibrary Json) (config : HTTPConfig)
    (answer : JsonRPCRequest Json → JsonRPCReply Json) (c : HTTPClient Json Tid)
    (l : HTTPLabel Json Tid) : Prop :=
  locksFree c l ∧
  match l with
  | .respond fd text => ∀ k request b, c.connection fd = some k →
      k.outgoing.head? = some (request, b) → Answers json config answer request text
  | _ => True

/-- Everything that the server has responded is an answer. -/
def Served (json : JsonLibrary Json) (config : HTTPConfig)
    (answer : JsonRPCRequest Json → JsonRPCReply Json) (c : HTTPClient Json Tid) : Prop :=
  ∀ request text, (request, text) ∈ c.responses → Answers json config answer request text

/-- A call that has returned has the answer to its request, or reports the network. -/
def Answered (json : JsonLibrary Json) (answer : JsonRPCRequest Json → JsonRPCReply Json)
    (c : HTTPClient Json Tid) : Prop :=
  ∀ request outcome, (request, outcome) ∈ c.finished →
    outcome = request.networkException json ∨ request.Returns json (answer request) outcome

theorem returns_of_received (hserved : c.Served json config answer) {response : Response}
    (hreceived : c.Received config request response) :
    request.Returns json (answer request) (request.outcome json response) := by
  obtain ⟨text, hmem, hdecodes⟩ := hreceived
  obtain ⟨body, hserves, hparse⟩ := hserved request text hmem
  obtain ⟨hcode, hcontent⟩ := decodes_serves hserves hdecodes
  unfold JsonRPCRequest.outcome
  rw [if_neg (by simp [hcode]), hcontent, hparse]
  constructor
  · intro error herror
    simp [herror]
  · intro value herror hresult
    simp [herror, hresult]

/-- An answer makes nothing throw, however the connection ends. -/
theorem not_thrown_of_answers {text : Bytes} {exception : StdException}
    (hanswers : Answers json config answer request text)
    (hfollows : Follows config.memory text k (.thrown exception)) : False := by
  obtain ⟨body, hserves, _⟩ := hanswers
  have htook := (run_serves hserves).2
  have hnot : ∀ {code : Int}, ¬ Took (.thrown exception) code body := by
    rintro code (⟨done, hdone, _⟩ | ⟨reading, hreading, _⟩)
    · cases hdone
    · cases hreading
  rcases hfollows with hrun | ⟨_, _, _, n, hn⟩
  · rw [hrun, Progress.run_of_stopped rfl] at htook
    exact hnot htook
  · have hafter : Took ((responseStart.run config.memory text).1.afterEnd config.memory n) 200 body :=
      htook.afterEnd n
    rw [hn] at hafter
    exact hnot hafter

section Steps

/-- What a step of a thread adds to the calls that have returned; it adds no response. -/
inductive Finishes (json : JsonLibrary Json) (config : HTTPConfig) (c c' : HTTPClient Json Tid) :
    Prop where
  | nothing (h : c'.finished = c.finished) (hresponses : c'.responses = c.responses)
  | network (request : JsonRPCRequest Json)
      (h : c'.finished = c.finished ++ [(request, request.networkException json)])
      (hresponses : c'.responses = c.responses)
  | received (request : JsonRPCRequest Json) (response : Response)
      (hreceived : c.Received config request response)
      (h : c'.finished = c.finished ++ [(request, request.outcome json response)])
      (hresponses : c'.responses = c.responses)

theorem answered_append {outcome : Except (JsonRPCException ⊕ StdException) Json}
    (hanswered : c.Answered json answer)
    (h : c'.finished = c.finished ++ [(request, outcome)])
    (hnew : outcome = request.networkException json ∨
      request.Returns json (answer request) outcome) : c'.Answered json answer := by
  intro r o hmem
  rw [h] at hmem
  rcases List.mem_append.mp hmem with hold | hadded
  · exact hanswered r o hold
  · obtain ⟨rfl, rfl⟩ := Prod.mk.inj (List.mem_singleton.mp hadded)
    exact hnew

theorem answered_finishes (hserved : c.Served json config answer) (hanswered : c.Answered json answer)
    (h : Finishes json config c c') : c'.Served json config answer ∧ c'.Answered json answer := by
  unfold Served
  cases h with
  | nothing h hresponses =>
    rw [hresponses]
    unfold Answered
    rw [h]
    exact ⟨hserved, hanswered⟩
  | network request h hresponses =>
    rw [hresponses]
    exact ⟨hserved, answered_append hanswered h (.inl rfl)⟩
  | received request response hreceived h hresponses =>
    rw [hresponses]
    exact ⟨hserved, answered_append hanswered h (.inr (returns_of_received hserved hreceived))⟩

variable [DecidableEq Tid]

theorem finishes_proceed {c₁ : HTTPClient Json Tid} {w : Errand Json} {fd : Option Nat}
    {progress : Progress} (hfinished : c₁.finished = c.finished)
    (hresponses : c₁.responses = c.responses)
    (hdone : ∀ response, progress = .done response → c.Received config w.request response)
    (hthrown : ∀ exception, progress ≠ .thrown exception) :
    Finishes json config c (c₁.proceed json t w fd progress) := by
  unfold proceed
  cases progress with
  | done response =>
    dsimp only
    split
    · exact .nothing hfinished hresponses
    · refine .received w.request response (hdone response rfl) ?_ hresponses
      rw [← hfinished]
      rfl
  | thrown exception => exact absurd rfl (hthrown exception)
  | more reading | next reading | retry | failed | overrun => exact .nothing hfinished hresponses

theorem finishes_close {w : Errand Json} {exit : Exit} (hc : c.Orderly json config)
    (hplace : c.thread t = .close w exit) : Finishes json config c (c.close json t w exit) := by
  have hstage := hc.stage t
  rw [hplace] at hstage
  obtain ⟨_, _, hresponses, hdestroyed⟩ := destroy_frame c w.socket
  cases exit with
  | reconnect =>
    unfold close
    dsimp only
    split
    · exact .nothing hdestroyed hresponses
    · refine .network w.request ?_ hresponses
      rw [← hdestroyed]
      rfl
  | fail =>
    refine .network w.request ?_ hresponses
    rw [← hdestroyed]
    rfl
  | success response =>
    refine .received w.request response (hstage.2.2 response rfl) ?_ hresponses
    rw [← hdestroyed]
    rfl

theorem finishes_recv {w : Errand Json} {fd : Option Nat} {reading : Reading} {result : SysResult}
    (hc : c.Orderly json config) (hserved : c.Served json config answer)
    (hplace : c.thread t = .recv w fd reading)
    (h : c.recv json config t w fd reading result = some c') : Finishes json config c c' := by
  have hstage := hc.stage t
  rw [hplace] at hstage
  obtain ⟨hopen, rfl, k, progress, ⟨f, hf, hk⟩, hreading, hexchange⟩ := hstage
  cases result with
  | ok | descriptor _ => cases h
  | fault =>
    obtain rfl := Option.some.inj h
    refine finishes_proceed rfl rfl ?_ ?_ <;>
      cases reading with
      | line kind start => cases kind <;> simp [Reading.fault, LineKind.fault]
      | fixed kind bufSize buf | indefinite response => simp [Reading.fault]
  | amount n =>
    rw [hf] at h
    rcases recv_amount_cases hk h with
      ⟨-, hincoming, hhungUp, rfl⟩ | ⟨hn, hwanted, hlength, rfl⟩
    · rcases hexchange with ⟨_, rfl⟩ | ⟨_, text, hmem, hframed, hfollows⟩
      · -- no byte of the response has come
        obtain rfl := Option.some.inj hreading
        refine finishes_proceed rfl rfl ?_ ?_ <;> simp [Reading.atEnd, LineKind.fault]
      · have hends := hfollows.atEnd hreading hincoming hhungUp
        refine finishes_proceed rfl rfl ?_ ?_
        · intro response hdone
          rw [hdone] at hends
          exact ⟨text, hmem, (hends.done hframed).2⟩
        · intro exception hthrown
          rw [hthrown] at hends
          exact not_thrown_of_answers (hserved _ _ hmem) hends
    · rcases hexchange with ⟨⟨hincoming, _⟩, _⟩ | ⟨_, text, hmem, hframed, hfollows⟩
      · rw [hincoming] at hlength
        exact absurd (Nat.le_zero.mp hlength) hn
      · have hreceived := hfollows.receive hreading hn hwanted hlength
        refine finishes_proceed rfl rfl ?_ ?_
        · intro response hdone
          rw [hdone] at hreceived
          exact ⟨text, hmem, (hreceived.done hframed).2⟩
        · intro exception hthrown
          rw [hthrown] at hreceived
          exact not_thrown_of_answers (hserved _ _ hmem) hreceived

theorem finishes_doRequest {result : SysResult} (hc : c.Orderly json config)
    (hserved : c.Served json config answer) (h : c.doRequest json config t result = some c') :
    Finishes json config c c' := by
  unfold doRequest at h
  cases hplace : c.thread t with
  | outside =>
    simp only [hplace] at h
    cases h
  | select request i =>
    simp only [hplace] at h
    unfold select at h
    cases result with
    | ok =>
      dsimp only at h
      split at h
      · split at h
        · obtain rfl := Option.some.inj h
          exact .nothing rfl rfl
        · obtain rfl := Option.some.inj h
          exact .nothing rfl rfl
      · obtain rfl := Option.some.inj h
        exact .network request rfl rfl
    | fault =>
      dsimp only at h
      split at h
      · obtain rfl := Option.some.inj h
        exact .nothing rfl rfl
      · cases h
    | amount _ | descriptor _ => cases h
  | guard w =>
    simp only [hplace] at h
    obtain rfl := Option.some.inj h
    exact .nothing rfl rfl
  | connect w =>
    simp only [hplace] at h
    unfold connect at h
    split at h
    · obtain rfl := Option.some.inj h
      exact .nothing rfl rfl
    · cases result with
      | descriptor fd =>
        dsimp only at h
        split at h
        · obtain rfl := Option.some.inj h
          exact .nothing rfl rfl
        · cases h
      | fault =>
        obtain rfl := Option.some.inj h
        exact .network w.request rfl rfl
      | ok | amount _ => cases h
  | connecting w =>
    simp only [hplace] at h
    cases result with
    | ok =>
      obtain rfl := Option.some.inj h
      exact .nothing rfl rfl
    | fault =>
      obtain rfl := Option.some.inj h
      obtain ⟨_, _, hresponses, hdestroyed⟩ := destroy_frame c w.socket
      refine .network w.request ?_ hresponses
      rw [← hdestroyed]
      rfl
    | descriptor _ | amount _ => cases h
  | write w =>
    simp only [hplace] at h
    obtain rfl := Option.some.inj h
    exact .nothing rfl rfl
  | send w fd remaining =>
    simp only [hplace] at h
    unfold send at h
    cases result with
    | fault =>
      obtain rfl := Option.some.inj h
      exact .nothing rfl rfl
    | amount n =>
      dsimp only at h
      split at h
      · cases h
      · split at h
        · cases h
        · split at h
          · obtain rfl := Option.some.inj h
            exact .nothing rfl rfl
          · cases h
    | ok | descriptor _ => cases h
  | poll w =>
    simp only [hplace] at h
    unfold poll at h
    cases result with
    | fault =>
      obtain rfl := Option.some.inj h
      exact .nothing rfl rfl
    | ok =>
      dsimp only at h
      split at h
      · cases h
      · split at h
        · cases h
        · split at h
          · obtain rfl := Option.some.inj h
            exact .nothing rfl rfl
          · cases h
    | amount _ | descriptor _ => cases h
  | read w reading =>
    simp only [hplace] at h
    obtain rfl := Option.some.inj h
    exact .nothing rfl rfl
  | recv w fd reading =>
    simp only [hplace] at h
    exact finishes_recv hc hserved hplace h
  | overrun w =>
    simp only [hplace] at h
    cases h
  | close w exit =>
    simp only [hplace] at h
    obtain rfl := Option.some.inj h
    exact finishes_close hc hplace

variable [DecidableEq Json]

theorem answered_step {l : HTTPLabel Json Tid} (hc : c.Orderly json config)
    (hserved : c.Served json config answer) (hanswered : c.Answered json answer)
    (hok : answersAll json config answer c l) (h : c.step json config l = some c') :
    c'.Served json config answer ∧ c'.Answered json answer := by
  cases l with
  | call t method params =>
    simp only [step, beginCall] at h
    split at h
    · obtain rfl := Option.some.inj h
      exact ⟨hserved, hanswered⟩
    · cases h
  | thread t result => exact answered_finishes hserved hanswered (finishes_doRequest hc hserved h)
  | hangUp fd =>
    obtain ⟨k, _, rfl⟩ := Option.map_eq_some_iff.mp h
    exact ⟨hserved, hanswered⟩
  | respond fd text =>
    simp only [step, respond] at h
    split at h
    · cases h
    · rename_i k hk
      split at h
      · cases h
      · rename_i request b hhead
        split at h
        · obtain rfl := Option.some.inj h
          refine ⟨?_, hanswered⟩
          intro r text' hmem
          rcases List.mem_append.mp hmem with hold | hadded
          · exact hserved r text' hold
          · obtain ⟨rfl, rfl⟩ := Prod.mk.inj (List.mem_singleton.mp hadded)
            exact hok.2 k r b hk hhead
        · cases h

/-- However many threads call, however the system calls cut, delay and fail their requests and
responses, and however the server delimits its responses: a call that returns has the result or
the error with which the server answered this very request, or reports the network. -/
theorem calls_answered (hrun : Run (step json config) (answersAll json config answer) {} c) :
    ∀ request outcome, (request, outcome) ∈ c.finished →
      outcome = request.networkException json ∨ request.Returns json (answer request) outcome := by
  have hall : c.Orderly json config ∧ c.Served json config answer ∧ c.Answered json answer := by
    refine hrun.invariant (P := fun c => c.Orderly json config ∧ c.Served json config answer ∧
      c.Answered json answer) ?_ ⟨orderly_initial, ?_, ?_⟩
    · intro a l b ha hok h
      exact ⟨orderly_step ha.1 hok.1 h, answered_step ha.1 ha.2.1 ha.2.2 hok h⟩
    · intro request text hmem
      cases hmem
    · intro request outcome hmem
      cases hmem
  exact hall.2.2

end Steps

/-! ### Two threads, a length and chunks -/

/-- The text of `numbers` for the answer to a call. -/
def numberText (id result : Nat) : Bytes :=
  bytes (JsonLibrary.numbers.dumpReply { id := some (toString id), result := some (some result) })

def chunkedResponse : Bytes :=
  bytes "HTTP/1.1 200 OK\r\nTransfer-Encoding: chunked\r\n\r\n" ++
    (bytes "15\r\n" ++ (numberText 1 8 ++ EOL)) ++ (bytes "0\r\n" ++ EOL)

/-- The first call has the result 7 and the second one 8. -/
def numberAnswer (request : JsonRPCRequest (Option Nat)) : JsonRPCReply (Option Nat) :=
  { id := some (toString request.msgId.toNat), result := some (some (request.msgId.toNat + 7)) }

/-- The server delimits its first response by a length and the second one by chunks. -/
def servesNumbers (c : HTTPClient (Option Nat) Bool) : HTTPLabel (Option Nat) Bool → Bool
  | .respond fd text =>
    match (c.connection fd).bind fun k => k.outgoing.head? with
    | some (request, _) =>
      (request.msgId = 0 && text = okResponse 0 7) || (request.msgId = 1 && text = chunkedResponse)
    | none => false
  | _ => true

theorem serves_okResponse : Serves localConfig.memory (okResponse 0 7) (numberText 0 7) := by
  refine ⟨bytes " OK", [{ name := bytes "Content-Length", rest := bytes " 21" }], numberText 0 7,
    by decide +kernel, by decide +kernel, ?_, ?_, by decide +kernel⟩
  · intro f hf
    obtain rfl := List.mem_singleton.mp hf
    exact ⟨⟨by decide +kernel, by decide +kernel, by decide +kernel⟩, by decide +kernel⟩
  · exact .length (by decide +kernel) (by decide +kernel) (by decide +kernel) (by decide +kernel)

theorem serves_chunkedResponse : Serves localConfig.memory chunkedResponse (numberText 1 8) := by
  have hbody : numberText 1 8 = [(bytes "15\r\n", numberText 1 8)].flatMap Prod.snd := by simp
  have hsizes : Sized ChunkSize [(bytes "15\r\n", numberText 1 8)] (bytes "0\r\n") := by
    constructor
    · intro chunk hchunk
      obtain rfl := List.mem_singleton.mp hchunk
      exact ⟨by decide +kernel, bytes "15", [], by decide +kernel, by decide +kernel,
        by decide +kernel, .inl rfl, by simp, by decide +kernel⟩
    · exact ⟨bytes "0", [], by decide +kernel, by decide +kernel, by decide +kernel, .inl rfl,
        by simp, by decide +kernel⟩
  refine ⟨bytes " OK", [{ name := bytes "Transfer-Encoding", rest := bytes " chunked" }],
    bodyText [(bytes "15\r\n", numberText 1 8)] (bytes "0\r\n"),
    by decide +kernel, by decide +kernel, ?_, ?_, by decide +kernel⟩
  · intro f hf
    obtain rfl := List.mem_singleton.mp hf
    exact ⟨⟨by decide +kernel, by decide +kernel, by decide +kernel⟩, by decide +kernel⟩
  · have hchunked : Carries localConfig.memory
        [{ name := bytes "Transfer-Encoding", rest := bytes " chunked" }]
        ([(bytes "15\r\n", numberText 1 8)].flatMap Prod.snd)
        (bodyText [(bytes "15\r\n", numberText 1 8)] (bytes "0\r\n")) := by
      refine .chunked (by decide +kernel) (by decide +kernel) hsizes ?_
      intro chunk hchunk
      obtain rfl := List.mem_singleton.mp hchunk
      exact ⟨by decide +kernel, by decide +kernel⟩
    rw [← hbody] at hchunked
    exact hchunked

theorem answers_numbers {c : HTTPClient (Option Nat) Bool} {l : HTTPLabel (Option Nat) Bool}
    (hfree : locksFree c l) (hserves : servesNumbers c l = true) :
    answersAll .numbers localConfig numberAnswer c l := by
  refine ⟨hfree, ?_⟩
  cases l with
  | respond fd text =>
    intro k request b hk hhead
    simp only [servesNumbers, hk, Option.bind_some, hhead, Bool.or_eq_true, Bool.and_eq_true,
      decide_eq_true_eq] at hserves
    rcases hserves with ⟨hid, rfl⟩ | ⟨hid, rfl⟩
    · refine ⟨numberText 0 7, serves_okResponse, ?_⟩
      unfold numberAnswer
      rw [hid]
      decide +kernel
    · refine ⟨numberText 1 8, serves_chunkedResponse, ?_⟩
      unfold numberAnswer
      rw [hid]
      decide +kernel
  | _ => trivial

theorem calls_answered_twice : ∃ c : HTTPClient (Option Nat) Bool,
    Run (step .numbers localConfig) (answersAll .numbers localConfig numberAnswer) {} c ∧
      c.finished.map (fun e => e.2.toOption) = [some (some 7), some (some 8)] ∧
      ∀ request outcome, (request, outcome) ∈ c.finished →
        outcome = request.networkException .numbers ∨
          request.Returns .numbers (numberAnswer request) outcome := by
  have hreach : reaches (step .numbers localConfig)
      (fun c l => locksFree c l ∧ servesNumbers c l = true) ({} : HTTPClient (Option Nat) Bool)
      (beginRequest true [.descriptor 3, .ok] ++ [.respond 3 (okResponse 0 7)] ++ endRequest true ++
        beginRequest false [.ok] ++ [.respond 3 chunkedResponse] ++
        .thread false .ok :: .replicate 83 (.thread false (.amount 1)))
      (fun c => c.finished.map (fun e => e.2.toOption) = [some (some 7), some (some 8)]) = true := by
    decide +kernel
  obtain ⟨c, hrun, hfinished⟩ := run_of_reaches hreach
  have hserved : Run (step .numbers localConfig)
      (answersAll .numbers localConfig numberAnswer) {} c :=
    hrun.mono fun a l hok => answers_numbers hok.1 hok.2
  exact ⟨c, hserved, of_decide_eq_true hfinished, calls_answered hserved⟩

end HTTPClient

end PeakAnalyser

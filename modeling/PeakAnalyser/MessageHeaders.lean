import PeakAnalyser.ChunkedBodies
import PeakAnalyser.RequestRoundTrip

/-!
# The headers of a message

What `doRequest` and `clientHandler` make of the header lines of a message, and what is
read after them: from then on nothing depends on the headers but the framing of the body.
-/

namespace PeakAnalyser

set_option autoImplicit false

open Feeding

/-! ### Messages -/

/-- A header line: its name, and what comes between the colon and CR LF. -/
structure HeaderField where
  name : Bytes
  rest : Bytes
  deriving DecidableEq

namespace HeaderField

variable (f : HeaderField)

def line : Bytes := f.name ++ 58 :: (f.rest ++ EOL)

def value : Bytes := trim f.rest

/-- There is no value. -/
def blank : Bool := f.rest.all isBlank

/-- It is one line, with the colon where the name ends. -/
structure Plain : Prop where
  colon : 58 ∉ f.name
  name : newline ∉ f.name
  rest : newline ∉ f.rest

end HeaderField

/-- A message up to some of the bytes behind its headers. -/
def messageText (startLine : Bytes) (fields : List HeaderField) (s : Bytes) : Bytes :=
  startLine ++ (fields.flatMap HeaderField.line ++ (EOL ++ s))

/-- What the map holds after all the lines. -/
def enteredHeaders (fields : List HeaderField) : Headers :=
  Headers.insertAll [] (fields.map fun f => (f.name, f.value))

/-- The value that the map has under just this spelling: the last one that was entered. -/
def spelledValue (fields : List HeaderField) (key : String) : Option Bytes :=
  fields.foldl (fun value f => if f.name = bytes key then some f.value else value) none

/-! ### What is read after the headers -/

/-- Of a response only what has been read into it: neither its headers nor what follows from
them. -/
def Response.essence (response : Response) : Response :=
  { content := response.content, code := response.code, version := response.version }

def LineKind.essence : LineKind → LineKind
  | .status => .status
  | .header response => .header response.essence
  | .chunkSize response => .chunkSize response.essence
  | .chunkEnd last response => .chunkEnd last response.essence

def BlockKind.essence : BlockKind → BlockKind
  | .content response => .content response.essence
  | .chunk response => .chunk response.essence

def Reading.essence : Reading → Reading
  | .line kind start => .line kind.essence start
  | .fixed kind bufSize buf => .fixed kind.essence bufSize buf
  | .indefinite response => .indefinite response.essence

def Progress.essence : Progress → Progress
  | .more reading => .more reading.essence
  | .next reading => .next reading.essence
  | .done response => .done response.essence
  | .retry => .retry
  | .failed => .failed
  | .thrown exception => .thrown exception
  | .overrun => .overrun

/-- The headers have been read. -/
def Reading.InBody : Reading → Prop
  | .line .status _ | .line (.header _) _ => False
  | _ => True

def Progress.InBody (progress : Progress) : Prop :=
  ∀ reading, progress.reading? = some reading → reading.InBody

section Essence

variable {memory : Nat} {reading : Reading} {progress : Progress}

theorem essence_reading (h : progress.reading? = some reading) :
    progress.essence.reading? = some reading.essence := by
  cases progress with
  | more _ | next _ =>
    obtain rfl := Option.some.inj h
    rfl
  | done _ | retry | failed | thrown _ | overrun => cases h

theorem essence_stopped (h : progress.reading? = none) : progress.essence.reading? = none := by
  cases progress with
  | more _ | next _ => cases h
  | done _ | retry | failed | thrown _ | overrun => rfl

theorem inBody_of_stopped (h : progress.reading? = none) : progress.InBody := by
  intro next hnext
  rw [h] at hnext
  cases hnext

theorem finish_essence {kind : LineKind} {line : Bytes} (h : (Reading.line kind line).InBody) :
    (kind.finish memory line).essence = kind.essence.finish memory line ∧
      (kind.finish memory line).InBody := by
  have hmore : ∀ reading : Reading, reading.InBody → (Progress.more reading).InBody := by
    intro reading hreading next hnext
    exact Option.some.inj hnext ▸ hreading
  cases kind with
  | status => exact h.elim
  | header _ => exact h.elim
  | chunkSize response =>
    simp only [LineKind.finish, LineKind.essence]
    split
    · exact ⟨rfl, hmore _ trivial⟩
    · split
      · exact ⟨rfl, inBody_of_stopped rfl⟩
      · exact ⟨rfl, hmore _ trivial⟩
  | chunkEnd last response =>
    simp only [LineKind.finish, LineKind.essence]
    split
    · exact ⟨rfl, inBody_of_stopped rfl⟩
    · split
      · exact ⟨rfl, inBody_of_stopped rfl⟩
      · exact ⟨rfl, hmore _ trivial⟩

theorem blockFinish_essence (kind : BlockKind) (block : Bytes) :
    (kind.finish block).essence = kind.essence.finish block ∧ (kind.finish block).InBody := by
  cases kind with
  | content response => exact ⟨rfl, inBody_of_stopped rfl⟩
  | chunk response =>
    refine ⟨rfl, ?_⟩
    intro next hnext
    obtain rfl := Option.some.inj hnext
    exact trivial

/-- In the body a step does not depend on the headers. -/
theorem push_essence (memory : Nat) (h : reading.InBody) (b : UInt8) :
    (reading.push memory b).essence = reading.essence.push memory b ∧
      (reading.push memory b).InBody := by
  cases reading with
  | line kind start =>
    have hkind : ∀ line, (Reading.line kind line).InBody := by
      intro line
      cases kind with
      | status | header _ => exact h.elim
      | chunkSize _ | chunkEnd _ _ => exact trivial
    simp only [Reading.push, Reading.essence]
    split
    · exact finish_essence (hkind _)
    · refine ⟨rfl, ?_⟩
      intro next hnext
      exact Option.some.inj hnext ▸ hkind _
  | fixed kind bufSize buf =>
    simp only [Reading.push, Reading.essence]
    split
    · exact blockFinish_essence kind _
    · refine ⟨rfl, ?_⟩
      intro next hnext
      exact Option.some.inj hnext ▸ trivial
  | indefinite response =>
    refine ⟨rfl, ?_⟩
    intro next hnext
    exact Option.some.inj hnext ▸ trivial

theorem atEnd_essence (h : reading.InBody) :
    (reading.atEnd memory).essence = reading.essence.atEnd memory ∧
      (reading.atEnd memory).InBody := by
  cases reading with
  | line kind start =>
    simp only [Reading.atEnd, Reading.essence]
    split
    · cases kind with
      | status | header _ => exact h.elim
      | chunkSize _ | chunkEnd _ _ => exact ⟨rfl, inBody_of_stopped rfl⟩
    · apply finish_essence
      cases kind with
      | status | header _ => exact h.elim
      | chunkSize _ | chunkEnd _ _ => exact trivial
  | fixed kind bufSize buf => exact ⟨rfl, inBody_of_stopped rfl⟩
  | indefinite response => exact ⟨rfl, inBody_of_stopped rfl⟩

theorem run_essence (memory : Nat) (h : progress.InBody) (s : Bytes) :
    (progress.run memory s).1.essence = (progress.essence.run memory s).1 ∧
      (progress.run memory s).2 = (progress.essence.run memory s).2 ∧
      (progress.run memory s).1.InBody := by
  induction s generalizing progress with
  | nil => exact ⟨rfl, rfl, h⟩
  | cons b s ih =>
    cases hreading : progress.reading? with
    | none =>
      rw [Progress.run_of_stopped hreading, Progress.run_of_stopped (essence_stopped hreading)]
      exact ⟨rfl, rfl, h⟩
    | some reading =>
      obtain ⟨hpush, hbody⟩ := push_essence memory (h reading hreading) b
      rw [Progress.run_cons hreading, Progress.run_cons (essence_reading hreading), ← hpush]
      exact ih hbody

theorem afterEnd_essence (h : progress.InBody) (n : Nat) :
    (progress.afterEnd memory n).essence = progress.essence.afterEnd memory n ∧
      (progress.afterEnd memory n).InBody := by
  induction n with
  | zero => exact ⟨rfl, h⟩
  | succ n ih =>
    obtain ⟨hessence, hbody⟩ := ih
    cases hreading : (progress.afterEnd memory n).reading? with
    | none =>
      have hstopped := essence_stopped hreading
      rw [hessence] at hstopped
      simp only [Progress.afterEnd, hreading, hstopped]
      exact ⟨hessence, hbody⟩
    | some reading =>
      have hnext := essence_reading hreading
      rw [hessence] at hnext
      rw [Progress.afterEnd_succ hreading, Progress.afterEnd_succ hnext]
      exact atEnd_essence (hbody reading hreading)

end Essence

/-- Of a request only what has been read into it. -/
def ReceivedRequest.essence (request : ReceivedRequest) : ReceivedRequest :=
  { method := request.method, content := request.content }

def RequestReading.essence : RequestReading → RequestReading
  | .requestLine line => .requestLine line
  | .header request line => .header request.essence line
  | .content request bufSize buf => .content request.essence bufSize buf

def RequestProgress.essence : RequestProgress → RequestProgress
  | .reading r => .reading r.essence
  | .parsed request => .parsed request.essence
  | .destroyed => .destroyed
  | .thrown exception => .thrown exception

/-- The connection has ended: `n` more calls of `recv` return 0. -/
def RequestProgress.afterEnd (progress : RequestProgress) : Nat → RequestProgress
  | 0 => progress
  | n + 1 =>
    match progress.afterEnd n with
    | .reading r => r.atEnd
    | stopped => stopped

/-- The headers have been read. -/
def RequestReading.InBody : RequestReading → Prop
  | .content _ _ _ => True
  | _ => False

def RequestProgress.InBody : RequestProgress → Prop
  | .reading r => r.InBody
  | _ => True

section RequestEssence

variable {reading : RequestReading} {progress : RequestProgress}

theorem requestPush_essence (h : reading.InBody) (b : UInt8) :
    (reading.push b).essence = reading.essence.push b ∧ (reading.push b).InBody := by
  cases reading with
  | requestLine _ => exact h.elim
  | header _ _ => exact h.elim
  | content request bufSize buf =>
    simp only [RequestReading.push, RequestReading.essence]
    split
    · exact ⟨rfl, trivial⟩
    · exact ⟨rfl, trivial⟩

theorem requestRun_essence (h : progress.InBody) (s : Bytes) :
    (run RequestProgress.take progress s).1.essence =
        (run RequestProgress.take progress.essence s).1 ∧
      (run RequestProgress.take progress s).2 = (run RequestProgress.take progress.essence s).2 ∧
      (run RequestProgress.take progress s).1.InBody := by
  induction s generalizing progress with
  | nil => exact ⟨rfl, rfl, h⟩
  | cons b s ih =>
    cases progress with
    | reading r =>
      obtain ⟨hpush, hbody⟩ := requestPush_essence h b
      rw [RequestProgress.essence, run_cons rfl, run_cons rfl, ← hpush]
      exact ih hbody
    | parsed _ | destroyed | thrown _ => exact ⟨rfl, rfl, h⟩

theorem requestAfterEnd_essence (h : progress.InBody) (n : Nat) :
    (progress.afterEnd n).essence = progress.essence.afterEnd n ∧ (progress.afterEnd n).InBody := by
  induction n with
  | zero => exact ⟨rfl, h⟩
  | succ n ih =>
    obtain ⟨hessence, hbody⟩ := ih
    rw [RequestProgress.afterEnd, RequestProgress.afterEnd, ← hessence]
    cases hprogress : progress.afterEnd n with
    | reading r =>
      rw [hprogress] at hbody
      cases r with
      | requestLine _ => exact hbody.elim
      | header _ _ => exact hbody.elim
      | content _ _ _ => exact ⟨rfl, trivial⟩
    | parsed _ | destroyed | thrown _ => exact ⟨rfl, trivial⟩

end RequestEssence

/-! ### Reading the headers -/

section Headers

variable {f : HeaderField} {fields : List HeaderField}

theorem HeaderField.line_eq (f : HeaderField) :
    f.line = (f.name ++ 58 :: (f.rest ++ [13])) ++ [newline] := by
  simp [HeaderField.line, eol_eq]

theorem HeaderField.Plain.isLine (h : f.Plain) : Line f.line := by
  refine ⟨_, ?_, f.line_eq⟩
  intro hmem
  rcases List.mem_append.mp hmem with hmem | hmem
  · exact h.name hmem
  · rcases List.mem_cons.mp hmem with hmem | hmem
    · exact absurd hmem (by decide)
    · rcases List.mem_append.mp hmem with hmem | hmem
      · exact h.rest hmem
      · exact absurd (List.mem_singleton.mp hmem) (by decide)

theorem HeaderField.line_suffix (f : HeaderField) : EOL <:+ f.line := by
  refine ⟨f.name ++ 58 :: f.rest, ?_⟩
  simp [HeaderField.line]

theorem HeaderField.length_line (f : HeaderField) :
    f.line.length = f.name.length + (f.rest.length + 3) := by
  simp [HeaderField.line, eol_eq]

theorem parseHeaderLine_line (hname : 58 ∉ f.name) (headers : Headers) :
    parseHeaderLine f.line headers =
      if f.blank then .error .outOfRange
      else .ok (some (headers.insert f.name f.value)) := by
  have hpos : ∀ b ∈ f.name, decide (b ≠ 58) = true := by
    intro b hb
    have hne : b ≠ 58 := fun heq => hname (heq ▸ hb)
    simpa using hne
  have hdrop : f.line.dropWhile (· ≠ 58) = 58 :: (f.rest ++ EOL) := by
    rw [HeaderField.line, List.dropWhile_append_of_pos hpos]
    simp
  have htake : f.line.takeWhile (· ≠ 58) = f.name := by
    rw [HeaderField.line, List.takeWhile_append_of_pos hpos]
    simp
  have hEOL : ∀ b ∈ EOL, isBlank b = true := by
    rw [eol_eq]
    decide +kernel
  by_cases hblank : f.blank
  · have hnil : (f.rest ++ EOL).dropWhile isBlank = [] := by
      apply List.dropWhile_eq_nil_iff.mpr
      intro b hb
      rcases List.mem_append.mp hb with hb | hb
      · exact List.all_eq_true.mp hblank b hb
      · exact hEOL b hb
    simp only [parseHeaderLine, hdrop, hnil, if_pos hblank]
  · have hvalue : ∃ b ∈ f.rest, isBlank b = false := by
      simpa [HeaderField.blank] using hblank
    have hrest := dropWhile_append_of_not hvalue EOL
    have hne : f.rest.dropWhile isBlank ++ EOL ≠ [] := by simp [eol_eq]
    obtain ⟨b, s, hs⟩ := List.exists_cons_of_ne_nil hne
    have htrim : (b :: s).rdropWhile isBlank = f.value := by
      rw [← hs, rdropWhile_append hEOL]
      rfl
    simp only [parseHeaderLine, hdrop, hrest, hs, htake, htrim, if_neg hblank]

variable {memory : Nat} {response : Response} {received : ReceivedRequest}

theorem run_field (hf : f.Plain) (s : Bytes) :
    (Progress.next (.line (.header response) [])).run memory (f.line ++ s) =
      if f.blank then (.thrown .outOfRange, s)
      else (Progress.next (.line (.header
        { response with headers := response.headers.insert f.name f.value }) [])).run memory s := by
  have hlength : f.line.length ≠ 2 := by
    rw [f.length_line]
    omega
  rw [Progress.run_whole_line rfl hf.isLine]
  simp only [LineKind.finish, f.line_suffix, not_true_eq_false, if_false, hlength,
    parseHeaderLine_line hf.colon]
  by_cases hblank : f.blank
  · rw [if_pos hblank, if_pos hblank]
    exact Progress.run_of_stopped rfl s
  · rw [if_neg hblank, if_neg hblank]

theorem run_requestField (hf : f.Plain) (s : Bytes) :
    run RequestProgress.take (.reading (.header received [])) (f.line ++ s) =
      if f.blank then (.thrown .outOfRange, s)
      else run RequestProgress.take (.reading (.header
        { received with headers := received.headers.insert f.name f.value } [])) s := by
  have hlength : f.line.length ≠ 2 := by
    rw [f.length_line]
    omega
  obtain ⟨start, hstart, hline⟩ := hf.isLine
  have htext : f.line ++ s = start ++ newline :: s := by
    rw [hline, List.append_assoc]
    rfl
  rw [htext, run_header hstart, ← hline]
  simp only [finishRequestHeader, f.line_suffix, not_true_eq_false, if_false, hlength,
    parseHeaderLine_line hf.colon]
  by_cases hblank : f.blank
  · rw [if_pos hblank, if_pos hblank]
    exact run_of_stopped rfl s
  · rw [if_neg hblank, if_neg hblank]

/-- The lines behind the first one without a value. -/
def afterBlank (fields : List HeaderField) : List HeaderField :=
  (fields.dropWhile fun f => !f.blank).tail

/-- Headers are entered one after the other, and a line without a value stops the reader. -/
theorem read_fields {Result : Type} {read : Headers → Bytes → Result} (stop : Bytes → Result)
    (hread : ∀ f ∈ fields, ∀ headers s, read headers (f.line ++ s) =
      if f.blank then stop s else read (headers.insert f.name f.value) s)
    (headers : Headers) (s : Bytes) :
    read headers (fields.flatMap HeaderField.line ++ s) =
      if fields.any HeaderField.blank then stop ((afterBlank fields).flatMap HeaderField.line ++ s)
      else read (headers.insertAll (fields.map fun f => (f.name, f.value))) s := by
  induction fields generalizing headers with
  | nil => rfl
  | cons f fields ih =>
    rw [List.flatMap_cons, List.append_assoc, hread f List.mem_cons_self]
    by_cases hblank : f.blank
    · rw [if_pos hblank, if_pos (by simp [hblank])]
      simp [afterBlank, hblank]
    · rw [if_neg hblank, ih fun g hg => hread g (List.mem_cons_of_mem f hg)]
      simp [afterBlank, hblank, Headers.insertAll]

/-- What the map finds is what was entered last under just this name. -/
theorem lookup_entries (fields : List HeaderField) (key : String) :
    (enteredHeaders fields).lookup (bytes key) = spelledValue fields key := by
  have hall : ∀ headers : Headers,
      (headers.insertAll (fields.map fun f => (f.name, f.value))).lookup (bytes key) =
        fields.foldl (fun value f => if f.name = bytes key then some f.value else value)
          (headers.lookup (bytes key)) := by
    induction fields with
    | nil => exact fun _ => rfl
    | cons f fields ih =>
      intro headers
      rw [List.map_cons, List.foldl_cons]
      have hstep := ih (headers.insert f.name f.value)
      rw [Headers.lookup_insert] at hstep
      rw [if_congr (eq_comm (a := f.name)) rfl rfl]
      exact hstep
  exact hall []

/-- The response whose headers have been read. -/
def afterHeaders (status : Bytes) (fields : List HeaderField) : Response where
  headers := enteredHeaders fields
  code := scanCode status
  version := scanWord status

theorem run_overrun {status : Bytes} (hstatus : Line status)
    (hoverrun : overrunsVersion status = true) (fields : List HeaderField) (s : Bytes) :
    responseStart.run memory (messageText status fields s) =
      (.overrun, fields.flatMap HeaderField.line ++ (EOL ++ s)) := by
  rw [messageText, responseStart, Progress.run_whole_line rfl hstatus, LineKind.finish,
    if_pos hoverrun, Progress.run_of_stopped rfl]

theorem run_message (hfields : ∀ f ∈ fields, f.Plain) {status : Bytes} (hstatus : Line status)
    (hfits : ¬ overrunsVersion status = true) (s : Bytes) :
    responseStart.run memory (messageText status fields s) =
      if fields.any HeaderField.blank then
        (.thrown .outOfRange, (afterBlank fields).flatMap HeaderField.line ++ (EOL ++ s))
      else (endHeaders memory (afterHeaders status fields)).run memory s := by
  have hread : ∀ f ∈ fields, ∀ (headers : Headers) (s : Bytes),
      (Progress.next (.line (.header
          { code := scanCode status, version := scanWord status, headers }) [])).run memory
          (f.line ++ s) =
        if f.blank then (.thrown .outOfRange, s)
        else (Progress.next (.line (.header
          { code := scanCode status
            version := scanWord status
            headers := headers.insert f.name f.value }) [])).run memory s := by
    intro f hf headers s
    exact run_field (hfields f hf) s
  rw [messageText, responseStart, Progress.run_whole_line rfl hstatus, LineKind.finish,
    if_neg hfits]
  rw [read_fields (fun s => (Progress.thrown .outOfRange, s)) hread [] (EOL ++ s)]
  by_cases hblank : fields.any HeaderField.blank
  · rw [if_pos hblank, if_pos hblank]
  · rw [if_neg hblank, if_neg hblank, Progress.run_whole_line rfl line_EOL]
    have hlength : EOL.length = 2 := by decide +kernel
    simp [LineKind.finish, hlength, afterHeaders, enteredHeaders]

theorem run_requestMessage (hfields : ∀ f ∈ fields, f.Plain) {requestLine : Bytes}
    (hline : Line requestLine) (s : Bytes) :
    run RequestProgress.take (.reading (.requestLine [])) (messageText requestLine fields s) =
      if scanWord requestLine ≠ bytes "POST" then
        (.destroyed, fields.flatMap HeaderField.line ++ (EOL ++ s))
      else if fields.any HeaderField.blank then
        (.thrown .outOfRange, (afterBlank fields).flatMap HeaderField.line ++ (EOL ++ s))
      else run RequestProgress.take (endRequestHeaders
        { method := scanWord requestLine, headers := enteredHeaders fields }) s := by
  have hread : ∀ f ∈ fields, ∀ (headers : Headers) (s : Bytes),
      run RequestProgress.take (.reading (.header { method := scanWord requestLine, headers } []))
          (f.line ++ s) =
        if f.blank then (.thrown .outOfRange, s)
        else run RequestProgress.take (.reading (.header
          { method := scanWord requestLine, headers := headers.insert f.name f.value } [])) s := by
    intro f hf headers s
    exact run_requestField (hfields f hf) s
  obtain ⟨start, hstart, rfl⟩ := hline
  rw [messageText, List.append_assoc, List.singleton_append, run_requestLine hstart,
    finishRequestLine]
  by_cases hmethod : scanWord (start ++ [newline]) ≠ bytes "POST"
  · rw [if_pos hmethod, if_pos hmethod]
    exact run_of_stopped rfl _
  · rw [if_neg hmethod, if_neg hmethod]
    rw [read_fields (fun s => (RequestProgress.thrown .outOfRange, s)) hread [] (EOL ++ s)]
    by_cases hblank : fields.any HeaderField.blank
    · rw [if_pos hblank, if_pos hblank]
    · rw [if_neg hblank, if_neg hblank]
      have hEOL : EOL ++ s = [13] ++ newline :: s := by rw [eol_eq]; rfl
      have h13 : newline ∉ ([13] : Bytes) := by decide
      rw [hEOL, run_header h13]
      simp [finishRequestHeader, eol_eq, enteredHeaders]

end Headers

/-! ### The framing of the body -/

section Framing

variable {memory : Nat} {response response' : Response} {received received' : ReceivedRequest}

theorem getHeaderValue_eq_iff {headers : Headers} {key value : Bytes} (hne : value ≠ []) :
    getHeaderValue headers key [] = value ↔ headers.lookup key = some value := by
  unfold getHeaderValue
  cases headers.lookup key with
  | none =>
    rw [Option.getD_none]
    exact iff_of_false (Ne.symm hne) (Option.some_ne_none value).symm
  | some v => rw [Option.getD_some, Option.some.injEq]

theorem chunked_ne_nil : bytes "chunked" ≠ [] := by decide +kernel

theorem stoi_zero : stoi (bytes "0") = .ok 0 := by decide +kernel

theorem endHeaders_inBody (response : Response) : (endHeaders memory response).InBody := by
  have hnext : ∀ reading : Reading, reading.InBody → (Progress.next reading).InBody := by
    intro reading hreading next hnext
    exact Option.some.inj hnext ▸ hreading
  have hstopped : ∀ progress : Progress, progress.reading? = none → progress.InBody := by
    intro progress hprogress next hnext
    rw [hprogress] at hnext
    cases hnext
  unfold endHeaders
  split
  · exact hstopped _ rfl
  · unfold readContent
    split
    · exact hnext _ trivial
    · split
      · exact hnext _ trivial
      · split
        · exact hstopped _ rfl
        · split
          · exact hstopped _ rfl
          · exact hnext _ trivial

/-- The length and the coding, as they are looked up, determine how the body is read. -/
theorem endHeaders_essence (hcontent : response.content = response'.content)
    (hcode : response.code = response'.code) (hversion : response.version = response'.version)
    (hlength : response.headers.lookup (bytes "Content-Length") =
      response'.headers.lookup (bytes "Content-Length"))
    (hchunked : response.headers.lookup (bytes "Transfer-Encoding") = some (bytes "chunked") ↔
      response'.headers.lookup (bytes "Transfer-Encoding") = some (bytes "chunked")) :
    (endHeaders memory response).essence = (endHeaders memory response').essence := by
  rw [← getHeaderValue_eq_iff chunked_ne_nil, ← getHeaderValue_eq_iff chunked_ne_nil] at hchunked
  have hstoi : getHeaderValue response.headers (bytes "Content-Length") (bytes "0") =
      getHeaderValue response'.headers (bytes "Content-Length") (bytes "0") := by
    rw [getHeaderValue, getHeaderValue, hlength]
  unfold endHeaders
  rw [hstoi]
  cases stoi (getHeaderValue response'.headers (bytes "Content-Length") (bytes "0")) with
  | error exception => rfl
  | ok length =>
    simp only [readContent, hlength, decide_eq_true_eq, hchunked]
    split
    · simp [Progress.essence, Reading.essence, LineKind.essence, Response.essence, hcontent, hcode,
        hversion]
    · split
      · simp [Progress.essence, Reading.essence, Response.essence, hcontent, hcode, hversion]
      · split
        · simp [Progress.essence, Response.essence, hcontent, hcode, hversion]
        · split
          · rfl
          · simp [Progress.essence, Reading.essence, BlockKind.essence, Response.essence, hcontent,
              hcode, hversion]

/-- A body in chunks is read as such only after a coding that is found, and a length that is
none or a number. -/
theorem endHeaders_chunkSize_iff :
    (∃ next, (endHeaders memory response).essence = .next (.line (.chunkSize next) [])) ↔
      response.headers.lookup (bytes "Transfer-Encoding") = some (bytes "chunked") ∧
        ∃ length, stoi (getHeaderValue response.headers (bytes "Content-Length") (bytes "0")) =
          .ok length := by
  rw [← getHeaderValue_eq_iff chunked_ne_nil]
  unfold endHeaders
  cases stoi (getHeaderValue response.headers (bytes "Content-Length") (bytes "0")) with
  | error exception =>
    apply iff_of_false
    · intro h
      obtain ⟨next, hnext⟩ := h
      cases hnext
    · intro h
      obtain ⟨_, length, hlength⟩ := h
      cases hlength
  | ok length =>
    simp only [readContent, decide_eq_true_eq]
    split
    · rename_i hchunked
      exact iff_of_true ⟨_, rfl⟩ ⟨hchunked, length, rfl⟩
    · rename_i hchunked
      apply iff_of_false ?_ (fun h => hchunked h.1)
      intro h
      obtain ⟨next, hnext⟩ := h
      split at hnext
      · cases hnext
      · split at hnext
        · cases hnext
        · split at hnext
          · cases hnext
          · cases hnext

/-- The body is read up to the end of the connection only without a length. -/
theorem endHeaders_indefinite_iff :
    (∃ next, (endHeaders memory response).essence = .next (.indefinite next)) ↔
      response.headers.lookup (bytes "Transfer-Encoding") ≠ some (bytes "chunked") ∧
        response.headers.lookup (bytes "Content-Length") = none := by
  rw [Ne, ← getHeaderValue_eq_iff chunked_ne_nil]
  unfold endHeaders
  cases hlookup : response.headers.lookup (bytes "Content-Length") with
  | none =>
    have hstoi : stoi (getHeaderValue response.headers (bytes "Content-Length") (bytes "0")) =
        .ok 0 := by
      rw [getHeaderValue, hlookup]
      exact stoi_zero
    rw [hstoi]
    simp only [readContent, decide_eq_true_eq, hlookup, Option.isNone_none, if_true, and_true]
    split
    · rename_i hchunked
      apply iff_of_false ?_ (not_not_intro hchunked)
      intro h
      obtain ⟨next, hnext⟩ := h
      cases hnext
    · rename_i hchunked
      exact iff_of_true ⟨_, rfl⟩ hchunked
  | some value =>
    apply iff_of_false
    · intro h
      obtain ⟨next, hnext⟩ := h
      split at hnext
      · cases hnext
      · simp only [readContent, hlookup, Option.isNone_some, Bool.false_eq_true, if_false] at hnext
        split at hnext
        · cases hnext
        · split at hnext
          · cases hnext
          · split at hnext
            · cases hnext
            · cases hnext
    · intro h
      cases h.2

theorem endRequestHeaders_inBody (received : ReceivedRequest) :
    (endRequestHeaders received).InBody := by
  unfold endRequestHeaders
  split
  · exact trivial
  · simp only
    split
    · exact trivial
    · split
      · exact trivial
      · exact trivial

theorem endRequestHeaders_essence (hmethod : received.method = received'.method)
    (hcontent : received.content = received'.content)
    (hlength : received.headers.lookup (bytes "Content-Length") =
      received'.headers.lookup (bytes "Content-Length")) :
    (endRequestHeaders received).essence = (endRequestHeaders received').essence := by
  have hstoi : getHeaderValue received.headers (bytes "Content-Length") (bytes "0") =
      getHeaderValue received'.headers (bytes "Content-Length") (bytes "0") := by
    rw [getHeaderValue, getHeaderValue, hlength]
  unfold endRequestHeaders
  rw [hstoi]
  cases stoi (getHeaderValue received'.headers (bytes "Content-Length") (bytes "0")) with
  | error exception => rfl
  | ok length =>
    simp only
    split
    · simp [RequestProgress.essence, ReceivedRequest.essence, hmethod, hcontent]
    · split
      · rfl
      · simp [RequestProgress.essence, RequestReading.essence, ReceivedRequest.essence, hmethod,
          hcontent]

/-- A request has no content only where the length is found to be 0, or is not found. -/
theorem endRequestHeaders_parsed_iff :
    (endRequestHeaders received).essence = .parsed received.essence ↔
      stoi (getHeaderValue received.headers (bytes "Content-Length") (bytes "0")) = .ok 0 := by
  unfold endRequestHeaders
  cases hstoi : stoi (getHeaderValue received.headers (bytes "Content-Length") (bytes "0")) with
  | error exception =>
    apply iff_of_false
    · intro h
      cases h
    · intro h
      cases h
  | ok length =>
    have hrange := stoi_range hstoi
    simp only
    split
    · rename_i hzero
      obtain rfl : length = 0 := by omega
      exact iff_of_true rfl rfl
    · rename_i hpos
      apply iff_of_false
      · intro h
        split at h
        · cases h
        · cases h
      · intro h
        obtain rfl := Except.ok.inj h
        exact hpos rfl

end Framing

end PeakAnalyser

import PeakAnalyser.HTTPClient

/-!
# Which texts are whole responses

The grammar of the responses that `doRequest` reads: a status line, header lines up
to an empty one, and a body whose end the headers decide. A response without a
length ends with its connection. The parser of `HTTPCommon.lean` stops exactly at
the end of a whole response, unless it fails, an exception stops it, or the status
line overruns the memory for the version.
-/

namespace PeakAnalyser

set_option autoImplicit false

/-! ### The grammar -/

def Line (line : Bytes) : Prop := ∃ start, newline ∉ start ∧ line = start ++ [newline]

/-- What a header line adds. A line that does not end with CR LF, or has no colon or no
value, adds nothing. -/
def Headers.add (headers : Headers) (line : Bytes) : Headers :=
  if EOL <:+ line then
    match parseHeaderLine line headers with
    | .ok (some headers) => headers
    | _ => headers
  else headers

inductive Chunks : Bytes → Prop where
  | last {size : Bytes} : Line size → strtoul size = 0 → Chunks (size ++ EOL)
  | chunk {size data rest : Bytes} : Line size → strtoul size = data.length → data ≠ [] →
      Chunks rest → Chunks (size ++ (data ++ (EOL ++ rest)))

/-- The body that belongs to the headers; `ended` says that the connection has ended. -/
def Body (ended : Bool) (headers : Headers) (body : Bytes) : Prop :=
  if getHeaderValue headers (bytes "Transfer-Encoding") [] = bytes "chunked" then Chunks body
  else
    match headers.lookup (bytes "Content-Length") with
    | none => ended = true
    | some value =>
      ∃ length, stoi value = .ok length ∧ body.length = (length % 0x10000000000000000).toNat

/-- Header lines, the empty line and the body. -/
inductive HeaderPart (ended : Bool) : Headers → Bytes → Prop where
  | body {headers : Headers} {body : Bytes} :
      Body ended headers body → HeaderPart ended headers (EOL ++ body)
  | line {headers : Headers} {line rest : Bytes} : Line line → line ≠ EOL →
      HeaderPart ended (headers.add line) rest → HeaderPart ended headers (line ++ rest)

def Message (ended : Bool) (message : Bytes) : Prop :=
  ∃ status rest, Line status ∧ HeaderPart ended [] rest ∧ message = status ++ rest

theorem line_EOL : Line EOL := ⟨[13], by decide, by decide +kernel⟩

/-- A text has one way to begin with a line. -/
theorem Line.append_inj {line line' s s' : Bytes} (h : Line line) (h' : Line line')
    (heq : line ++ s = line' ++ s') : line = line' ∧ s = s' := by
  obtain ⟨start, hstart, rfl⟩ := h
  obtain ⟨start', hstart', rfl⟩ := h'
  have hlength : start.length = start'.length := by
    have htake (t u : Bytes) (ht : newline ∉ t) :
        ((t ++ [newline] ++ u).takeWhile (· ≠ newline)) = t := by
      rw [List.append_assoc, List.takeWhile_append_of_pos]
      · simp
      · intro b hb
        have hne : b ≠ newline := fun hbn => ht (hbn ▸ hb)
        simpa using hne
    rw [← htake start s hstart, heq, htake start' s' hstart']
  apply List.append_inj heq
  simp [hlength]

theorem headerPart_line {ended : Bool} {headers : Headers} {line s : Bytes} (hline : Line line) :
    HeaderPart ended headers (line ++ s) ↔
      if line = EOL then Body ended headers s else HeaderPart ended (headers.add line) s := by
  constructor
  · intro h
    generalize htext : line ++ s = text at h
    cases h with
    | body hbody =>
      obtain ⟨rfl, rfl⟩ := hline.append_inj line_EOL htext
      rwa [if_pos rfl]
    | line hline' hne hrest =>
      obtain ⟨rfl, rfl⟩ := hline.append_inj hline' htext
      rwa [if_neg hne]
  · intro h
    split at h
    · rename_i hEOL
      rw [hEOL]
      exact .body h
    · rename_i hne
      exact .line hline hne h

theorem chunks_line {line s : Bytes} (hline : Line line) :
    Chunks (line ++ s) ↔
      if strtoul line = 0 then s = EOL
      else ∃ data rest, data.length = strtoul line ∧ s = data ++ (EOL ++ rest) ∧ Chunks rest := by
  constructor
  · intro h
    generalize htext : line ++ s = text at h
    cases h with
    | last hsize hzero =>
      obtain ⟨rfl, rfl⟩ := hline.append_inj hsize htext
      rw [if_pos hzero]
    | @chunk size data rest hsize hlength hne hrest =>
      obtain ⟨rfl, rfl⟩ := hline.append_inj hsize htext
      have hpos : data.length ≠ 0 := fun hzero => hne (List.length_eq_zero_iff.mp hzero)
      rw [if_neg (hlength ▸ hpos)]
      exact ⟨data, rest, hlength.symm, rfl, hrest⟩
  · intro h
    split at h
    · rename_i hzero
      rw [h]
      exact .last hline hzero
    · rename_i hpos
      obtain ⟨data, rest, hlength, rfl, hrest⟩ := h
      refine .chunk hline hlength.symm ?_ hrest
      intro hnil
      apply hpos
      rw [← hlength, hnil, List.length_nil]

theorem Line.newline_mem {line : Bytes} (h : Line line) : newline ∈ line := by
  obtain ⟨start, _, rfl⟩ := h
  simp

theorem HeaderPart.newline_mem {ended : Bool} {headers : Headers} {s : Bytes}
    (h : HeaderPart ended headers s) : newline ∈ s := by
  cases h with
  | body _ => exact List.mem_append_left _ line_EOL.newline_mem
  | line hline _ _ => exact List.mem_append_left _ hline.newline_mem

theorem Chunks.newline_mem {s : Bytes} (h : Chunks s) : newline ∈ s := by
  cases h with
  | last hsize _ => exact List.mem_append_left _ hsize.newline_mem
  | chunk hsize _ _ _ => exact List.mem_append_left _ hsize.newline_mem

theorem HeaderPart.mono {ended ended' : Bool} {headers : Headers} {s : Bytes}
    (h : HeaderPart ended headers s) (hended : ended = true → ended' = true) :
    HeaderPart ended' headers s := by
  induction h with
  | body hbody =>
    apply HeaderPart.body
    unfold Body at hbody ⊢
    split
    · rename_i hchunked
      rwa [if_pos hchunked] at hbody
    · rename_i hchunked
      rw [if_neg hchunked] at hbody
      split
      · rename_i hnone
        rw [hnone] at hbody
        exact hended hbody
      · rename_i hvalue
        rwa [hvalue] at hbody
  | line hline hne _ ih => exact .line hline hne ih

theorem Message.mono {ended ended' : Bool} {message : Bytes} (h : Message ended message)
    (hended : ended = true → ended' = true) : Message ended' message := by
  obtain ⟨status, rest, hstatus, hrest, rfl⟩ := h
  exact ⟨status, rest, hstatus, hrest.mono hended, rfl⟩

theorem Chunks.end_unique {s rest : Bytes} (h : Chunks s) (h' : Chunks (s ++ rest)) : rest = [] := by
  induction h with
  | last hsize hzero =>
    rw [List.append_assoc, chunks_line hsize, if_pos hzero] at h'
    exact List.append_right_eq_self.mp h'
  | @chunk size data tail hsize hlength hne _ ih =>
    have hpos : strtoul size ≠ 0 := by
      rw [hlength]
      exact fun hzero => hne (List.length_eq_zero_iff.mp hzero)
    rw [List.append_assoc, chunks_line hsize, if_neg hpos] at h'
    obtain ⟨data', tail', hlength', heq, htail'⟩ := h'
    rw [List.append_assoc] at heq
    obtain ⟨_, heq⟩ := List.append_inj heq (hlength.symm.trans hlength'.symm)
    rw [List.append_assoc] at heq
    exact ih (List.append_cancel_left heq ▸ htail')

theorem HeaderPart.end_unique {headers : Headers} {s rest : Bytes}
    (h : HeaderPart false headers s) (h' : HeaderPart false headers (s ++ rest)) : rest = [] := by
  induction h with
  | @body headers body hbody =>
    rw [List.append_assoc, headerPart_line line_EOL, if_pos rfl] at h'
    unfold Body at hbody h'
    split at h'
    · rename_i hchunked
      rw [if_pos hchunked] at hbody
      exact hbody.end_unique h'
    · rename_i hchunked
      rw [if_neg hchunked] at hbody
      cases hvalue : headers.lookup (bytes "Content-Length") with
      | none => simp [hvalue] at hbody
      | some value =>
        simp only [hvalue] at hbody h'
        obtain ⟨length, hstoi, hbody⟩ := hbody
        obtain ⟨length', hstoi', hlength'⟩ := h'
        obtain rfl := Except.ok.inj (hstoi.symm.trans hstoi')
        rw [List.length_append] at hlength'
        exact List.length_eq_zero_iff.mp (by omega)
  | line hline hne _ ih =>
    rw [List.append_assoc, headerPart_line hline, if_neg hne] at h'
    exact ih h'

/-- On an open connection a response has one end. -/
theorem Message.end_unique {message rest : Bytes} (h : Message false message)
    (h' : Message false (message ++ rest)) : rest = [] := by
  obtain ⟨status, tail, hstatus, htail, rfl⟩ := h
  obtain ⟨status', tail', hstatus', htail', heq⟩ := h'
  rw [List.append_assoc] at heq
  obtain ⟨rfl, rfl⟩ := hstatus.append_inj hstatus' heq
  exact htail.end_unique htail'

/-! ### Which lines the parser accepts -/

/-- If there is a colon, something other than blanks follows it. -/
def HasValue (line : Bytes) : Prop :=
  58 ∈ line → ∃ b ∈ (line.dropWhile (· ≠ 58)).tail, isBlank b = false

/-- The content announced by the headers can be read into a buffer. -/
def LengthAccepted (memory : Nat) (headers : Headers) : Prop :=
  match stoi (getHeaderValue headers (bytes "Content-Length") (bytes "0")) with
  | .error _ => False
  | .ok length =>
    getHeaderValue headers (bytes "Transfer-Encoding") [] = bytes "chunked" ∨
      0 ≤ length ∧ length ≤ memory

/-- The version fits into its array, a header has a value, the length is a number and the buffer
for it can be allocated. A chunk is shorter than 2 ^ 31, as `recv` takes its length as an `int`. -/
def LineKind.Accepts (memory : Nat) (kind : LineKind) (line : Bytes) : Prop :=
  match kind with
  | .status => overrunsVersion line = false
  | .header response =>
    EOL <:+ line →
      if line.length = 2 then LengthAccepted memory response.headers else HasValue line
  | .chunkSize _ => strtoul line ≤ memory ∧ strtoul line < 0x80000000
  | _ => True

/-- The line that ends with `data`, or with the connection if there are no data. -/
def Reading.Accepts (memory : Nat) (reading : Reading) (data : Bytes) : Prop :=
  match reading with
  | .line kind start =>
    data = [newline] ∨ data = [] ∧ start ≠ [] → kind.Accepts memory (start ++ data)
  | _ => True

instance (line : Bytes) : Decidable (HasValue line) :=
  inferInstanceAs (Decidable (_ → ∃ b ∈ _, _))

instance (memory : Nat) (headers : Headers) : Decidable (LengthAccepted memory headers) := by
  unfold LengthAccepted
  split <;> infer_instance

instance (memory : Nat) (kind : LineKind) (line : Bytes) : Decidable (kind.Accepts memory line) := by
  unfold LineKind.Accepts
  split <;> infer_instance

instance (memory : Nat) (reading : Reading) (data : Bytes) :
    Decidable (reading.Accepts memory data) := by
  unfold Reading.Accepts
  split <;> infer_instance

/-! ### The parser against the grammar -/

/-- The text completes what is being read to a whole response. -/
def Reading.Completes (ended : Bool) (reading : Reading) (s : Bytes) : Prop :=
  match reading with
  | .line .status start =>
    ∃ status rest, Line status ∧ HeaderPart ended [] rest ∧ start ++ s = status ++ rest
  | .line (.header response) start => HeaderPart ended response.headers (start ++ s)
  | .line (.chunkSize _) start => Chunks (start ++ s)
  | .line (.chunkEnd last _) start =>
    ∃ rest, start ++ s = EOL ++ rest ∧ if last then rest = [] else Chunks rest
  | .fixed (.content _) bufSize _ => s.length = bufSize
  | .fixed (.chunk _) bufSize _ =>
    ∃ data rest, data.length = bufSize ∧ s = data ++ (EOL ++ rest) ∧ Chunks rest
  | .indefinite _ => ended = true

def Progress.Completes (ended : Bool) (progress : Progress) (s : Bytes) : Prop :=
  match progress with
  | .more reading | .next reading => reading.Completes ended s
  | .done _ => s = []
  | _ => False

/-- The parser has stopped without having read a whole response, and nothing closes the socket. -/
def Progress.breaksOff : Progress → Bool
  | .thrown _ | .overrun => true
  | _ => false

def Reading.isIndefinite : Reading → Bool
  | .indefinite _ => true
  | _ => false

/-- No byte of the response is still to come. -/
def Progress.whole (ended : Bool) : Progress → Bool
  | .more reading | .next reading => reading.isIndefinite && ended
  | .done _ => true
  | _ => false

/-- A line has not ended yet, and a block has not been filled. -/
def Reading.Open : Reading → Prop
  | .line _ start => newline ∉ start
  | .fixed _ bufSize _ => 0 < bufSize
  | .indefinite _ => True

section Parsing

variable {memory : Nat} {ended : Bool} {reading : Reading}

theorem eol_iff {line : Bytes} : line = EOL ↔ EOL <:+ line ∧ line.length = 2 := by
  have hlength : EOL.length = 2 := by decide +kernel
  constructor
  · rintro rfl
    exact ⟨List.suffix_refl _, hlength⟩
  · rintro ⟨hsuffix, hline⟩
    exact (hsuffix.eq_of_length (hlength.trans hline.symm)).symm

theorem parseHeaderLine_error_iff {line : Bytes} {headers : Headers} :
    (∃ exception, parseHeaderLine line headers = .error exception) ↔ ¬ HasValue line := by
  have hcolon : 58 ∈ line ↔ line.dropWhile (· ≠ 58) ≠ [] := by
    simp [List.dropWhile_eq_nil_iff]
  unfold parseHeaderLine HasValue
  rw [hcolon]
  cases hrest : line.dropWhile (· ≠ 58) with
  | nil => simp
  | cons colon rest =>
    cases hvalue : rest.dropWhile isBlank with
    | nil =>
      have hblank : ∀ b ∈ rest, isBlank b = true := List.dropWhile_eq_nil_iff.mp hvalue
      simpa [hvalue] using hblank
    | cons b value =>
      have hb : ∃ b ∈ rest, isBlank b = false := by
        by_contra hall
        have hnil : rest.dropWhile isBlank = [] := by
          apply List.dropWhile_eq_nil_iff.mpr
          simpa using hall
        rw [hvalue] at hnil
        cases hnil
      simp [hvalue, hb]

/-- What the parser does after the empty line agrees with the grammar. -/
theorem endHeaders_completes {response : Response} (s : Bytes)
    (h : (endHeaders memory response).breaksOff = false) :
    (endHeaders memory response).Completes ended s ↔ Body ended response.headers s := by
  unfold endHeaders at h ⊢
  cases hlength : stoi (getHeaderValue response.headers (bytes "Content-Length") (bytes "0")) with
  | error exception =>
    rw [hlength] at h
    cases h
  | ok length =>
    rw [hlength] at h
    simp only [readContent, decide_eq_true_eq] at h ⊢
    unfold Body
    split
    · simp [Progress.Completes, Reading.Completes]
    · rename_i hchunked
      rw [if_neg hchunked] at h
      cases hvalue : response.headers.lookup (bytes "Content-Length") with
      | none => simp [Progress.Completes, Reading.Completes]
      | some value =>
        have hstoi : stoi value = .ok length := by
          simpa [getHeaderValue, hvalue] using hlength
        simp only [hvalue, hstoi, Option.isNone_some, Bool.false_eq_true, if_false,
          Except.ok.injEq, exists_eq_left'] at h ⊢
        split
        · rename_i hzero
          simp [Progress.Completes, hzero]
        · rename_i hzero
          rw [if_neg hzero] at h
          split
          · rename_i hmemory
            rw [if_pos hmemory] at h
            cases h
          · simp [Progress.Completes, Reading.Completes]

/-- If the parser throws at the empty line, a whole response has a body. -/
theorem endHeaders_breaksOff {response : Response} {s : Bytes}
    (h : (endHeaders memory response).breaksOff = true) (hs : Body ended response.headers s) :
    s ≠ [] := by
  rintro rfl
  unfold Body at hs
  split at hs
  · cases hs.newline_mem
  · rename_i hchunked
    unfold endHeaders at h
    cases hvalue : response.headers.lookup (bytes "Content-Length") with
    | none =>
      have hget : stoi (getHeaderValue response.headers (bytes "Content-Length") (bytes "0")) =
          .ok 0 := by
        have hzero : stoi (bytes "0") = .ok 0 := by decide +kernel
        simpa [getHeaderValue, hvalue] using hzero
      rw [hget] at h
      simp [readContent, hchunked, hvalue, Progress.breaksOff] at h
    | some value =>
      rw [hvalue] at hs
      obtain ⟨length, hstoi, hlength⟩ := hs
      have hget : stoi (getHeaderValue response.headers (bytes "Content-Length") (bytes "0")) =
          .ok length := by
        simpa [getHeaderValue, hvalue] using hstoi
      rw [hget] at h
      simp [readContent, hchunked, hvalue, ← hlength, Progress.breaksOff] at h

/-- What the parser does with a line agrees with the grammar. -/
theorem finish_completes {kind : LineKind} {start : Bytes} (hstart : newline ∉ start) (s : Bytes)
    (h : (kind.finish memory (start ++ [newline])).breaksOff = false) :
    (kind.finish memory (start ++ [newline])).Completes ended s ↔
      (Reading.line kind start).Completes ended (newline :: s) := by
  have hline : Line (start ++ [newline]) := ⟨start, hstart, rfl⟩
  have htext : start ++ newline :: s = (start ++ [newline]) ++ s := by simp
  generalize start ++ [newline] = line at hline h htext
  cases kind with
  | status =>
    simp only [LineKind.finish] at h ⊢
    split at h
    · cases h
    rename_i hfits
    simp only [if_neg hfits, Progress.Completes, Reading.Completes, htext, List.nil_append]
    constructor
    · intro hrest
      exact ⟨line, s, hline, hrest, rfl⟩
    · rintro ⟨line', rest, hline', hrest, heq⟩
      obtain ⟨rfl, rfl⟩ := hline.append_inj hline' heq
      exact hrest
  | header response =>
    simp only [Reading.Completes, htext, headerPart_line hline]
    by_cases hEOL : EOL <:+ line
    · by_cases hlength : line.length = 2
      · have hend : line = EOL := eol_iff.mpr ⟨hEOL, hlength⟩
        simp only [LineKind.finish, hEOL, hlength, not_true_eq_false, if_true, if_false] at h ⊢
        rw [if_pos hend]
        exact endHeaders_completes s h
      · have hne : line ≠ EOL := fun hend => hlength (eol_iff.mp hend).2
        rw [if_neg hne]
        simp only [LineKind.finish, hEOL, hlength, not_true_eq_false, if_false] at h ⊢
        cases hparse : parseHeaderLine line response.headers with
        | error exception =>
          rw [hparse] at h
          cases h
        | ok headers =>
          cases headers <;> simp [Progress.Completes, Reading.Completes, Headers.add, hEOL, hparse]
    · have hne : line ≠ EOL := fun hend => hEOL (eol_iff.mp hend).1
      rw [if_neg hne]
      simp [LineKind.finish, Progress.Completes, Reading.Completes, Headers.add, hEOL]
  | chunkSize response =>
    simp only [Reading.Completes, htext, chunks_line hline]
    simp only [LineKind.finish] at h ⊢
    split
    · simp [Progress.Completes, Reading.Completes]
    · rename_i hpos
      rw [if_neg hpos] at h
      split
      · rename_i hmemory
        rw [if_pos hmemory] at h
        cases h
      · simp [Progress.Completes, Reading.Completes]
  | chunkEnd last response =>
    simp only [Reading.Completes, htext]
    have hrest : (∃ rest, line ++ s = EOL ++ rest ∧ if last then rest = [] else Chunks rest) ↔
        line = EOL ∧ if last then s = [] else Chunks s := by
      constructor
      · rintro ⟨rest, heq, hrest⟩
        obtain ⟨rfl, rfl⟩ := hline.append_inj line_EOL heq
        exact ⟨rfl, hrest⟩
      · rintro ⟨rfl, hrest⟩
        exact ⟨s, rfl, hrest⟩
    rw [hrest]
    by_cases hEOL : line = EOL
    · cases last <;> simp [LineKind.finish, hEOL, Progress.Completes, Reading.Completes]
    · simp [LineKind.finish, hEOL, Progress.Completes]

/-- A line at which the parser breaks off is not the end of a whole response. -/
theorem finish_breaksOff {kind : LineKind} {start s : Bytes} (hstart : newline ∉ start)
    (h : (kind.finish memory (start ++ [newline])).breaksOff = true)
    (hs : (Reading.line kind start).Completes ended (newline :: s)) : s ≠ [] := by
  have hline : Line (start ++ [newline]) := ⟨start, hstart, rfl⟩
  have htext : start ++ newline :: s = (start ++ [newline]) ++ s := by simp
  generalize start ++ [newline] = line at hline h htext
  cases kind with
  | status =>
    obtain ⟨line', rest, hline', hrest, heq⟩ := hs
    rw [htext] at heq
    obtain ⟨rfl, rfl⟩ := hline.append_inj hline' heq
    exact List.ne_nil_of_mem hrest.newline_mem
  | header response =>
    simp only [Reading.Completes, htext, headerPart_line hline] at hs
    by_cases hEOL : EOL <:+ line
    · by_cases hlength : line.length = 2
      · have hend : line = EOL := eol_iff.mpr ⟨hEOL, hlength⟩
        simp only [LineKind.finish, hEOL, hlength, not_true_eq_false, if_true, if_false] at h
        rw [if_pos hend] at hs
        exact endHeaders_breaksOff h hs
      · have hne : line ≠ EOL := fun hend => hlength (eol_iff.mp hend).2
        rw [if_neg hne] at hs
        exact List.ne_nil_of_mem hs.newline_mem
    · simp [LineKind.finish, hEOL, Progress.breaksOff] at h
  | chunkSize response =>
    simp only [Reading.Completes, htext, chunks_line hline] at hs
    simp only [LineKind.finish] at h
    split at hs
    · rename_i hzero
      rw [if_pos hzero] at h
      cases h
    · obtain ⟨data, rest, _, rfl, hrest⟩ := hs
      exact List.ne_nil_of_mem (List.mem_append_right _ (List.mem_append_left _ line_EOL.newline_mem))
  | chunkEnd last response =>
    by_cases hEOL : line = EOL
    · cases last <;> simp [LineKind.finish, hEOL, Progress.breaksOff] at h
    · simp [LineKind.finish, hEOL, Progress.breaksOff] at h

theorem finish_open {kind : LineKind} {line : Bytes} {next : Reading}
    (h : (kind.finish memory line).reading? = some next) : next.Open := by
  cases kind with
  | status =>
    simp only [LineKind.finish] at h
    grind [Progress.reading?, Reading.Open]
  | header response =>
    simp only [LineKind.finish, endHeaders, readContent] at h
    grind [Progress.reading?, Reading.Open]
  | chunkSize response =>
    simp only [LineKind.finish] at h
    grind [Progress.reading?, Reading.Open]
  | chunkEnd last response =>
    simp only [LineKind.finish] at h
    grind [Progress.reading?, Reading.Open]

theorem push_open {next : Reading} {b : UInt8} (hopen : reading.Open)
    (h : (reading.push memory b).reading? = some next) : next.Open := by
  cases reading with
  | line kind start =>
    by_cases hb : b = newline
    · rw [Reading.push, if_pos hb] at h
      exact finish_open h
    · rw [Reading.push, if_neg hb] at h
      obtain rfl := Option.some.inj h
      have hstart : newline ∉ start := hopen
      have hne : newline ≠ b := fun he => hb he.symm
      simp [Reading.Open, hstart, hne]
  | fixed kind bufSize buf =>
    by_cases hlast : bufSize ≤ 1
    · rw [Reading.push, if_pos hlast] at h
      cases kind <;> simp [BlockKind.finish, Progress.reading?] at h
      rw [← h]
      simp [Reading.Open]
    · rw [Reading.push, if_neg hlast] at h
      obtain rfl := Option.some.inj h
      simp only [Reading.Open]
      omega
  | indefinite response =>
    obtain rfl := Option.some.inj h
    trivial

/-- A byte takes the parser one byte further in the grammar. -/
theorem push_completes {b : UInt8} (hopen : reading.Open) (s : Bytes)
    (h : (reading.push memory b).breaksOff = false) :
    (reading.push memory b).Completes ended s ↔ reading.Completes ended (b :: s) := by
  cases reading with
  | line kind start =>
    by_cases hb : b = newline
    · subst hb
      simp only [Reading.push, if_true] at h ⊢
      exact finish_completes hopen s h
    · simp only [Reading.push, if_neg hb, Progress.Completes]
      have htext : (start ++ [b]) ++ s = start ++ b :: s := by simp
      cases kind <;> simp only [Reading.Completes, htext]
  | fixed kind bufSize buf =>
    have hpos : 0 < bufSize := hopen
    by_cases hlast : bufSize ≤ 1
    · have hone : bufSize = 1 := by omega
      subst hone
      cases kind with
      | content response => simp [Reading.push, BlockKind.finish, Progress.Completes, Reading.Completes]
      | chunk response =>
        simp only [Reading.push, BlockKind.finish, le_refl, if_true, Progress.Completes,
          Reading.Completes, List.nil_append]
        constructor
        · rintro ⟨rest, rfl, hrest⟩
          exact ⟨[b], rest, rfl, rfl, by simpa using hrest⟩
        · rintro ⟨data, rest, hlength, heq, hrest⟩
          obtain ⟨b', rfl⟩ := List.length_eq_one_iff.mp hlength
          obtain ⟨rfl, rfl⟩ := List.cons.inj heq
          exact ⟨rest, rfl, by simpa using hrest⟩
    · simp only [Reading.push, if_neg hlast, Progress.Completes]
      cases kind with
      | content response =>
        simp only [Reading.Completes, List.length_cons]
        omega
      | chunk response =>
        simp only [Reading.Completes]
        constructor
        · rintro ⟨data, rest, hlength, rfl, hrest⟩
          exact ⟨b :: data, rest, by simp only [List.length_cons]; omega, rfl, hrest⟩
        · rintro ⟨data, rest, hlength, heq, hrest⟩
          cases data with
          | nil =>
            simp only [List.length_nil] at hlength
            omega
          | cons b' data =>
            obtain ⟨rfl, rfl⟩ := List.cons.inj heq
            refine ⟨data, rest, ?_, rfl, hrest⟩
            simp only [List.length_cons] at hlength
            omega
  | indefinite response => simp [Reading.push, Progress.Completes, Reading.Completes]

theorem push_breaksOff {b : UInt8} {s : Bytes} (hopen : reading.Open)
    (h : (reading.push memory b).breaksOff = true) (hs : reading.Completes ended (b :: s)) :
    s ≠ [] := by
  cases reading with
  | line kind start =>
    by_cases hb : b = newline
    · subst hb
      simp only [Reading.push, if_true] at h
      exact finish_breaksOff hopen h hs
    · simp [Reading.push, hb, Progress.breaksOff] at h
  | fixed kind bufSize buf =>
    by_cases hlast : bufSize ≤ 1
    · cases kind <;> simp [Reading.push, hlast, BlockKind.finish, Progress.breaksOff] at h
    · simp [Reading.push, hlast, Progress.breaksOff] at h
  | indefinite response => simp [Reading.push, Progress.breaksOff] at h

theorem reading?_of_breaksOff {progress : Progress} (h : progress.breaksOff = true) :
    progress.reading? = none := by
  cases progress with
  | thrown exception => rfl
  | overrun => rfl
  | _ => cases h

theorem completes_reading {progress : Progress} (h : progress.reading? = some reading) (s : Bytes) :
    progress.Completes ended s ↔ reading.Completes ended s := by
  cases progress <;> cases h <;> exact Iff.rfl

/-- Where the parser is after a text, and what is still missing. -/
theorem run_completes {progress progress' : Progress} {s : Bytes}
    (hopen : ∀ reading, progress.reading? = some reading → reading.Open)
    (hrun : progress.run memory s = (progress', []))
    (h : progress'.breaksOff = false) (rest : Bytes) :
    progress'.Completes ended rest ↔ progress.Completes ended (s ++ rest) := by
  induction s generalizing progress with
  | nil =>
    obtain ⟨rfl, -⟩ := Prod.mk.inj hrun
    exact Iff.rfl
  | cons b s ih =>
    cases hreading : progress.reading? with
    | none =>
      rw [Progress.run_of_stopped hreading] at hrun
      cases hrun
    | some reading =>
      rw [Progress.run_cons hreading] at hrun
      have hpush : (reading.push memory b).breaksOff = false := by
        rw [← Bool.not_eq_true]
        intro hbroken
        rw [Progress.run_of_stopped (reading?_of_breaksOff hbroken)] at hrun
        rw [(Prod.mk.inj hrun).1, h] at hbroken
        cases hbroken
      rw [ih (fun _ => push_open (hopen reading hreading)) hrun, completes_reading hreading]
      exact push_completes (hopen reading hreading) _ hpush

/-- A text at whose last byte the parser breaks off is no whole response. -/
theorem not_completes_of_breaksOff {progress progress' : Progress} {s : Bytes}
    (hopen : ∀ reading, progress.reading? = some reading → reading.Open)
    (hrun : progress.run memory s = (progress', [])) (h : progress'.breaksOff = true) :
    ¬ progress.Completes ended s := by
  induction s generalizing progress with
  | nil =>
    obtain ⟨rfl, -⟩ := Prod.mk.inj hrun
    cases progress with
    | thrown exception => exact id
    | overrun => exact id
    | _ => cases h
  | cons b s ih =>
    cases hreading : progress.reading? with
    | none =>
      rw [Progress.run_of_stopped hreading] at hrun
      cases hrun
    | some reading =>
      rw [Progress.run_cons hreading] at hrun
      rw [completes_reading hreading]
      intro hs
      by_cases hpush : (reading.push memory b).breaksOff = true
      · rw [Progress.run_of_stopped (reading?_of_breaksOff hpush)] at hrun
        exact push_breaksOff (hopen reading hreading) hpush hs (Prod.mk.inj hrun).2
      · rw [Bool.not_eq_true] at hpush
        apply ih (fun _ => push_open (hopen reading hreading)) hrun
        exact (push_completes (hopen reading hreading) s hpush).mpr hs

/-- Only a body without a length is complete when nothing follows. -/
theorem not_completes_nil (hopen : reading.Open) (hkind : ∀ response, reading ≠ .indefinite response) :
    ¬ reading.Completes ended [] := by
  cases reading with
  | line kind start =>
    have hstart : newline ∉ start := hopen
    intro h
    apply hstart
    cases kind with
    | status =>
      obtain ⟨status, rest, hstatus, _, heq⟩ := h
      rw [List.append_nil] at heq
      exact heq ▸ List.mem_append_left _ hstatus.newline_mem
    | header response => simpa using HeaderPart.newline_mem h
    | chunkSize response => simpa using Chunks.newline_mem h
    | chunkEnd last response =>
      obtain ⟨rest, heq, _⟩ := h
      rw [List.append_nil] at heq
      exact heq ▸ List.mem_append_left _ line_EOL.newline_mem
  | fixed kind bufSize buf =>
    have hpos : 0 < bufSize := hopen
    intro h
    cases kind with
    | content response =>
      have hzero : 0 = bufSize := h
      omega
    | chunk response =>
      obtain ⟨data, rest, hlength, heq, _⟩ := h
      have hEOL : newline ∈ data ++ (EOL ++ rest) :=
        List.mem_append_right _ (List.mem_append_left _ line_EOL.newline_mem)
      rw [← heq] at hEOL
      cases hEOL
  | indefinite response => exact absurd rfl (hkind response)

theorem whole_reading {progress : Progress} (h : progress.reading? = some reading) :
    progress.whole ended = (reading.isIndefinite && ended) := by
  cases progress <;> cases h <;> rfl

theorem isIndefinite_eq_false (h : ∀ response, reading ≠ .indefinite response) :
    reading.isIndefinite = false := by
  cases reading with
  | indefinite response => exact absurd rfl (h response)
  | _ => rfl

/-- Nothing is missing when the parser is done, or reads on until the connection ends. -/
theorem completes_nil {progress : Progress}
    (hopen : ∀ reading, progress.reading? = some reading → reading.Open)
    (h : progress.breaksOff = false) :
    progress.Completes ended [] ↔ progress.whole ended = true := by
  have hreading : ∀ reading, progress.reading? = some reading →
      (reading.Completes ended [] ↔ reading.isIndefinite = true ∧ ended = true) := by
    intro reading hreading
    cases hkind : reading with
    | indefinite response => simp [Reading.Completes, Reading.isIndefinite]
    | _ =>
      have hnot : ¬ reading.Completes ended [] :=
        not_completes_nil (hopen reading hreading) (by rw [hkind]; nofun)
      rw [hkind] at hnot
      simp [hnot, Reading.isIndefinite]
  cases progress with
  | more reading => simpa [Progress.whole, Progress.Completes] using hreading reading rfl
  | next reading => simpa [Progress.whole, Progress.Completes] using hreading reading rfl
  | done response => simp [Progress.Completes, Progress.whole]
  | retry => simp [Progress.Completes, Progress.whole]
  | failed => simp [Progress.Completes, Progress.whole]
  | thrown exception => cases h
  | overrun => cases h

/-! ### What makes the parser break off -/

theorem endHeaders_accepts {response : Response} (h : LengthAccepted memory response.headers) :
    (endHeaders memory response).breaksOff = false := by
  unfold LengthAccepted at h
  unfold endHeaders
  cases hlength : stoi (getHeaderValue response.headers (bytes "Content-Length") (bytes "0")) with
  | error e =>
    rw [hlength] at h
    cases h
  | ok length =>
    simp only [hlength] at h
    simp only [readContent, decide_eq_true_eq]
    split
    · rfl
    · rename_i hchunked
      obtain ⟨hlow, hhigh⟩ := h.resolve_left hchunked
      split
      · rfl
      · split
        · rfl
        · rw [if_neg (by omega)]
          rfl

theorem finish_accepts {kind : LineKind} {line : Bytes} (h : kind.Accepts memory line) :
    (kind.finish memory line).breaksOff = false := by
  cases kind with
  | status =>
    have hfits : overrunsVersion line = false := h
    simp [LineKind.finish, hfits, Progress.breaksOff]
  | header response =>
    simp only [LineKind.finish]
    split
    · rfl
    · rename_i hEOL
      have hline := h (not_not.mp hEOL)
      split
      · rename_i hlength
        rw [if_pos hlength] at hline
        exact endHeaders_accepts hline
      · rename_i hlength
        rw [if_neg hlength] at hline
        cases hparse : parseHeaderLine line response.headers with
        | error e => exact absurd hline (parseHeaderLine_error_iff.mp ⟨e, hparse⟩)
        | ok headers => cases headers <;> rfl
  | chunkSize response =>
    have hmemory : strtoul line ≤ memory := h.1
    simp only [LineKind.finish]
    split
    · rfl
    · rw [if_neg (by omega)]
      rfl
  | chunkEnd last response =>
    simp only [LineKind.finish]
    split
    · rfl
    · split <;> rfl

/-- When the connection has ended, only a body without a length is complete; anything else is
found out at the latest by the next call of `recv`. -/
theorem atEnd_cases (memory : Nat) (hopen : reading.Open) :
    (∃ response, reading = .indefinite response ∧ reading.atEnd memory = .done response) ∨
      (∀ response, reading ≠ .indefinite response) ∧
        (reading.atEnd memory = .retry ∨ reading.atEnd memory = .failed ∨
          (reading.atEnd memory).breaksOff = true ∨
          ∃ next, (reading.atEnd memory).reading? = some next ∧ next.atEnd memory = .failed) := by
  cases reading with
  | line kind start =>
    refine .inr ⟨nofun, ?_⟩
    simp only [Reading.atEnd]
    split
    · cases kind <;> simp [LineKind.fault]
    · have hstart : newline ∉ start := hopen
      have hEOL : ¬ EOL <:+ start := fun hsuffix => hstart (hsuffix.subset line_EOL.newline_mem)
      right
      cases kind with
      | status =>
        simp only [LineKind.finish]
        split
        · exact .inr (.inl rfl)
        · exact .inr (.inr ⟨_, rfl, rfl⟩)
      | header response =>
        simp only [LineKind.finish, hEOL, not_false_eq_true, if_true]
        exact .inr (.inr ⟨_, rfl, rfl⟩)
      | chunkSize response =>
        simp only [LineKind.finish]
        split
        · exact .inr (.inr ⟨_, rfl, rfl⟩)
        · split
          · exact .inr (.inl rfl)
          · exact .inr (.inr ⟨_, rfl, rfl⟩)
      | chunkEnd last response =>
        have hline : start ≠ EOL := fun heq => hEOL (heq ▸ List.suffix_refl _)
        simp [LineKind.finish, hline]
  | fixed kind bufSize buf => exact .inr ⟨nofun, .inr (.inl rfl)⟩
  | indefinite response => exact .inl ⟨response, rfl, rfl⟩

theorem stoi_range {value : Bytes} {length : Int} (h : stoi value = .ok length) :
    -0x80000000 ≤ length ∧ length ≤ 0x7fffffff := by
  unfold stoi at h
  cases hstrtol : strtol value with
  | none => simp [hstrtol] at h
  | some n =>
    simp only [hstrtol] at h
    split at h
    · cases h
    · obtain rfl := Except.ok.inj h
      omega

theorem accepts_of_done {kind : LineKind} {line : Bytes} {response : Response}
    (h : kind.finish memory line = .done response) : kind.Accepts memory line := by
  cases kind with
  | status =>
    simp only [LineKind.finish] at h
    split at h <;> cases h
  | header response' =>
    intro hEOL
    split
    · rename_i hlength
      simp only [LineKind.finish, hEOL, hlength, not_true_eq_false, if_false, if_true,
        endHeaders] at h
      unfold LengthAccepted
      cases hstoi : stoi (getHeaderValue response'.headers (bytes "Content-Length") (bytes "0")) with
      | error e => simp [hstoi] at h
      | ok length =>
        have hrange := stoi_range hstoi
        simp only [hstoi, readContent, decide_eq_true_eq] at h
        split at h
        · cases h
        · split at h
          · cases h
          · split at h
            · omega
            · split at h <;> cases h
    · rename_i hlength
      simp only [LineKind.finish, hEOL, hlength, not_true_eq_false, if_false] at h
      cases hparse : parseHeaderLine line response'.headers with
      | error e => simp [hparse] at h
      | ok headers => cases headers <;> simp [hparse] at h
  | chunkSize response' =>
    simp only [LineKind.finish] at h
    split at h
    · cases h
    · split at h <;> cases h
  | chunkEnd last response' => trivial

theorem atEnd_accepts (h : reading.Accepts memory []) :
    (reading.atEnd memory).breaksOff = false := by
  cases reading with
  | line kind start =>
    simp only [Reading.atEnd]
    split
    · cases kind <;> rfl
    · rename_i hstart
      have hkind : kind.Accepts memory (start ++ []) := h (.inr ⟨rfl, hstart⟩)
      rw [List.append_nil] at hkind
      exact finish_accepts hkind
  | fixed kind bufSize buf => rfl
  | indefinite response => rfl

theorem accepts_of_atEnd {response : Response} (h : reading.atEnd memory = .done response) :
    reading.Accepts memory [] := by
  cases reading with
  | line kind start =>
    intro hend
    rcases hend with hend | ⟨_, hstart⟩
    · cases hend
    · rw [Reading.atEnd, if_neg hstart] at h
      rw [List.append_nil]
      exact accepts_of_done h
  | fixed kind bufSize buf => trivial
  | indefinite response' => trivial

theorem receive_line {kind : LineKind} {start data : Bytes} (hdata : data.length ≤ 1)
    (hne : data ≠ []) :
    (Reading.line kind start).receive memory data =
      if data = [newline] then kind.finish memory (start ++ data)
      else .more (.line kind (start ++ data)) := by
  obtain ⟨b, rfl⟩ : ∃ b, data = [b] := by
    cases data with
    | nil => exact absurd rfl hne
    | cons b rest =>
      have hrest : rest = [] := by simpa using hdata
      exact ⟨b, by rw [hrest]⟩
  by_cases hb : b = newline
  · simp [Reading.receive, Progress.run, Progress.reading?, Reading.push, hb]
  · simp [Reading.receive, Progress.run, Progress.reading?, Reading.push, hb]

/-- The parser breaks off in no block of a body. -/
theorem receive_block (hkind : ∀ kind start, reading ≠ .line kind start) {data : Bytes}
    (hdata : data.length ≤ reading.wanted) : (reading.receive memory data).breaksOff = false := by
  unfold Reading.receive
  induction data generalizing reading with
  | nil => rfl
  | cons b data ih =>
    rw [Progress.run_cons rfl]
    cases reading with
    | line kind start => exact absurd rfl (hkind kind start)
    | fixed kind bufSize buf =>
      simp only [Reading.wanted, List.length_cons] at hdata
      by_cases hlast : bufSize ≤ 1
      · have hnil : data = [] := List.length_eq_zero_iff.mp (by omega)
        rw [hnil, Reading.push, if_pos hlast]
        cases kind <;> rfl
      · rw [Reading.push, if_neg hlast]
        exact ih (fun _ _ h => by cases h) (by simp only [Reading.wanted]; omega)
    | indefinite response =>
      simp only [Reading.wanted, List.length_cons] at hdata
      exact ih (fun _ _ h => by cases h) (by simp only [Reading.wanted]; omega)

theorem receive_accepts {data : Bytes} (hdata : data.length ≤ reading.wanted) (hne : data ≠ [])
    (h : reading.Accepts memory data) : (reading.receive memory data).breaksOff = false := by
  cases reading with
  | line kind start =>
    rw [receive_line hdata hne]
    split
    · rename_i hend
      exact finish_accepts (h (.inl hend))
    · rfl
  | fixed kind bufSize buf => exact receive_block (fun _ _ h => by cases h) hdata
  | indefinite response => exact receive_block (fun _ _ h => by cases h) hdata

/-- The parser has taken the line with which it ends. -/
theorem accepts_of_receive {data : Bytes} {response : Response} (hdata : data.length ≤ reading.wanted)
    (hne : data ≠ []) (h : reading.receive memory data = .done response) :
    reading.Accepts memory data := by
  cases reading with
  | line kind start =>
    rw [receive_line hdata hne] at h
    intro hend
    split at h
    · exact accepts_of_done h
    · cases h
  | fixed kind bufSize buf => trivial
  | indefinite response' => trivial

end Parsing

/-! ### Whole texts -/

section Texts

variable {memory : Nat} {text data : Bytes} {reading : Reading}

theorem responseStart_open (reading : Reading) (h : responseStart.reading? = some reading) :
    reading.Open := by
  obtain rfl := Option.some.inj h
  simp [Reading.Open]

theorem run_open {progress : Progress} (hopen : ∀ reading, progress.reading? = some reading →
    reading.Open) (s : Bytes) (h : (progress.run memory s).1.reading? = some reading) :
    reading.Open := by
  induction s generalizing progress with
  | nil => exact hopen reading h
  | cons b s ih =>
    cases hreading : progress.reading? with
    | none =>
      rw [Progress.run_of_stopped hreading] at h
      exact hopen reading h
    | some reading' =>
      rw [Progress.run_cons hreading] at h
      exact ih (fun _ => push_open (hopen reading' hreading)) h

theorem run_receive_of_run {progress : Progress} (htext : responseStart.run memory text = (progress, []))
    (hreading : progress.reading? = some reading) (hdata : data.length ≤ reading.wanted)
    (hne : data ≠ []) :
    responseStart.run memory (text ++ data) = (reading.receive memory data, []) := by
  rw [Progress.run_append (by rw [htext]), htext, Progress.run_eq hreading hne]
  exact Prod.ext rfl (Reading.run_wanted hdata)

/-- What a request has read is one whole response exactly when the parser is done with it. -/
theorem message_iff_whole {progress : Progress} {ended : Bool}
    (htext : responseStart.run memory text = (progress, [])) :
    Message ended text ↔ progress.whole ended = true := by
  cases hbroken : progress.breaksOff with
  | true =>
    have hnot : ¬ Message ended text := not_completes_of_breaksOff responseStart_open htext hbroken
    have hwhole : progress.whole ended = false := by
      cases progress with
      | thrown exception => rfl
      | overrun => rfl
      | _ => cases hbroken
    simp [hnot, hwhole]
  | false =>
    have hcompletes : progress.Completes ended [] ↔ responseStart.Completes ended (text ++ []) :=
      run_completes responseStart_open htext hbroken []
    rw [List.append_nil] at hcompletes
    refine hcompletes.symm.trans (completes_nil ?_ hbroken)
    intro reading hreading
    exact run_open responseStart_open text (by rw [htext]; exact hreading)

end Texts

end PeakAnalyser

import PeakAnalyser.RequestRoundTrip

/-!
# What a peer can do to the notification server

Any bytes can arrive on the notification port. Only the JSON part of `clientHandler` is
guarded, so the lines before it decide whether the thread survives: the word that `sscanf`
puts into `char method[10]`, the value of each header, and the number that gives the length
of the content.
-/

namespace PeakAnalyser

set_option autoImplicit false

open Feeding Runs

/-- What `sscanf(requestLine, "%s", method)` stores: the word and its final 0, or nothing. -/
def scanMethod (line : Bytes) : Bytes :=
  if scanWord line = [] then [] else scanWord line ++ [0]

/-- The line fills a part of `char method[10]`, and no more than that. -/
def MethodHeld (line : Bytes) : Prop :=
  0 < (scanMethod line).length ∧ (scanMethod line).length ≤ 10

def harmlessRequestLine (line : Bytes) : Bool :=
  0 < (scanWord line).length && (scanWord line).length ≤ 9

/-- The header has no value or one that is not blank; the end of the headers finds a length
that is a number from 0 on, in the range of `int`. -/
def harmlessHeader (request : ReceivedRequest) (line : Bytes) : Bool :=
  if ¬ EOL <:+ line then true
  else if line.length = 2 then
    match stoi (getHeaderValue request.headers (bytes "Content-Length") (bytes "0")) with
    | .error _ => false
    | .ok length => 0 ≤ length
  else
    match line.dropWhile (· ≠ 58) with
    | [] => true
    | _ :: value => value.any fun b => !isBlank b

theorem methodHeld_iff (line : Bytes) : MethodHeld line ↔ harmlessRequestLine line = true := by
  unfold MethodHeld scanMethod harmlessRequestLine
  rw [Bool.and_eq_true, decide_eq_true_iff, decide_eq_true_iff]
  by_cases hword : scanWord line = []
  · simp [hword]
  · have hpos : 0 < (scanWord line).length := List.length_pos_iff.mpr hword
    rw [if_neg hword, List.length_append, List.length_singleton]
    omega

theorem finishRequestLine_ne_thrown (line : Bytes) (exception : StdException) :
    finishRequestLine line ≠ .thrown exception := by
  intro h
  unfold finishRequestLine at h
  split at h <;> cases h

/-- `std::stoi` gives an `int`. -/
theorem stoi_bounds {s : Bytes} {n : Int} (h : stoi s = .ok n) :
    -0x80000000 ≤ n ∧ n ≤ 0x7fffffff := by
  unfold stoi at h
  split at h
  · cases h
  · split at h
    · cases h
    · rename_i hrange
      obtain rfl := Except.ok.inj h
      omega

/-- A negative length becomes a `size_t` that no vector can have. -/
theorem toNat_le_maxSize_iff {n : Int} (h : -0x80000000 ≤ n ∧ n ≤ 0x7fffffff) :
    (n % 0x10000000000000000).toNat ≤ maxSize ↔ 0 ≤ n := by
  unfold maxSize
  obtain ⟨hlow, hhigh⟩ := h
  constructor
  · intro hle
    by_contra hneg
    have hmod : n % 0x10000000000000000 = n + 0x10000000000000000 := by omega
    omega
  · intro hpos
    have hmod : n % 0x10000000000000000 = n := by omega
    omega

theorem endRequestHeaders_safe_iff (request : ReceivedRequest) :
    (∀ exception, endRequestHeaders request ≠ .thrown exception) ↔
      ∃ length, stoi (getHeaderValue request.headers (bytes "Content-Length") (bytes "0")) =
        .ok length ∧ 0 ≤ length := by
  unfold endRequestHeaders
  cases hstoi : stoi (getHeaderValue request.headers (bytes "Content-Length") (bytes "0")) with
  | error exception =>
    constructor
    · intro h
      exact absurd rfl (h exception)
    · intro h
      obtain ⟨length, hlength, _⟩ := h
      cases hlength
  | ok length =>
    have hsize := toNat_le_maxSize_iff (stoi_bounds hstoi)
    dsimp only
    constructor
    · intro h
      refine ⟨length, rfl, ?_⟩
      by_contra hneg
      have hlarge : maxSize < (length % 0x10000000000000000).toNat :=
        Nat.lt_of_not_le fun hle => hneg (hsize.mp hle)
      have hne : (length % 0x10000000000000000).toNat ≠ 0 := by omega
      apply h .allocation
      rw [if_neg hne, if_pos hlarge]
    · intro h exception
      obtain ⟨length', hlength, hpos⟩ := h
      obtain rfl := Except.ok.inj hlength
      have hfits : ¬ maxSize < (length % 0x10000000000000000).toNat :=
        Nat.not_lt_of_le (hsize.mpr hpos)
      intro hthrown
      split at hthrown
      · cases hthrown
      · cases hthrown

theorem parseHeaderLine_safe_iff (line : Bytes) (headers : Headers) :
    (∀ exception, parseHeaderLine line headers ≠ .error exception) ↔
      ∀ colon value, line.dropWhile (· ≠ 58) = colon :: value → ∃ b ∈ value, isBlank b = false := by
  unfold parseHeaderLine
  cases hcolon : line.dropWhile (· ≠ 58) with
  | nil => simp
  | cons colon value =>
    dsimp only
    constructor
    · intro h colon' value' heq
      obtain ⟨_, rfl⟩ := List.cons.inj heq
      by_contra hblank
      have hall : ∀ b ∈ value, isBlank b = true := by
        intro b hb
        by_contra hne
        exact hblank ⟨b, hb, by simpa using hne⟩
      have hnil : value.dropWhile isBlank = [] := List.dropWhile_eq_nil_iff.mpr hall
      apply h .outOfRange
      rw [hnil]
    · intro h exception hthrown
      obtain ⟨b, hb, hvisible⟩ := h colon value rfl
      cases hvalue : value.dropWhile isBlank with
      | nil =>
        have hblank := List.dropWhile_eq_nil_iff.mp hvalue b hb
        rw [hvisible] at hblank
        cases hblank
      | cons b' rest =>
        rw [hvalue] at hthrown
        cases hthrown

theorem finishRequestHeader_safe_iff (request : ReceivedRequest) (line : Bytes) :
    (∀ exception, finishRequestHeader request line ≠ .thrown exception) ↔
      harmlessHeader request line = true := by
  unfold finishRequestHeader harmlessHeader
  by_cases hEOL : EOL <:+ line
  · rw [if_neg (not_not.mpr hEOL), if_neg (not_not.mpr hEOL)]
    by_cases hlength : line.length = 2
    · rw [if_pos hlength, if_pos hlength, endRequestHeaders_safe_iff]
      cases stoi (getHeaderValue request.headers (bytes "Content-Length") (bytes "0")) <;> simp
    · rw [if_neg hlength, if_neg hlength]
      have hparse := parseHeaderLine_safe_iff line request.headers
      have hvalue : (∀ exception, parseHeaderLine line request.headers ≠ .error exception) ↔
          (match line.dropWhile (· ≠ 58) with
            | [] => true
            | _ :: value => value.any fun b => !isBlank b) = true := by
        rw [hparse]
        cases line.dropWhile (· ≠ 58) <;> simp
      rw [← hvalue]
      cases parseHeaderLine line request.headers with
      | error exception =>
        constructor
        · intro h
          exact absurd rfl (h exception)
        · intro h
          exact absurd rfl (h exception)
      | ok headers => cases headers <;> simp
  · rw [if_pos hEOL, if_pos hEOL]
    simp

/-- The next header line is read from its beginning. -/
theorem finishRequestHeader_header {request request' : ReceivedRequest} {line line' : Bytes}
    (h : finishRequestHeader request line = .reading (.header request' line')) : line' = [] := by
  unfold finishRequestHeader at h
  split at h
  · cases h
    rfl
  · split at h
    · unfold endRequestHeaders at h
      split at h
      · cases h
      · dsimp only at h
        split at h
        · cases h
        · split at h <;> cases h
    · split at h
      · cases h
      · cases h
        rfl
      · cases h
        rfl

/-! ### One step -/

/-- The line with which a call of `readLine` returns, if `recv` hands over `data`; no bytes are
the end of the connection. -/
def readLine (line data : Bytes) : Option Bytes :=
  match data with
  | [] => if line = [] then none else some line
  | b :: _ => if b = newline then some (line ++ [b]) else none

namespace NotificationConnection

variable (c : NotificationConnection)

/-- The line that the handler has when this call of `recv` returns. -/
def lineRead (line : Bytes) : SysResult → Option Bytes
  | .amount n => readLine line (c.incoming.take n)
  | _ => none

/-- The step does not end a line that the handler cannot stand. -/
def harmless : ConnectionLabel → Bool
  | .clientHandler result =>
    match c.place with
    | .reading (.requestLine line) => (c.lineRead line result).all harmlessRequestLine
    | .reading (.header request line) => (c.lineRead line result).all (harmlessHeader request)
    | _ => true
  | _ => true

/-- No exception has left the thread. -/
def Survives : Prop := ∀ exception, c.place ≠ .terminated exception

/-- The request line of the step, if it reads one, keeps to the buffer of `method`. -/
def KeepsBuffer : ConnectionLabel → Prop
  | .clientHandler result =>
    ∀ line, c.place = .reading (.requestLine line) → ∀ whole ∈ c.lineRead line result,
      MethodHeld whole
  | _ => True

/-- The handler waits for bytes that the peer may still send. -/
def Waits : Prop :=
  c.incoming = [] ∧ c.hungUp = false ∧ (c.place = .select ∨ ∃ reading, c.place = .reading reading)

/-- What the handler still has to do before it asks for another byte. -/
def restRank : ClientHandlerPlace → Nat
  | .ended | .terminated _ => 0
  | .reading (.requestLine []) => 1
  | .reading (.header _ []) => 2
  | .reading (.requestLine _) => 3
  | .select => 4
  | .respond _ => 5
  | .callback _ => 6
  | .reading (.content _ _ _) => 7
  | .reading (.header _ _) => 8

def remaining : Nat := 9 * (c.pending.length + c.incoming.length) + restRank c.place

/-- Every reading function of the handler asks for something. -/
def Asks : Prop := ∀ reading, c.place = .reading reading → 0 < reading.wanted

variable {c} {c' : NotificationConnection} {reading : RequestReading} {progress : RequestProgress}

theorem restRank_le (place : ClientHandlerPlace) : restRank place ≤ 8 := by
  unfold restRank
  split <;> decide

theorem survives_proceed_iff :
    (c.proceed progress).Survives ↔ ∀ exception, progress ≠ .thrown exception := by
  cases progress <;> simp [proceed, Survives]

/-- A place of the handler in `readLine`, and what its caller does with the line. -/
structure ReadsLine (reading : Bytes → RequestReading) (finish : Bytes → RequestProgress) :
    Prop where
  push : ∀ line b, (reading line).push b =
    if b = newline then finish (line ++ [b]) else .reading (reading (line ++ [b]))
  atEnd : ∀ line, (reading line).atEnd = if line = [] then .destroyed else finish line
  fault : ∀ line, (reading line).fault = .destroyed
  wanted : ∀ line, (reading line).wanted = 1

theorem readsLine_requestLine : ReadsLine .requestLine finishRequestLine :=
  ⟨fun _ _ => rfl, fun _ => rfl, fun _ => rfl, fun _ => rfl⟩

theorem readsLine_header (request : ReceivedRequest) :
    ReadsLine (.header request) (finishRequestHeader request) :=
  ⟨fun _ _ => rfl, fun _ => rfl, fun _ => rfl, fun _ => rfl⟩

section Lines

variable {place : Bytes → RequestReading} {finish : Bytes → RequestProgress} {line : Bytes}
  {result : SysResult}

/-- What the parser makes of the byte of one call. -/
theorem run_byte (hline : ReadsLine place finish) {data : Bytes} (hdata : data.length = 1) :
    (run RequestProgress.take (.reading (place line)) data).1 =
      match readLine line data with
      | none => .reading (place (line ++ data))
      | some whole => finish whole := by
  obtain ⟨b, rfl⟩ := List.length_eq_one_iff.mp hdata
  rw [run_cons rfl, run_nil, hline.push]
  dsimp only [readLine]
  split <;> rfl

/-- A call of `recv` in `readLine` throws what comes of the line that it ends. -/
theorem survives_line_iff (hline : ReadsLine place finish)
    (h : c.recv (place line) result = some c') :
    c'.Survives ↔ ∀ whole ∈ c.lineRead line result, ∀ exception, finish whole ≠ .thrown exception := by
  cases result with
  | ok => cases h
  | descriptor fd => cases h
  | fault =>
    obtain rfl := Option.some.inj h
    rw [survives_proceed_iff, hline.fault]
    simp [lineRead]
  | amount n =>
    simp only [recv] at h
    split at h
    · rename_i hzero
      subst hzero
      split at h
      · obtain rfl := Option.some.inj h
        rw [survives_proceed_iff, hline.atEnd]
        dsimp only [lineRead, List.take_zero, readLine]
        by_cases hempty : line = []
        · simp [hempty]
        · simp [hempty]
      · cases h
    · rename_i hpos
      split at h
      · rename_i hn
        obtain ⟨hwanted, hlength⟩ := hn
        obtain rfl := Option.some.inj h
        have hone : (c.incoming.take n).length = 1 := by
          rw [hline.wanted] at hwanted
          rw [List.length_take]
          omega
        rw [survives_proceed_iff, run_byte hline hone]
        dsimp only [lineRead]
        cases readLine line (c.incoming.take n) <;> simp
      · cases h

end Lines

/-- Reading content throws nothing. -/
theorem run_content_safe {request : ReceivedRequest} {bufSize : Nat} {buf data : Bytes}
    (exception : StdException) :
    (run RequestProgress.take (.reading (.content request bufSize buf)) data).1 ≠
      .thrown exception := by
  induction data generalizing bufSize buf with
  | nil =>
    intro h
    cases h
  | cons b rest ih =>
    rw [run_cons rfl]
    simp only [RequestReading.push]
    split
    · rw [run_of_stopped rfl]
      intro h
      cases h
    · exact ih

theorem survives_content {request : ReceivedRequest} {bufSize : Nat} {buf : Bytes}
    {result : SysResult} (h : c.recv (.content request bufSize buf) result = some c') :
    c'.Survives := by
  cases result with
  | ok => cases h
  | descriptor fd => cases h
  | fault =>
    obtain rfl := Option.some.inj h
    rw [survives_proceed_iff]
    intro exception hthrown
    cases hthrown
  | amount n =>
    simp only [recv] at h
    split at h
    · split at h
      · obtain rfl := Option.some.inj h
        rw [survives_proceed_iff]
        intro exception hthrown
        cases hthrown
      · cases h
    · split at h
      · obtain rfl := Option.some.inj h
        rw [survives_proceed_iff]
        exact run_content_safe
      · cases h

theorem survives_of_place {place : ClientHandlerPlace} (hc : c.place = place)
    (hplace : ∀ exception, place ≠ .terminated exception) : c.Survives := by
  intro exception h
  exact hplace exception (hc.symm.trans h)

theorem survives_select {result : SysResult} (hplace : c.place = .select)
    (h : c.select result = some c') : c'.Survives := by
  cases result with
  | ok =>
    simp only [select] at h
    split at h
    · obtain rfl := Option.some.inj h
      exact survives_of_place rfl fun _ hthrown => by cases hthrown
    · cases h
  | amount n =>
    cases n with
    | zero =>
      obtain rfl := Option.some.inj h
      exact survives_of_place hplace fun _ hthrown => by cases hthrown
    | succ n => cases h
  | fault =>
    obtain rfl := Option.some.inj h
    exact survives_of_place rfl fun _ hthrown => by cases hthrown
  | descriptor fd => cases h

theorem survives_respond {request : ReceivedRequest} {result : SysResult}
    (h : c.respond request result = some c') : c'.Survives := by
  cases result with
  | ok =>
    obtain rfl := Option.some.inj h
    intro exception hthrown
    dsimp only at hthrown
    split at hthrown <;> cases hthrown
  | fault =>
    obtain rfl := Option.some.inj h
    exact survives_of_place rfl fun _ hthrown => by cases hthrown
  | amount n => cases h
  | descriptor fd => cases h

/-- The steps that a line of the peer decides; all the others are harmless and safe. -/
theorem step_safe_iff {l : ConnectionLabel} (hc : c.Survives) (h : c.step l = some c') :
    (c'.Survives ∧ c.KeepsBuffer l) ↔ c.harmless l = true := by
  cases l with
  | arrive n =>
    simp only [step] at h
    split at h
    · obtain rfl := Option.some.inj h
      exact ⟨fun _ => rfl, fun _ => ⟨hc, trivial⟩⟩
    · cases h
  | hangUp =>
    simp only [step] at h
    split at h
    · obtain rfl := Option.some.inj h
      exact ⟨fun _ => rfl, fun _ => ⟨hc, trivial⟩⟩
    · cases h
  | stop =>
    obtain rfl := Option.some.inj h
    exact ⟨fun _ => rfl, fun _ => ⟨hc, trivial⟩⟩
  | clientHandler result =>
    simp only [step, clientHandler] at h
    have hother : (∀ line, c.place ≠ .reading (.requestLine line)) →
        c.KeepsBuffer (.clientHandler result) := by
      intro hplace line hline
      exact absurd hline (hplace line)
    cases hplace : c.place with
    | select =>
      have hbuffer := hother fun line hline => by
        rw [hplace] at hline
        cases hline
      simp only [hplace] at h
      have hsurvives : c'.Survives := by
        split at h
        · obtain rfl := Option.some.inj h
          exact survives_of_place rfl fun _ hthrown => by cases hthrown
        · exact survives_select hplace h
      simp only [harmless, hplace]
      exact ⟨fun _ => trivial, fun _ => ⟨hsurvives, hbuffer⟩⟩
    | reading reading =>
      simp only [hplace] at h
      cases reading with
      | requestLine line =>
        have hsurvives : c'.Survives :=
          (survives_line_iff readsLine_requestLine h).mpr
            fun whole _ => finishRequestLine_ne_thrown whole
        simp only [harmless, hplace, Option.all_eq_true]
        constructor
        · intro hsafe whole hwhole
          exact (methodHeld_iff whole).mp (hsafe.2 line hplace whole hwhole)
        · intro hharmless
          refine ⟨hsurvives, ?_⟩
          intro line' hline' whole hwhole
          rw [hplace] at hline'
          obtain rfl : line = line' := by
            injection hline' with hreading
            injection hreading
          exact (methodHeld_iff whole).mpr (hharmless whole hwhole)
      | header request line =>
        have hbuffer := hother fun line' hline' => by
          rw [hplace] at hline'
          cases hline'
        simp only [harmless, hplace, Option.all_eq_true]
        rw [survives_line_iff (readsLine_header request) h]
        constructor
        · intro hsafe whole hwhole
          exact (finishRequestHeader_safe_iff request whole).mp (hsafe.1 whole hwhole)
        · intro hharmless
          refine ⟨?_, hbuffer⟩
          intro whole hwhole
          exact (finishRequestHeader_safe_iff request whole).mpr (hharmless whole hwhole)
      | content request bufSize buf =>
        have hbuffer := hother fun line hline => by
          rw [hplace] at hline
          cases hline
        simp only [harmless, hplace]
        exact ⟨fun _ => trivial, fun _ => ⟨survives_content h, hbuffer⟩⟩
    | callback request =>
      have hbuffer := hother fun line hline => by
        rw [hplace] at hline
        cases hline
      simp only [hplace] at h
      obtain rfl := Option.some.inj h
      have hsurvives : NotificationConnection.Survives { c with place := .respond request } :=
        survives_of_place rfl fun _ hthrown => by cases hthrown
      simp only [harmless, hplace]
      exact ⟨fun _ => trivial, fun _ => ⟨hsurvives, hbuffer⟩⟩
    | respond request =>
      have hbuffer := hother fun line hline => by
        rw [hplace] at hline
        cases hline
      simp only [hplace] at h
      simp only [harmless, hplace]
      exact ⟨fun _ => trivial, fun _ => ⟨survives_respond h, hbuffer⟩⟩
    | ended => simp [hplace] at h
    | terminated exception => simp [hplace] at h

/-! ### Going on -/

theorem asks_proceed (h : ∀ reading, progress = .reading reading → 0 < reading.wanted) :
    (c.proceed progress).Asks := by
  cases progress with
  | reading reading =>
    intro reading' hreading
    obtain rfl := ClientHandlerPlace.reading.inj hreading
    exact h reading rfl
  | parsed request =>
    intro reading' hreading
    cases hreading
  | destroyed =>
    intro reading' hreading
    cases hreading
  | thrown exception =>
    intro reading' hreading
    cases hreading

theorem atEnd_wanted {reading' : RequestReading} (h : reading.atEnd = .reading reading') :
    0 < reading'.wanted := by
  cases reading with
  | requestLine line =>
    simp only [RequestReading.atEnd] at h
    split at h
    · cases h
    · exact finishRequestLine_wanted h
  | header request line =>
    simp only [RequestReading.atEnd] at h
    split at h
    · cases h
    · exact finishRequestHeader_wanted h
  | content request bufSize buf => cases h

theorem asks_recv {result : SysResult} (hc : 0 < reading.wanted)
    (h : c.recv reading result = some c') : c'.Asks := by
  cases result with
  | ok => cases h
  | descriptor fd => cases h
  | fault =>
    obtain rfl := Option.some.inj h
    apply asks_proceed
    intro reading' hreading
    cases reading <;> cases hreading
  | amount n =>
    simp only [recv] at h
    split at h
    · split at h
      · obtain rfl := Option.some.inj h
        exact asks_proceed fun _ => atEnd_wanted
      · cases h
    · split at h
      · obtain rfl := Option.some.inj h
        apply asks_proceed
        intro reading' hreading
        have hstart : ∀ r, RequestProgress.reading reading = .reading r → 0 < r.wanted := by
          intro r hr
          obtain rfl := RequestProgress.reading.inj hr
          exact hc
        exact run_wanted_pos hstart (Prod.ext hreading rfl)
      · cases h

theorem asks_of_place {place : ClientHandlerPlace} (hc : c.place = place)
    (hplace : ∀ reading, place ≠ .reading reading) : c.Asks := by
  intro reading h
  exact absurd (hc.symm.trans h) (hplace reading)

theorem asks_step {l : ConnectionLabel} (hc : c.Asks) (h : c.step l = some c') : c'.Asks := by
  cases l with
  | arrive n =>
    simp only [step] at h
    split at h
    · obtain rfl := Option.some.inj h
      exact hc
    · cases h
  | hangUp =>
    simp only [step] at h
    split at h
    · obtain rfl := Option.some.inj h
      exact hc
    · cases h
  | stop =>
    obtain rfl := Option.some.inj h
    exact hc
  | clientHandler result =>
    simp only [step, clientHandler] at h
    cases hplace : c.place with
    | select =>
      simp only [hplace] at h
      split at h
      · obtain rfl := Option.some.inj h
        exact asks_of_place rfl fun _ hreading => by cases hreading
      · cases result with
        | ok =>
          simp only [select] at h
          split at h
          · obtain rfl := Option.some.inj h
            intro reading hreading
            obtain rfl := ClientHandlerPlace.reading.inj hreading
            exact Nat.one_pos
          · cases h
        | amount n =>
          cases n with
          | zero =>
            obtain rfl := Option.some.inj h
            exact hc
          | succ n => cases h
        | fault =>
          obtain rfl := Option.some.inj h
          exact asks_of_place rfl fun _ hreading => by cases hreading
        | descriptor fd => cases h
    | reading reading =>
      simp only [hplace] at h
      exact asks_recv (hc reading hplace) h
    | callback request =>
      simp only [hplace] at h
      obtain rfl := Option.some.inj h
      exact asks_of_place rfl fun _ hreading => by cases hreading
    | respond request =>
      simp only [hplace] at h
      cases result with
      | ok =>
        obtain rfl := Option.some.inj h
        intro reading hreading
        dsimp only at hreading
        split at hreading <;> cases hreading
      | fault =>
        obtain rfl := Option.some.inj h
        exact asks_of_place rfl fun _ hreading => by cases hreading
      | amount n => cases h
      | descriptor fd => cases h
    | ended => simp [hplace] at h
    | terminated exception => simp [hplace] at h

theorem restRank_proceed_lt
    (h : ∀ request line, progress = .reading (.header request line) → line = []) :
    restRank (c.proceed progress).place < 8 := by
  cases progress with
  | reading reading =>
    cases reading with
    | header request line =>
      rw [h request line rfl]
      simp [proceed, restRank]
    | requestLine line => cases line <;> simp [proceed, restRank]
    | content request bufSize buf => simp [proceed, restRank]
  | _ => simp [proceed, restRank]

/-- The end of the connection ends each reading function, in at most two calls of `recv`. -/
theorem restRank_atEnd (reading : RequestReading) :
    restRank (c.proceed reading.atEnd).place < restRank (.reading reading) := by
  cases reading with
  | requestLine line =>
    cases line with
    | nil => simp [RequestReading.atEnd, proceed, restRank]
    | cons b line =>
      simp only [RequestReading.atEnd, finishRequestLine]
      rw [if_neg (List.cons_ne_nil b line)]
      split <;> simp [proceed, restRank]
  | header request line =>
    cases line with
    | nil => simp [RequestReading.atEnd, proceed, restRank]
    | cons b line =>
      simp only [RequestReading.atEnd]
      have hrank : restRank (.reading (.header request (b :: line))) = 8 := rfl
      rw [if_neg (List.cons_ne_nil b line), hrank]
      apply restRank_proceed_lt
      intro request' line' hheader
      exact finishRequestHeader_header hheader
  | content request bufSize buf => simp [RequestReading.atEnd, proceed, restRank]

/-- A handler that does not wait for the peer can take a step, no failure of a system call,
after which less is left of the stream and of what it has begun. -/
theorem advances (hsurvives : c.Survives) (hasks : c.Asks) (hopen : c.place ≠ .ended)
    (hwaits : ¬ c.Waits) :
    ∃ result c', result ≠ SysResult.fault ∧ c.step (.clientHandler result) = some c' ∧
      c'.remaining < c.remaining := by
  cases hplace : c.place with
  | select =>
    refine ⟨.ok, ?_⟩
    have hready : c.incoming ≠ [] ∨ c.hungUp = true := by
      by_contra hnone
      rw [not_or, not_not, Bool.not_eq_true] at hnone
      exact hwaits ⟨hnone.1, hnone.2, .inl hplace⟩
    cases hstop : c.stop with
    | true =>
      refine ⟨{ c with place := .ended }, by simp, ?_, ?_⟩
      · simp [step, clientHandler, hplace, hstop]
      · simp [remaining, restRank, hplace]
    | false =>
      refine ⟨{ c with place := .reading (.requestLine []), text := [] }, by simp, ?_, ?_⟩
      · simp [step, clientHandler, hplace, hstop, select, hready]
      · simp [remaining, restRank, hplace]
  | reading reading =>
    by_cases hincoming : c.incoming = []
    · have hclosed : c.hungUp = true := by
        by_contra hnone
        exact hwaits ⟨hincoming, by simpa using hnone, .inr ⟨reading, hplace⟩⟩
      refine ⟨.amount 0, c.proceed reading.atEnd, by simp, ?_, ?_⟩
      · simp [step, clientHandler, hplace, recv, hincoming, hclosed]
      · have hlength := length_proceed (c := c) reading.atEnd
        have hrank := restRank_atEnd (c := c) reading
        simp only [remaining, hlength, hplace]
        omega
    · have hpos : 1 ≤ c.incoming.length := List.length_pos_iff.mpr hincoming
      have hstep : c.step (.clientHandler (.amount 1)) =
          some (proceed { c with
            incoming := c.incoming.drop 1, text := c.text ++ c.incoming.take 1 }
            (run RequestProgress.take (.reading reading) (c.incoming.take 1)).1) := by
        simp only [step, clientHandler, hplace, recv]
        rw [if_neg Nat.one_ne_zero, if_pos ⟨hasks reading hplace, hpos⟩]
      refine ⟨.amount 1, _, by simp, hstep, ?_⟩
      have hlength := length_proceed (c := { c with
        incoming := c.incoming.drop 1, text := c.text ++ c.incoming.take 1 })
        (run RequestProgress.take (.reading reading) (c.incoming.take 1)).1
      have hrank := restRank_le (proceed { c with
        incoming := c.incoming.drop 1, text := c.text ++ c.incoming.take 1 }
        (run RequestProgress.take (.reading reading) (c.incoming.take 1)).1).place
      simp only [remaining, hlength, List.length_drop]
      omega
  | callback request =>
    refine ⟨.ok, { c with place := .respond request }, by simp, ?_, ?_⟩
    · simp [step, clientHandler, hplace]
    · simp [remaining, restRank, hplace]
  | respond request =>
    have hstep : c.step (.clientHandler .ok) = some { c with
        outgoing := c.outgoing ++ response
        place := if request.close then .ended else .select } := by
      simp only [step, clientHandler, hplace, respond]
    refine ⟨.ok, _, by simp, hstep, ?_⟩
    simp only [remaining, hplace]
    split <;> simp [restRank]
  | ended => exact absurd hplace hopen
  | terminated exception => exact absurd hplace (hsurvives exception)

/-- A connection of a peer that sends this stream. -/
def receiving (stream : Bytes) : NotificationConnection where
  pending := stream

section Streams

variable {stream : Bytes}

theorem survives_run (h : Run step (fun c l => c.harmless l = true) (receiving stream) c) :
    c.Survives ∧ c.Asks := by
  have keep : ∀ a l b, a.Survives ∧ a.Asks → a.harmless l = true → step a l = some b →
      b.Survives ∧ b.Asks := by
    intro a l b ha hok hstep
    exact ⟨((step_safe_iff ha.1 hstep).mpr hok).1, asks_step ha.2 hstep⟩
  refine h.invariant (P := fun c => c.Survives ∧ c.Asks) keep ⟨?_, ?_⟩
  · exact survives_of_place rfl fun _ hthrown => by cases hthrown
  · exact asks_of_place rfl fun _ hreading => by cases hreading

/-- Whatever the peer sends and however it arrives: as long as no line ends that the handler
cannot stand, it is alive, and it has closed the connection, waits for the peer or goes on. Such
lines are exactly where a step throws, overruns `method` or leaves it unwritten. -/
theorem clientHandler_survives
    (h : Run step (fun c l => c.harmless l = true) (receiving stream) c) :
    c.Survives ∧
      (c.place = .ended ∨ c.Waits ∨
        ∃ result c', result ≠ SysResult.fault ∧ c.step (.clientHandler result) = some c' ∧
          c'.remaining < c.remaining) ∧
      ∀ l c', c.step l = some c' → ((c'.Survives ∧ c.KeepsBuffer l) ↔ c.harmless l = true) := by
  obtain ⟨hsurvives, hasks⟩ := survives_run h
  refine ⟨hsurvives, ?_, ?_⟩
  · by_cases hopen : c.place = .ended
    · exact .inl hopen
    · by_cases hwaits : c.Waits
      · exact .inr (.inl hwaits)
      · exact .inr (.inr (advances hsurvives hasks hopen hwaits))
  · intro l c' hstep
    exact step_safe_iff hsurvives hstep

/-- The bytes arrive at once and are read one by one. -/
def readThrough (stream : Bytes) : List ConnectionLabel :=
  [.arrive stream.length, .clientHandler .ok] ++
    List.replicate stream.length (.clientHandler (.amount 1))

/-- Two requests; the handler is about to answer the first. -/
theorem clientHandler_survives_post :
    ∃ c : NotificationConnection,
      Run step (fun c l => c.harmless l = true)
        (receiving (bytes "POST / HTTP/1.1\r\nHost: ioc\r\nContent-Length: 0\r\n\r\n")) c ∧
      c.place = .callback
        { method := bytes "POST"
          headers := [(bytes "Content-Length", bytes "0"), (bytes "Host", bytes "ioc")] } ∧
      c.Survives := by
  have hreaches : reaches step (fun c l => c.harmless l = true)
      (receiving (bytes "POST / HTTP/1.1\r\nHost: ioc\r\nContent-Length: 0\r\n\r\n"))
      (readThrough (bytes "POST / HTTP/1.1\r\nHost: ioc\r\nContent-Length: 0\r\n\r\n"))
      (fun c => c.place = .callback
        { method := bytes "POST"
          headers := [(bytes "Content-Length", bytes "0"), (bytes "Host", bytes "ioc")] }) = true := by
    decide +kernel
  obtain ⟨c, hrun, hplace⟩ := run_of_reaches hreaches
  exact ⟨c, hrun, of_decide_eq_true hplace, (clientHandler_survives hrun).1⟩

/-- The length is no number: `std::stoi` throws outside of the `try` block. -/
theorem malformed_length_terminates :
    ∃ c : NotificationConnection,
      Run step always (receiving (bytes "POST / HTTP/1.1\r\nContent-Length: abc\r\n\r\n")) c ∧
      c.place = .terminated .invalidArgument := by
  have hreaches : reaches step always
      (receiving (bytes "POST / HTTP/1.1\r\nContent-Length: abc\r\n\r\n"))
      (readThrough (bytes "POST / HTTP/1.1\r\nContent-Length: abc\r\n\r\n"))
      (fun c => c.place = .terminated .invalidArgument) = true := by
    decide +kernel
  obtain ⟨c, hrun, hplace⟩ := run_of_reaches hreaches
  exact ⟨c, hrun, of_decide_eq_true hplace⟩

/-- A line of a blank leaves the buffer unwritten, and a long word overruns it. -/
example : ¬ MethodHeld (bytes " \n") ∧ ¬ MethodHeld (bytes "SUBSCRIBING / HTTP/1.1\n") := by
  rw [methodHeld_iff, methodHeld_iff]
  decide +kernel

end Streams

end NotificationConnection

end PeakAnalyser

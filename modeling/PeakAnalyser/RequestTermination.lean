import PeakAnalyser.Library.Endings
import PeakAnalyser.Library.Tallies
import PeakAnalyser.Library.Totals
import PeakAnalyser.SocketPositions

/-!
# A request ends

`doRequest` goes back to `connect` from two places, which share one counter. What it still has
to do is bounded by the attempts that are left, the bytes of the request that are not sent and
where the parser is; a byte that is received adds to it, and there are no more of these than
the servers have offered. Any number of threads use the client at the same time, and the
servers send what they like. A status line that overruns the memory for its version is the
one way out of the loops that is no end.
-/

namespace PeakAnalyser

set_option autoImplicit false

open Runs Totals

variable {Json Tid : Type}

/-- A server may send any bytes on a connection that is open. -/
inductive PeerLabel (Json Tid : Type) where
  | call (t : Tid) (method : String) (params : Json)
  | thread (t : Tid) (result : SysResult)
  | deliver (fd : Nat) (data : Bytes)
  | hangUp (fd : Nat)

/-- What is counted of the latest request of a thread, and the bytes that all threads have
received and all servers have offered. -/
structure RequestTally where
  size : Nat := 0
  steps : Nat := 0
  attempts : Nat := 0
  transmissions : Nat := 0
  received : Nat := 0
  taken : Nat := 0
  offered : Nat := 0

namespace RequestPlace

/-- `connect` is called. -/
def connects : RequestPlace Json → Bool
  | .connect _ => true
  | _ => false

/-- `write` is called. -/
def transmits : RequestPlace Json → Bool
  | .write _ => true
  | _ => false

/-- The bytes that a call of `recv` hands over. -/
def bytesTaken : RequestPlace Json → SysResult → Nat
  | .recv _ _ _, .amount n => n
  | _, _ => 0

/-- A call of `send` that does not fail transfers something. -/
def transfers : RequestPlace Json → SysResult → Prop
  | .send _ _ _, .amount n => 1 ≤ n
  | _, _ => True

def request? : RequestPlace Json → Option (JsonRPCRequest Json)
  | .outside => none
  | .select request _ => some request
  | .guard w | .connect w | .connecting w | .write w | .send w _ _ | .poll w | .read w _
  | .recv w _ _ | .close w _ | .overrun w => some w.request

end RequestPlace

/-- The first word of the status line that ends with `data`, or with the connection if there are no
data, fits into `version`. -/
def Reading.Fits (reading : Reading) (data : Bytes) : Prop :=
  match reading with
  | .line .status start =>
    data = [newline] ∨ data = [] ∧ start ≠ [] → overrunsVersion (start ++ data) = false
  | _ => True

/-- A status line that the next `amount` bytes of the connection end fits into `version`. -/
def RequestPlace.Fits (connection : Nat → Option (Connection Json)) (amount : Nat) :
    RequestPlace Json → Prop
  | .recv _ (some fd) reading => ∀ k ∈ connection fd, reading.Fits (k.incoming.take amount)
  | _ => True

namespace HTTPClient

variable [DecidableEq Tid] (json : JsonLibrary Json) (config : HTTPConfig)

def peerStep (c : HTTPClient Json Tid) : PeerLabel Json Tid → Option (HTTPClient Json Tid)
  | .call t method params => c.beginCall t method params
  | .thread t result => c.doRequest json config t result
  | .deliver fd data =>
    match c.connection fd with
    | none => none
    | some k =>
      if k.hungUp then none
      else some (c.setConnection fd (some { k with incoming := k.incoming ++ data }))
  | .hangUp fd =>
    (c.connection fd).map fun k => c.setConnection fd (some { k with hungUp := true })

/-- Each call of `send` either fails or transfers something. -/
def Transfers (c : HTTPClient Json Tid) : PeerLabel Json Tid → Prop
  | .thread t result => (c.thread t).transfers result
  | _ => True

/-- The first word of a status line that is read to its end has fewer than 40 bytes. -/
def Fits (c : HTTPClient Json Tid) : PeerLabel Json Tid → Prop
  | .thread t (.amount n) => (c.thread t).Fits c.connection n
  | _ => True

/-- What a step adds to the tally of the thread `t`. -/
def count (t : Tid) (c : HTTPClient Json Tid) (l : PeerLabel Json Tid) (c' : HTTPClient Json Tid)
    (k : RequestTally) : RequestTally :=
  match l with
  | .call u _ _ =>
    if u = t then
      { size := ((c'.thread t).request?.map fun request => (request.data json config).length).getD 0
        taken := k.taken
        offered := k.offered }
    else k
  | .thread u result =>
    let n := (c.thread u).bytesTaken result
    if u = t then
      { k with
        steps := k.steps + 1
        attempts := k.attempts + (c.thread t).connects.toNat
        transmissions := k.transmissions + (c.thread t).transmits.toNat
        received := k.received + n
        taken := k.taken + n }
    else { k with taken := k.taken + n }
  | .deliver _ data => { k with offered := k.offered + data.length }
  | .hangUp _ => k

end HTTPClient

/-! ### The places of a request -/

/-- What a step of `doRequest` makes of its place; `data` is what `write` is called with. -/
inductive PlaceStep (memory : Nat) (data : JsonRPCRequest Json → Bytes) :
    RequestPlace Json → SysResult → RequestPlace Json → Prop where
  | tryNext {request : JsonRPCRequest Json} {i : Nat} {result : SysResult} (h : i < maxSockets) :
      PlaceStep memory data (.select request i) result (.select request (i + 1))
  | locked {request : JsonRPCRequest Json} {i : Nat} {result : SysResult} (h : i < maxSockets) :
      PlaceStep memory data (.select request i) result (.guard { request, socket := ⟨i, h⟩ })
  | noSocket {request : JsonRPCRequest Json} {i : Nat} {result : SysResult} (h : ¬ i < maxSockets) :
      PlaceStep memory data (.select request i) result .outside
  | unlocked {w : Errand Json} {result : SysResult} :
      PlaceStep memory data (.guard w) result (.connect w)
  | connected {w : Errand Json} {result : SysResult} :
      PlaceStep memory data (.connect w) result (.write w)
  | created {w : Errand Json} {result : SysResult} :
      PlaceStep memory data (.connect w) result (.connecting w)
  | notCreated {w : Errand Json} {result : SysResult} :
      PlaceStep memory data (.connect w) result .outside
  | accepted {w : Errand Json} {result : SysResult} :
      PlaceStep memory data (.connecting w) result (.write w)
  | refused {w : Errand Json} {result : SysResult} :
      PlaceStep memory data (.connecting w) result .outside
  | written {w : Errand Json} {fd : Option Nat} {result : SysResult} :
      PlaceStep memory data (.write w) result (HTTPClient.sending w fd (data w.request))
  | sent {w : Errand Json} {fd : Option Nat} {remaining : Bytes} {n : Nat}
      (hle : n ≤ remaining.length) :
      PlaceStep memory data (.send w fd remaining) (.amount n)
        (HTTPClient.sending w fd (remaining.drop n))
  | unsent {w : Errand Json} {fd : Option Nat} {remaining : Bytes} {result : SysResult} :
      PlaceStep memory data (.send w fd remaining) result (.close w .reconnect)
  | ready {w : Errand Json} {result : SysResult} :
      PlaceStep memory data (.poll w) result (.read w (.line .status []))
  | silent {w : Errand Json} {result : SysResult} :
      PlaceStep memory data (.poll w) result (.close w .fail)
  | reads {w : Errand Json} {fd : Option Nat} {reading : Reading} {result : SysResult} :
      PlaceStep memory data (.read w reading) result (.recv w fd reading)
  | received {w : Errand Json} {fd : Option Nat} {reading : Reading} {n : Nat} {bytes : Bytes}
      (hpos : n ≠ 0) :
      PlaceStep memory data (.recv w fd reading) (.amount n)
        (SocketStream.placeAfter w fd (reading.receive memory bytes))
  | ended {w : Errand Json} {fd : Option Nat} {reading : Reading} :
      PlaceStep memory data (.recv w fd reading) (.amount 0)
        (SocketStream.placeAfter w fd (reading.atEnd memory))
  | broken {w : Errand Json} {fd : Option Nat} {reading : Reading} :
      PlaceStep memory data (.recv w fd reading) .fault (SocketStream.placeAfter w fd reading.fault)
  | again {w : Errand Json} {result : SysResult} (h : w.retries < maxHttpRetries) :
      PlaceStep memory data (.close w .reconnect) result
        (.connect { w with retries := w.retries + 1 })
  | returned {w : Errand Json} {exit : Exit} {result : SysResult} :
      PlaceStep memory data (.close w exit) result .outside

namespace HTTPClient

variable {json : JsonLibrary Json} {config : HTTPConfig} {c c' : HTTPClient Json Tid}

/-! ### What the servers have offered -/

/-- What can still be received on a connection. -/
def left : Option (Connection Json) → Nat
  | none => 0
  | some k => k.incoming.length

def pending (c : HTTPClient Json Tid) (fd : Nat) : Nat := left (c.connection fd)

theorem pending_setConnection (fd : Nat) (connection : Option (Connection Json)) :
    (c.setConnection fd connection).pending = Function.update c.pending fd (left connection) := by
  funext f
  by_cases hf : f = fd
  · subst hf
    simp [pending, setConnection]
  · simp [pending, setConnection, hf]

/-- Nothing new can be received. -/
def NoMore (c c' : HTTPClient Json Tid) : Prop := ∀ fd, c'.pending fd ≤ c.pending fd

theorem noMore_of_connection (h : c'.connection = c.connection) : NoMore c c' := by
  intro fd
  unfold pending
  rw [h]

theorem noMore_setConnection {fd : Nat} {connection : Option (Connection Json)}
    (h : left connection ≤ c.pending fd) : NoMore c (c.setConnection fd connection) := by
  intro f
  rw [pending_setConnection]
  by_cases hf : f = fd
  · rw [hf, Function.update_self]
    exact h
  · rw [Function.update_of_ne hf]

theorem noMore_destroy (i : Fin maxSockets) : NoMore c (c.destroy i) := by
  unfold destroy
  split
  · exact noMore_of_connection rfl
  · exact noMore_setConnection (Nat.zero_le _)

/-! ### What a step does -/

variable [DecidableEq Tid] {t : Tid} {result : SysResult}

/-- A step moves its own thread, and what it receives is taken from the connections. -/
structure Effect (json : JsonLibrary Json) (config : HTTPConfig) (t : Tid)
    (before : RequestPlace Json) (result : SysResult) (c c' : HTTPClient Json Tid)
    (place : RequestPlace Json) : Prop where
  thread : c'.thread = Function.update c.thread t place
  places : PlaceStep config.memory (fun request => request.data json config) before result place
  within : ∀ {used total : Nat}, Within c.pending used total →
    Within c'.pending (used + before.bytesTaken result) total

omit [DecidableEq Tid] in
theorem destroy_thread (s : Fin maxSockets) : (c.destroy s).thread = c.thread := by
  unfold destroy
  split <;> rfl

theorem effect_select {request : JsonRPCRequest Json} {i : Nat}
    (h : c.select json t request i result = some c') :
    ∃ place, Effect json config t (.select request i) result c c' place := by
  cases result with
  | amount | descriptor => cases h
  | ok =>
    dsimp only [select] at h
    split at h
    · rename_i hi
      split at h <;> obtain rfl := Option.some.inj h
      · exact ⟨_, rfl, .tryNext hi, fun hwithin => hwithin⟩
      · exact ⟨_, rfl, .locked hi, fun hwithin => hwithin⟩
    · rename_i hi
      obtain rfl := Option.some.inj h
      exact ⟨_, rfl, .noSocket hi, fun hwithin => hwithin⟩
  | fault =>
    dsimp only [select] at h
    split at h
    · rename_i hi
      obtain rfl := Option.some.inj h
      exact ⟨_, rfl, .tryNext hi, fun hwithin => hwithin⟩
    · cases h

theorem effect_connect {w : Errand Json} (h : c.connect json t w result = some c') :
    ∃ place, Effect json config t (.connect w) result c c' place := by
  unfold connect at h
  split at h
  · obtain rfl := Option.some.inj h
    exact ⟨_, rfl, .connected, fun hwithin => hwithin⟩
  · cases result with
    | ok | amount => cases h
    | fault =>
      obtain rfl := Option.some.inj h
      exact ⟨_, rfl, .notCreated, fun hwithin => hwithin⟩
    | descriptor fd =>
      dsimp only at h
      split at h
      · obtain rfl := Option.some.inj h
        exact ⟨_, rfl, .created, fun hwithin =>
          hwithin.mono (noMore_setConnection (c := c) (Nat.zero_le _))⟩
      · cases h

theorem effect_connecting {w : Errand Json} (h : c.connecting json t w result = some c') :
    ∃ place, Effect json config t (.connecting w) result c c' place := by
  cases result with
  | amount | descriptor => cases h
  | ok =>
    obtain rfl := Option.some.inj h
    exact ⟨_, rfl, .accepted, fun hwithin => hwithin⟩
  | fault =>
    obtain rfl := Option.some.inj h
    refine ⟨.outside, ?_, .refused, fun hwithin => hwithin.mono (noMore_destroy (c := c) w.socket)⟩
    unfold finish goto setSocket
    dsimp only
    rw [destroy_thread]

theorem effect_send {w : Errand Json} {fd : Option Nat} {remaining : Bytes}
    (h : c.send t w fd remaining result = some c') :
    ∃ place, Effect json config t (.send w fd remaining) result c c' place := by
  cases result with
  | ok | descriptor => cases h
  | fault =>
    obtain rfl := Option.some.inj h
    exact ⟨_, rfl, .unsent, fun hwithin => hwithin⟩
  | amount n =>
    cases fd with
    | none => cases h
    | some f =>
      dsimp only [send] at h
      split at h
      · cases h
      · rename_i k hk
        split at h
        · rename_i hle
          obtain rfl := Option.some.inj h
          refine ⟨_, rfl, .sent hle, fun hwithin => hwithin.mono (noMore_setConnection (c := c) ?_)⟩
          rw [pending, hk]
          exact le_rfl
        · cases h

theorem effect_poll {w : Errand Json} (h : c.poll t w result = some c') :
    ∃ place, Effect json config t (.poll w) result c c' place := by
  cases result with
  | amount | descriptor => cases h
  | fault =>
    obtain rfl := Option.some.inj h
    exact ⟨_, rfl, .silent, fun hwithin => hwithin⟩
  | ok =>
    dsimp only [poll] at h
    split at h
    · cases h
    · split at h
      · cases h
      · split at h
        · obtain rfl := Option.some.inj h
          exact ⟨_, rfl, .ready, fun hwithin => hwithin⟩
        · cases h

/-- `recv` takes what it hands over out of the connection. -/
theorem effect_recv {w : Errand Json} {fd : Option Nat} {reading : Reading}
    (h : c.recv json config t w fd reading result = some c') :
    ∃ place, Effect json config t (.recv w fd reading) result c c' place := by
  cases result with
  | ok | descriptor => cases h
  | fault =>
    obtain rfl := Option.some.inj h
    exact ⟨_, SocketStream.proceed_place json c t, .broken, fun hwithin =>
      hwithin.mono (noMore_of_connection (SocketStream.proceed_connection json c t))⟩
  | amount n =>
    cases fd with
    | none => cases h
    | some f =>
      cases hk : c.connection f with
      | none => simp [recv, hk] at h
      | some k =>
        rcases recv_amount_cases hk h with ⟨rfl, -, -, rfl⟩ | ⟨hpos, -, hlength, rfl⟩
        · exact ⟨_, SocketStream.proceed_place json c t, .ended, fun hwithin =>
            hwithin.mono (noMore_of_connection (SocketStream.proceed_connection json c t))⟩
        · refine ⟨_, SocketStream.proceed_place json (c.setConnection f _) t, .received hpos, ?_⟩
          intro used total hwithin
          have hpending : c.pending f = k.incoming.length := by rw [pending, hk, left]
          have htake := hwithin.take (hpending ▸ hlength)
          have hupdate := pending_setConnection (c := c) f
            (some { k with incoming := k.incoming.drop n })
          rw [left, List.length_drop, ← hpending] at hupdate
          rw [← hupdate] at htake
          exact htake.mono
            (noMore_of_connection (SocketStream.proceed_connection json (c.setConnection f _) t))

theorem effect_close (w : Errand Json) (exit : Exit) :
    ∃ place, Effect json config t (.close w exit) result c (c.close json t w exit) place := by
  have hthread : ∀ place, ((c.destroy w.socket).goto t place).thread =
      Function.update c.thread t place := by
    intro place
    unfold goto
    rw [destroy_thread]
  have hdestroyed := noMore_destroy (c := c) w.socket
  cases exit with
  | reconnect =>
    unfold close
    dsimp only
    split
    · rename_i hretries
      exact ⟨_, hthread _, .again hretries, fun hwithin => hwithin.mono hdestroyed⟩
    · exact ⟨_, hthread _, .returned, fun hwithin => hwithin.mono hdestroyed⟩
  | fail | success =>
    exact ⟨_, hthread _, .returned, fun hwithin => hwithin.mono hdestroyed⟩

theorem effect_doRequest (h : c.doRequest json config t result = some c') :
    ∃ place, Effect json config t (c.thread t) result c c' place := by
  unfold doRequest at h
  cases hplace : c.thread t with
  | outside =>
    rw [hplace] at h
    cases h
  | select request i =>
    rw [hplace] at h
    exact effect_select h
  | guard w =>
    rw [hplace] at h
    obtain rfl := Option.some.inj h
    exact ⟨_, rfl, .unlocked, fun hwithin => hwithin⟩
  | connect w =>
    rw [hplace] at h
    exact effect_connect h
  | connecting w =>
    rw [hplace] at h
    exact effect_connecting h
  | write w =>
    rw [hplace] at h
    obtain rfl := Option.some.inj h
    exact ⟨_, rfl, .written, fun hwithin => hwithin⟩
  | send w fd remaining =>
    rw [hplace] at h
    exact effect_send h
  | poll w =>
    rw [hplace] at h
    exact effect_poll h
  | read w reading =>
    rw [hplace] at h
    obtain rfl := Option.some.inj h
    exact ⟨_, rfl, .reads, fun hwithin => hwithin⟩
  | recv w fd reading =>
    rw [hplace] at h
    exact effect_recv h
  | close w exit =>
    rw [hplace] at h
    obtain rfl := Option.some.inj h
    exact effect_close w exit
  | overrun w =>
    rw [hplace] at h
    cases h

end HTTPClient

/-! ### How far a request is from its end -/

/-- Whether the parser is inside a line. -/
def Reading.rest : Reading → Nat
  | .line _ (_ :: _) => 3
  | _ => 1

namespace RequestPlace

section Ranks

variable (data : JsonRPCRequest Json → Bytes)

/-- More than a request does between two calls of `connect`, if it receives nothing. -/
def round (request : JsonRPCRequest Json) : Nat := (data request).length + 10

/-- The rounds that are left after this one. -/
def later (w : Errand Json) : Nat := (maxHttpRetries - w.retries) * round data w.request

/-- What is left to do; at most so many steps if nothing is received. -/
def rank : RequestPlace Json → Nat
  | .outside => 0
  | .select request i => maxSockets - i + (maxHttpRetries * round data request + round data request + 1)
  | .guard w => later data w + round data w.request + 1
  | .connect w => later data w + round data w.request
  | .connecting w => later data w + (data w.request).length + 9
  | .write w => later data w + (data w.request).length + 8
  | .send w _ remaining => later data w + remaining.length + 7
  | .poll w => later data w + 7
  | .read w reading => later data w + reading.rest + 2
  | .recv w _ reading => later data w + reading.rest + 1
  | .close w _ => later data w + 1
  | .overrun _ => 0

variable {data}

theorem later_retry {w : Errand Json} (h : w.retries < maxHttpRetries) :
    later data w = later data { w with retries := w.retries + 1 } + round data w.request := by
  have hleft : maxHttpRetries - w.retries = maxHttpRetries - (w.retries + 1) + 1 := by omega
  unfold later
  rw [hleft, Nat.add_mul, Nat.one_mul]

end Ranks

/-! #### The parser -/

/-- If the parser reads on, it does so with no more than `n`. -/
def Rests (n : Nat) : Progress → Prop
  | .more reading | .next reading => reading.rest ≤ n
  | _ => True

theorem rest_pos (reading : Reading) : 1 ≤ reading.rest := by
  unfold Reading.rest
  split <;> decide

theorem rests (progress : Progress) : Rests 3 progress := by
  have hrest : ∀ reading : Reading, reading.rest ≤ 3 := by
    intro reading
    unfold Reading.rest
    split <;> decide
  cases progress with
  | more reading | next reading => exact hrest reading
  | done | retry | failed | thrown | overrun => trivial

theorem rests_readContent (memory : Nat) (response : Response) :
    Rests 1 (readContent memory response) := by
  unfold readContent
  split
  · exact le_rfl
  · split
    · exact le_rfl
    · split
      · trivial
      · split
        · trivial
        · exact le_rfl

/-- A line is followed by the beginning of the next part. -/
theorem rests_finish (memory : Nat) (kind : LineKind) (line : Bytes) :
    Rests 1 (kind.finish memory line) := by
  cases kind with
  | status =>
    dsimp only [LineKind.finish]
    split
    · trivial
    · exact le_rfl
  | header response =>
    dsimp only [LineKind.finish]
    split
    · exact le_rfl
    · split
      · unfold endHeaders
        split
        · trivial
        · exact rests_readContent memory _
      · split
        · trivial
        · exact le_rfl
        · exact le_rfl
  | chunkSize response =>
    dsimp only [LineKind.finish]
    split
    · exact le_rfl
    · split
      · trivial
      · exact le_rfl
  | chunkEnd last response =>
    dsimp only [LineKind.finish]
    split
    · trivial
    · split
      · trivial
      · exact le_rfl

/-! #### One step -/

section Steps

variable {memory : Nat} {data : JsonRPCRequest Json → Bytes} {place place' : RequestPlace Json}
  {result : SysResult} {w : Errand Json} {fd : Option Nat}

theorem rank_recv (reading : Reading) :
    rank data (.recv w fd reading) = later data w + reading.rest + 1 := rfl

/-- Where a request goes after `recv` has returned. -/
theorem rank_placeAfter {n : Nat} {progress : Progress} (h : Rests n progress) :
    rank data (SocketStream.placeAfter w fd progress) ≤ later data w + n + 2 := by
  cases progress with
  | more reading | next reading =>
    have hrest : reading.rest ≤ n := h
    simp only [SocketStream.placeAfter, rank]
    omega
  | done response =>
    simp only [SocketStream.placeAfter]
    split <;> simp only [rank] <;> omega
  | retry | failed | thrown | overrun =>
    simp only [SocketStream.placeAfter, rank]
    omega

/-- The parser stops at once if `recv` fails. -/
theorem rank_fault (reading : Reading) :
    rank data (SocketStream.placeAfter w fd reading.fault) ≤ later data w + 1 := by
  cases reading with
  | line kind start => cases kind <;> exact le_rfl
  | fixed | indefinite => exact le_rfl

/-- A line that the end of the connection completes has begun before. -/
theorem rank_atEnd (reading : Reading) :
    rank data (SocketStream.placeAfter w fd (reading.atEnd memory)) ≤ later data w + reading.rest := by
  cases reading with
  | line kind start =>
    cases start with
    | nil =>
      exact rank_fault (.line kind [])
    | cons b start => exact rank_placeAfter (rests_finish memory kind (b :: start))
  | fixed => exact le_rfl
  | indefinite response =>
    simp only [Reading.atEnd, SocketStream.placeAfter]
    split <;> simp only [rank, Reading.rest] <;> omega

theorem rank_sending (remaining : Bytes) :
    rank data (HTTPClient.sending w fd remaining) = later data w + remaining.length + 7 := by
  unfold HTTPClient.sending
  split
  · rename_i hempty
    rw [hempty]
    rfl
  · rfl

/-- Every step lowers the rank, unless bytes are received. -/
theorem rank_step (h : PlaceStep memory data place result place') (htransfers : place.transfers result) :
    rank data place' + 1 ≤ rank data place + 5 * place.bytesTaken result := by
  cases h with
  | tryNext hi =>
    simp only [rank]
    omega
  | locked hi =>
    simp only [rank, later, Nat.sub_zero]
    omega
  | noSocket | notCreated | refused =>
    simp only [rank, round]
    omega
  | unlocked | connected | created | accepted =>
    simp only [rank, round]
    omega
  | written =>
    rw [rank_sending]
    simp only [rank]
    omega
  | sent hle =>
    rename_i w fd remaining n
    have hsome : 1 ≤ n := htransfers
    rw [rank_sending, List.length_drop]
    simp only [rank]
    omega
  | unsent | silent =>
    simp only [rank]
    omega
  | ready =>
    simp only [rank, Reading.rest]
    omega
  | reads =>
    simp only [rank]
    omega
  | received hpos =>
    rename_i w fd reading n bytes
    have hplace : rank data (SocketStream.placeAfter w fd (reading.receive memory bytes)) ≤
        later data w + 3 + 2 := rank_placeAfter (rests _)
    have hrest := rest_pos reading
    rw [rank_recv]
    simp only [bytesTaken]
    omega
  | ended =>
    rename_i w fd reading
    have hplace : rank data (SocketStream.placeAfter w fd (reading.atEnd memory)) ≤
        later data w + reading.rest := rank_atEnd reading
    rw [rank_recv]
    simp only [bytesTaken]
    omega
  | broken =>
    rename_i w fd reading
    have hplace : rank data (SocketStream.placeAfter w fd reading.fault) ≤ later data w + 1 :=
      rank_fault reading
    have hrest := rest_pos reading
    rw [rank_recv]
    simp only [bytesTaken]
    omega
  | again hretries =>
    rename_i w
    have hlater : later data w =
        later data { w with retries := w.retries + 1 } + round data w.request :=
      later_retry hretries
    simp only [rank]
    omega
  | returned =>
    simp only [rank]
    omega

/-! #### The counter of retries -/

/-- The counter, or 0 if there is none yet or no more. -/
def retries : RequestPlace Json → Nat
  | .outside | .select _ _ => 0
  | .guard w | .connect w | .connecting w | .write w | .send w _ _ | .poll w | .read w _
  | .recv w _ _ | .close w _ | .overrun w => w.retries

/-- How often `connect` may have been called. -/
def maxAttempts : RequestPlace Json → Nat
  | .outside => maxHttpRetries + 1
  | .select _ _ | .guard _ => 0
  | .connect w => w.retries
  | .connecting w | .write w | .send w _ _ | .poll w | .read w _ | .recv w _ _ | .close w _
  | .overrun w => w.retries + 1

/-- How often `write` may have been called. -/
def maxTransmissions : RequestPlace Json → Nat
  | .outside => maxHttpRetries + 1
  | .select _ _ | .guard _ => 0
  | .connect w | .connecting w | .write w => w.retries
  | .send w _ _ | .poll w | .read w _ | .recv w _ _ | .close w _ | .overrun w => w.retries + 1

theorem maxAttempts_le (h : place.retries ≤ maxHttpRetries) :
    place.maxAttempts ≤ maxHttpRetries + 1 := by
  cases place <;> simp only [retries] at h <;> simp only [maxAttempts] <;> omega

theorem maxTransmissions_le (h : place.retries ≤ maxHttpRetries) :
    place.maxTransmissions ≤ maxHttpRetries + 1 := by
  cases place <;> simp only [retries] at h <;> simp only [maxTransmissions] <;> omega

/-- The round of `w` goes on behind `write`, or the request has ended. -/
def Proceeds (w : Errand Json) (place : RequestPlace Json) : Prop :=
  place = .outside ∨
    (place.retries = w.retries ∧ place.maxAttempts = w.retries + 1 ∧
      place.maxTransmissions = w.retries + 1)

theorem proceeds_sending (remaining : Bytes) : Proceeds w (HTTPClient.sending w fd remaining) := by
  unfold HTTPClient.sending
  split <;> exact .inr ⟨rfl, rfl, rfl⟩

theorem proceeds_placeAfter (progress : Progress) :
    Proceeds w (SocketStream.placeAfter w fd progress) := by
  cases progress with
  | more | next | retry | failed | overrun => exact .inr ⟨rfl, rfl, rfl⟩
  | done response =>
    simp only [SocketStream.placeAfter]
    split
    · exact .inr ⟨rfl, rfl, rfl⟩
    · exact .inl rfl
  | thrown => exact .inl rfl

/-- What a step leaves to `connect` and `write`. -/
structure Counts (place place' : RequestPlace Json) : Prop where
  retries : place'.retries ≤ maxHttpRetries
  attempts : place.maxAttempts + place.connects.toNat ≤ place'.maxAttempts
  transmissions : place.maxTransmissions + place.transmits.toNat ≤ place'.maxTransmissions

theorem Proceeds.counts (h : Proceeds w place') (hretries : w.retries ≤ maxHttpRetries)
    (hattempts : place.maxAttempts + place.connects.toNat ≤ w.retries + 1)
    (htransmissions : place.maxTransmissions + place.transmits.toNat ≤ w.retries + 1) :
    Counts place place' := by
  rcases h with rfl | ⟨hr, ha, ht⟩
  · have hend : w.retries + 1 ≤ maxHttpRetries + 1 := Nat.succ_le_succ hretries
    exact ⟨Nat.zero_le _, hattempts.trans hend, htransmissions.trans hend⟩
  · exact ⟨hr ▸ hretries, ha ▸ hattempts, ht ▸ htransmissions⟩

/-- Only `connect` uses up an attempt, and only `write` a transmission. -/
theorem counts_step (h : PlaceStep memory data place result place')
    (hretries : place.retries ≤ maxHttpRetries) : Counts place place' := by
  cases h with
  | tryNext => exact ⟨hretries, le_rfl, le_rfl⟩
  | locked => exact ⟨Nat.zero_le _, le_rfl, le_rfl⟩
  | noSocket => exact ⟨Nat.zero_le _, Nat.zero_le _, Nat.zero_le _⟩
  | unlocked => exact ⟨hretries, Nat.zero_le _, Nat.zero_le _⟩
  | connected | created | accepted => exact ⟨hretries, le_rfl, le_rfl⟩
  | notCreated | refused =>
    exact ⟨Nat.zero_le _, Nat.succ_le_succ hretries, Nat.le_succ_of_le hretries⟩
  | written => exact (proceeds_sending _).counts hretries le_rfl le_rfl
  | sent => exact (proceeds_sending _).counts hretries le_rfl le_rfl
  | unsent | ready | silent | reads => exact ⟨hretries, le_rfl, le_rfl⟩
  | received | ended | broken => exact (proceeds_placeAfter _).counts hretries le_rfl le_rfl
  | again hless => exact ⟨hless, le_rfl, le_rfl⟩
  | returned =>
    exact ⟨Nat.zero_le _, Nat.succ_le_succ hretries, Nat.succ_le_succ hretries⟩

end Steps

end RequestPlace

namespace HTTPClient

variable [DecidableEq Tid] {json : JsonLibrary Json} {config : HTTPConfig}
  {c c' : HTTPClient Json Tid} {t : Tid} {s s' : HTTPClient Json Tid × RequestTally}

/-! ### Every run -/

/-- How many steps a request makes at most if it receives nothing. -/
def maxSteps (size : Nat) : Nat := maxSockets + 1 + (maxHttpRetries + 1) * (size + 10)

/-- What holds of the latest request of the thread `t`. -/
structure Bounded (json : JsonLibrary Json) (config : HTTPConfig) (t : Tid)
    (s : HTTPClient Json Tid × RequestTally) : Prop where
  retries : (s.1.thread t).retries ≤ maxHttpRetries
  attempts : s.2.attempts ≤ (s.1.thread t).maxAttempts
  transmissions : s.2.transmissions ≤ (s.1.thread t).maxTransmissions
  steps : s.2.steps + (s.1.thread t).rank (fun request => request.data json config) ≤
    maxSteps s.2.size + 5 * s.2.received
  received : s.2.received ≤ s.2.taken
  within : Within s.1.pending s.2.taken s.2.offered

omit [DecidableEq Tid] in
theorem bounded_start : Bounded json config t ({}, {}) where
  retries := Nat.zero_le _
  attempts := Nat.zero_le _
  transmissions := Nat.zero_le _
  steps := Nat.zero_le _
  received := le_rfl
  within := within_zero

omit [DecidableEq Tid] in
/-- The thread `t` stays where it is. -/
theorem Bounded.elsewhere (hs : Bounded json config t s) {taken offered : Nat}
    (hplace : c'.thread t = s.1.thread t) (htaken : s.2.taken ≤ taken)
    (hwithin : Within c'.pending taken offered) :
    Bounded json config t (c', { s.2 with taken, offered }) := by
  refine ⟨?_, ?_, ?_, ?_, hs.received.trans htaken, hwithin⟩
  · dsimp only
    rw [hplace]
    exact hs.retries
  · dsimp only
    rw [hplace]
    exact hs.attempts
  · dsimp only
    rw [hplace]
    exact hs.transmissions
  · dsimp only
    rw [hplace]
    exact hs.steps

theorem bounded_call {method : String} {params : Json} {u : Tid} (hs : Bounded json config t s)
    (h : s.1.beginCall u method params = some c') :
    Bounded json config t (c', count json config t s.1 (.call u method params) c' s.2) := by
  unfold beginCall at h
  split at h
  · obtain rfl := Option.some.inj h
    by_cases hu : u = t
    · subst hu
      simp only [count, if_true, goto, Function.update_self, RequestPlace.request?, Option.map_some,
        Option.getD_some]
      refine ⟨?_, Nat.zero_le _, Nat.zero_le _, ?_, Nat.zero_le _, hs.within⟩
      · dsimp only
        rw [Function.update_self]
        exact Nat.zero_le _
      · dsimp only
        rw [Function.update_self]
        simp only [RequestPlace.rank, RequestPlace.round, maxSteps, Nat.add_mul]
        omega
    · simp only [count, if_neg hu]
      exact hs.elsewhere (Function.update_of_ne (Ne.symm hu) _ _) le_rfl hs.within
  · cases h

theorem bounded_thread {u : Tid} {result : SysResult} (hs : Bounded json config t s)
    (htransfers : (s.1.thread u).transfers result)
    (h : s.1.doRequest json config u result = some c') :
    Bounded json config t (c', count json config t s.1 (.thread u result) c' s.2) := by
  obtain ⟨place, heffect⟩ := effect_doRequest h
  have hwithin := heffect.within hs.within
  by_cases hu : u = t
  · subst hu
    have hplace : c'.thread u = place := by rw [heffect.thread, Function.update_self]
    have hcounts := RequestPlace.counts_step heffect.places hs.retries
    have hrank := RequestPlace.rank_step heffect.places htransfers
    have hsteps := hs.steps
    have hattempts := hs.attempts
    have htransmissions := hs.transmissions
    have hreceived := hs.received
    simp only [count, if_true]
    refine ⟨?_, ?_, ?_, ?_, ?_, hwithin⟩ <;> dsimp only <;> try rw [hplace]
    · exact hcounts.retries
    · exact (Nat.add_le_add_right hattempts _).trans hcounts.attempts
    · exact (Nat.add_le_add_right htransmissions _).trans hcounts.transmissions
    · omega
    · omega
  · simp only [count, if_neg hu]
    refine hs.elsewhere ?_ (Nat.le_add_right _ _) hwithin
    rw [heffect.thread, Function.update_of_ne (Ne.symm hu)]

theorem bounded_step {l : PeerLabel Json Tid} (hs : Bounded json config t s)
    (htransfers : s.1.Transfers l)
    (h : tallied (peerStep json config) (count json config t) s l = some s') :
    Bounded json config t s' := by
  obtain ⟨c', k'⟩ := s'
  obtain ⟨hstep, hcount⟩ := tallied_eq_some.mp h
  dsimp only at hstep hcount
  subst hcount
  cases l with
  | call u method params => exact bounded_call hs hstep
  | thread u result => exact bounded_thread hs htransfers hstep
  | deliver fd data =>
    simp only [peerStep] at hstep
    split at hstep
    · cases hstep
    · rename_i k hk
      split at hstep
      · cases hstep
      · obtain rfl := Option.some.inj hstep
        refine hs.elsewhere rfl le_rfl ?_
        have hput := hs.within.put fd data.length
        rw [pending_setConnection, left, List.length_append]
        rw [pending, hk, left] at hput
        exact hput
  | hangUp fd =>
    obtain ⟨k, hk, rfl⟩ := Option.map_eq_some_iff.mp hstep
    refine hs.elsewhere rfl le_rfl (hs.within.mono (noMore_setConnection ?_))
    rw [pending, hk]
    exact le_rfl

theorem bounded_run
    (h : Run (tallied (peerStep json config) (count json config t)) (fun s l => s.1.Transfers l)
      ({}, {}) s) : Bounded json config t s :=
  h.invariant (fun _ _ _ hs htransfers hstep => bounded_step hs htransfers hstep) bounded_start

/-! ### No overrun -/

section Lines

variable {memory : Nat} {reading : Reading}

theorem finish_overrun {kind : LineKind} {line : Bytes} :
    kind.finish memory line = .overrun ↔ kind = .status ∧ overrunsVersion line = true := by
  cases kind with
  | status =>
    simp only [LineKind.finish, true_and]
    split
    · rename_i hoverrun
      exact iff_of_true rfl hoverrun
    · rename_i hfits
      exact iff_of_false (fun h => Progress.noConfusion h) hfits
  | header response =>
    refine iff_of_false ?_ fun h => LineKind.noConfusion h.1
    simp only [LineKind.finish, endHeaders, readContent]
    grind
  | chunkSize response =>
    refine iff_of_false ?_ fun h => LineKind.noConfusion h.1
    simp only [LineKind.finish]
    grind
  | chunkEnd last response =>
    refine iff_of_false ?_ fun h => LineKind.noConfusion h.1
    simp only [LineKind.finish]
    grind

/-- A line that has been read to its end, be it the end of the connection. -/
theorem finish_fits {kind : LineKind} {start data : Bytes}
    (hend : data = [newline] ∨ data = [] ∧ start ≠ []) :
    kind.finish memory (start ++ data) ≠ .overrun ↔ (Reading.line kind start).Fits data := by
  rw [Ne, finish_overrun]
  cases kind with
  | status => simp [Reading.Fits, hend]
  | _ => exact iff_of_true (fun h => LineKind.noConfusion h.1) trivial

theorem fits_of_unended {kind : LineKind} {start data : Bytes}
    (hend : ¬ (data = [newline] ∨ data = [] ∧ start ≠ [])) :
    (Reading.line kind start).Fits data := by
  cases kind with
  | status => exact fun h => absurd h hend
  | _ => trivial

theorem atEnd_fits : reading.atEnd memory ≠ .overrun ↔ reading.Fits [] := by
  cases reading with
  | line kind start =>
    simp only [Reading.atEnd]
    split
    · rename_i hstart
      refine iff_of_true ?_ (fits_of_unended (by simp [hstart]))
      intro hoverrun
      cases kind <;> cases hoverrun
    · rename_i hstart
      have hfits : kind.finish memory (start ++ []) ≠ .overrun ↔ (Reading.line kind start).Fits [] :=
        finish_fits (.inr ⟨rfl, hstart⟩)
      rwa [List.append_nil] at hfits
  | fixed kind bufSize buf => exact iff_of_true (fun h => Progress.noConfusion h) trivial
  | indefinite response => exact iff_of_true (fun h => Progress.noConfusion h) trivial

theorem receive_fits {data : Bytes} (hdata : data.length ≤ reading.wanted) (hne : data ≠ []) :
    reading.receive memory data ≠ .overrun ↔ reading.Fits data := by
  have hblock : (∀ kind start, reading ≠ .line kind start) →
      reading.receive memory data ≠ .overrun := by
    intro hkind hoverrun
    have hbroken : (reading.receive memory data).breaksOff = false := receive_block hkind hdata
    rw [hoverrun] at hbroken
    cases hbroken
  cases reading with
  | line kind start =>
    rw [receive_line hdata hne]
    split
    · rename_i hend
      exact finish_fits (.inl hend)
    · rename_i hend
      exact iff_of_true (fun h => Progress.noConfusion h) (fits_of_unended (by simp [hend, hne]))
  | fixed kind bufSize buf =>
    exact iff_of_true (hblock fun _ _ h => Reading.noConfusion h) trivial
  | indefinite response =>
    exact iff_of_true (hblock fun _ _ h => Reading.noConfusion h) trivial

end Lines

/-- No thread has overrun the memory for a version. -/
def Defined (c : HTTPClient Json Tid) : Prop := ∀ t w, c.thread t ≠ .overrun w

omit [DecidableEq Tid] in
theorem defined_start : Defined ({} : HTTPClient Json Tid) := by
  intro t w h
  cases h

/-- Only the thread that makes a step can overrun in it. -/
theorem defined_update {place : RequestPlace Json} (hc : c.Defined)
    (h : c'.thread = Function.update c.thread t place) :
    c'.Defined ↔ ∀ w, place ≠ .overrun w := by
  unfold Defined
  rw [h]
  constructor
  · intro hall w
    have hself := hall t w
    rwa [Function.update_self] at hself
  · intro hplace u w
    by_cases hut : u = t
    · rw [hut, Function.update_self]
      exact hplace w
    · rw [Function.update_of_ne hut]
      exact hc u w

theorem placeAfter_overrun {w : Errand Json} {fd : Option Nat} {progress : Progress} :
    (∀ w', SocketStream.placeAfter w fd progress ≠ .overrun w') ↔ progress ≠ .overrun := by
  cases progress with
  | overrun =>
    apply iff_of_false
    · exact fun h => h w rfl
    · exact fun h => h rfl
  | done response =>
    simp only [SocketStream.placeAfter]
    split <;> simp
  | _ => simp [SocketStream.placeAfter]

omit [DecidableEq Tid] in
theorem fits_of_place {result : SysResult} (hplace : ∀ w fd reading, c.thread t ≠ .recv w fd reading) :
    c.Fits (.thread t result) := by
  cases result with
  | amount n =>
    cases hthread : c.thread t with
    | recv w fd reading => exact absurd hthread (hplace w fd reading)
    | _ => simp [Fits, RequestPlace.Fits, hthread]
  | _ => trivial

/-- Outside `recv` nothing is overrun. -/
theorem placeStep_defined {memory : Nat} {data : JsonRPCRequest Json → Bytes}
    {before place : RequestPlace Json} {result : SysResult}
    (h : PlaceStep memory data before result place)
    (hplace : ∀ w fd reading, before ≠ .recv w fd reading) (w : Errand Json) :
    place ≠ .overrun w := by
  cases h with
  | received | ended | broken => exact absurd rfl (hplace _ _ _)
  | written | sent =>
    intro hoverrun
    unfold sending at hoverrun
    split at hoverrun <;> cases hoverrun
  | _ =>
    intro hoverrun
    cases hoverrun

/-- The status line that ends with `data`, or with the connection, fits. -/
theorem defined_recv {w : Errand Json} {fd : Option Nat} {reading : Reading} {result : SysResult}
    (hc : c.Defined) (hplace : c.thread t = .recv w fd reading)
    (h : c.recv json config t w fd reading result = some c') :
    c'.Defined ↔ c.Fits (.thread t result) := by
  cases result with
  | ok | descriptor => cases h
  | fault =>
    obtain rfl := Option.some.inj h
    rw [defined_update hc (SocketStream.proceed_place json c t), placeAfter_overrun]
    refine iff_of_true ?_ trivial
    intro hoverrun
    cases reading with
    | line kind start => cases kind <;> cases hoverrun
    | _ => cases hoverrun
  | amount n =>
    cases fd with
    | none => cases h
    | some f =>
      cases hk : c.connection f with
      | none => simp [recv, hk] at h
      | some k =>
        have hfits : c.Fits (.thread t (.amount n)) ↔ reading.Fits (k.incoming.take n) := by
          simp [Fits, RequestPlace.Fits, hplace, hk]
        rw [hfits]
        rcases SocketStream.recv_amount json c t hk h with
          ⟨rfl, _, hthread⟩ | ⟨hne, hdata, hthread⟩
        · rw [defined_update hc hthread, placeAfter_overrun, List.take_zero]
          exact atEnd_fits
        · rw [defined_update hc hthread, placeAfter_overrun]
          exact receive_fits hdata hne

/-- A step overruns nothing exactly when the status line that it reads fits. -/
theorem defined_step {l : PeerLabel Json Tid} (hc : c.Defined)
    (h : peerStep json config c l = some c') : c'.Defined ↔ c.Fits l := by
  cases l with
  | call u method params =>
    simp only [peerStep, beginCall] at h
    split at h
    · obtain rfl := Option.some.inj h
      refine iff_of_true ((defined_update hc rfl).mpr fun _ h => ?_) trivial
      cases h
    · cases h
  | thread u result =>
    by_cases hplace : ∃ w fd reading, c.thread u = .recv w fd reading
    · obtain ⟨w, fd, reading, hplace⟩ := hplace
      simp only [peerStep, doRequest, hplace] at h
      exact defined_recv hc hplace h
    · simp only [not_exists] at hplace
      obtain ⟨place, heffect⟩ := effect_doRequest h
      refine iff_of_true ((defined_update hc heffect.thread).mpr ?_) (fits_of_place hplace)
      exact placeStep_defined heffect.places hplace
  | deliver fd data =>
    simp only [peerStep] at h
    split at h
    · cases h
    · split at h
      · cases h
      · obtain rfl := Option.some.inj h
        exact iff_of_true hc trivial
  | hangUp fd =>
    obtain ⟨k, hk, rfl⟩ := Option.map_eq_some_iff.mp h
    exact iff_of_true hc trivial

/-! ### No request is stuck -/

/-- The thread `t` alone, and no call is begun. -/
def alone (t : Tid) (_ : HTTPClient Json Tid) : PeerLabel Json Tid → Prop
  | .thread u _ => u = t
  | _ => False

/-- Whatever the servers do, every system call may fail, and what follows it does not wait. -/
theorem exists_step (json : JsonLibrary Json) (config : HTTPConfig) (hc : c.Defined)
    (h : c.thread t ≠ .outside) :
    ∃ result c', (c.thread t).bytesTaken result = 0 ∧ (c.thread t).transfers result ∧
      c.Fits (.thread t result) ∧ c.doRequest json config t result = some c' := by
  unfold doRequest
  cases hplace : c.thread t with
  | outside => exact absurd hplace h
  | select request i =>
    by_cases hi : i < maxSockets
    · exact ⟨.fault, _, rfl, trivial, trivial, if_pos hi⟩
    · exact ⟨.ok, _, rfl, trivial, trivial, dif_neg hi⟩
  | connect w =>
    refine ⟨.fault, ?_⟩
    simp only [connect]
    split
    · exact ⟨_, rfl, trivial, trivial, rfl⟩
    · exact ⟨_, rfl, trivial, trivial, rfl⟩
  | overrun w => exact absurd hplace (hc t w)
  | _ => exact ⟨.fault, _, rfl, trivial, trivial, rfl⟩

/-- A request can be brought to its end by steps of its own thread. -/
theorem exists_end (hc : c.Defined) (t : Tid) :
    ∃ c', Run (peerStep json config) (alone t) c c' ∧ c'.thread t = .outside := by
  have hadvance : ∀ c : HTTPClient Json Tid, c.Defined → ¬ c.thread t = .outside →
      ∃ c', Run (peerStep json config) (alone t) c c' ∧ c'.Defined ∧
        (c'.thread t).rank (fun request => request.data json config) <
          (c.thread t).rank fun request => request.data json config := by
    intro c hc hplace
    obtain ⟨result, c', hbytes, htransfers, hfits, hstep⟩ := exists_step json config hc hplace
    obtain ⟨place, heffect⟩ := effect_doRequest hstep
    have hrank := RequestPlace.rank_step heffect.places htransfers
    have hdefined := (defined_step (l := .thread t result) hc hstep).mpr hfits
    refine ⟨c', .single (l := .thread t result) rfl hstep, hdefined, ?_⟩
    rw [heffect.thread, Function.update_self]
    omega
  exact exists_final hadvance hc

/-- Whatever the servers offer and whichever system calls fail, a request connects and transmits
at most `maxHttpRetries + 1` times, its steps are bounded by what it receives, and this is no
more than has been offered; and as long as it has not ended it can go on. All this is so as long
as the first word of each status line fits into `version`, and the step that ends another one
overruns it. -/
theorem doRequest_ends (t : Tid) (s : HTTPClient Json Tid × RequestTally)
    (h : Run (tallied (peerStep json config) (count json config t))
      (fun s l => s.1.Transfers l ∧ s.1.Fits l) ({}, {}) s) :
    s.2.attempts ≤ maxHttpRetries + 1 ∧ s.2.transmissions ≤ maxHttpRetries + 1 ∧
      s.2.steps ≤ maxSteps s.2.size + 5 * s.2.received ∧ s.2.received ≤ s.2.offered ∧
      (s.1.thread t ≠ .outside → ∃ result c', s.1.Transfers (.thread t result) ∧
        peerStep json config s.1 (.thread t result) = some c') ∧
      (∃ c, Run (peerStep json config) (alone t) s.1 c ∧ c.thread t = .outside) ∧
      s.1.Defined ∧ ∀ l c', peerStep json config s.1 l = some c' → (c'.Defined ↔ s.1.Fits l) := by
  have hs := bounded_run (h.mono fun _ _ => And.left)
  have hdefined : s.1.Defined := by
    apply Run.invariant (P := fun s => s.1.Defined) _ h defined_start
    intro a l b ha hok hstep
    exact (defined_step ha (tallied_eq_some.mp hstep).1).mpr hok.2
  refine ⟨?_, ?_, ?_, ?_, ?_, exists_end hdefined t, hdefined, fun _ _ => defined_step hdefined⟩
  · exact hs.attempts.trans (RequestPlace.maxAttempts_le hs.retries)
  · exact hs.transmissions.trans (RequestPlace.maxTransmissions_le hs.retries)
  · exact (Nat.le_add_right _ _).trans hs.steps
  · exact hs.received.trans hs.within.used_le
  · intro hplace
    obtain ⟨result, c', -, htransfers, -, hstep⟩ := exists_step json config hdefined hplace
    exact ⟨result, c', htransfers, hstep⟩

instance (place : RequestPlace Json) (result : SysResult) : Decidable (place.transfers result) :=
  match place with
  | .send _ _ _ =>
    match result with
    | .amount n => Nat.decLe 1 n
    | .ok | .fault | .descriptor _ => .isTrue trivial
  | .outside | .select _ _ | .guard _ | .connect _ | .connecting _ | .write _ | .poll _ | .read _ _
  | .recv _ _ _ | .close _ _ | .overrun _ => .isTrue trivial

instance (c : HTTPClient Json Tid) (l : PeerLabel Json Tid) : Decidable (c.Transfers l) :=
  match l with
  | .thread t result => inferInstanceAs (Decidable ((c.thread t).transfers result))
  | .call _ _ _ | .deliver _ _ | .hangUp _ => .isTrue trivial

instance (reading : Reading) (data : Bytes) : Decidable (reading.Fits data) :=
  match reading with
  | .line .status start => inferInstanceAs (Decidable
      (data = [newline] ∨ data = [] ∧ start ≠ [] → overrunsVersion (start ++ data) = false))
  | .line (.header _) _ | .line (.chunkSize _) _ | .line (.chunkEnd _ _) _ | .fixed _ _ _
  | .indefinite _ => .isTrue trivial

instance (connection : Nat → Option (Connection Json)) (amount : Nat) (place : RequestPlace Json) :
    Decidable (place.Fits connection amount) :=
  match place with
  | .recv _ (some fd) reading => inferInstanceAs (Decidable
      (∀ k ∈ connection fd, reading.Fits (k.incoming.take amount)))
  | .recv _ none _ | .outside | .select _ _ | .guard _ | .connect _ | .connecting _ | .write _
  | .send _ _ _ | .poll _ | .read _ _ | .close _ _ | .overrun _ => .isTrue trivial

instance (c : HTTPClient Json Tid) (l : PeerLabel Json Tid) : Decidable (c.Fits l) :=
  match l with
  | .thread t (.amount n) => inferInstanceAs (Decidable ((c.thread t).Fits c.connection n))
  | .thread _ .ok | .thread _ .fault | .thread _ (.descriptor _) | .call _ _ _ | .deliver _ _
  | .hangUp _ => .isTrue trivial

/-- The server closes the first connection before all of the request is sent, and the second one
behind the status line and a header. -/
def interrupted : List (PeerLabel (Option Nat) Bool) :=
  [.call true "GetState" none, .thread true .ok, .thread true .ok, .thread true (.descriptor 3),
    .thread true .ok, .thread true .ok, .thread true (.amount 100), .hangUp 3,
    .thread true .fault, .thread true .ok, .thread true (.descriptor 4), .thread true .ok,
    .thread true .ok, .thread true (.amount 174), .deliver 4 (bytes "HTTP/1.1 200 OK\r\nA: 1\r\n"),
    .hangUp 4, .thread true .ok] ++
  .replicate 26 (.thread true (.amount 1)) ++ .replicate 2 (.thread true (.amount 0))

theorem interrupted_ends :
    ∃ s : HTTPClient (Option Nat) Bool × RequestTally,
      Run (tallied (peerStep .numbers localConfig) (count .numbers localConfig true))
        (fun s l => s.1.Transfers l ∧ s.1.Fits l) ({}, {}) s ∧
      (s.2.attempts = 2 ∧ s.2.transmissions = 2 ∧ s.2.received = 23) ∧ s.2.attempts ≤ maxHttpRetries + 1 ∧
      s.2.steps ≤ maxSteps s.2.size + 5 * s.2.received ∧ s.2.received ≤ s.2.offered ∧
      (∃ c, Run (peerStep .numbers localConfig) (alone true) s.1 c ∧ c.thread true = .outside) ∧
      s.1.Defined := by
  have hreached : reaches (tallied (peerStep .numbers localConfig) (count .numbers localConfig true))
      (fun s l => s.1.Transfers l ∧ s.1.Fits l)
      (({}, {}) : HTTPClient (Option Nat) Bool × RequestTally)
      interrupted (fun s => s.2.attempts = 2 ∧ s.2.transmissions = 2 ∧ s.2.received = 23) = true := by
    decide +kernel
  obtain ⟨s, hrun, htest⟩ := run_of_reaches hreached
  have hcounts := of_decide_eq_true htest
  obtain ⟨hattempts, -, hsteps, hreceived, -, hend, hdefined, -⟩ := doRequest_ends true s hrun
  exact ⟨s, hrun, hcounts, hattempts, hsteps, hreceived, hend, hdefined⟩

/-- A status line with 40 bytes before its first blank. -/
def overlongVersion : Bytes := List.replicate 40 72 ++ bytes " 200 OK\r\n"

/-- A request that has read it neither ends nor goes on. -/
def isOverrun (s : HTTPClient (Option Nat) Bool × RequestTally) : Bool :=
  match s.1.thread true with
  | .overrun _ => true
  | _ => false

theorem overlong_version_overruns :
    ¬ ∀ s : HTTPClient (Option Nat) Bool × RequestTally,
      Run (tallied (peerStep .numbers localConfig) (count .numbers localConfig true))
        (fun s l => s.1.Transfers l) ({}, {}) s → s.1.thread true ≠ .outside →
      ∃ result c', peerStep .numbers localConfig s.1 (.thread true result) = some c' := by
  intro hclaim
  have hreached : reaches (tallied (peerStep .numbers localConfig) (count .numbers localConfig true))
      (fun s l => s.1.Transfers l) (({}, {}) : HTTPClient (Option Nat) Bool × RequestTally)
      ([.call true "GetState" none, .thread true .ok, .thread true .ok,
        .thread true (.descriptor 3), .thread true .ok, .thread true .ok,
        .thread true (.amount 174), .deliver 3 overlongVersion, .thread true .ok] ++
        .replicate 50 (.thread true (.amount 1))) isOverrun = true := by
    decide +kernel
  obtain ⟨s, hrun, htest⟩ := run_of_reaches hreached
  have hplace : ∃ w, s.1.thread true = .overrun w := by
    unfold isOverrun at htest
    split at htest
    · rename_i w hw
      exact ⟨w, hw⟩
    · cases htest
  obtain ⟨w, hw⟩ := hplace
  have hinside : s.1.thread true ≠ .outside := by
    intro houtside
    rw [hw] at houtside
    cases houtside
  obtain ⟨result, c', hstep⟩ := hclaim s hrun hinside
  simp [peerStep, doRequest, hw] at hstep

end HTTPClient

end PeakAnalyser

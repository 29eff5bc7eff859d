import PeakAnalyser.HTTPCalls
import PeakAnalyser.HTTPMessages

/-!
# Where a request leaves its socket

One thread makes requests on the pool of sockets, the server may send anything at any
time, and any allocation may fail. After each request every socket is closed or stands
behind a whole response, as long as the parser takes every line of the responses and
memory does not run out in the middle of one; the request for which this is not so
leaves its socket open there, or never comes to a defined end.
-/

namespace PeakAnalyser

set_option autoImplicit false

open Runs

variable {Json : Type}

/-- The client with, for every connection, what each request has read from it, the latest
request first. -/
structure SocketStream (Json : Type) extends HTTPClient Json Unit where
  received : Nat → List Bytes := fun _ => []

/-- What can happen. At `exhausted` an allocation of `doRequest` fails with `std::bad_alloc`,
perhaps after `recv` has returned `n` bytes. -/
inductive StreamLabel (Json : Type) where
  | call (method : String) (params : Json)
  | thread (result : SysResult)
  | exhausted (n : Nat)
  | deliver (fd : Nat) (data : Bytes)
  | hangUp (fd : Nat)

/-- The connection has ended and nothing of it is left to read. -/
def Connection.ended (k : Connection Json) : Bool := k.hungUp && k.incoming.isEmpty

/-- `recv` has returned `n` bytes: whether memory is allocated before the next call, for a line, a
header, a buffer or the content. -/
def Reading.allocates (reading : Reading) (n : Nat) : Bool :=
  match reading with
  | .line (.chunkSize _) start => n ≠ 0 || (start ≠ [] && strtoul start ≠ 0)
  | .line _ _ | .indefinite _ => n ≠ 0
  | .fixed _ bufSize _ => n ≠ 0 && n = bufSize

namespace SocketStream

/-- The latest request reads `data`. -/
def extend (data : Bytes) : List Bytes → List Bytes
  | [] => []
  | text :: texts => (text ++ data) :: texts

/-- What a step of `doRequest` adds to the texts: `connect` creates a connection, a request
begins to read, or `recv` returns bytes. -/
def record (s : SocketStream Json) (result : SysResult) : Nat → List Bytes :=
  match s.thread (), result with
  | .connect w, .descriptor fd =>
    if (s.mSockets w.socket).closed then Function.update s.received fd [] else s.received
  | .poll w, .ok =>
    match (s.mSockets w.socket).fd with
    | none => s.received
    | some f => Function.update s.received f ([] :: s.received f)
  | .recv _ (some f) _, .amount n =>
    match s.connection f with
    | none => s.received
    | some k => Function.update s.received f (extend (k.incoming.take n) (s.received f))
  | _, _ => s.received

section Steps

variable (json : JsonLibrary Json) (config : HTTPConfig)

/-- Memory runs out: for the text of the request, which is made before the first attempt, in
`connect`, or for what takes the bytes that `recv` has returned. -/
def exhausted (s : SocketStream Json) (n : Nat) : Option (HTTPClient Json Unit) :=
  match s.thread () with
  | .connect w =>
    if w.retries = 0 then some (s.finish () w.request (.error (.inr .allocation))) else none
  | .connecting w => some (s.finish () w.request (.error (.inr .allocation)))
  | .recv w fd reading =>
    if reading.allocates n then
      (s.recv json config () w fd reading (.amount n)).map fun c =>
        { s.toHTTPClient with connection := c.connection }.finish () w.request
          (.error (.inr .allocation))
    else none
  | _ => none

/-- The connection `fd` becomes what `change` makes of it. -/
def serve (s : SocketStream Json) (fd : Nat) (change : Connection Json → Option (Connection Json)) :
    Option (SocketStream Json) :=
  ((s.connection fd).bind change).map fun k =>
    { s with toHTTPClient := s.setConnection fd (some k) }

def step (s : SocketStream Json) : StreamLabel Json → Option (SocketStream Json)
  | .call method params => (s.beginCall () method params).map fun c => { s with toHTTPClient := c }
  | .thread result =>
    (s.doRequest json config () result).map fun c =>
      { toHTTPClient := c, received := s.record result }
  | .exhausted n =>
    (s.exhausted json config n).map fun c =>
      { toHTTPClient := c, received := s.record (.amount n) }
  | .deliver fd data =>
    s.serve fd fun k => if k.hungUp then none else some { k with incoming := k.incoming ++ data }
  | .hangUp fd => s.serve fd fun k => some { k with hungUp := true }

end Steps

/-- The socket is marked closed, or all that each request has read from its connection is one
whole response. -/
def Settled (s : SocketStream Json) (i : Fin maxSockets) : Prop :=
  (s.mSockets i).closed = true ∨
    ∃ fd k, (s.mSockets i).fd = some fd ∧ s.connection fd = some k ∧
      ∀ text ∈ s.received fd, Message k.ended text

/-- The line that `recv` ends is one that the parser can take. Memory does not run out while
bytes of the response are still to come. -/
def accepts (memory : Nat) (s : SocketStream Json) : StreamLabel Json → Prop
  | .thread (.amount n) =>
    match s.thread () with
    | .recv _ (some fd) reading =>
      ∀ k ∈ s.connection fd, reading.Accepts memory (k.incoming.take n)
    | _ => True
  | .exhausted n =>
    match s.thread () with
    | .recv _ (some fd) reading =>
      ∀ k ∈ s.connection fd, (reading.receive memory (k.incoming.take n)).whole
        (Connection.ended { k with incoming := k.incoming.drop n }) = true
    | _ => True
  | _ => True

instance (memory : Nat) (s : SocketStream Json) : DecidablePred (accepts memory s) := by
  intro l
  unfold accepts
  split
  · split <;> infer_instance
  · split <;> infer_instance
  · infer_instance

/-! ### What holds at each place of a request -/

/-- The parser, having read `text`, waits for more; or the connection has ended in the middle of
the response. -/
def Stands (memory : Nat) (k : Connection Json) (text : Bytes) (reading : Reading) : Prop :=
  (∃ progress, responseStart.run memory text = (progress, []) ∧ progress.reading? = some reading) ∨
    (k.ended = true ∧ reading.atEnd memory = .failed)

/-- The socket that a request reads from. -/
def ReadsFrom (memory : Nat) (s : SocketStream Json) (i : Fin maxSockets) (reading : Reading) : Prop :=
  ∃ fd k text texts, (s.mSockets i).fd = some fd ∧ s.connection fd = some k ∧
    s.received fd = text :: texts ∧ Stands memory k text reading ∧
      ∀ text ∈ texts, Message k.ended text

/-- All sockets but `i` are settled. -/
def SettledBut (s : SocketStream Json) (i : Fin maxSockets) : Prop := ∀ j, j ≠ i → s.Settled j

def Placed (memory : Nat) (s : SocketStream Json) : RequestPlace Json → Prop
  | .outside | .select _ _ | .guard _ | .connect _ => ∀ i, s.Settled i
  | .connecting w =>
    (∀ i, s.Settled i) ∧ (s.mSockets w.socket).closed = true ∧
      ∃ fd k, (s.mSockets w.socket).fd = some fd ∧ s.connection fd = some k ∧ s.received fd = [] ∧
        ∀ j, (s.mSockets j).closed = false → (s.mSockets j).fd ≠ some fd
  | .write w | .poll w => (∀ i, s.Settled i) ∧ (s.mSockets w.socket).closed = false
  | .send w fd _ =>
    (∀ i, s.Settled i) ∧ (s.mSockets w.socket).closed = false ∧ fd = (s.mSockets w.socket).fd
  | .read w reading =>
    s.SettledBut w.socket ∧ (s.mSockets w.socket).closed = false ∧ s.ReadsFrom memory w.socket reading
  | .recv w fd reading =>
    s.SettledBut w.socket ∧ (s.mSockets w.socket).closed = false ∧
      s.ReadsFrom memory w.socket reading ∧ fd = (s.mSockets w.socket).fd
  | .close w _ => s.SettledBut w.socket ∧ (s.mSockets w.socket).closed = false
  | .overrun _ => False

/-- Open sockets have connections of their own. -/
structure Consistent (memory : Nat) (s : SocketStream Json) : Prop where
  distinct : ∀ i j fd, (s.mSockets i).closed = false → (s.mSockets j).closed = false →
    (s.mSockets i).fd = some fd → (s.mSockets j).fd = some fd → i = j
  placed : s.Placed memory (s.thread ())

/-! ### What a step leaves alone -/

section Frames

variable {memory : Nat} {s s' : SocketStream Json}

/-- Mutexes apart, nothing about the sockets has changed. -/
structure SameView (s s' : SocketStream Json) : Prop where
  closed : ∀ i, (s'.mSockets i).closed = (s.mSockets i).closed
  fd : ∀ i, (s'.mSockets i).fd = (s.mSockets i).fd
  connection : s'.connection = s.connection
  received : s'.received = s.received

theorem SameView.of_eq (hsockets : s'.mSockets = s.mSockets)
    (hconnection : s'.connection = s.connection) (hreceived : s'.received = s.received) :
    SameView s s' :=
  ⟨fun i => by rw [hsockets], fun i => by rw [hsockets], hconnection, hreceived⟩

theorem Placed.same {place : RequestPlace Json} (hview : SameView s s') (h : s.Placed memory place) :
    s'.Placed memory place := by
  cases place with
  | overrun w => exact h
  | _ =>
    simpa only [Placed, SettledBut, Settled, ReadsFrom, hview.closed, hview.fd, hview.connection,
      hview.received] using h

theorem Consistent.same (hs : Consistent memory s) (hview : SameView s s')
    (hplaced : s.Placed memory (s.thread ()) → s.Placed memory (s'.thread ())) :
    Consistent memory s' := by
  constructor
  · intro i j fd hi hj hfi hfj
    rw [hview.closed] at hi hj
    rw [hview.fd] at hfi hfj
    exact hs.distinct i j fd hi hj hfi hfj
  · exact (hplaced hs.placed).same hview

theorem Consistent.keep (hs : Consistent memory s) (hsockets : s'.mSockets = s.mSockets)
    (hplaced : s'.Placed memory (s'.thread ())) : Consistent memory s' := by
  refine ⟨?_, hplaced⟩
  rw [hsockets]
  exact hs.distinct

/-- The requests on a connection have not read on, and its end is still its end. -/
def Keeps (s s' : SocketStream Json) (fd : Nat) : Prop :=
  s'.received fd = s.received fd ∧
    ∀ k ∈ s.connection fd, ∃ k' ∈ s'.connection fd, k.ended = true → k'.ended = true

theorem Keeps.of_eq {fd : Nat} (hreceived : s'.received fd = s.received fd)
    (hconnection : s'.connection fd = s.connection fd) : Keeps s s' fd :=
  ⟨hreceived, fun k hk => ⟨k, hconnection ▸ hk, id⟩⟩

theorem Settled.keep {i : Fin maxSockets} (h : s.Settled i)
    (hclosed : (s'.mSockets i).closed = (s.mSockets i).closed)
    (hfd : (s'.mSockets i).fd = (s.mSockets i).fd)
    (hkeeps : ∀ fd, (s.mSockets i).closed = false → (s.mSockets i).fd = some fd → Keeps s s' fd) :
    s'.Settled i := by
  rcases h with h | ⟨fd, k, hsocket, hk, htexts⟩
  · exact .inl (hclosed.trans h)
  · by_cases hopen : (s.mSockets i).closed = true
    · exact .inl (hclosed.trans hopen)
    · obtain ⟨hreceived, hconnection⟩ := hkeeps fd (by simpa using hopen) hsocket
      obtain ⟨k', hk', hended⟩ := hconnection k hk
      refine .inr ⟨fd, k', hfd.trans hsocket, hk', ?_⟩
      intro text htext
      rw [hreceived] at htext
      exact (htexts text htext).mono hended

theorem Settled.connected {i : Fin maxSockets} (h : s.Settled i)
    (hopen : (s.mSockets i).closed = false) :
    ∃ fd k, (s.mSockets i).fd = some fd ∧ s.connection fd = some k ∧
      ∀ text ∈ s.received fd, Message k.ended text := by
  rcases h with h | h
  · rw [h] at hopen
    cases hopen
  · exact h

/-- A step that changes one socket. -/
structure Changes (s s' : SocketStream Json) (i : Fin maxSockets) : Prop where
  others : ∀ j, j ≠ i → s'.mSockets j = s.mSockets j
  keeps : ∀ j fd, j ≠ i → (s.mSockets j).closed = false → (s.mSockets j).fd = some fd →
    Keeps s s' fd

theorem SettledBut.change {i : Fin maxSockets} (h : s.SettledBut i) (hchange : Changes s s' i) :
    s'.SettledBut i := by
  intro j hj
  have hsocket := hchange.others j hj
  apply (h j hj).keep (by rw [hsocket]) (by rw [hsocket])
  intro fd hopen hfd
  exact hchange.keeps j fd hj hopen hfd

theorem SettledBut.settled {i : Fin maxSockets} (h : s.SettledBut i) (hi : s.Settled i) (j) :
    s.Settled j := by
  by_cases hj : j = i
  · exact hj ▸ hi
  · exact h j hj

theorem Consistent.change {i : Fin maxSockets} (hs : Consistent memory s) (hchange : Changes s s' i)
    (hi : (s'.mSockets i).closed = false → ∀ j fd, j ≠ i → (s.mSockets j).closed = false →
      (s.mSockets j).fd = some fd → (s'.mSockets i).fd ≠ some fd)
    (hplaced : s'.Placed memory (s'.thread ())) : Consistent memory s' := by
  refine ⟨?_, hplaced⟩
  intro j j' fd hj hj' hfd hfd'
  by_cases hji : j = i
  · by_cases hji' : j' = i
    · rw [hji, hji']
    · rw [hchange.others j' hji'] at hj' hfd'
      subst hji
      exact absurd hfd (hi hj j' fd hji' hj' hfd')
  · rw [hchange.others j hji] at hj hfd
    by_cases hji' : j' = i
    · subst hji'
      exact absurd hfd' (hi hj' j fd hji hj hfd)
    · rw [hchange.others j' hji'] at hj' hfd'
      exact hs.distinct j j' fd hj hj' hfd hfd'

end Frames

/-! ### The steps of `doRequest` -/

section Closing

variable (json : JsonLibrary Json) (c : HTTPClient Json Unit) (w : Errand Json) (exit : Exit)

theorem close_mSockets : (c.close json () w exit).mSockets =
    Function.update c.mSockets w.socket { c.mSockets w.socket with closed := true } := by
  unfold HTTPClient.close HTTPClient.destroy
  cases (c.mSockets w.socket).fd <;> cases exit <;> dsimp only <;> try split
  all_goals rfl

theorem close_connection {fd : Nat} (hfd : (c.mSockets w.socket).fd ≠ some fd) :
    (c.close json () w exit).connection fd = c.connection fd := by
  have hdestroy : (c.destroy w.socket).connection fd = c.connection fd := by
    unfold HTTPClient.destroy
    cases hsocket : (c.mSockets w.socket).fd with
    | none => rfl
    | some fd' =>
      have hne : fd ≠ fd' := fun heq => hfd (heq ▸ hsocket)
      exact Function.update_of_ne hne ..
  rw [← hdestroy]
  cases exit with
  | reconnect =>
    unfold HTTPClient.close
    dsimp only
    split <;> rfl
  | fail => rfl
  | success response => rfl

theorem close_thread : (c.close json () w exit).thread () = .outside ∨
    ∃ w', (c.close json () w exit).thread () = .connect w' := by
  cases exit with
  | reconnect =>
    unfold HTTPClient.close
    dsimp only
    split
    · right
      simp [HTTPClient.goto]
    · left
      simp [HTTPClient.finish, HTTPClient.goto]
  | fail => simp [HTTPClient.close, HTTPClient.finish, HTTPClient.goto]
  | success response => simp [HTTPClient.close, HTTPClient.finish, HTTPClient.goto]

end Closing

section Requests

variable {memory : Nat} {s s' : SocketStream Json} {w : Errand Json} {result : SysResult}
variable (json : JsonLibrary Json)

theorem consistent_select {request : JsonRPCRequest Json} {i : Nat} (hs : Consistent memory s)
    (hplace : s.thread () = .select request i)
    (h : s.select json () request i result = some s'.toHTTPClient)
    (hreceived : s'.received = s.record result) : Consistent memory s' := by
  have hplaced : ∀ j, s.Settled j := by simpa [hplace, Placed] using hs.placed
  have hsame : s'.received = s.received := by simp [hreceived, record, hplace]
  cases result with
  | ok =>
    simp only [HTTPClient.select] at h
    split at h
    · rename_i hi
      split at h
      · have hc := Option.some.inj h
        refine hs.same (.of_eq ?_ ?_ hsame) fun _ => ?_
        · rw [← hc]; rfl
        · rw [← hc]; rfl
        · simpa [← hc, HTTPClient.goto, Placed] using hplaced
      · have hc := Option.some.inj h
        refine hs.same ⟨?_, ?_, ?_, hsame⟩ fun _ => ?_
        · intro j
          by_cases hj : j = ⟨i, hi⟩ <;> simp [← hc, HTTPClient.setSocket, HTTPClient.goto, hj]
        · intro j
          by_cases hj : j = ⟨i, hi⟩ <;> simp [← hc, HTTPClient.setSocket, HTTPClient.goto, hj]
        · rw [← hc]; rfl
        · simpa [← hc, HTTPClient.goto, Placed] using hplaced
    · have hc := Option.some.inj h
      refine hs.same (.of_eq ?_ ?_ hsame) fun _ => ?_
      · rw [← hc]; rfl
      · rw [← hc]; rfl
      · simpa [← hc, HTTPClient.finish, HTTPClient.goto, Placed] using hplaced
  | fault =>
    simp only [HTTPClient.select] at h
    split at h
    · have hc := Option.some.inj h
      refine hs.same (.of_eq ?_ ?_ hsame) fun _ => ?_
      · rw [← hc]; rfl
      · rw [← hc]; rfl
      · simpa [← hc, HTTPClient.goto, Placed] using hplaced
    · cases h
  | amount n => cases h
  | descriptor fd => cases h

theorem consistent_guard (hs : Consistent memory s) (hplace : s.thread () = .guard w)
    (h : s.guard () w = s'.toHTTPClient) (hreceived : s'.received = s.record result) :
    Consistent memory s' := by
  have hplaced : ∀ j, s.Settled j := by simpa [hplace, Placed] using hs.placed
  have hsame : s'.received = s.received := by simp [hreceived, record, hplace]
  refine hs.same ⟨?_, ?_, ?_, hsame⟩ fun _ => ?_
  · intro j
    by_cases hj : j = w.socket <;>
      simp [← h, HTTPClient.guard, HTTPClient.setSocket, HTTPClient.goto, hj]
  · intro j
    by_cases hj : j = w.socket <;>
      simp [← h, HTTPClient.guard, HTTPClient.setSocket, HTTPClient.goto, hj]
  · rw [← h]; rfl
  · simpa [← h, HTTPClient.guard, HTTPClient.goto, Placed] using hplaced

/-- The kernel has handed out a descriptor. -/
theorem consistent_created {fd : Nat} (hs : Consistent memory s) (hplaced : ∀ i, s.Settled i)
    (hclosed : (s.mSockets w.socket).closed = true) (hnone : s.connection fd = none)
    (hsockets : s'.mSockets = Function.update s.mSockets w.socket
      { s.mSockets w.socket with fd := some fd })
    (hconnection : s'.connection = Function.update s.connection fd (some {}))
    (hreceived : s'.received = Function.update s.received fd [])
    (hthread : s'.thread () = .connecting w) : Consistent memory s' := by
  have hunused : ∀ j, (s.mSockets j).closed = false → (s.mSockets j).fd ≠ some fd := by
    intro j hopen hfd
    obtain ⟨fd', k, hfd', hk, -⟩ := (hplaced j).connected hopen
    rw [hfd, Option.some.injEq] at hfd'
    rw [← hfd', hnone] at hk
    cases hk
  have hchange : Changes s s' w.socket := by
    constructor
    · intro j hj
      rw [hsockets, Function.update_of_ne hj]
    · intro j f _ hopen hf
      have hne : f ≠ fd := fun heq => hunused j hopen (heq ▸ hf)
      apply Keeps.of_eq
      · rw [hreceived, Function.update_of_ne hne]
      · rw [hconnection, Function.update_of_ne hne]
  have hstill : (s'.mSockets w.socket).closed = true := by simp [hsockets, hclosed]
  have hbut : s'.SettledBut w.socket := SettledBut.change (fun j _ => hplaced j) hchange
  refine hs.change hchange (fun hopen => ?_) ?_
  · rw [hstill] at hopen
    cases hopen
  · rw [hthread]
    refine ⟨hbut.settled (.inl hstill), hstill, fd, {}, ?_, ?_, ?_, ?_⟩
    · simp [hsockets]
    · simp [hconnection]
    · simp [hreceived]
    · intro j hopen hfd
      by_cases hj : j = w.socket
      · rw [hj, hstill] at hopen
        cases hopen
      · rw [hchange.others j hj] at hopen hfd
        exact hunused j hopen hfd

/-- A request ends while its socket is marked closed. -/
theorem consistent_unconnected {fd : Option Nat} (hs : Consistent memory s)
    (hplaced : s.SettledBut w.socket) (hclosed : (s.mSockets w.socket).closed = true)
    (hsockets : s'.mSockets = Function.update s.mSockets w.socket { s.mSockets w.socket with fd })
    (hkeeps : ∀ j fd, (s.mSockets j).closed = false → (s.mSockets j).fd = some fd → Keeps s s' fd)
    (hthread : s'.thread () = .outside) : Consistent memory s' := by
  have hchange : Changes s s' w.socket := by
    constructor
    · intro j hj
      rw [hsockets, Function.update_of_ne hj]
    · intro j f _ hopen hf
      exact hkeeps j f hopen hf
  have hstill : (s'.mSockets w.socket).closed = true := by simp [hsockets, hclosed]
  refine hs.change hchange (fun hopen => ?_) ?_
  · rw [hstill] at hopen
    cases hopen
  · rw [hthread]
    exact (hplaced.change hchange).settled (.inl hstill)

theorem consistent_connect (hs : Consistent memory s) (hplace : s.thread () = .connect w)
    (h : s.connect json () w result = some s'.toHTTPClient)
    (hreceived : s'.received = s.record result) : Consistent memory s' := by
  have hplaced : ∀ j, s.Settled j := by simpa [hplace, Placed] using hs.placed
  unfold HTTPClient.connect at h
  cases hclosed : (s.mSockets w.socket).closed with
  | false =>
    have hsame : s'.received = s.received := by
      rw [hreceived]
      cases result <;> simp [record, hplace, hclosed]
    simp only [hclosed, Bool.not_false, if_true] at h
    have hc := Option.some.inj h
    refine hs.same (.of_eq ?_ ?_ hsame) fun _ => ?_
    · rw [← hc]; rfl
    · rw [← hc]; rfl
    · simpa [← hc, HTTPClient.goto, Placed, hclosed] using hplaced
  | true =>
    rw [if_neg (by simp [hclosed])] at h
    cases result with
    | descriptor fd =>
      simp only at h
      split at h
      · rename_i hfresh
        have hc := Option.some.inj h
        apply consistent_created hs hplaced hclosed (by simpa using hfresh)
        · rw [← hc]; rfl
        · rw [← hc]; rfl
        · simp [hreceived, record, hplace, hclosed]
        · simp [← hc, HTTPClient.goto]
      · cases h
    | fault =>
      have hc := Option.some.inj h
      have hsame : s'.received = s.received := by simp [hreceived, record, hplace]
      have hsockets : s'.mSockets = Function.update s.mSockets w.socket
          { s.mSockets w.socket with fd := none } := by rw [← hc]; rfl
      apply consistent_unconnected hs (fun j _ => hplaced j) hclosed hsockets
      · intro j f _ _
        apply Keeps.of_eq
        · rw [hsame]
        · rw [← hc]; rfl
      · simp [← hc, HTTPClient.finish, HTTPClient.goto]
    | ok => cases h
    | amount n => cases h

theorem consistent_connecting (hs : Consistent memory s) (hplace : s.thread () = .connecting w)
    (h : s.connecting json () w result = some s'.toHTTPClient)
    (hreceived : s'.received = s.record result) : Consistent memory s' := by
  have hplaced := hs.placed
  simp only [hplace, Placed] at hplaced
  obtain ⟨hsettled, hclosed, fd, k, hfd, hk, htexts, hunused⟩ := hplaced
  have hsame : s'.received = s.received := by simp [hreceived, record, hplace]
  cases result with
  | ok =>
    have hc := Option.some.inj h
    have hsockets : s'.mSockets = Function.update s.mSockets w.socket
        { s.mSockets w.socket with closed := false } := by rw [← hc]; rfl
    have hconnection : s'.connection = s.connection := by rw [← hc]; rfl
    have hchange : Changes s s' w.socket := by
      constructor
      · intro j hj
        rw [hsockets, Function.update_of_ne hj]
      · intro j f _ _ _
        exact Keeps.of_eq (by rw [hsame]) (by rw [hconnection])
    have hbut : s'.SettledBut w.socket := SettledBut.change (fun j _ => hsettled j) hchange
    refine hs.change hchange (fun _ j f hj hopen hf => ?_) ?_
    · rw [hsockets, Function.update_self, hfd]
      intro heq
      obtain rfl := Option.some.inj heq
      exact hunused j hopen hf
    · have hthread : s'.thread () = .write w := by simp [← hc, HTTPClient.goto]
      rw [hthread]
      refine ⟨hbut.settled (.inr ⟨fd, k, ?_, ?_, ?_⟩), ?_⟩
      · simp [hsockets, hfd]
      · rw [hconnection, hk]
      · intro text htext
        rw [hsame, htexts] at htext
        cases htext
      · simp [hsockets]
  | fault =>
    have hc := Option.some.inj h
    have hsockets : s'.mSockets = Function.update s.mSockets w.socket
        { s.mSockets w.socket with fd := none } := by
      rw [← hc]
      simp [HTTPClient.destroy, hfd, HTTPClient.finish, HTTPClient.goto, HTTPClient.setSocket,
        HTTPClient.setConnection]
    apply consistent_unconnected hs (fun j _ => hsettled j) hclosed hsockets
    · intro j f hopen hf
      have hne : f ≠ fd := fun heq => hunused j hopen (heq ▸ hf)
      apply Keeps.of_eq
      · rw [hsame]
      · simp [← hc, HTTPClient.destroy, hfd, HTTPClient.finish, HTTPClient.goto,
          HTTPClient.setSocket, HTTPClient.setConnection, hne]
    · simp [← hc, HTTPClient.finish, HTTPClient.goto]
  | amount n => cases h
  | descriptor fd => cases h

theorem consistent_write (config : HTTPConfig) (hs : Consistent memory s)
    (hplace : s.thread () = .write w)
    (h : s.goto () (HTTPClient.sending w (s.mSockets w.socket).fd (w.request.data json config)) =
      s'.toHTTPClient)
    (hreceived : s'.received = s.record result) : Consistent memory s' := by
  have hplaced := hs.placed
  simp only [hplace, Placed] at hplaced
  have hsame : s'.received = s.received := by simp [hreceived, record, hplace]
  refine hs.same (.of_eq ?_ ?_ hsame) fun _ => ?_
  · rw [← h]; rfl
  · rw [← h]; rfl
  · simp only [← h, HTTPClient.goto, Function.update_self, HTTPClient.sending]
    split
    · exact hplaced
    · exact ⟨hplaced.1, hplaced.2, rfl⟩

theorem consistent_send {fd : Option Nat} {remaining : Bytes} (hs : Consistent memory s)
    (hplace : s.thread () = .send w fd remaining)
    (h : s.send () w fd remaining result = some s'.toHTTPClient)
    (hreceived : s'.received = s.record result) : Consistent memory s' := by
  have hplaced := hs.placed
  simp only [hplace, Placed] at hplaced
  obtain ⟨hsettled, hopen, hfd⟩ := hplaced
  have hsame : s'.received = s.received := by simp [hreceived, record, hplace]
  cases result with
  | amount n =>
    cases fd with
    | none => cases h
    | some f =>
      simp only [HTTPClient.send] at h
      cases hk : s.connection f with
      | none => simp [hk] at h
      | some k =>
        simp only [hk] at h
        split at h
        · have hc := Option.some.inj h
          have hsockets : s'.mSockets = s.mSockets := by rw [← hc]; rfl
          have hconnection : s'.connection = Function.update s.connection f (some { k with
              outgoing := k.outgoing ++ (remaining.take n).map fun b => (w.request, b) }) := by
            rw [← hc]; rfl
          have hkeeps : ∀ f', Keeps s s' f' := by
            intro f'
            refine ⟨by rw [hsame], ?_⟩
            intro k' hk'
            rw [hconnection]
            by_cases hf : f' = f
            · subst hf
              obtain rfl := Option.some.inj (hk.symm.trans hk')
              exact ⟨_, Function.update_self .., id⟩
            · exact ⟨k', (Function.update_of_ne hf ..).trans hk', id⟩
          have hsettled' : ∀ i, s'.Settled i := fun i =>
            (hsettled i).keep (by rw [hsockets]) (by rw [hsockets]) fun f' _ _ => hkeeps f'
          apply hs.keep hsockets
          rw [← hsockets] at hopen hfd
          have hthread : s'.thread () = HTTPClient.sending w (some f) (remaining.drop n) := by
            simp [← hc, HTTPClient.goto]
          rw [hthread, HTTPClient.sending]
          split
          · exact ⟨hsettled', hopen⟩
          · exact ⟨hsettled', hopen, hfd⟩
        · cases h
  | fault =>
    have hc := Option.some.inj h
    refine hs.same (.of_eq ?_ ?_ hsame) fun _ => ?_
    · rw [← hc]; rfl
    · rw [← hc]; rfl
    · simp only [← hc, HTTPClient.goto, Function.update_self]
      exact ⟨fun i _ => hsettled i, hopen⟩
  | ok => cases h
  | descriptor f => cases h

theorem consistent_poll (hs : Consistent memory s) (hplace : s.thread () = .poll w)
    (h : s.poll () w result = some s'.toHTTPClient)
    (hreceived : s'.received = s.record result) : Consistent memory s' := by
  have hplaced := hs.placed
  simp only [hplace, Placed] at hplaced
  obtain ⟨hsettled, hopen⟩ := hplaced
  cases result with
  | ok =>
    obtain ⟨fd, k, hfd, hk, htexts⟩ := (hsettled w.socket).connected hopen
    simp only [HTTPClient.poll, hfd, hk] at h
    split at h
    · have hc := Option.some.inj h
      have hsockets : s'.mSockets = s.mSockets := by rw [← hc]; rfl
      have hconnection : s'.connection = s.connection := by rw [← hc]; rfl
      have hnew : s'.received = Function.update s.received fd ([] :: s.received fd) := by
        simp [hreceived, record, hplace, hfd]
      have hchange : Changes s s' w.socket := by
        constructor
        · intro j _
          rw [hsockets]
        · intro j f hj hopenj hf
          have hne : f ≠ fd := fun heq => hj (hs.distinct j w.socket fd hopenj hopen (heq ▸ hf) hfd)
          apply Keeps.of_eq
          · rw [hnew, Function.update_of_ne hne]
          · rw [hconnection]
      apply hs.keep hsockets
      have hthread : s'.thread () = .read w (.line .status []) := by simp [← hc, HTTPClient.goto]
      rw [hthread]
      refine ⟨SettledBut.change (fun j _ => hsettled j) hchange, by rw [hsockets, hopen], ?_⟩
      refine ⟨fd, k, [], s.received fd, by rw [hsockets, hfd], by rw [hconnection, hk], ?_, ?_, htexts⟩
      · rw [hnew, Function.update_self]
      · exact .inl ⟨responseStart, rfl, rfl⟩
    · cases h
  | fault =>
    have hsame : s'.received = s.received := by simp [hreceived, record, hplace]
    have hc := Option.some.inj h
    refine hs.same (.of_eq ?_ ?_ hsame) fun _ => ?_
    · rw [← hc]; rfl
    · rw [← hc]; rfl
    · simp only [← hc, HTTPClient.goto, Function.update_self]
      exact ⟨fun i _ => hsettled i, hopen⟩
  | amount n => cases h
  | descriptor f => cases h

theorem consistent_read {reading : Reading} (hs : Consistent memory s)
    (hplace : s.thread () = .read w reading)
    (h : s.goto () (.recv w (s.mSockets w.socket).fd reading) = s'.toHTTPClient)
    (hreceived : s'.received = s.record result) : Consistent memory s' := by
  have hplaced := hs.placed
  simp only [hplace, Placed] at hplaced
  have hsame : s'.received = s.received := by simp [hreceived, record, hplace]
  refine hs.same (.of_eq ?_ ?_ hsame) fun _ => ?_
  · rw [← h]; rfl
  · rw [← h]; rfl
  · simp only [← h, HTTPClient.goto, Function.update_self]
    exact ⟨hplaced.1, hplaced.2.1, hplaced.2.2, rfl⟩

/-- `this->close(s)` -/
theorem consistent_close {exit : Exit} (hs : Consistent memory s)
    (hplace : s.thread () = .close w exit) (h : s.close json () w exit = s'.toHTTPClient)
    (hreceived : s'.received = s.record result) : Consistent memory s' := by
  have hplaced := hs.placed
  simp only [hplace, Placed] at hplaced
  obtain ⟨hbut, hopen⟩ := hplaced
  have hsame : s'.received = s.received := by simp [hreceived, record, hplace]
  have hsockets : s'.mSockets = Function.update s.mSockets w.socket
      { s.mSockets w.socket with closed := true } := by
    rw [← h]
    exact close_mSockets json s.toHTTPClient w exit
  have hchange : Changes s s' w.socket := by
    constructor
    · intro j hj
      rw [hsockets, Function.update_of_ne hj]
    · intro j f hj hopenj hf
      apply Keeps.of_eq
      · rw [hsame]
      · rw [← h]
        apply close_connection
        exact fun heq => hj (hs.distinct j w.socket f hopenj hopen hf heq)
  have hstill : (s'.mSockets w.socket).closed = true := by simp [hsockets]
  have hsettled : ∀ i, s'.Settled i := (hbut.change hchange).settled (.inl hstill)
  refine hs.change hchange (fun hopen => ?_) ?_
  · rw [hstill] at hopen
    cases hopen
  · rcases close_thread json s.toHTTPClient w exit with hthread | ⟨w', hthread⟩
    · rw [← h, hthread]
      exact hsettled
    · rw [← h, hthread]
      exact hsettled

end Requests

/-! ### What `recv` hands over -/

section Receiving

variable {memory n : Nat} {k : Connection Json} {text : Bytes} {reading : Reading}

/-- Where the parser is after a call of `recv`, seen from the text that it has read. -/
def Reached (memory : Nat) (progress : Progress) (k : Connection Json) (text : Bytes) : Prop :=
  match progress with
  | .more reading | .next reading => Stands memory k text reading
  | .done _ => Message k.ended text
  | .thrown _ | .overrun => ¬ Message k.ended text
  | .retry | .failed => True

theorem reached_of_reading {progress : Progress} (hreading : progress.reading? = some reading)
    (h : Stands memory k text reading) : Reached memory progress k text := by
  cases progress <;> cases hreading <;> exact h

theorem reached_of_breaksOff {progress : Progress} (hbroken : progress.breaksOff = true)
    (h : ¬ Message k.ended text) : Reached memory progress k text := by
  cases progress with
  | thrown exception => exact h
  | overrun => exact h
  | _ => cases hbroken

theorem reached_of_run {progress : Progress} (htext : responseStart.run memory text = (progress, [])) :
    Reached memory progress k text := by
  have hmessage : Message k.ended text ↔ progress.whole k.ended = true := message_iff_whole htext
  cases progress with
  | more reading => exact .inl ⟨_, htext, rfl⟩
  | next reading => exact .inl ⟨_, htext, rfl⟩
  | done response => exact hmessage.mpr rfl
  | retry => trivial
  | failed => trivial
  | thrown exception => exact fun hwhole => Bool.false_ne_true (hmessage.mp hwhole)
  | overrun => exact fun hwhole => Bool.false_ne_true (hmessage.mp hwhole)

/-- `recv` returned bytes. -/
theorem Stands.receive {data rest : Bytes} (h : Stands memory k text reading)
    (hincoming : k.incoming = data ++ rest) (hne : data ≠ []) (hdata : data.length ≤ reading.wanted) :
    responseStart.run memory (text ++ data) = (reading.receive memory data, []) := by
  rcases h with ⟨progress, htext, hreading⟩ | ⟨hended, _⟩
  · exact run_receive_of_run htext hreading hdata hne
  · have hnil : k.incoming = [] := by
      simp only [Connection.ended, Bool.and_eq_true, List.isEmpty_iff] at hended
      exact hended.2
    rw [hincoming] at hnil
    exact absurd (List.append_eq_nil_iff.mp hnil).1 hne

/-- `recv` returned 0. -/
theorem Stands.atEnd (h : Stands memory k text reading) (hended : k.ended = true) :
    Reached memory (reading.atEnd memory) k text := by
  rcases h with ⟨progress, htext, hreading⟩ | ⟨_, hfailed⟩
  · have hopen : reading.Open := run_open responseStart_open text (by rw [htext]; exact hreading)
    have hmessage : Message k.ended text ↔ progress.whole k.ended = true := message_iff_whole htext
    rw [whole_reading hreading] at hmessage
    have hcases := atEnd_cases memory hopen
    rcases hcases with
      ⟨response, rfl, hdone⟩ | ⟨hkind, hretry | hfailed | hbroken | ⟨next, hnext, hfails⟩⟩
    · rw [hdone]
      exact hmessage.mpr ((Bool.true_and _).trans hended)
    · rw [hretry]
      trivial
    · rw [hfailed]
      trivial
    · apply reached_of_breaksOff hbroken
      rw [hmessage, isIndefinite_eq_false hkind]
      exact Bool.false_ne_true
    · exact reached_of_reading hnext (.inr ⟨hended, hfails⟩)
  · rw [hfailed]
    trivial

end Receiving

section Proceeding

variable {memory : Nat} {s s' : SocketStream Json} {w : Errand Json} {fd : Option Nat}
  {reading : Reading} {progress : Progress} {result : SysResult}
variable (json : JsonLibrary Json)

def placeAfter (w : Errand Json) (fd : Option Nat) : Progress → RequestPlace Json
  | .more reading => .recv w fd reading
  | .next reading => .read w reading
  | .done response => if response.reconnect then .close w (.success response) else .outside
  | .retry => .close w .reconnect
  | .failed => .close w .fail
  | .thrown _ => .outside
  | .overrun => .overrun w

section Clients

variable {Tid : Type} [DecidableEq Tid] (c : HTTPClient Json Tid) (t : Tid)

theorem proceed_place :
    (c.proceed json t w fd progress).thread = Function.update c.thread t (placeAfter w fd progress) := by
  cases progress with
  | done response =>
    simp only [HTTPClient.proceed, placeAfter]
    split <;> rfl
  | _ => rfl

theorem proceed_mSockets : (c.proceed json t w fd progress).mSockets = c.mSockets := by
  cases progress with
  | done response =>
    simp only [HTTPClient.proceed]
    split <;> rfl
  | _ => rfl

theorem proceed_connection : (c.proceed json t w fd progress).connection = c.connection := by
  cases progress with
  | done response =>
    simp only [HTTPClient.proceed]
    split <;> rfl
  | _ => rfl

/-- Where a call of `recv` that has returned `n` bytes leaves the connection. -/
theorem recv_connection {config : HTTPConfig} {c' : HTTPClient Json Tid} {f n : Nat}
    {k : Connection Json} (hk : c.connection f = some k)
    (h : c.recv json config t w (some f) reading (.amount n) = some c') :
    c'.connection =
      Function.update c.connection f (some { k with incoming := k.incoming.drop n }) := by
  rcases HTTPClient.recv_amount_cases hk h with ⟨rfl, -, -, rfl⟩ | ⟨-, -, -, rfl⟩
  · rw [proceed_connection, List.drop_zero, ← hk, Function.update_eq_self]
  · rw [proceed_connection]
    rfl

/-- What a call of `recv` that has returned `n` bytes makes of the parser. -/
theorem recv_amount {config : HTTPConfig} {c' : HTTPClient Json Tid} {f n : Nat}
    {k : Connection Json} (hk : c.connection f = some k)
    (h : c.recv json config t w (some f) reading (.amount n) = some c') :
    (n = 0 ∧ k.ended = true ∧ c'.thread =
        Function.update c.thread t (placeAfter w (some f) (reading.atEnd config.memory))) ∨
      (k.incoming.take n ≠ [] ∧ (k.incoming.take n).length ≤ reading.wanted ∧ c'.thread =
        Function.update c.thread t
          (placeAfter w (some f) (reading.receive config.memory (k.incoming.take n)))) := by
  rcases HTTPClient.recv_amount_cases hk h with
    ⟨hzero, hincoming, hhungUp, rfl⟩ | ⟨hpos, hwanted, hlength, rfl⟩
  · exact .inl ⟨hzero, by simp [Connection.ended, hincoming, hhungUp], proceed_place json c t⟩
  · have htake : (k.incoming.take n).length = n := List.length_take_of_le hlength
    refine .inr ⟨?_, htake.trans_le hwanted, proceed_place json (c.setConnection f _) t⟩
    intro hnil
    rw [hnil] at htake
    exact hpos htake.symm

theorem recv_mSockets {config : HTTPConfig} {c' : HTTPClient Json Tid}
    (h : c.recv json config t w fd reading result = some c') : c'.mSockets = c.mSockets := by
  cases result with
  | amount n =>
    cases fd with
    | none => cases h
    | some f =>
      cases hk : c.connection f with
      | none => simp [HTTPClient.recv, hk] at h
      | some k =>
        rcases HTTPClient.recv_amount_cases hk h with ⟨-, -, -, rfl⟩ | ⟨-, -, -, rfl⟩
        · exact proceed_mSockets json _ _
        · exact proceed_mSockets json _ _
  | fault =>
    obtain rfl := Option.some.inj h
    exact proceed_mSockets json _ _
  | ok => cases h
  | descriptor f => cases h

end Clients

/-- A call of `recv` for the socket `i`: what holds of the connection and of the text that the
request has read from it. -/
structure Received (s s' : SocketStream Json) (i : Fin maxSockets)
    (P : Connection Json → Bytes → Prop) : Prop where
  sockets : s'.mSockets = s.mSockets
  others : s'.SettledBut i
  own : ∃ fd k text texts, (s'.mSockets i).fd = some fd ∧ s'.connection fd = some k ∧
    s'.received fd = text :: texts ∧ P k text ∧ ∀ text ∈ texts, Message k.ended text

theorem Received.mono {i : Fin maxSockets} {P Q : Connection Json → Bytes → Prop}
    (h : Received s s' i P) (hPQ : ∀ k text, P k text → Q k text) : Received s s' i Q := by
  obtain ⟨fd, k, text, texts, hfd, hk, htexts, htext, hold⟩ := h.own
  exact ⟨h.sockets, h.others, fd, k, text, texts, hfd, hk, htexts, hPQ k text htext, hold⟩

theorem Received.settled {i : Fin maxSockets}
    (h : Received s s' i fun k text => Message k.ended text) : ∀ j, s'.Settled j := by
  obtain ⟨fd, k, text, texts, hfd, hk, htexts, hmessage, hold⟩ := h.own
  apply h.others.settled
  refine .inr ⟨fd, k, hfd, hk, ?_⟩
  rw [htexts]
  exact List.forall_mem_cons.mpr ⟨hmessage, hold⟩

theorem Received.unsettled {i : Fin maxSockets}
    (h : Received s s' i fun k text => ¬ Message k.ended text)
    (hopen : (s.mSockets i).closed = false) : ¬ s'.Settled i := by
  obtain ⟨fd, k, text, texts, hfd, hk, htexts, hmessage, -⟩ := h.own
  intro hsettled
  rw [← h.sockets] at hopen
  obtain ⟨fd', k', hfd', hk', hall⟩ := hsettled.connected hopen
  obtain rfl := Option.some.inj (hfd.symm.trans hfd')
  obtain rfl := Option.some.inj (hk.symm.trans hk')
  apply hmessage
  apply hall
  rw [htexts]
  exact List.mem_cons_self ..

theorem Received.readsFrom {i : Fin maxSockets} (h : Received s s' i (Reached memory progress))
    (hreading : progress.reading? = some reading) : s'.ReadsFrom memory i reading := by
  obtain ⟨fd, k, text, texts, hfd, hk, htexts, hreached, hold⟩ := h.own
  refine ⟨fd, k, text, texts, hfd, hk, htexts, ?_, hold⟩
  cases progress <;> cases hreading <;> exact hreached

theorem Received.consistent (hs : Consistent memory s)
    (h : Received s s' w.socket (Reached memory progress))
    (hopen : (s.mSockets w.socket).closed = false) (hfd : fd = (s.mSockets w.socket).fd)
    (hthread : s'.thread () = placeAfter w fd progress) (hbroken : progress.breaksOff = false) :
    Consistent memory s' := by
  apply hs.keep h.sockets
  rw [← h.sockets] at hopen hfd
  rw [hthread]
  cases progress with
  | more reading => exact ⟨h.others, hopen, h.readsFrom rfl, hfd⟩
  | next reading => exact ⟨h.others, hopen, h.readsFrom rfl⟩
  | done response =>
    simp only [placeAfter]
    split
    · exact ⟨h.others, hopen⟩
    · exact h.settled
  | retry => exact ⟨h.others, hopen⟩
  | failed => exact ⟨h.others, hopen⟩
  | thrown exception => cases hbroken
  | overrun => cases hbroken

/-- A step on the connection of a request leaves the other sockets as they are. -/
theorem SettledBut.elsewhere {f : Nat} (hbut : s.SettledBut w.socket) (hs : Consistent memory s)
    (hopen : (s.mSockets w.socket).closed = false) (hf : (s.mSockets w.socket).fd = some f)
    (hsockets : s'.mSockets = s.mSockets)
    (hother : ∀ f', f' ≠ f → s'.received f' = s.received f' ∧ s'.connection f' = s.connection f') :
    s'.SettledBut w.socket := by
  apply hbut.change
  constructor
  · intro j _
    rw [hsockets]
  · intro j f' hj hopenj hf'
    have hne : f' ≠ f := fun heq => hj (hs.distinct j w.socket f hopenj hopen (heq ▸ hf') hf)
    exact Keeps.of_eq (hother f' hne).1 (hother f' hne).2

/-- `recv` has returned `n` bytes, which may be none; nothing else has changed. -/
theorem Received.of_amount {f n : Nat} {k : Connection Json} {text : Bytes} {texts : List Bytes}
    {P : Connection Json → Bytes → Prop} (hs : Consistent memory s)
    (hbut : s.SettledBut w.socket) (hopen : (s.mSockets w.socket).closed = false)
    (hf : (s.mSockets w.socket).fd = some f) (hsockets : s'.mSockets = s.mSockets)
    (hconnection : s'.connection =
      Function.update s.connection f (some { k with incoming := k.incoming.drop n }))
    (hreceived : s'.received =
      Function.update s.received f ((text ++ k.incoming.take n) :: texts))
    (hold : ∀ text ∈ texts, Message k.ended text)
    (hP : P { k with incoming := k.incoming.drop n } (text ++ k.incoming.take n)) :
    Received s s' w.socket P := by
  refine ⟨hsockets, hbut.elsewhere hs hopen hf hsockets ?_, f, { k with incoming := k.incoming.drop n },
    text ++ k.incoming.take n, texts, ?_, ?_, ?_, hP, ?_⟩
  · intro f' hne
    rw [hreceived, hconnection]
    exact ⟨Function.update_of_ne hne .., Function.update_of_ne hne ..⟩
  · rw [hsockets, hf]
  · rw [hconnection, Function.update_self]
  · rw [hreceived, Function.update_self]
  · intro t ht
    apply (hold t ht).mono
    intro hended
    simp only [Connection.ended, Bool.and_eq_true, List.isEmpty_iff] at hended ⊢
    exact ⟨hended.1, by simp [hended.2]⟩

theorem received_recv (config : HTTPConfig) (hs : Consistent config.memory s)
    (hplace : s.thread () = .recv w fd reading)
    (h : s.recv json config () w fd reading result = some s'.toHTTPClient)
    (hreceived : s'.received = s.record result) :
    ∃ progress, Received s s' w.socket (Reached config.memory progress) ∧
      s'.thread () = placeAfter w fd progress ∧
      (accepts config.memory s (.thread result) → progress.breaksOff = false) ∧
      ∀ response, progress = .done response → accepts config.memory s (.thread result) := by
  have hplaced := hs.placed
  simp only [hplace, Placed] at hplaced
  obtain ⟨hbut, hopen, ⟨f, k, text, texts, hf, hk, htexts, hstands, hold⟩, rfl⟩ := hplaced
  rw [hf] at h hplace ⊢
  have hsockets := recv_mSockets json _ _ h
  cases result with
  | amount n =>
    have haccepts : accepts config.memory s (.thread (.amount n)) ↔
        reading.Accepts config.memory (k.incoming.take n) := by
      simp [accepts, hplace, hk]
    have hnew : s'.received =
        Function.update s.received f ((text ++ k.incoming.take n) :: texts) := by
      simp [hreceived, record, hplace, hk, htexts, extend]
    have hconnection := recv_connection json _ _ hk h
    rw [haccepts]
    rcases recv_amount json _ _ hk h with ⟨rfl, hended, hthread⟩ | ⟨hne, hdata, hthread⟩
    · have hplace' := congrFun hthread ()
      rw [Function.update_self] at hplace'
      refine ⟨_, .of_amount hs hbut hopen hf hsockets hconnection hnew hold ?_, hplace', ?_, ?_⟩
      · rw [List.take_zero, List.append_nil]
        exact hstands.atEnd hended
      · exact atEnd_accepts
      · intro response hdone
        exact accepts_of_atEnd hdone
    · have hplace' := congrFun hthread ()
      rw [Function.update_self] at hplace'
      refine ⟨_, .of_amount hs hbut hopen hf hsockets hconnection hnew hold ?_, hplace',
        receive_accepts hdata hne, fun response hdone => accepts_of_receive hdata hne hdone⟩
      exact reached_of_run
        (hstands.receive (List.take_append_drop n k.incoming).symm hne hdata)
  | fault =>
    have hc := Option.some.inj h
    have hsame : s'.received = s.received := by simp [hreceived, record, hplace]
    have hconnection : s'.connection = s.connection := by rw [← hc, proceed_connection]
    have hthread : s'.thread () = placeAfter w (some f) reading.fault := by
      rw [← hc, proceed_place, Function.update_self]
    have hfault : reading.fault = .retry ∨ reading.fault = .failed := by
      cases reading with
      | line kind start => cases kind <;> simp [Reading.fault, LineKind.fault]
      | _ => exact .inr rfl
    have hreached : Reached config.memory reading.fault k text := by
      rcases hfault with hfault | hfault <;> rw [hfault] <;> trivial
    refine ⟨_, ⟨hsockets, hbut.elsewhere hs hopen hf hsockets ?_, f, k, text, texts, ?_, ?_, ?_,
      hreached, hold⟩, hthread, ?_, ?_⟩
    · intro f' _
      rw [hsame, hconnection]
      exact ⟨rfl, rfl⟩
    · rw [hsockets, hf]
    · rw [hconnection, hk]
    · rw [hsame, htexts]
    · intro _
      rcases hfault with hfault | hfault <;> rw [hfault] <;> rfl
    · intro _ _
      trivial
  | ok => cases h
  | descriptor f => cases h

end Proceeding

/-! ### Runs -/

section Server

variable {memory : Nat} {s s' : SocketStream Json}

theorem Settled.grow {i : Fin maxSockets} (hsockets : s'.mSockets = s.mSockets)
    (hkeeps : ∀ fd, Keeps s s' fd) (h : s.Settled i) : s'.Settled i :=
  h.keep (by rw [hsockets]) (by rw [hsockets]) fun fd _ _ => hkeeps fd

theorem ReadsFrom.grow {i : Fin maxSockets} {reading : Reading} (hsockets : s'.mSockets = s.mSockets)
    (hkeeps : ∀ fd, Keeps s s' fd) (h : s.ReadsFrom memory i reading) :
    s'.ReadsFrom memory i reading := by
  obtain ⟨fd, k, text, texts, hfd, hk, htexts, hstands, hold⟩ := h
  obtain ⟨hreceived, hconnection⟩ := hkeeps fd
  obtain ⟨k', hk', hended⟩ := hconnection k hk
  refine ⟨fd, k', text, texts, by rw [hsockets, hfd], hk', hreceived.trans htexts, ?_, ?_⟩
  · rcases hstands with hrun | ⟨hend, hfails⟩
    · exact .inl hrun
    · exact .inr ⟨hended hend, hfails⟩
  · exact fun t ht => (hold t ht).mono hended

/-- What the server does changes nothing for a request. -/
theorem Placed.grow {place : RequestPlace Json} (hsockets : s'.mSockets = s.mSockets)
    (hkeeps : ∀ fd, Keeps s s' fd) (h : s.Placed memory place) : s'.Placed memory place := by
  cases place with
  | outside => exact fun i => (h i).grow hsockets hkeeps
  | select request i => exact fun i => (h i).grow hsockets hkeeps
  | guard w => exact fun i => (h i).grow hsockets hkeeps
  | connect w => exact fun i => (h i).grow hsockets hkeeps
  | connecting w =>
    obtain ⟨hsettled, hclosed, fd, k, hfd, hk, htexts, hunused⟩ := h
    obtain ⟨hreceived, hconnection⟩ := hkeeps fd
    obtain ⟨k', hk', -⟩ := hconnection k hk
    refine ⟨fun i => (hsettled i).grow hsockets hkeeps, ?_, fd, k', ?_, hk', ?_, ?_⟩
    · rw [hsockets, hclosed]
    · rw [hsockets, hfd]
    · rw [hreceived, htexts]
    · rwa [hsockets]
  | write w => exact ⟨fun i => (h.1 i).grow hsockets hkeeps, by rw [hsockets, h.2]⟩
  | send w fd remaining =>
    exact ⟨fun i => (h.1 i).grow hsockets hkeeps, by rw [hsockets, h.2.1], by rw [hsockets, h.2.2]⟩
  | poll w => exact ⟨fun i => (h.1 i).grow hsockets hkeeps, by rw [hsockets, h.2]⟩
  | read w reading =>
    exact ⟨fun i hi => (h.1 i hi).grow hsockets hkeeps, by rw [hsockets, h.2.1],
      h.2.2.grow hsockets hkeeps⟩
  | recv w fd reading =>
    exact ⟨fun i hi => (h.1 i hi).grow hsockets hkeeps, by rw [hsockets, h.2.1],
      h.2.2.1.grow hsockets hkeeps, by rw [hsockets, h.2.2.2]⟩
  | close w exit => exact ⟨fun i hi => (h.1 i hi).grow hsockets hkeeps, by rw [hsockets, h.2]⟩
  | overrun w => exact h.elim

theorem consistent_serve {fd : Nat} {change : Connection Json → Option (Connection Json)}
    (hs : Consistent memory s) (h : s.serve fd change = some s')
    (hended : ∀ k k', change k = some k' → k.ended = true → k'.ended = true) :
    Consistent memory s' := by
  obtain ⟨k', hchange, rfl⟩ := Option.map_eq_some_iff.mp h
  obtain ⟨k, hk, hk'⟩ := Option.bind_eq_some_iff.mp hchange
  refine hs.keep rfl (Placed.grow (s := s) rfl ?_ hs.placed)
  intro f
  refine ⟨rfl, ?_⟩
  intro k₀ hk₀
  by_cases hf : f = fd
  · subst hf
    obtain rfl := Option.some.inj (hk.symm.trans hk₀)
    exact ⟨k', Function.update_self .., hended k k' hk'⟩
  · exact ⟨k₀, (Function.update_of_ne hf ..).trans hk₀, id⟩

end Server

section Running

variable {s s' : SocketStream Json} {l : StreamLabel Json} {result : SysResult}
variable {json : JsonLibrary Json} {config : HTTPConfig}

theorem consistent_initial (memory : Nat) : Consistent memory ({} : SocketStream Json) := by
  constructor
  · intro i j fd hopen
    cases hopen
  · intro i
    exact .inl rfl

theorem consistent_call {method : String} {params : Json} (hs : Consistent config.memory s)
    (h : step json config s (.call method params) = some s') : Consistent config.memory s' := by
  obtain ⟨c, hc, rfl⟩ := Option.map_eq_some_iff.mp h
  unfold HTTPClient.beginCall at hc
  split at hc
  · rename_i hplace
    obtain rfl := Option.some.inj hc
    refine hs.same (.of_eq rfl rfl rfl) fun hplaced => ?_
    simp only [HTTPClient.goto, Function.update_self]
    rwa [hplace] at hplaced
  · cases hc

/-- Outside `recv` nothing of a response is taken. -/
theorem accepts_of_place (memory : Nat)
    (hplace : ∀ w fd reading, s.thread () ≠ .recv w fd reading) : accepts memory s l := by
  unfold accepts
  split
  · split
    · rename_i hrecv
      exact absurd hrecv (hplace _ _ _)
    · trivial
  · split
    · rename_i hrecv
      exact absurd hrecv (hplace _ _ _)
    · trivial
  · trivial

/-- The request has come to an end, or to a point behind which nothing is defined. -/
def Over (s : SocketStream Json) : Prop :=
  s.thread () = .outside ∨ ∃ w, s.thread () = .overrun w

/-- The request has ended, and all sockets can be used by the next one. -/
def Reusable (s : SocketStream Json) : Prop := s.thread () = .outside ∧ ∀ i, s.Settled i

theorem Consistent.reusable (hs : Consistent config.memory s) (h : s.Over) : s.Reusable := by
  have hplaced := hs.placed
  rcases h with hthread | ⟨w, hthread⟩
  · rw [hthread] at hplaced
    exact ⟨hthread, hplaced⟩
  · rw [hthread] at hplaced
    exact hplaced.elim

/-- What a step does to the sockets: all is as it should be, and if the request is over, the step
was one that leaves them so; or it was not, and a socket is left in the middle of a response. -/
inductive StepOutcome (memory : Nat) (s s' : SocketStream Json) (l : StreamLabel Json) : Prop where
  | kept (hs' : Consistent memory s') (haccepts : s'.Over → accepts memory s l)
  | left (hnot : ¬ s'.Reusable) (hrefused : ¬ accepts memory s l)

theorem not_reusable_of_unsettled {i : Fin maxSockets} (h : ¬ s.Settled i) : ¬ s.Reusable :=
  fun hreusable => h (hreusable.2 i)

/-- A step of a request. -/
theorem doRequest_outcome (hs : Consistent config.memory s)
    (h : step json config s (.thread result) = some s') :
    StepOutcome config.memory s s' (.thread result) := by
  obtain ⟨hc, hrecord⟩ : s.doRequest json config () result = some s'.toHTTPClient ∧
      s'.received = s.record result := by
    obtain ⟨c, hc, rfl⟩ := Option.map_eq_some_iff.mp h
    exact ⟨hc, rfl⟩
  unfold HTTPClient.doRequest at hc
  cases hplace : s.thread () with
  | recv w fd reading =>
    rw [hplace] at hc
    obtain ⟨progress, hreceived, hthread, hbreaksOff, hdone⟩ :=
      received_recv json config hs hplace hc hrecord
    have hplaced := hs.placed
    simp only [hplace, Placed] at hplaced
    obtain ⟨-, hopen, -, hfd⟩ := hplaced
    cases hbroken : progress.breaksOff with
    | true =>
      refine .left ?_ ?_
      · cases progress with
        | thrown exception => exact not_reusable_of_unsettled (hreceived.unsettled hopen)
        | overrun =>
          intro hreusable
          rw [Reusable, hthread] at hreusable
          cases hreusable.1
        | _ => cases hbroken
      · intro hok
        rw [hbreaksOff hok] at hbroken
        cases hbroken
    | false =>
      refine .kept (hreceived.consistent hs hopen hfd hthread hbroken) ?_
      intro hover
      rw [Over, hthread] at hover
      cases progress with
      | done response => exact hdone response rfl
      | thrown exception => cases hbroken
      | overrun => cases hbroken
      | _ => simp [placeAfter] at hover
  | outside =>
    rw [hplace] at hc
    cases hc
  | overrun w =>
    rw [hplace] at hc
    cases hc
  | _ =>
    rw [hplace] at hc
    refine .kept ?_ fun _ => accepts_of_place _ (by rw [hplace]; nofun)
    first
      | exact consistent_select json hs hplace hc hrecord
      | exact consistent_guard hs hplace (Option.some.inj hc) hrecord
      | exact consistent_connect json hs hplace hc hrecord
      | exact consistent_connecting json hs hplace hc hrecord
      | exact consistent_write json config hs hplace (Option.some.inj hc) hrecord
      | exact consistent_send hs hplace hc hrecord
      | exact consistent_poll hs hplace hc hrecord
      | exact consistent_read hs hplace (Option.some.inj hc) hrecord
      | exact consistent_close json hs hplace (Option.some.inj hc) hrecord

/-- A request that ends without touching a socket. -/
theorem consistent_finish {w : Errand Json}
    {outcome : Except (JsonRPCException ⊕ StdException) Json} (hs : Consistent config.memory s)
    (hsettled : ∀ i, s.Settled i) (h : s.finish () w.request outcome = s'.toHTTPClient)
    (hreceived : s'.received = s.received) : Consistent config.memory s' := by
  refine hs.same (.of_eq ?_ ?_ hreceived) fun _ => ?_
  · rw [← h]; rfl
  · rw [← h]; rfl
  · simpa [← h, HTTPClient.finish, HTTPClient.goto, Placed] using hsettled

/-- At the end of a connection only the buffer for a chunk is allocated. -/
theorem allocates_zero {reading : Reading} (h : reading.allocates 0 = true) :
    ∃ response start, reading = .line (.chunkSize response) start ∧ start ≠ [] ∧
      strtoul start ≠ 0 := by
  cases reading with
  | line kind start =>
    cases kind with
    | chunkSize response => exact ⟨response, start, rfl, by simpa [Reading.allocates] using h⟩
    | _ => cases h
  | fixed kind bufSize buf => cases h
  | indefinite response => cases h

/-- Memory has run out after a call of `recv`: the response has been read as a whole, or it has
not. -/
theorem received_exhausted {w : Errand Json} {fd : Option Nat} {reading : Reading} {n : Nat}
    {c : HTTPClient Json Unit} (hs : Consistent config.memory s)
    (hplace : s.thread () = .recv w fd reading) (hallocates : reading.allocates n = true)
    (hc : s.recv json config () w fd reading (.amount n) = some c)
    (hsockets : s'.mSockets = s.mSockets) (hconnection : s'.connection = c.connection)
    (hreceived : s'.received = s.record (.amount n)) :
    Received s s' w.socket fun k text =>
      Message k.ended text ↔ accepts config.memory s (.exhausted n) := by
  have hplaced := hs.placed
  simp only [hplace, Placed] at hplaced
  obtain ⟨hbut, hopen, ⟨f, k, text, texts, hf, hk, htexts, hstands, hold⟩, rfl⟩ := hplaced
  rw [hf] at hc hplace
  have haccepts : accepts config.memory s (.exhausted n) ↔
      (reading.receive config.memory (k.incoming.take n)).whole
        (Connection.ended { k with incoming := k.incoming.drop n }) = true := by
    simp [accepts, hplace, hk]
  have hnew : s'.received =
      Function.update s.received f ((text ++ k.incoming.take n) :: texts) := by
    simp [hreceived, record, hplace, hk, htexts, extend]
  rw [recv_connection json _ _ hk hc] at hconnection
  refine .of_amount hs hbut hopen hf hsockets hconnection hnew hold ?_
  rw [haccepts]
  rcases recv_amount json _ _ hk hc with ⟨rfl, _, _⟩ | ⟨hne, hdata, _⟩
  · obtain ⟨response, start, rfl, hstart, hsize⟩ := allocates_zero hallocates
    rcases hstands with ⟨progress, htext, hreading⟩ | ⟨_, hfailed⟩
    · have hmessage : Message k.ended text ↔ progress.whole k.ended = true :=
        message_iff_whole htext
      rw [whole_reading hreading] at hmessage
      rw [List.take_zero, List.append_nil]
      exact hmessage
    · simp only [Reading.atEnd, if_neg hstart, LineKind.finish, if_neg hsize] at hfailed
      split at hfailed <;> cases hfailed
  · exact message_iff_whole
      (hstands.receive (List.take_append_drop n k.incoming).symm hne hdata)

/-- An allocation fails. -/
theorem exhausted_outcome {n : Nat} (hs : Consistent config.memory s)
    (h : step json config s (.exhausted n) = some s') :
    StepOutcome config.memory s s' (.exhausted n) := by
  obtain ⟨hc, hrecord⟩ : s.exhausted json config n = some s'.toHTTPClient ∧
      s'.received = s.record (.amount n) := by
    obtain ⟨c, hc, rfl⟩ := Option.map_eq_some_iff.mp h
    exact ⟨hc, rfl⟩
  have hplaced := hs.placed
  unfold exhausted at hc
  cases hplace : s.thread () with
  | connect w =>
    simp only [hplace, Placed] at hc hplaced
    split at hc
    · refine .kept (consistent_finish hs hplaced (Option.some.inj hc) ?_)
        fun _ => accepts_of_place _ (by rw [hplace]; nofun)
      simp [hrecord, record, hplace]
    · cases hc
  | connecting w =>
    simp only [hplace, Placed] at hc hplaced
    refine .kept (consistent_finish hs hplaced.1 (Option.some.inj hc) ?_)
      fun _ => accepts_of_place _ (by rw [hplace]; nofun)
    simp [hrecord, record, hplace]
  | recv w fd reading =>
    simp only [hplace, Placed] at hc hplaced
    split at hc
    · rename_i hallocates
      obtain ⟨c, hrecv, hend⟩ := Option.map_eq_some_iff.mp hc
      have hsockets : s'.mSockets = s.mSockets := by rw [← hend]; rfl
      have hconnection : s'.connection = c.connection := by rw [← hend]; rfl
      have hthread : s'.thread () = .outside := by
        simp [← hend, HTTPClient.finish, HTTPClient.goto]
      have hreceived :=
        received_exhausted hs hplace hallocates hrecv hsockets hconnection hrecord
      by_cases hok : accepts config.memory s (.exhausted n)
      · have hsettled := (hreceived.mono fun k text hiff => hiff.mpr hok).settled
        refine .kept (hs.keep hsockets ?_) fun _ => hok
        rw [hthread]
        exact hsettled
      · have hunsettled := (hreceived.mono fun k text hiff => hiff.not.mpr hok).unsettled hplaced.2.1
        exact .left (not_reusable_of_unsettled hunsettled) hok
    · cases hc
  | _ =>
    rw [hplace] at hc
    cases hc

theorem step_outcome (hs : Consistent config.memory s) (h : step json config s l = some s') :
    StepOutcome config.memory s s' l := by
  cases l with
  | call method params => exact .kept (consistent_call hs h) fun _ => trivial
  | thread result => exact doRequest_outcome hs h
  | exhausted n => exact exhausted_outcome hs h
  | deliver fd data =>
    refine .kept (consistent_serve hs h ?_) fun _ => trivial
    intro k k' hk hended
    split at hk
    · cases hk
    · rename_i hup
      simp [Connection.ended, hup] at hended
  | hangUp fd =>
    refine .kept (consistent_serve hs h ?_) fun _ => trivial
    intro k k' hk hended
    obtain rfl := Option.some.inj hk
    simp only [Connection.ended, Bool.and_eq_true] at hended ⊢
    exact ⟨trivial, hended.2⟩

/-- While the parser accepts every line of the responses and memory does not run out in the middle
of one, no memory is overrun, and each socket is closed or stands behind whole responses whenever
no request goes on. The step for which this is not so ends its request with a socket that is
neither, or in an overrun. -/
theorem sockets_settled (hrun : Run (step json config) (accepts config.memory) {} s) :
    (s.Over → s.Reusable) ∧
      ∀ l s', step json config s l = some s' → s'.Over →
        (s'.Reusable ↔ accepts config.memory s l) := by
  have hs : Consistent config.memory s := by
    apply hrun.invariant (P := Consistent config.memory) _ (consistent_initial config.memory)
    intro a l b ha hok hab
    cases step_outcome ha hab with
    | kept hb _ => exact hb
    | left _ hrefused => exact absurd hok hrefused
  refine ⟨hs.reusable, ?_⟩
  intro l s' hstep hover
  cases step_outcome hs hstep with
  | kept hs' haccepts => exact ⟨fun _ => haccepts hover, fun _ => hs'.reusable hover⟩
  | left hnot hrefused => exact ⟨fun h => absurd h hnot, fun h => absurd h hrefused⟩

end Running

/-! ### A response with an empty header -/

def isIdle (s : SocketStream Json) : Bool :=
  match s.thread () with
  | .outside => true
  | _ => false

theorem outside_of_isIdle {s : SocketStream Json} (h : s.isIdle = true) : s.thread () = .outside := by
  unfold isIdle at h
  split at h
  · assumption
  · cases h

/-- The first call: its request has been sent, `response` comes back and is read by `n` system
calls, byte by byte. -/
def firstCall (response : Bytes) (n : Nat) : List (StreamLabel (Option Nat)) :=
  [.call "GetState" none, .thread .ok, .thread .ok, .thread (.descriptor 3), .thread .ok,
    .thread .ok, .thread (.amount 174), .deliver 3 response, .thread .ok] ++
    .replicate n (.thread (.amount 1))

theorem sockets_settled_after_first_call :
    ∃ s : SocketStream (Option Nat),
      Run (step .numbers HTTPClient.localConfig) (accepts HTTPClient.localConfig.memory) {} s ∧
        (s.mSockets 0).closed = false ∧ ∀ i, s.Settled i := by
  have hreach : reaches (step .numbers HTTPClient.localConfig)
      (accepts HTTPClient.localConfig.memory) ({} : SocketStream (Option Nat))
      (firstCall (HTTPClient.okResponse 0 7) 64)
      (fun s => s.isIdle && !(s.mSockets 0).closed) = true := by
    decide +kernel
  obtain ⟨s, hrun, htest⟩ := run_of_reaches hreach
  obtain ⟨hidle, hopen⟩ := Bool.and_eq_true_iff.mp htest
  exact ⟨s, hrun, by simpa using hopen, ((sockets_settled hrun).1 (.inl (outside_of_isIdle hidle))).2⟩

/-- What the request has read when `substr` throws. -/
def readWithoutValue : Bytes := bytes "HTTP/1.1 200 OK\r\nX:\r\n"

/-- The rest of the response is left for the next request. -/
def leftOver : Bytes := bytes "Content-Length: 1\r\n\r\n7"

/-- A header without a value leaves the socket open in the middle of the response. -/
theorem left_over_after_empty_header :
    ¬ ∀ s : SocketStream (Option Nat), Run (step .numbers HTTPClient.localConfig) always {} s →
      s.thread () = .outside → ∀ i, s.Settled i := by
  intro hclaim
  have hreach : reaches (step .numbers HTTPClient.localConfig) always
      ({} : SocketStream (Option Nat)) (firstCall (readWithoutValue ++ leftOver) 23)
      (fun s => s.isIdle && decide ((s.mSockets 0).closed = false ∧ (s.mSockets 0).fd = some 3 ∧
        s.received 3 = [readWithoutValue] ∧
        (s.connection 3).map (·.incoming) = some leftOver)) = true := by
    decide +kernel
  obtain ⟨s, hrun, htest⟩ := run_of_reaches hreach
  obtain ⟨hidle, hstate⟩ := Bool.and_eq_true_iff.mp htest
  obtain ⟨hopen, hfd, htexts, -⟩ := of_decide_eq_true hstate
  obtain ⟨fd, k, hfd', _, hmessages⟩ :=
    (hclaim s hrun (outside_of_isIdle hidle) 0).connected hopen
  obtain rfl := Option.some.inj (hfd.symm.trans hfd')
  have hthrown : responseStart.run 4096 readWithoutValue = (.thrown .outOfRange, []) := by
    decide +kernel
  apply Bool.false_ne_true
  apply (message_iff_whole hthrown).mp
  apply hmessages
  rw [htexts]
  exact List.mem_singleton_self _

end SocketStream

end PeakAnalyser

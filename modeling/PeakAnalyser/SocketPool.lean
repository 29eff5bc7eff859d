import PeakAnalyser.HTTPClient

/-!
# Requests on the pool of sockets

What a thread can count on at each place of `doRequest`, if no other request
works on its socket: nothing but its own request and the response to it is on the
connection. A step of one thread leaves this to the other threads.
-/

namespace PeakAnalyser

set_option autoImplicit false

open Runs Threads

variable {Json Tid : Type}

namespace RequestPlace

/-- The socket that a request works on: from `try_lock` to the return, or for good after an
overrun. -/
def socket? : RequestPlace Json → Option (Fin maxSockets)
  | .outside | .select _ _ => none
  | .guard w | .connect w | .connecting w | .write w | .send w _ _ | .poll w | .read w _
  | .recv w _ _ | .close w _ | .overrun w => some w.socket

/-- The same without line 177, where the mutex is still locked. -/
def unguarded? : RequestPlace Json → Option (Fin maxSockets)
  | .guard _ => none
  | place => place.socket?

/-- In `connect`, between the creation of the socket and the return. -/
def isConnecting : RequestPlace Json → Bool
  | .connecting _ => true
  | _ => false

end RequestPlace

/-- What the parser makes of a response alone, perhaps after the connection has ended. -/
def Decodes (memory : Nat) (text : Bytes) (response : Response) : Prop :=
  (responseStart.run memory text).2 = [] ∧
    ∃ n, (responseStart.run memory text).1.afterEnd memory n = .done response

/-- The parser, at `progress` and before `k.incoming`, stands where `text` leads it. -/
def Follows (memory : Nat) (text : Bytes) (k : Connection Json) (progress : Progress) : Prop :=
  responseStart.run memory text = progress.run memory k.incoming ∨
    (k.hungUp = true ∧ k.incoming = [] ∧ (responseStart.run memory text).2 = [] ∧
      ∃ n, (responseStart.run memory text).1.afterEnd memory n = progress)

/-- Nothing is on its way in either direction. -/
structure Connection.Clean (k : Connection Json) : Prop where
  outgoing : k.outgoing = []
  incoming : k.incoming = []

section Follows

variable {memory n : Nat} {text : Bytes} {k : Connection Json} {progress : Progress}
  {reading : Reading}

theorem Follows.atEnd (h : Follows memory text k progress)
    (hreading : progress.reading? = some reading) (hincoming : k.incoming = [])
    (hhungUp : k.hungUp = true) : Follows memory text k (reading.atEnd memory) := by
  rcases h with hrun | ⟨_, _, hrest, n, hn⟩
  · rw [hincoming] at hrun
    refine .inr ⟨hhungUp, hincoming, by rw [hrun]; rfl, 1, ?_⟩
    rw [hrun]
    exact Progress.afterEnd_succ hreading
  · refine .inr ⟨hhungUp, hincoming, hrest, n + 1, ?_⟩
    apply Progress.afterEnd_succ
    rw [hn]
    exact hreading

theorem Follows.receive (h : Follows memory text k progress)
    (hreading : progress.reading? = some reading) (hn : n ≠ 0) (hwanted : n ≤ reading.wanted)
    (hlength : n ≤ k.incoming.length) :
    Follows memory text { k with incoming := k.incoming.drop n }
      (reading.receive memory (k.incoming.take n)) := by
  have hne : k.incoming ≠ [] := List.ne_nil_of_length_pos (by omega)
  rcases h with hrun | ⟨_, hincoming, _⟩
  · left
    calc responseStart.run memory text
        = (Progress.more reading).run memory (k.incoming.take n ++ k.incoming.drop n) := by
          rw [hrun, Progress.run_eq hreading hne, List.take_append_drop]
      _ = (reading.receive memory (k.incoming.take n)).run memory (k.incoming.drop n) := by
          apply Reading.run_receive
          exact (List.length_take_le _ _).trans hwanted
  · exact absurd hincoming hne

theorem Follows.done {response : Response} (h : Follows memory text k (.done response))
    (hframed : Framed memory text) : k.incoming = [] ∧ Decodes memory text response := by
  rcases h with hrun | ⟨_, hincoming, hrest, n, hn⟩
  · have hrun := hrun.trans (Progress.run_of_stopped rfl _)
    have hincoming : k.incoming = [] := by simpa [Framed, hrun] using hframed
    refine ⟨hincoming, ?_, 0, ?_⟩ <;> rw [hrun]
    · exact hincoming
    · rfl
  · exact ⟨hincoming, hrest, n, hn⟩

/-- An exception leaves nothing unread: a framed response raises none before its end. -/
theorem Follows.thrown {exception : StdException} (h : Follows memory text k (.thrown exception))
    (hframed : Framed memory text) : k.incoming = [] := by
  rcases h with hrun | ⟨_, hincoming, _⟩
  · have hrun := hrun.trans (Progress.run_of_stopped rfl _)
    simp [Framed, hrun] at hframed
  · exact hincoming

/-- What is decoded of a response that the parser has finished. -/
theorem Decodes.eq_of_done {memory : Nat} {text : Bytes} {response response' : Response}
    (h : Decodes memory text response) (hdone : (responseStart.run memory text).1 = .done response') :
    response = response' := by
  obtain ⟨_, n, hn⟩ := h
  rw [hdone, Progress.afterEnd_of_stopped rfl] at hn
  exact (Progress.done.inj hn).symm

end Follows

namespace HTTPClient

section Definitions

variable (json : JsonLibrary Json) (config : HTTPConfig) (c : HTTPClient Json Tid)

/-- `k` is the open connection that the socket refers to. -/
def At (s : Fin maxSockets) (k : Connection Json) : Prop :=
  ∃ fd, (c.mSockets s).fd = some fd ∧ c.connection fd = some k

/-- The socket can be taken by the next request. -/
def Rest (s : Fin maxSockets) : Prop :=
  (c.mSockets s).closed = false → ∃ k, c.At s k ∧ k.Clean

/-- The request has been sent up to `remaining`, and nothing else is on its way. -/
def Sent (request : JsonRPCRequest Json) (k : Connection Json) (remaining : Bytes) : Prop :=
  k.incoming = [] ∧ ∃ sent, request.data json config = sent ++ remaining ∧
    k.outgoing = sent.map fun b => (request, b)

/-- The server has responded to the request, and the parser is on its way through the response. -/
def Replied (request : JsonRPCRequest Json) (k : Connection Json) (progress : Progress) : Prop :=
  k.outgoing = [] ∧ ∃ text, (request, text) ∈ c.responses ∧ Framed config.memory text ∧
    Follows config.memory text k progress

/-- The whole request has been sent, and the server has responded or not. -/
def Exchange (request : JsonRPCRequest Json) (k : Connection Json) (progress : Progress) : Prop :=
  (Sent json config request k [] ∧ progress = responseStart) ∨ c.Replied config request k progress

/-- `response` is what the server responded to the request. -/
def Received (request : JsonRPCRequest Json) (response : Response) : Prop :=
  ∃ text, (request, text) ∈ c.responses ∧ Decodes config.memory text response

/-- What a thread can count on at a place of `doRequest`. -/
def Stage : RequestPlace Json → Prop
  | .outside | .select _ _ => True
  | .guard w => (c.mSockets w.socket).mutex = true ∧ c.Rest w.socket
  | .connect w => c.Rest w.socket
  | .connecting w => (c.mSockets w.socket).closed = true ∧ ∃ k, c.At w.socket k ∧ k.Clean
  | .write w => (c.mSockets w.socket).closed = false ∧ ∃ k, c.At w.socket k ∧ k.Clean
  | .send w fd remaining =>
    (c.mSockets w.socket).closed = false ∧ fd = (c.mSockets w.socket).fd ∧ remaining ≠ [] ∧
      ∃ k, c.At w.socket k ∧ Sent json config w.request k remaining
  | .poll w =>
    (c.mSockets w.socket).closed = false ∧
      ∃ k, c.At w.socket k ∧ c.Exchange json config w.request k responseStart
  | .read w reading =>
    (c.mSockets w.socket).closed = false ∧ ∃ k progress, c.At w.socket k ∧
      progress.reading? = some reading ∧ c.Exchange json config w.request k progress
  | .recv w fd reading =>
    (c.mSockets w.socket).closed = false ∧ fd = (c.mSockets w.socket).fd ∧ ∃ k progress,
      c.At w.socket k ∧ progress.reading? = some reading ∧
        c.Exchange json config w.request k progress
  | .close w exit =>
    (c.mSockets w.socket).closed = false ∧ (∃ k, c.At w.socket k) ∧
      ∀ response, exit = .success response → c.Received config w.request response
  | .overrun w => (c.mSockets w.socket).closed = false ∧ ∃ k, c.At w.socket k

/-- The socket has an open connection at `fd`: it is not closed, or being connected. -/
def Owns (s : Fin maxSockets) (fd : Nat) : Prop :=
  (c.mSockets s).fd = some fd ∧ ((c.mSockets s).closed = false ∨
    ∃ t, (c.thread t).socket? = some s ∧ (c.thread t).isConnecting = true)

/-- Every value that a call returned is what `call` makes of the response to its request. -/
def Delivered : Prop :=
  ∀ request value, (request, .ok value) ∈ c.finished →
    ∃ response, c.Received config request response ∧ request.outcome json response = .ok value

/-- No two requests work on one socket. -/
def Exclusive : Prop :=
  ∀ s, Sole (fun place => place.socket? = some s) c.thread

structure Orderly : Prop where
  exclusive : c.Exclusive
  stage : ∀ t, c.Stage json config (c.thread t)
  rest : ∀ s, (∀ t, (c.thread t).socket? ≠ some s) → c.Rest s
  distinct : ∀ s s' fd, c.Owns s fd → c.Owns s' fd → s = s'
  delivered : c.Delivered json config

/-- A socket, its connection and the responses are as before. -/
structure SameAt (c c' : HTTPClient Json Tid) (s : Fin maxSockets) : Prop where
  socket : c'.mSockets s = c.mSockets s
  connection : ∀ fd, c.Owns s fd → c'.connection fd = c.connection fd
  responses : c.responses ⊆ c'.responses

end Definitions

variable {json : JsonLibrary Json} {config : HTTPConfig} {c c' : HTTPClient Json Tid}
  {request : JsonRPCRequest Json} {k : Connection Json} {progress : Progress}
  {response : Response} {s : Fin maxSockets} {t u : Tid} {p : RequestPlace Json}

/-! ### Sockets that a step does not touch -/

theorem Replied.mono (hresponses : c.responses ⊆ c'.responses)
    (h : c.Replied config request k progress) : c'.Replied config request k progress := by
  obtain ⟨houtgoing, text, hmem, hframed, hfollows⟩ := h
  exact ⟨houtgoing, text, hresponses hmem, hframed, hfollows⟩

theorem Exchange.mono (hresponses : c.responses ⊆ c'.responses)
    (h : c.Exchange json config request k progress) :
    c'.Exchange json config request k progress :=
  h.imp_right (Replied.mono hresponses)

theorem Received.mono (hresponses : c.responses ⊆ c'.responses)
    (h : c.Received config request response) : c'.Received config request response := by
  obtain ⟨text, hmem, hdecodes⟩ := h
  exact ⟨text, hresponses hmem, hdecodes⟩

theorem Delivered.mono (hresponses : c.responses ⊆ c'.responses)
    (hfinished : c'.finished = c.finished) (h : c.Delivered json config) :
    c'.Delivered json config := by
  intro request value hmem
  rw [hfinished] at hmem
  obtain ⟨response, hreceived, houtcome⟩ := h request value hmem
  exact ⟨response, hreceived.mono hresponses, houtcome⟩

theorem SameAt.at_of_owns (h : SameAt c c' s) {fd : Nat} (hfd : (c.mSockets s).fd = some fd)
    (howns : c.Owns s fd) (hk : c.connection fd = some k) : c'.At s k := by
  refine ⟨fd, ?_, ?_⟩
  · rw [h.socket]
    exact hfd
  · rw [h.connection fd howns]
    exact hk

theorem SameAt.at_of_open (h : SameAt c c' s) (hopen : (c.mSockets s).closed = false)
    (hat : c.At s k) : c'.At s k := by
  obtain ⟨fd, hfd, hk⟩ := hat
  exact h.at_of_owns hfd ⟨hfd, .inl hopen⟩ hk

theorem SameAt.rest (h : SameAt c c' s) (hrest : c.Rest s) : c'.Rest s := by
  intro hopen
  rw [h.socket] at hopen
  obtain ⟨k, hat, hclean⟩ := hrest hopen
  exact ⟨k, h.at_of_open hopen hat, hclean⟩

/-- The stage of a thread depends only on its own socket. -/
theorem stage_of_sameAt (h : ∀ s, (c.thread u).socket? = some s → SameAt c c' s)
    (hstage : c.Stage json config (c.thread u)) : c'.Stage json config (c.thread u) := by
  cases hplace : c.thread u with
  | outside | select request i => trivial
  | guard w =>
    rw [hplace] at h hstage
    have hs := h w.socket rfl
    exact ⟨by rw [hs.socket]; exact hstage.1, hs.rest hstage.2⟩
  | connect w =>
    rw [hplace] at h hstage
    exact (h w.socket rfl).rest hstage
  | connecting w =>
    have hs := h w.socket (by rw [hplace]; rfl)
    rw [hplace] at hstage
    obtain ⟨hclosed, k, ⟨fd, hfd, hk⟩, hclean⟩ := hstage
    refine ⟨by rw [hs.socket]; exact hclosed, k, hs.at_of_owns hfd ?_ hk, hclean⟩
    exact ⟨hfd, .inr ⟨u, by rw [hplace]; rfl, by rw [hplace]; rfl⟩⟩
  | write w =>
    rw [hplace] at h hstage
    have hs := h w.socket rfl
    obtain ⟨hopen, k, hat, hclean⟩ := hstage
    exact ⟨by rw [hs.socket]; exact hopen, k, hs.at_of_open hopen hat, hclean⟩
  | send w fd remaining =>
    rw [hplace] at h hstage
    have hs := h w.socket rfl
    obtain ⟨hopen, hfd, hremaining, k, hat, hsent⟩ := hstage
    refine ⟨?_, ?_, hremaining, k, hs.at_of_open hopen hat, hsent⟩ <;> rw [hs.socket] <;> assumption
  | poll w =>
    rw [hplace] at h hstage
    have hs := h w.socket rfl
    obtain ⟨hopen, k, hat, hexchange⟩ := hstage
    exact ⟨by rw [hs.socket]; exact hopen, k, hs.at_of_open hopen hat, hexchange.mono hs.responses⟩
  | read w reading =>
    rw [hplace] at h hstage
    have hs := h w.socket rfl
    obtain ⟨hopen, k, progress, hat, hreading, hexchange⟩ := hstage
    exact ⟨by rw [hs.socket]; exact hopen, k, progress, hs.at_of_open hopen hat, hreading,
      hexchange.mono hs.responses⟩
  | recv w fd reading =>
    rw [hplace] at h hstage
    have hs := h w.socket rfl
    obtain ⟨hopen, hfd, k, progress, hat, hreading, hexchange⟩ := hstage
    refine ⟨?_, ?_, k, progress, hs.at_of_open hopen hat, hreading,
      hexchange.mono hs.responses⟩ <;> rw [hs.socket] <;> assumption
  | close w exit =>
    rw [hplace] at h hstage
    have hs := h w.socket rfl
    obtain ⟨hopen, ⟨k, hat⟩, hreceived⟩ := hstage
    exact ⟨by rw [hs.socket]; exact hopen, ⟨k, hs.at_of_open hopen hat⟩,
      fun response hexit => (hreceived response hexit).mono hs.responses⟩
  | overrun w =>
    rw [hplace] at h hstage
    have hs := h w.socket rfl
    obtain ⟨hopen, k, hat⟩ := hstage
    exact ⟨by rw [hs.socket]; exact hopen, k, hs.at_of_open hopen hat⟩

theorem exists_at_of_stage (hstage : c.Stage json config p) (hsocket : p.socket? = some s)
    (hopen : (c.mSockets s).closed = false ∨ p.isConnecting = true) : ∃ k, c.At s k := by
  cases p with
  | outside | select request i => cases hsocket
  | guard w =>
    obtain rfl := Option.some.inj hsocket
    obtain ⟨k, hat, _⟩ := hstage.2 (hopen.resolve_right (by simp [RequestPlace.isConnecting]))
    exact ⟨k, hat⟩
  | connect w =>
    obtain rfl := Option.some.inj hsocket
    obtain ⟨k, hat, _⟩ := hstage (hopen.resolve_right (by simp [RequestPlace.isConnecting]))
    exact ⟨k, hat⟩
  | connecting w | write w =>
    obtain rfl := Option.some.inj hsocket
    obtain ⟨_, k, hat, _⟩ := hstage
    exact ⟨k, hat⟩
  | send w fd remaining =>
    obtain rfl := Option.some.inj hsocket
    obtain ⟨_, _, _, k, hat, _⟩ := hstage
    exact ⟨k, hat⟩
  | poll w =>
    obtain rfl := Option.some.inj hsocket
    obtain ⟨_, k, hat, _⟩ := hstage
    exact ⟨k, hat⟩
  | read w reading =>
    obtain rfl := Option.some.inj hsocket
    obtain ⟨_, k, _, hat, _⟩ := hstage
    exact ⟨k, hat⟩
  | recv w fd reading =>
    obtain rfl := Option.some.inj hsocket
    obtain ⟨_, _, k, _, hat, _⟩ := hstage
    exact ⟨k, hat⟩
  | close w exit =>
    obtain rfl := Option.some.inj hsocket
    exact hstage.2.1
  | overrun w =>
    obtain rfl := Option.some.inj hsocket
    exact hstage.2

/-- A descriptor that a socket has an open connection at is open. -/
theorem Orderly.open_of_owns (hc : c.Orderly json config) {fd : Nat} (h : c.Owns s fd) :
    (c.connection fd).isSome = true := by
  have hat : ∃ k, c.At s k := by
    by_cases hused : ∃ t, (c.thread t).socket? = some s
    · obtain ⟨t, ht⟩ := hused
      apply exists_at_of_stage (hc.stage t) ht
      refine h.2.imp_right ?_
      rintro ⟨u, hu, hconnecting⟩
      rwa [hc.exclusive s hu ht] at hconnecting
    · rcases h.2 with hopen | ⟨t, ht, _⟩
      · obtain ⟨k, hat, _⟩ := hc.rest s (fun t ht => hused ⟨t, ht⟩) hopen
        exact ⟨k, hat⟩
      · exact absurd ⟨t, ht⟩ hused
  obtain ⟨k, f, hf, hk⟩ := hat
  obtain rfl := Option.some.inj (h.1.symm.trans hf)
  simp [hk]

/-! ### A thread that has its socket to itself -/

/-- The thread works on the socket `s`, or takes it while no one works on it. -/
def Holds (c : HTTPClient Json Tid) (t : Tid) (s : Fin maxSockets) : Prop :=
  (c.thread t).socket? = some s ∨
    ((c.thread t).socket? = none ∧ ∀ u, (c.thread u).socket? ≠ some s)

theorem Holds.not_of_ne (hc : c.Exclusive) (h : c.Holds t s) (hne : u ≠ t) :
    (c.thread u).socket? ≠ some s := by
  rcases h with ht | ⟨_, hnone⟩
  · exact (hc s).not_of_ne ht hne
  · exact hnone u

theorem Holds.eq_of_socket (h : c.Holds t s) {s' : Fin maxSockets}
    (ht : (c.thread t).socket? = some s') : s' = s := by
  rcases h with hs | ⟨hnone, _⟩
  · exact Option.some.inj (ht.symm.trans hs)
  · rw [hnone] at ht
    cases ht

section Threads

variable [DecidableEq Tid]

/-- A thread steps to `p` and changes at most its own socket and the connection of it. -/
theorem orderly_goto (hc : c.Orderly json config) (hholds : c.Holds t s)
    (hthread : c'.thread = Function.update c.thread t p)
    (hplace : p.socket? = some s ∨ p.socket? = none)
    (hothers : ∀ s', s' ≠ s → SameAt c c' s')
    (hstage : c'.Stage json config p) (hrest : p.socket? = none → c'.Rest s)
    (howns : ∀ fd, (c'.mSockets s).fd = some fd →
      (c'.mSockets s).closed = false ∨ p.isConnecting = true →
      c.Owns s fd ∨ c.connection fd = none)
    (hdelivered : c'.Delivered json config) : c'.Orderly json config := by
  have hself : c'.thread t = p := by rw [hthread, Function.update_self]
  have hother : ∀ u, u ≠ t → c'.thread u = c.thread u := by
    intro u hut
    rw [hthread, Function.update_of_ne hut]
  have hsame : ∀ u, u ≠ t → ∀ s', (c.thread u).socket? = some s' → SameAt c c' s' := by
    intro u hut s' hs'
    apply hothers
    rintro rfl
    exact hholds.not_of_ne hc.exclusive hut hs'
  -- the owners of the other sockets are as before
  have howner : ∀ s' fd, s' ≠ s → c'.Owns s' fd → c.Owns s' fd := by
    rintro s' fd hne ⟨hfd, hopen⟩
    rw [(hothers s' hne).socket] at hfd hopen
    refine ⟨hfd, hopen.imp_right ?_⟩
    rintro ⟨u, hu, hconnecting⟩
    by_cases hut : u = t
    · subst hut
      rw [hself] at hu
      rcases hplace with hp | hp <;> rw [hp] at hu
      · exact absurd (Option.some.inj hu).symm hne
      · cases hu
    · rw [hother u hut] at hu hconnecting
      exact ⟨u, hu, hconnecting⟩
  have hmine : ∀ fd, c'.Owns s fd → c.Owns s fd ∨ c.connection fd = none := by
    rintro fd ⟨hfd, hopen⟩
    apply howns fd hfd
    refine hopen.imp_right ?_
    rintro ⟨u, hu, hconnecting⟩
    by_cases hut : u = t
    · rwa [hut, hself] at hconnecting
    · rw [hother u hut] at hu
      exact absurd hu (hholds.not_of_ne hc.exclusive hut)
  have hdistinct : ∀ s' fd, s' ≠ s → c'.Owns s fd → c'.Owns s' fd → s = s' := by
    intro s' fd hne h h'
    have hold := howner s' fd hne h'
    rcases hmine fd h with hs | hnone
    · exact hc.distinct s s' fd hs hold
    · have hsome := hc.open_of_owns hold
      rw [hnone] at hsome
      cases hsome
  constructor
  · intro s'
    rw [hthread]
    apply Sole.update (hc.exclusive s')
    intro hp
    rcases hplace with hps | hpnone
    · obtain rfl := Option.some.inj (hps.symm.trans hp)
      exact hholds.imp_right And.right
    · rw [hpnone] at hp
      cases hp
  · rw [hthread]
    apply forall_update (P := fun _ place => c'.Stage json config place) hstage
    intro u hut
    exact stage_of_sameAt (hsame u hut) (hc.stage u)
  · intro s' hnone
    by_cases hs' : s' = s
    · subst hs'
      apply hrest
      rcases hplace with hp | hp
      · exact absurd (hself ▸ hp) (hnone t)
      · exact hp
    · apply (hothers s' hs').rest
      apply hc.rest
      intro u hu
      by_cases hut : u = t
      · subst hut
        exact hs' (hholds.eq_of_socket hu)
      · exact hnone u (hother u hut ▸ hu)
  · intro s₁ s₂ fd h₁ h₂
    by_cases hs₁ : s₁ = s <;> by_cases hs₂ : s₂ = s
    · rw [hs₁, hs₂]
    · subst hs₁
      exact hdistinct s₂ fd hs₂ h₁ h₂
    · subst hs₂
      exact (hdistinct s₁ fd hs₁ h₂ h₁).symm
    · exact hc.distinct s₁ s₂ fd (howner s₁ fd hs₁ h₁) (howner s₂ fd hs₂ h₂)
  · exact hdelivered

/-- A thread that works on no socket steps within the places without one. -/
theorem orderly_outside (hc : c.Orderly json config) (hold : (c.thread t).socket? = none)
    (hthread : c'.thread = Function.update c.thread t p) (hnew : p.socket? = none)
    (hstage : c'.Stage json config p)
    (hothers : ∀ s, SameAt c c' s) (hdelivered : c'.Delivered json config) :
    c'.Orderly json config := by
  have howns : ∀ s fd, c'.Owns s fd → c.Owns s fd := by
    rintro s fd ⟨hfd, hopen⟩
    rw [(hothers s).socket] at hfd hopen
    refine ⟨hfd, hopen.imp_right ?_⟩
    rintro ⟨u, hu, hconnecting⟩
    rw [hthread] at hu hconnecting
    by_cases hut : u = t
    · subst hut
      rw [Function.update_self, hnew] at hu
      cases hu
    · rw [Function.update_of_ne hut] at hu hconnecting
      exact ⟨u, hu, hconnecting⟩
  constructor
  · intro s
    rw [hthread]
    apply Sole.update (hc.exclusive s)
    intro hp
    rw [hnew] at hp
    cases hp
  · rw [hthread]
    apply forall_update (P := fun _ place => c'.Stage json config place) hstage
    intro u _
    exact stage_of_sameAt (fun s _ => hothers s) (hc.stage u)
  · intro s hnone
    apply (hothers s).rest
    apply hc.rest
    intro u hu
    by_cases hut : u = t
    · rw [hut, hold] at hu
      cases hu
    · have hu' := hnone u
      rw [hthread, Function.update_of_ne hut] at hu'
      exact hu' hu
  · intro s₁ s₂ fd h₁ h₂
    exact hc.distinct s₁ s₂ fd (howns s₁ fd h₁) (howns s₂ fd h₂)
  · exact hdelivered

end Threads

end HTTPClient

end PeakAnalyser

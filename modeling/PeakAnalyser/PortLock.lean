import PeakAnalyser.JsonRPCClientWS

/-!
# The port lock across a remote call

asyn holds the lock of the port around `writeInt32` and `writeFloat64`; some of these call
on the analyser meanwhile. The SpectrumUpdate callback takes the same lock, on the io thread
of the client, and no other thread can deliver the response that the call waits for. The
tasks call without the lock, and their locked sections call nothing.
-/

namespace PeakAnalyser

set_option autoImplicit false

open Runs

variable {Json Tid : Type}

/-- What a thread does with the port locked: the call of `writeInt32` of `ADAcquire`
(line 831), that of `setupSpectrumDefinition` (line 1719), or none on the client of the
analyser. `zeroAllSupplies` has a client and an io thread of its own. -/
inductive LockedSection (Json : Type) where
  | abort (params : Json)
  | adjust (params : Json)
  | quiet
  deriving DecidableEq

def LockedSection.call? : LockedSection Json → Option (String × Json)
  | .abort params => some ("CancelAcquisition", params)
  | .adjust params => some ("AdjustSpectrumDefinition", params)
  | .quiet => none

/-- Where a thread is with respect to the lock. -/
inductive LockPlace (Json : Type) where
  | outside
  | locking (body : LockedSection Json)
  | locked (body : LockedSection Json)
  | unlocking
  deriving DecidableEq

/-- Where the SpectrumUpdate callback is: at line 462, at line 472, or after it. -/
inductive CallbackLock where
  | wanted | held | released
  deriving DecidableEq

inductive LockOwner (Tid : Type) where
  | thread (t : Tid)
  | io
  deriving DecidableEq

/-- The client of the analyser, the threads of the driver and the lock of the port, which a
callback that throws at its place leaves locked. -/
structure PortLock (Json Tid : Type) where
  client : JsonRPCClientWS Json Tid := {}
  place : Tid → LockPlace Json := fun _ => .outside
  callback : CallbackLock := .wanted
  owner : Option (LockOwner Tid) := none
  leaked : Bool := false

/-- The thread is before the wait of `call`, or waits and the event is not set. -/
def CallPlace.unanswered (signalled : Bool) : CallPlace Json → Bool
  | .clear _ | .send _ => true
  | .wait _ => !signalled
  | _ => false

/-- Between `lock` and `unlock`. -/
def LockPlace.holds : LockPlace Json → Bool
  | .locked _ | .unlocking => true
  | _ => false

namespace PortLock

/-- What can happen: a thread goes for the lock or makes a call without it, goes on with its
next statement, and what the server and the io thread do. -/
inductive Label (Json Tid : Type) where
  | enter (t : Tid) (body : LockedSection Json)
  | call (t : Tid) (method : String) (params : Json)
  | thread (t : Tid) (fault : Option String)
  | answer (position : Nat) (error result : Option Json)
  | notify (method : String) (params : Json)
  | garble
  | io (raises : Bool)

section Steps

variable [DecidableEq Tid] (json : JsonLibrary Json) (updates : String → Json → Bool)
variable (s : PortLock Json Tid)

def goto (t : Tid) (place : LockPlace Json) : PortLock Json Tid :=
  { s with place := Function.update s.place t place }

def enter (t : Tid) (body : LockedSection Json) : Option (PortLock Json Tid) :=
  match s.place t, s.client.thread t with
  | .outside, .outside => some (s.goto t (.locking body))
  | _, _ => none

/-- A call without the lock. -/
def call (t : Tid) (method : String) (params : Json) : Option (PortLock Json Tid) :=
  match s.place t with
  | .outside => (s.client.beginCall t method params).map fun client => { s with client }
  | _ => none

/-- The next statement of a thread; at `unlocking` its call comes to its end first. -/
def proceed (t : Tid) (fault : Option String) : Option (PortLock Json Tid) :=
  match s.place t with
  | .outside => (s.client.callStep json t fault).map fun client => { s with client }
  | .locking body =>
    match s.owner with
    | none => some { s.goto t (.locked body) with owner := some (.thread t) }
    | some _ => none
  | .locked body =>
    match body.call? with
    | some (method, params) =>
      (s.client.beginCall t method params).map fun client =>
        { s.goto t .unlocking with client }
    | none => some (s.goto t .unlocking)
  | .unlocking =>
    match s.client.thread t with
    | .outside => some { s.goto t .outside with owner := none }
    | _ => (s.client.callStep json t fault).map fun client => { s with client }

/-- The io thread. `updates` tells whether the callback of the method is that of the spectrum
updates, and the parameters have a value that is not null. The lock is recursive. -/
def ioStep (raises : Bool) : Option (PortLock Json Tid) :=
  match s.client.io with
  | .callback method params =>
    if updates method params then
      match s.callback with
      | .wanted =>
        match s.owner with
        | some (.thread _) => none
        | _ => some { s with callback := .held, owner := some .io }
      | .held =>
        if raises then
          s.client.on_message.map fun client =>
            { s with client, callback := .wanted, leaked := true }
        else
          some { s with
            callback := .released
            owner := if s.leaked then some .io else none }
      | .released => s.client.on_message.map fun client => { s with client, callback := .wanted }
    else s.client.on_message.map fun client => { s with client }
  | _ => s.client.on_message.map fun client => { s with client }

def step : Label Json Tid → Option (PortLock Json Tid)
  | .enter t body => s.enter t body
  | .call t method params => s.call t method params
  | .thread t fault => s.proceed json t fault
  | .answer position error result =>
    (s.client.answer position error result).map fun client => { s with client }
  | .notify method params =>
    (s.client.step json (.notify method params)).map fun client => { s with client }
  | .garble => (s.client.step json .garble).map fun client => { s with client }
  | .io raises => s.ioStep updates raises

end Steps

section Conditions

variable (updates : String → Json → Bool) (s : PortLock Json Tid)

/-- The io thread waits for the lock, or would if it were not free. -/
def callbackWants : Bool :=
  match s.client.io with
  | .callback method params => updates method params && s.callback == .wanted
  | _ => false

/-- The next message is a spectrum update. -/
def updateNext : Bool :=
  match s.client.io, s.client.incoming with
  | .ready, .notification method params :: _ => updates method params
  | _, _ => false

/-- The thread that holds the lock is in a call for which it has not been signalled. -/
def ownerCalls : Bool :=
  match s.owner with
  | some (.thread t) => (s.client.thread t).unanswered s.client.m_callbackEventId
  | _ => false

/-- The thread that holds the lock waits in `call`. -/
def ownerWaits : Bool :=
  match s.owner with
  | some (.thread t) => (s.client.thread t).isWait
  | _ => false

/-- The thread, which is not the one that holds the lock, waits for the event too. -/
def waitsApart [DecidableEq Tid] (t : Tid) : Bool :=
  (s.client.thread t).isWait && decide (s.owner ≠ some (.thread t))

/-- The thread is about to call with the port locked. -/
def callsLocked (t : Tid) : Bool :=
  match s.place t with
  | .locked body => body.call?.isSome
  | _ => false

/-- No spectrum update is taken while the holder of the lock is in a call for which it has not
been signalled. While the callback of an update wants the lock, the holder begins no call, and no
other thread takes the signal that the holder waits for. -/
def apart [DecidableEq Tid] : Label Json Tid → Bool
  | .io _ => !(s.updateNext updates && s.ownerCalls)
  | .thread t _ =>
    !(s.callbackWants updates && (s.callsLocked t || s.ownerWaits && s.waitsApart t))
  | _ => true

/-- The holder of the lock waits in `call` for the event, and the io thread for the lock. -/
def Deadlocked : Prop :=
  ∃ t request, s.owner = some (.thread t) ∧ s.client.thread t = .wait request ∧
    s.client.m_callbackEventId = false ∧ s.callbackWants updates = true

end Conditions

variable {json : JsonLibrary Json} {updates : String → Json → Bool} {s s' : PortLock Json Tid}

/-! ### The client -/

/-- What the io thread does in `on_message`: it takes a message, signals, or comes back from a
callback. -/
theorem on_message_spec {c c' : JsonRPCClientWS Json Tid} (h : c.on_message = some c') :
    c'.thread = c.thread ∧
      (∀ method params, c'.io = .callback method params →
        c'.m_callbackEventId = c.m_callbackEventId ∧ c.io = .ready ∧
          ∃ rest, c.incoming = .notification method params :: rest) := by
  unfold JsonRPCClientWS.on_message at h
  split at h
  · rename_i hready
    split at h
    · cases h
    · obtain rfl := Option.some.inj h
      refine ⟨rfl, ?_⟩
      intro method params hcallback
      rw [hready] at hcallback
      cases hcallback
    · obtain rfl := Option.some.inj h
      refine ⟨rfl, ?_⟩
      intro method params hcallback
      cases hcallback
    · rename_i method params rest hincoming
      obtain rfl := Option.some.inj h
      refine ⟨rfl, ?_⟩
      intro m p hcallback
      cases hcallback
      exact ⟨rfl, hready, rest, hincoming⟩
  · obtain rfl := Option.some.inj h
    refine ⟨rfl, ?_⟩
    intro method params hcallback
    cases hcallback
  · obtain rfl := Option.some.inj h
    refine ⟨rfl, ?_⟩
    intro method params hcallback
    cases hcallback

/-- What the server sends lies on the connection until the io thread takes it. -/
theorem answer_spec {c c' : JsonRPCClientWS Json Tid} {position : Nat}
    {error result : Option Json} (h : c.answer position error result = some c') :
    c'.thread = c.thread ∧ c'.io = c.io ∧ c'.m_callbackEventId = c.m_callbackEventId := by
  obtain ⟨request, -, rfl⟩ := Option.map_eq_some_iff.mp h
  exact ⟨rfl, rfl, rfl⟩

/-! ### Lock and call -/

/-- The holder of the lock is in no call that it must be signalled for while the callback wants
the lock. -/
structure Clear (updates : String → Json → Bool) (s : PortLock Json Tid) : Prop where
  apart : s.callbackWants updates = true → s.ownerCalls = false
  entered : ∀ t body, s.place t = .locking body ∨ s.place t = .locked body →
    s.client.thread t = .outside
  owner : ∀ t, s.owner = some (.thread t) →
    s.place t ≠ .outside ∧ ∀ body, s.place t ≠ .locking body

theorem clear_start : Clear updates ({} : PortLock Json Tid) where
  apart := by
    intro h
    cases h
  entered := by
    intro t body h
    rfl
  owner := by
    intro t h
    cases h

theorem ownerCalls_eq_false :
    s.ownerCalls = false ↔
      ∀ t, s.owner = some (.thread t) →
        (s.client.thread t).unanswered s.client.m_callbackEventId = false := by
  unfold ownerCalls
  constructor
  · intro h t howner
    rw [howner] at h
    exact h
  · intro h
    split
    · rename_i t howner
      exact h t howner
    · rfl

theorem callbackWants_of (hwants : s'.callbackWants updates = true)
    (hio : s'.client.io = s.client.io) (hcallback : s'.callback = s.callback) :
    s.callbackWants updates = true := by
  unfold callbackWants at hwants ⊢
  rw [hio, hcallback] at hwants
  exact hwants

/-- A callback that wants the lock wanted it before, so its owner is in no unanswered call. -/
theorem Clear.answered_of (hs : Clear updates s) (hwants : s'.callbackWants updates = true)
    (hio : s'.client.io = s.client.io) (hcallback : s'.callback = s.callback) :
    ∀ t, s.owner = some (.thread t) →
      (s.client.thread t).unanswered s.client.m_callbackEventId = false :=
  ownerCalls_eq_false.mp (hs.apart (callbackWants_of hwants hio hcallback))

theorem not_deadlocked (h : Clear updates s) : ¬ s.Deadlocked updates := by
  intro hdead
  obtain ⟨t, request, howner, hplace, hevent, hwants⟩ := hdead
  have hquiet := ownerCalls_eq_false.mp (h.apart hwants) t howner
  rw [hplace, hevent] at hquiet
  cases hquiet

/-- What the server does concerns neither threads nor lock. -/
theorem clear_client {client : JsonRPCClientWS Json Tid} (hs : Clear updates s)
    (hthread : client.thread = s.client.thread) (hio : client.io = s.client.io)
    (hevent : client.m_callbackEventId = s.client.m_callbackEventId) :
    Clear updates { s with client } := by
  refine ⟨?_, ?_, hs.owner⟩
  · intro hwants
    have hquiet := hs.answered_of hwants hio rfl
    rw [ownerCalls_eq_false]
    intro u hu
    dsimp only
    rw [hthread, hevent]
    exact hquiet u hu
  · intro u b hu
    rw [hthread]
    exact hs.entered u b hu

/-- The io thread goes on in `on_message`. -/
theorem clear_on_message {client : JsonRPCClientWS Json Tid} {callback : CallbackLock}
    {leaked : Bool} (hs : Clear updates s) (hapart : (s.updateNext updates && s.ownerCalls) = false)
    (h : s.client.on_message = some client) :
    Clear updates { s with client, callback, leaked } := by
  obtain ⟨hthread, hcallback⟩ := on_message_spec h
  refine ⟨?_, ?_, hs.owner⟩
  · intro hwants
    unfold callbackWants at hwants
    split at hwants
    · rename_i method params hio
      obtain ⟨hevent, hready, rest, hincoming⟩ := hcallback method params hio
      have hnext : s.updateNext updates = true := by
        unfold updateNext
        rw [hready, hincoming]
        exact (Bool.and_eq_true _ _).mp hwants |>.1
      rw [hnext, Bool.true_and] at hapart
      unfold ownerCalls at hapart ⊢
      dsimp only
      rw [hthread, hevent]
      exact hapart
    · cases hwants
  · intro u b hu
    rw [hthread]
    exact hs.entered u b hu

theorem clear_ioStep [DecidableEq Tid] {raises : Bool} (hs : Clear updates s)
    (hapart : s.apart updates (.io raises) = true) (h : s.ioStep updates raises = some s') :
    Clear updates s' := by
  have hnext : (s.updateNext updates && s.ownerCalls) = false := by
    simpa only [apart, Bool.not_eq_true'] using hapart
  unfold ioStep at h
  split at h
  · split at h
    · split at h
      · split at h
        · cases h
        · obtain rfl := Option.some.inj h
          refine ⟨?_, hs.entered, ?_⟩
          · intro _
            rfl
          · intro u hu
            cases hu
      · split at h
        · obtain ⟨client, hclient, rfl⟩ := Option.map_eq_some_iff.mp h
          exact clear_on_message hs hnext hclient
        · obtain rfl := Option.some.inj h
          refine ⟨?_, hs.entered, ?_⟩
          · intro hwants
            unfold callbackWants at hwants
            split at hwants
            · simp at hwants
            · cases hwants
          · intro u hu
            have hnone : (if s.leaked then some LockOwner.io else none) = some (.thread u) := hu
            split at hnone <;> cases hnone
      · obtain ⟨client, hclient, rfl⟩ := Option.map_eq_some_iff.mp h
        exact clear_on_message hs hnext hclient
    · obtain ⟨client, hclient, rfl⟩ := Option.map_eq_some_iff.mp h
      exact clear_on_message hs hnext hclient
  · obtain ⟨client, hclient, rfl⟩ := Option.map_eq_some_iff.mp h
    exact clear_on_message hs hnext hclient

/-- Whoever is between `lock` and `unlock` has the lock, and so has the io thread once a callback
has thrown there. -/
structure Owned (s : PortLock Json Tid) : Prop where
  threads : ∀ t, (s.place t).holds = true → s.owner = some (.thread t)
  io : s.callback = .held ∨ s.leaked = true → s.owner = some .io

theorem owned_start : Owned ({} : PortLock Json Tid) where
  threads := by
    intro t h
    cases h
  io := by
    intro h
    rcases h with h | h <;> cases h

/-- Nobody is between `lock` and `unlock` when the lock is free or the io thread has it. -/
theorem Owned.not_holds (hs : Owned s) (howner : ∀ t, s.owner ≠ some (.thread t)) (t : Tid) :
    (s.place t).holds ≠ true :=
  fun hholds => howner t (hs.threads t hholds)

theorem owned_ioStep {raises : Bool} (hs : Owned s) (h : s.ioStep updates raises = some s') :
    Owned s' := by
  unfold ioStep at h
  split at h
  · split at h
    · split at h
      · split at h
        · cases h
        · rename_i howner
          obtain rfl := Option.some.inj h
          refine ⟨?_, fun _ => rfl⟩
          intro u hu
          exact absurd hu (hs.not_holds howner u)
      · rename_i hheld
        have hio := hs.io (.inl hheld)
        split at h
        · obtain ⟨client, -, rfl⟩ := Option.map_eq_some_iff.mp h
          exact ⟨hs.threads, fun _ => hio⟩
        · obtain rfl := Option.some.inj h
          refine ⟨?_, ?_⟩
          · intro u hu
            exact absurd hu (hs.not_holds (by rw [hio]; simp) u)
          · intro hleaked
            rcases hleaked with hcallback | hleaked
            · cases hcallback
            · exact if_pos hleaked
      · obtain ⟨client, -, rfl⟩ := Option.map_eq_some_iff.mp h
        refine ⟨hs.threads, ?_⟩
        intro hio
        rcases hio with hcallback | hleaked
        · cases hcallback
        · exact hs.io (.inr hleaked)
    · obtain ⟨client, -, rfl⟩ := Option.map_eq_some_iff.mp h
      exact ⟨hs.threads, hs.io⟩
  · obtain ⟨client, -, rfl⟩ := Option.map_eq_some_iff.mp h
    exact ⟨hs.threads, hs.io⟩

/-! ### The threads -/

variable [DecidableEq Tid]

/-- A statement of `call` concerns its own thread and brings no place of waiting back; it does not
signal, and only the wait takes a signal. -/
theorem callStep_spec {c c' : JsonRPCClientWS Json Tid} {t : Tid} {fault : Option String}
    (h : c.callStep json t fault = some c') :
    ∃ place, c'.thread = Function.update c.thread t place ∧ c.thread t ≠ .outside ∧
      (place.unanswered c'.m_callbackEventId = true →
        (c.thread t).unanswered c.m_callbackEventId = true) ∧ c'.io = c.io ∧
        (c'.m_callbackEventId = c.m_callbackEventId ∨
          (c.thread t).isWait = true ∧ c'.m_callbackEventId = false) := by
  unfold JsonRPCClientWS.callStep at h
  cases hplace : c.thread t with
  | outside =>
    rw [hplace] at h
    cases h
  | clear request =>
    rw [hplace] at h
    obtain rfl := Option.some.inj h
    exact ⟨_, rfl, by simp, fun _ => rfl, rfl, Or.inl rfl⟩
  | send request =>
    rw [hplace] at h
    cases fault with
    | some message =>
      obtain rfl := Option.some.inj h
      exact ⟨_, rfl, by simp, fun _ => rfl, rfl, Or.inl rfl⟩
    | none =>
      obtain rfl := Option.some.inj h
      exact ⟨_, rfl, by simp, fun _ => rfl, rfl, Or.inl rfl⟩
  | wait request =>
    rw [hplace] at h
    simp only at h
    split at h
    · obtain rfl := Option.some.inj h
      refine ⟨_, rfl, by simp, ?_, rfl, Or.inr ⟨rfl, rfl⟩⟩
      intro hunanswered
      cases hunanswered
    · cases h
  | checkError request =>
    rw [hplace] at h
    simp only at h
    split at h
    all_goals
      obtain rfl := Option.some.inj h
      refine ⟨_, rfl, by simp, ?_, rfl, Or.inl rfl⟩
      intro hunanswered
      cases hunanswered
  | checkResult request =>
    rw [hplace] at h
    simp only at h
    split at h
    all_goals
      obtain rfl := Option.some.inj h
      refine ⟨_, rfl, by simp, ?_, rfl, Or.inl rfl⟩
      intro hunanswered
      cases hunanswered
  | _ =>
    rw [hplace] at h
    obtain rfl := Option.some.inj h
    refine ⟨_, rfl, by simp, ?_, rfl, Or.inl rfl⟩
    intro hunanswered
    cases hunanswered

theorem beginCall_spec {c c' : JsonRPCClientWS Json Tid} {t : Tid} {method : String}
    {params : Json} (h : c.beginCall t method params = some c') :
    c.thread t = .outside ∧ (∃ place, c'.thread = Function.update c.thread t place) ∧
      c'.io = c.io ∧ c'.m_callbackEventId = c.m_callbackEventId := by
  unfold JsonRPCClientWS.beginCall at h
  split at h
  · rename_i hplace
    obtain rfl := Option.some.inj h
    exact ⟨hplace, ⟨_, rfl⟩, rfl, rfl⟩
  · cases h

/-- Away from the wait the event makes no difference. -/
theorem unanswered_of_not_wait {place : CallPlace Json} (hwait : place.isWait = false)
    (signalled signalled' : Bool) : place.unanswered signalled = place.unanswered signalled' := by
  cases place with
  | wait request => cases hwait
  | _ => rfl

theorem clear_enter {t : Tid} {body : LockedSection Json} (hs : Clear updates s)
    (h : s.enter t body = some s') : Clear updates s' := by
  unfold enter at h
  split at h
  · rename_i hplace hthread
    obtain rfl := Option.some.inj h
    refine ⟨hs.apart, ?_, ?_⟩
    · intro u b hu
      by_cases hut : u = t
      · subst hut
        exact hthread
      · simp only [goto, Function.update_of_ne hut] at hu
        exact hs.entered u b hu
    · intro u hu
      have hut : u ≠ t := by
        intro hut
        subst hut
        exact (hs.owner u hu).1 hplace
      simp only [goto, Function.update_of_ne hut]
      exact hs.owner u hu
  · cases h

/-- A thread without the lock may call at any time. -/
theorem clear_call {t : Tid} {method : String} {params : Json} (hs : Clear updates s)
    (h : s.call t method params = some s') : Clear updates s' := by
  unfold call at h
  split at h
  · rename_i hplace
    obtain ⟨client, hclient, rfl⟩ := Option.map_eq_some_iff.mp h
    obtain ⟨-, ⟨place, hthread⟩, hio, hevent⟩ := beginCall_spec hclient
    have hother : ∀ u, u ≠ t → client.thread u = s.client.thread u := by
      intro u hut
      rw [hthread, Function.update_of_ne hut]
    refine ⟨?_, ?_, hs.owner⟩
    · intro hwants
      have hquiet := hs.answered_of hwants hio rfl
      rw [ownerCalls_eq_false]
      intro u hu
      have hut : u ≠ t := by
        intro hut
        subst hut
        exact (hs.owner u hu).1 hplace
      dsimp only
      rw [hother u hut, hevent]
      exact hquiet u hu
    · intro u b hu
      have hut : u ≠ t := by
        intro hut
        subst hut
        rw [hplace] at hu
        rcases hu with hu | hu <;> cases hu
      exact (hother u hut).trans (hs.entered u b hu)
  · cases h

/-- A statement of `call`. -/
theorem clear_callStep {t : Tid} {fault : Option String} {client : JsonRPCClientWS Json Tid}
    (hs : Clear updates s)
    (hapart : s.callbackWants updates = true → (s.ownerWaits && s.waitsApart t) = false)
    (h : s.client.callStep json t fault = some client) :
    Clear updates { s with client } := by
  obtain ⟨place, hthread, hcalling, hunanswered, hio, hevent⟩ := callStep_spec h
  refine ⟨?_, ?_, hs.owner⟩
  · intro hwants
    have hquiet := hs.answered_of hwants hio rfl
    rw [ownerCalls_eq_false]
    intro u hu
    dsimp only
    rw [hthread]
    by_cases hut : u = t
    · subst hut
      rw [Function.update_self, ← Bool.not_eq_true]
      exact fun hnew => Bool.eq_false_iff.mp (hquiet u hu) (hunanswered hnew)
    · rw [Function.update_of_ne hut]
      rcases hevent with hevent | ⟨hwaits, hevent⟩
      · rw [hevent]
        exact hquiet u hu
      · -- `t` takes the signal, so the owner is not waiting for it
        have hother := hapart (callbackWants_of hwants hio rfl)
        have howner : (s.client.thread u).isWait = false := by
          have howned : s.owner = some (.thread u) := hu
          unfold ownerWaits waitsApart at hother
          rw [howned, hwaits] at hother
          simpa [hut] using hother
        rw [unanswered_of_not_wait howner _ s.client.m_callbackEventId]
        exact hquiet u hu
  · intro u b hu
    have hold := hs.entered u b hu
    have hut : u ≠ t := by
      intro hut
      subst hut
      exact hcalling hold
    rw [hthread, Function.update_of_ne hut]
    exact hold

/-- The thread has got the lock; it is not in a call. -/
theorem clear_locked {t : Tid} {body : LockedSection Json} (hs : Clear updates s)
    (hplace : s.place t = .locking body) :
    Clear updates { s.goto t (.locked body) with owner := some (.thread t) } := by
  have hthread := hs.entered t body (.inl hplace)
  refine ⟨?_, ?_, ?_⟩
  · intro _
    rw [ownerCalls_eq_false]
    intro u hu
    obtain rfl := LockOwner.thread.inj (Option.some.inj hu)
    simp only [goto, hthread]
    rfl
  · intro u b hu
    by_cases hut : u = t
    · subst hut
      exact hthread
    · simp only [goto, Function.update_of_ne hut] at hu
      exact hs.entered u b hu
  · intro u hu
    obtain rfl := LockOwner.thread.inj (Option.some.inj hu)
    simp only [goto, Function.update_self]
    refine ⟨by simp, ?_⟩
    intro b
    simp

/-- A thread that is past the lock, or before it, is none of those that are about to call. -/
theorem entered_goto {t u : Tid} {place : LockPlace Json} {body : LockedSection Json}
    (hs : Clear updates s) (hplace : place = .unlocking ∨ place = .outside)
    (h : (s.goto t place).place u = .locking body ∨ (s.goto t place).place u = .locked body) :
    u ≠ t ∧ s.client.thread u = .outside := by
  have hut : u ≠ t := by
    intro hut
    subst hut
    simp only [goto, Function.update_self] at h
    rcases hplace with hplace | hplace
    · rw [hplace] at h
      rcases h with h | h <;> cases h
    · rw [hplace] at h
      rcases h with h | h <;> cases h
  simp only [goto, Function.update_of_ne hut] at h
  exact ⟨hut, hs.entered u body h⟩

/-- The thread goes on, into its call where it has one. -/
theorem clear_unlocking {t : Tid} {client : JsonRPCClientWS Json Tid} (hs : Clear updates s)
    (hthread : ∀ u, u ≠ t → client.thread u = s.client.thread u)
    (hio : client.io = s.client.io)
    (hevent : client.m_callbackEventId = s.client.m_callbackEventId)
    (hquiet : s.callbackWants updates = true →
      (client.thread t).unanswered client.m_callbackEventId = false) :
    Clear updates { s.goto t .unlocking with client } := by
  refine ⟨?_, ?_, ?_⟩
  · intro hwants
    have hold : s.callbackWants updates = true := callbackWants_of hwants hio rfl
    rw [ownerCalls_eq_false]
    intro u hu
    by_cases hut : u = t
    · subst hut
      exact hquiet hold
    · have hother := ownerCalls_eq_false.mp (hs.apart hold) u hu
      rw [← hthread u hut, ← hevent] at hother
      exact hother
  · intro u b hu
    obtain ⟨hut, houtside⟩ := entered_goto hs (.inl rfl) hu
    exact (hthread u hut).trans houtside
  · intro u hu
    by_cases hut : u = t
    · subst hut
      simp only [goto, Function.update_self]
      refine ⟨by simp, ?_⟩
      intro b
      simp
    · simp only [goto, Function.update_of_ne hut]
      exact hs.owner u hu

theorem clear_unlocked {t : Tid} (hs : Clear updates s) :
    Clear updates { s.goto t .outside with owner := none } := by
  refine ⟨?_, ?_, ?_⟩
  · intro _
    rfl
  · intro u b hu
    exact (entered_goto hs (.inr rfl) hu).2
  · intro u hu
    cases hu

theorem clear_proceed {t : Tid} {fault : Option String} (hs : Clear updates s)
    (hapart : s.apart updates (.thread t fault) = true) (h : s.proceed json t fault = some s') :
    Clear updates s' := by
  have hcondition : s.callbackWants updates = true →
      s.callsLocked t = false ∧ (s.ownerWaits && s.waitsApart t) = false := by
    intro hwants
    rw [← Bool.or_eq_false_iff]
    simpa only [apart, hwants, Bool.true_and, Bool.not_eq_true'] using hapart
  unfold proceed at h
  split at h
  · obtain ⟨client, hclient, rfl⟩ := Option.map_eq_some_iff.mp h
    exact clear_callStep hs (fun hwants => (hcondition hwants).2) hclient
  · rename_i body hplace
    split at h
    · obtain rfl := Option.some.inj h
      exact clear_locked hs hplace
    · cases h
  · rename_i body hplace
    split at h
    · rename_i method params hcall
      obtain ⟨client, hclient, rfl⟩ := Option.map_eq_some_iff.mp h
      obtain ⟨-, ⟨place, hthread⟩, hio, hevent⟩ := beginCall_spec hclient
      apply clear_unlocking hs ?_ hio hevent ?_
      · intro u hut
        rw [hthread, Function.update_of_ne hut]
      · intro hwants
        have hquiet := (hcondition hwants).1
        simp [callsLocked, hplace, hcall] at hquiet
    · obtain rfl := Option.some.inj h
      apply clear_unlocking hs (fun _ _ => rfl) rfl rfl
      intro _
      rw [hs.entered t body (.inr hplace)]
      rfl
  · split at h
    · obtain rfl := Option.some.inj h
      exact clear_unlocked hs
    · obtain ⟨client, hclient, rfl⟩ := Option.map_eq_some_iff.mp h
      exact clear_callStep hs (fun hwants => (hcondition hwants).2) hclient

theorem clear_step {l : Label Json Tid} (hs : Clear updates s) (hapart : s.apart updates l = true)
    (h : s.step json updates l = some s') : Clear updates s' := by
  cases l with
  | enter t body => exact clear_enter hs h
  | call t method params => exact clear_call hs h
  | thread t fault => exact clear_proceed hs hapart h
  | answer position error result =>
    obtain ⟨client, hclient, rfl⟩ := Option.map_eq_some_iff.mp h
    obtain ⟨hthread, hio, hevent⟩ := answer_spec hclient
    exact clear_client hs hthread hio hevent
  | notify method params =>
    obtain rfl := Option.some.inj h
    exact clear_client hs rfl rfl rfl
  | garble =>
    obtain rfl := Option.some.inj h
    exact clear_client hs rfl rfl rfl
  | io raises => exact clear_ioStep hs hapart h

/-- A thread changes its place without lock or unlock. -/
theorem owned_goto {t : Tid} {place : LockPlace Json} {client : JsonRPCClientWS Json Tid}
    (hs : Owned s) (hplace : place.holds = true → (s.place t).holds = true) :
    Owned { s.goto t place with client } := by
  refine ⟨?_, hs.io⟩
  intro u hu
  by_cases hut : u = t
  · subst hut
    simp only [goto, Function.update_self] at hu
    exact hs.threads u (hplace hu)
  · simp only [goto, Function.update_of_ne hut] at hu
    exact hs.threads u hu

theorem owned_proceed {t : Tid} {fault : Option String} (hs : Owned s)
    (h : s.proceed json t fault = some s') : Owned s' := by
  unfold proceed at h
  split at h
  · obtain ⟨client, -, rfl⟩ := Option.map_eq_some_iff.mp h
    exact ⟨hs.threads, hs.io⟩
  · rename_i body hplace
    split at h
    · rename_i hfree
      obtain rfl := Option.some.inj h
      have hnone := hs.not_holds (by rw [hfree]; simp)
      refine ⟨?_, ?_⟩
      · intro u hu
        by_cases hut : u = t
        · subst hut
          rfl
        · simp only [goto, Function.update_of_ne hut] at hu
          exact absurd hu (hnone u)
      · intro hio
        have howner := hs.io hio
        rw [hfree] at howner
        cases howner
    · cases h
  · rename_i body hplace
    have hholds : (s.place t).holds = true := by rw [hplace]; rfl
    split at h
    · obtain ⟨client, -, rfl⟩ := Option.map_eq_some_iff.mp h
      exact owned_goto hs fun _ => hholds
    · obtain rfl := Option.some.inj h
      exact owned_goto hs fun _ => hholds
  · rename_i hplace
    have howner := hs.threads t (by rw [hplace]; rfl)
    split at h
    · obtain rfl := Option.some.inj h
      refine ⟨?_, ?_⟩
      · intro u hu
        by_cases hut : u = t
        · subst hut
          simp only [goto, Function.update_self] at hu
          cases hu
        · simp only [goto, Function.update_of_ne hut] at hu
          have hother := hs.threads u hu
          rw [howner] at hother
          exact absurd (LockOwner.thread.inj (Option.some.inj hother)).symm hut
      · intro hio
        have hother := hs.io hio
        rw [howner] at hother
        cases hother
    · obtain ⟨client, -, rfl⟩ := Option.map_eq_some_iff.mp h
      exact ⟨hs.threads, hs.io⟩

theorem owned_step {l : Label Json Tid} (hs : Owned s) (h : s.step json updates l = some s') :
    Owned s' := by
  cases l with
  | enter t body =>
    simp only [step, enter] at h
    split at h
    · obtain rfl := Option.some.inj h
      apply owned_goto hs
      intro hholds
      cases hholds
    · cases h
  | call t method params =>
    simp only [step, call] at h
    split at h
    · obtain ⟨client, -, rfl⟩ := Option.map_eq_some_iff.mp h
      exact ⟨hs.threads, hs.io⟩
    · cases h
  | thread t fault => exact owned_proceed hs h
  | answer position error result =>
    obtain ⟨client, -, rfl⟩ := Option.map_eq_some_iff.mp h
    exact ⟨hs.threads, hs.io⟩
  | notify method params =>
    obtain rfl := Option.some.inj h
    exact ⟨hs.threads, hs.io⟩
  | garble =>
    obtain rfl := Option.some.inj h
    exact ⟨hs.threads, hs.io⟩
  | io raises => exact owned_ioStep hs h

theorem owned_run (h : Run (step json updates) always {} s) : Owned s := by
  apply Run.invariant (P := Owned) ?_ h owned_start
  intro a l b ha _ hstep
  exact owned_step ha hstep

/-- A thread that waits for the event does not come out of `call`. -/
theorem callStep_waiting {c c' : JsonRPCClientWS Json Tid} {t u : Tid}
    {request : JsonRPCRequest Json} {fault : Option String} (hplace : c.thread t = .wait request)
    (hevent : c.m_callbackEventId = false) (h : c.callStep json u fault = some c') :
    c'.thread t = .wait request ∧ c'.io = c.io ∧ c'.m_callbackEventId = false := by
  obtain ⟨place, hthread, -, -, hio, htaken⟩ := callStep_spec h
  refine ⟨?_, hio, htaken.elim (·.trans hevent) (·.2)⟩
  have htu : t ≠ u := by
    intro htu
    subst htu
    simp [JsonRPCClientWS.callStep, hplace, hevent] at h
  rw [hthread, Function.update_of_ne htu]
  exact hplace

theorem beginCall_waiting {c c' : JsonRPCClientWS Json Tid} {t u : Tid}
    {request : JsonRPCRequest Json} {method : String} {params : Json}
    (hplace : c.thread t = .wait request) (hevent : c.m_callbackEventId = false)
    (h : c.beginCall u method params = some c') :
    c'.thread t = .wait request ∧ c'.io = c.io ∧ c'.m_callbackEventId = false := by
  obtain ⟨houtside, ⟨place, hthread⟩, hio, hkept⟩ := beginCall_spec h
  refine ⟨?_, hio, hkept.trans hevent⟩
  have htu : t ≠ u := by
    intro htu
    subst htu
    rw [hplace] at houtside
    cases houtside
  rw [hthread, Function.update_of_ne htu]
  exact hplace

/-- Two threads that wait for each other go on waiting, whatever happens. -/
theorem deadlocked_step {l : Label Json Tid} (howned : Owned s) (hs : s.Deadlocked updates)
    (h : s.step json updates l = some s') : s'.Deadlocked updates := by
  obtain ⟨t, request, howner, hplace, hevent, hwants⟩ := hs
  have hkept : ∀ (client : JsonRPCClientWS Json Tid) (place : Tid → LockPlace Json),
      client.thread t = .wait request ∧ client.io = s.client.io ∧
        client.m_callbackEventId = false → Deadlocked updates { s with client, place } := by
    intro client place hclient
    obtain ⟨hthread, hio, hnone⟩ := hclient
    exact ⟨t, request, howner, hthread, hnone, callbackWants_of hwants hio.symm rfl⟩
  cases l with
  | enter u body =>
    simp only [step, enter] at h
    split at h
    · obtain rfl := Option.some.inj h
      exact hkept _ _ ⟨hplace, rfl, hevent⟩
    · cases h
  | call u method params =>
    simp only [step, call] at h
    split at h
    · obtain ⟨client, hclient, rfl⟩ := Option.map_eq_some_iff.mp h
      exact hkept _ _ (beginCall_waiting hplace hevent hclient)
    · cases h
  | thread u fault =>
    simp only [step, proceed] at h
    split at h
    · obtain ⟨client, hclient, rfl⟩ := Option.map_eq_some_iff.mp h
      exact hkept _ _ (callStep_waiting hplace hevent hclient)
    · rw [howner] at h
      cases h
    · split at h
      · obtain ⟨client, hclient, rfl⟩ := Option.map_eq_some_iff.mp h
        exact hkept _ _ (beginCall_waiting hplace hevent hclient)
      · obtain rfl := Option.some.inj h
        exact hkept _ _ ⟨hplace, rfl, hevent⟩
    · rename_i hunlocking
      -- only the holder of the lock is about to unlock, and it is in its call
      have hself := howned.threads u (by rw [hunlocking]; rfl)
      rw [howner] at hself
      obtain rfl := LockOwner.thread.inj (Option.some.inj hself)
      rw [hplace] at h
      obtain ⟨client, hclient, rfl⟩ := Option.map_eq_some_iff.mp h
      exact hkept _ _ (callStep_waiting hplace hevent hclient)
  | answer position error result =>
    obtain ⟨client, hclient, rfl⟩ := Option.map_eq_some_iff.mp h
    obtain ⟨hthread, hio, hnone⟩ := answer_spec hclient
    exact hkept _ _ ⟨(congrFun hthread t).trans hplace, hio, hnone.trans hevent⟩
  | notify method params =>
    obtain rfl := Option.some.inj h
    exact hkept _ _ ⟨hplace, rfl, hevent⟩
  | garble =>
    obtain rfl := Option.some.inj h
    exact hkept _ _ ⟨hplace, rfl, hevent⟩
  | io raises =>
    unfold callbackWants at hwants
    split at hwants
    · rename_i method params hio
      obtain ⟨hupdate, hcallback⟩ := (Bool.and_eq_true _ _).mp hwants
      simp only [step, ioStep, hio, hupdate, if_true, beq_iff_eq.mp hcallback, howner] at h
      cases h
    · cases hwants

/-- A deadlock is for good. -/
theorem deadlock_forever (hreach : Run (step json updates) always {} s)
    (hs : s.Deadlocked updates) (h : Run (step json updates) always s s') :
    s'.Deadlocked updates := by
  have hboth := Run.invariant (P := fun r => Owned r ∧ r.Deadlocked updates) ?_ h
    ⟨owned_run hreach, hs⟩
  · exact hboth.2
  · intro a l b ha _ hstep
    exact ⟨owned_step ha.1 hstep, deadlocked_step ha.1 ha.2 hstep⟩

/-- As long as no spectrum update comes between the request and the signal of a call that is made
with the port locked, and the signal goes to this call, io thread and holder of the lock never wait
for each other. -/
theorem no_deadlock
    (h : Run (step json updates) (fun s l => s.apart updates l = true) {} s) :
    ¬ s.Deadlocked updates := by
  apply not_deadlocked
  apply Run.invariant (P := Clear updates) ?_ h clear_start
  intro a l b ha hok hstep
  exact clear_step ha hok hstep

/-- The callbacks of the spectrum updates are registered under this method. -/
def updatesOf (method : String) (_ : Option Nat) : Bool := method == "SpectrumUpdate0"

/-- The stop of `writeInt32`, as far as the wait for its response. -/
def stopWrite : List (Label (Option Nat) Nat) :=
  .enter 0 (.abort none) :: List.replicate 4 (.thread 0 none)

theorem no_deadlock_stopped :
    ∃ s : PortLock (Option Nat) Nat,
      Run (step JsonLibrary.numbers updatesOf) (fun s l => s.apart updatesOf l = true) {} s ∧
        s.callbackWants updatesOf = true ∧ s.ownerWaits = true ∧ ¬ s.Deadlocked updatesOf := by
  have hreaches : reaches (step JsonLibrary.numbers updatesOf)
      (fun s l => s.apart updatesOf l = true) {}
      (stopWrite ++ [.answer 0 none (some none), .notify "SpectrumUpdate0" none, .io false,
        .io false, .io false])
      (fun s => s.callbackWants updatesOf && s.ownerWaits) = true := by
    decide +kernel
  obtain ⟨s, hrun, htest⟩ := run_of_reaches hreaches
  obtain ⟨hwants, hwaits⟩ := Bool.and_eq_true_iff.mp htest
  exact ⟨s, hrun, hwants, hwaits, no_deadlock hrun⟩

/-- A spectrum update has come before the response to the stop. -/
theorem stop_write_deadlocks :
    ¬ ∀ s : PortLock (Option Nat) Nat,
      Run (step JsonLibrary.numbers updatesOf) always {} s → ¬ s.Deadlocked updatesOf := by
  intro hclaim
  have hreaches : reaches (step JsonLibrary.numbers updatesOf) always
      ({} : PortLock (Option Nat) Nat)
      (stopWrite ++ [.notify "SpectrumUpdate0" none, .answer 0 none (some none), .io false])
      (fun s => s.owner = some (.thread 0) ∧
        s.client.thread 0 = .wait
          { call := 0, msgId := 1, method := "CancelAcquisition", params := none } ∧
        s.client.m_callbackEventId = false ∧ s.callbackWants updatesOf = true) = true := by
    decide +kernel
  obtain ⟨s, hrun, htest⟩ := run_of_reaches hreaches
  exact hclaim s hrun ⟨0, _, of_decide_eq_true htest⟩

end PortLock

end PeakAnalyser

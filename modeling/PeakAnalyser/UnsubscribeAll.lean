import PeakAnalyser.PeakClients

/-!
# `PeakAPI::unsubscribeAll`

The loop erases the element that its iterator points to, and advances the iterator after that.
An element is known by its key, as nothing is inserted while the loop runs; an iterator to an
erased element can be neither followed nor advanced. All calls succeed.
-/

namespace PeakAnalyser

set_option autoImplicit false

open Runs

/-- An iterator; `none` is `end()`. -/
abbrev SubscriberIterator : Type := Option Bytes

namespace SubscriberMap

variable (m : SubscriberMap)

def begin : SubscriberIterator := m.head?.map Prod.fst

/-- `*it`, where the element is there. -/
def deref (guid : Bytes) : Option (Bytes × Bytes) := m.find? fun it => it.1 == guid

/-- `it++`, where the element is there. -/
def advance (guid : Bytes) : Option SubscriberIterator :=
  match m.dropWhile fun it => it.1 != guid with
  | [] => none
  | _ :: rest => some (begin rest)

theorem advance_erase (guid : Bytes) : (m.erase guid).advance guid = none := by
  have hdrop : (m.erase guid).dropWhile (fun it => it.1 != guid) = [] := by
    rw [List.dropWhile_eq_nil_iff]
    intro it hit
    simpa using (mem_erase.mp hit).2
  unfold advance
  rw [hdrop]

end SubscriberMap

/-- The next statement; the erased iterator is advanced in the head of the loop. -/
inductive UnsubscribeAllPlace where
  | test (it : SubscriberIterator)
  | call (guid : Bytes)
  | remove (guid : Bytes)
  | erase (guid : Bytes)
  | advance (guid : Bytes)
  | observer
  | returned
  | undefined
  deriving DecidableEq

/-- A call of `unsubscribeAll`; `sent` has the guids of its calls `Unsubscribe`. -/
structure UnsubscribeAll (Cid C : Type) where
  clients : PeakClients Cid C
  place : UnsubscribeAllPlace
  sent : List Bytes := []

namespace UnsubscribeAll

variable {Cid C : Type} [DecidableEq Cid] (c : Cid) (u : UnsubscribeAll Cid C)

def m_subscribers : SubscriberMap := (u.clients.client c).m_subscribers

/-- A statement that follows an iterator. -/
def following (guid : Bytes) (next : Bytes × Bytes → UnsubscribeAll Cid C) : UnsubscribeAll Cid C :=
  match (u.m_subscribers c).deref guid with
  | none => { u with place := .undefined }
  | some it => next it

def step (_ : Unit) : Option (UnsubscribeAll Cid C) :=
  match u.place with
  | .test none =>
    match u.clients.scheme c with
    | .http => some { u with place := .observer }
    | .webSocket => some { u with place := .returned }
  | .test (some guid) => some { u with place := .call guid }
  | .call guid =>
    some (u.following c guid fun it => { u with place := .remove guid, sent := u.sent ++ [it.1] })
  | .remove guid =>
    some (u.following c guid fun it =>
      { u with place := .erase guid, clients := u.clients.remove c it.2 })
  | .erase guid =>
    some (u.following c guid fun it =>
      { u with
        place := .advance guid
        clients := u.clients.setSubscribers c ((u.m_subscribers c).erase it.1) })
  | .advance guid =>
    match (u.m_subscribers c).advance guid with
    | none => some { u with place := .undefined }
    | some it => some { u with place := .test it }
  | .observer =>
    match u.clients.notificationServer with
    | none => some { u with place := .undefined }
    | some _ => some { u with place := .returned }
  | .returned | .undefined => none

/-- `unsubscribeAll` is called. -/
def start (s : PeakClients Cid C) : UnsubscribeAll Cid C where
  clients := s
  place := .test (s.client c).m_subscribers.begin

/-- What `unsubscribeAll` is for. -/
structure Ends (s : PeakClients Cid C) : Prop where
  /-- No iterator to an erased element and no null pointer is followed. -/
  defined : ∀ u, Run (step c) always (start c s) u → u.place ≠ .undefined
  returns : ∃ u, Run (step c) always (start c s) u ∧ u.place = .returned
  /-- Each guid has been sent once, and nothing is left of the subscriptions. -/
  complete : ∀ u, Run (step c) always (start c s) u → u.place = .returned →
    u.sent.Perm ((s.client c).m_subscribers.map Prod.fst) ∧ u.m_subscribers c = [] ∧
      ∀ it ∈ (s.client c).m_subscribers, u.clients.table c it.2 = none

/-- An iterator to an erased element is followed, or a null pointer. -/
def Fails : Prop := ∃ v, Run (step c) always u v ∧ v.place = .undefined

variable {c u} {s : PeakClients Cid C}

omit [DecidableEq Cid] in
theorem following_head {first : Bytes × Bytes} {rest : SubscriberMap}
    (h : u.m_subscribers c = first :: rest) (next : Bytes × Bytes → UnsubscribeAll Cid C) :
    u.following c first.1 next = next first := by
  have hderef : SubscriberMap.deref (first :: rest) first.1 = some first := by
    simp [SubscriberMap.deref]
  unfold following
  rw [h, hderef]

/-! ### The first round of the loop -/

theorem Fails.head {v : UnsubscribeAll Cid C} (hstep : u.step c () = some v) (hv : Fails c v) :
    Fails c u := by
  obtain ⟨w, hrun, hplace⟩ := hv
  exact ⟨w, hrun.head trivial hstep, hplace⟩

section FirstRound

variable {first : Bytes × Bytes} {rest : SubscriberMap}

theorem fails_advance {guid : Bytes} (hplace : u.place = .advance guid)
    (h : u.m_subscribers c = SubscriberMap.erase rest guid) : Fails c u := by
  have hstep : u.step c () = some { u with place := .undefined } := by
    unfold step
    rw [hplace]
    dsimp only
    rw [h, SubscriberMap.advance_erase]
  exact ⟨_, Run.single trivial hstep, rfl⟩

theorem fails_erase (hplace : u.place = .erase first.1) (h : u.m_subscribers c = first :: rest) :
    Fails c u := by
  have hstep : u.step c () = some { u with
      place := .advance first.1
      clients := u.clients.setSubscribers c ((u.m_subscribers c).erase first.1) } := by
    unfold step
    rw [hplace]
    exact congrArg some (following_head h _)
  refine Fails.head hstep ?_
  refine fails_advance rfl (?_ : _ = SubscriberMap.erase (first :: rest) first.1)
  rw [m_subscribers, PeakClients.subscribers_setSubscribers, if_pos rfl, h]

theorem fails_remove (hplace : u.place = .remove first.1) (h : u.m_subscribers c = first :: rest) :
    Fails c u := by
  have hstep : u.step c () =
      some { u with place := .erase first.1, clients := u.clients.remove c first.2 } := by
    unfold step
    rw [hplace]
    exact congrArg some (following_head h _)
  have hsame : ((u.clients.remove c first.2).client c).m_subscribers = u.m_subscribers c :=
    (PeakClients.samePlaces_onTransport c _ _).subscribers c
  exact Fails.head hstep (fails_erase rfl (hsame.trans h))

theorem fails_call (hplace : u.place = .call first.1) (h : u.m_subscribers c = first :: rest) :
    Fails c u := by
  have hstep : u.step c () =
      some { u with place := .remove first.1, sent := u.sent ++ [first.1] } := by
    unfold step
    rw [hplace]
    exact congrArg some (following_head h _)
  exact Fails.head hstep (fails_remove rfl h)

theorem fails_test (hplace : u.place = .test (some first.1))
    (h : u.m_subscribers c = first :: rest) : Fails c u := by
  have hstep : u.step c () = some { u with place := .call first.1 } := by
    unfold step
    rw [hplace]
  exact Fails.head hstep (fails_call rfl h)

end FirstRound

/-! ### Nothing to unsubscribe -/

/-- The loop is left at once, and over HTTP the server is told. -/
structure Idle (c : Cid) (s : PeakClients Cid C) (u : UnsubscribeAll Cid C) : Prop where
  clients : u.clients = s
  sent : u.sent = []
  place : u.place = .test none ∨ (u.place = .observer ∧ s.scheme c = .http) ∨ u.place = .returned

theorem idle_step {v : UnsubscribeAll Cid C} {l : Unit}
    (hserver : s.scheme c = .http → s.notificationServer.isSome = true)
    (hu : Idle c s u) (h : u.step c l = some v) : Idle c s v := by
  obtain ⟨rfl, hsent, hplace⟩ := hu
  unfold step at h
  rcases hplace with hplace | ⟨hplace, hhttp⟩ | hplace <;> rw [hplace] at h <;> dsimp only at h
  · split at h
    · rename_i hhttp
      obtain rfl := Option.some.inj h
      exact ⟨rfl, hsent, Or.inr (Or.inl ⟨rfl, hhttp⟩)⟩
    · obtain rfl := Option.some.inj h
      exact ⟨rfl, hsent, Or.inr (Or.inr rfl)⟩
  · split at h
    · rename_i hnone
      have hsome := hserver hhttp
      rw [hnone] at hsome
      cases hsome
    · obtain rfl := Option.some.inj h
      exact ⟨rfl, hsent, Or.inr (Or.inr rfl)⟩
  · cases h

omit [DecidableEq Cid] in
theorem start_of_nil (h : (s.client c).m_subscribers = []) :
    start c s = { clients := s, place := .test none } := by
  unfold start
  rw [h]
  rfl

theorem idle_run (h : (s.client c).m_subscribers = [])
    (hserver : s.scheme c = .http → s.notificationServer.isSome = true)
    (hrun : Run (step c) always (start c s) u) : Idle c s u := by
  refine hrun.invariant (fun a l b ha _ hstep => idle_step hserver ha hstep) ?_
  rw [start_of_nil h]
  exact ⟨rfl, rfl, Or.inl rfl⟩

/-- The loop is left for the call `UnsubscribeAllForObserver`. -/
theorem step_test_none (hhttp : s.scheme c = .http) :
    step c ({ clients := s, place := .test none } : UnsubscribeAll Cid C) () =
      some { clients := s, place := .observer } := by
  unfold step
  dsimp only
  rw [hhttp]

theorem returns_of_nil (h : (s.client c).m_subscribers = [])
    (hserver : s.scheme c = .http → s.notificationServer.isSome = true) :
    ∃ u, Run (step c) always (start c s) u ∧ u.place = .returned := by
  rw [start_of_nil h]
  cases hscheme : s.scheme c with
  | webSocket =>
    have hstep : step c ({ clients := s, place := .test none } : UnsubscribeAll Cid C) () =
        some { clients := s, place := .returned } := by
      unfold step
      dsimp only
      rw [hscheme]
    exact ⟨_, Run.single trivial hstep, rfl⟩
  | http =>
    obtain ⟨n, hn⟩ := Option.isSome_iff_exists.mp (hserver hscheme)
    have hstep : step c ({ clients := s, place := .observer } : UnsubscribeAll Cid C) () =
        some { clients := s, place := .returned } := by
      unfold step
      dsimp only
      rw [hn]
    exact ⟨_, (Run.single trivial (step_test_none hscheme)).tail trivial hstep, rfl⟩

theorem fails_of_no_server (h : (s.client c).m_subscribers = []) (hhttp : s.scheme c = .http)
    (hnone : s.notificationServer = none) : Fails c (start c s) := by
  rw [start_of_nil h]
  have hstep : step c ({ clients := s, place := .observer } : UnsubscribeAll Cid C) () =
      some { clients := s, place := .undefined } := by
    unfold step
    dsimp only
    rw [hnone]
  exact ⟨_, (Run.single trivial (step_test_none hhttp)).tail trivial hstep, rfl⟩

/-- The loop goes wrong unless there is nothing to unsubscribe; over HTTP the address of the
notification server is asked for, too. -/
theorem ends_iff (c : Cid) (s : PeakClients Cid C) :
    Ends c s ↔ (s.client c).m_subscribers = [] ∧
      (s.scheme c = .http → s.notificationServer.isSome = true) := by
  constructor
  · intro hends
    have hnever : ¬ Fails c (start c s) := by
      rintro ⟨u, hrun, hplace⟩
      exact hends.defined u hrun hplace
    have hnil : (s.client c).m_subscribers = [] := by
      cases hsubscribers : (s.client c).m_subscribers with
      | nil => rfl
      | cons first rest =>
        have hplace : (start c s).place = .test (some first.1) := by
          unfold start
          rw [hsubscribers]
          rfl
        exact absurd (fails_test hplace hsubscribers) hnever
    refine ⟨hnil, fun hhttp => ?_⟩
    rw [Option.isSome_iff_ne_none]
    exact fun hnone => hnever (fails_of_no_server hnil hhttp hnone)
  · rintro ⟨hnil, hserver⟩
    refine ⟨?_, returns_of_nil hnil hserver, ?_⟩
    · intro u hrun hplace
      rcases (idle_run hnil hserver hrun).place with h | ⟨h, _⟩ | h <;>
      · rw [hplace] at h
        cases h
    · intro u hrun _
      have hidle := idle_run hnil hserver hrun
      rw [m_subscribers, hidle.clients, hidle.sent, hnil]
      exact ⟨List.Perm.nil, rfl, fun _ hit => absurd hit List.not_mem_nil⟩

/-- One subscription is enough. -/
theorem one_subscription_fails :
    ∃ s : PeakClients Unit Nat,
      Run (PeakClients.step (fun _ => none) fun _ _ => false) always
        (PeakClients.start fun _ => .webSocket) s ∧
      (s.client ()).m_subscribers = [(bytes "a", bytes "State0")] ∧ ¬ Ends () s := by
  have hreached : reaches (PeakClients.step (fun _ => none) fun (_ : Nat) _ => false) always
      (PeakClients.start fun _ => .webSocket)
      [.subscribeToState () 1, .answer () (bytes "a"), .proceed (), .proceed ()]
      (fun s => (s.client ()).m_subscribers = [(bytes "a", bytes "State0")]) = true := by
    decide +kernel
  obtain ⟨s, hrun, htest⟩ := run_of_reaches hreached
  have hsubscribers := of_decide_eq_true htest
  refine ⟨s, hrun, hsubscribers, ?_⟩
  rw [ends_iff, hsubscribers]
  rintro ⟨h, _⟩
  cases h

end UnsubscribeAll

end PeakAnalyser

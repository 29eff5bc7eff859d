import PeakAnalyser.Measurement

/-!
# The two subscriptions of an acquisition

While the driver is told the truth about its calls, the guids in the locals of the
task, the callbacks registered in the client and the subscriptions that the server
keeps are the same. Where the task has given a guid back follows from its place.
-/

namespace PeakAnalyser

set_option autoImplicit false

/-- The sites that subscribe or unsubscribe. -/
def Site.subscribes : Site → Bool
  | .subscribeToState | .subscribeToObservable | .unsubscribeState | .unsubscribeAcquired
  | .cleanupUnsubscribeState | .cleanupUnsubscribeAcquired => true
  | _ => false

/-- `guidState` is empty at these sites. -/
def Site.stateReleased : Site → Bool
  | .currentState | .defineSpectrum | .startMeasurement | .setupSpectrum | .subscribeToState
  | .unsubscribeAcquired | .finishSpectrum | .finishMeasurement
  | .cleanupUnsubscribeAcquired | .cleanupCurrentState
  | .cleanupFinishSpectrum | .cleanupFinishMeasurement => true
  | _ => false

/-- `guidAcquired` is empty at these sites. -/
def Site.acquiredReleased : Site → Bool
  | .currentState | .defineSpectrum | .startMeasurement | .setupSpectrum | .subscribeToState
  | .subscribeToObservable | .finishSpectrum | .finishMeasurement | .cleanupCurrentState
  | .cleanupFinishSpectrum | .cleanupFinishMeasurement => true
  | _ => false

def Call.subscribes : Call → Bool
  | .subscribeToState | .subscribeToObservable | .unsubscribe _ => true
  | _ => false

namespace Server

variable (v : Server)

theorem exec_lists {call : Call} (h : call.subscribes = false) :
    (v.exec call).observers = v.observers ∧ (v.exec call).updates = v.updates ∧
      v.nextId ≤ (v.exec call).nextId := by
  cases call
  case startMeasurement | acquisitionAsync | finishMeasurement =>
    simp only [exec]
    split <;> exact ⟨rfl, rfl, le_refl _⟩
  case defineSpectrum => exact ⟨rfl, rfl, Nat.le_succ _⟩
  case subscribeToState | subscribeToObservable | unsubscribe => cases h
  all_goals exact ⟨rfl, rfl, le_refl _⟩

theorem endExposure_lists {v' : Server} {how : Ending} (h : v.endExposure how = some v') :
    v'.observers = v.observers ∧ v'.updates = v.updates ∧ v'.spectra = v.spectra ∧
      v'.nextId = v.nextId := by
  unfold endExposure at h
  split at h
  · split at h
    · cases h
    · obtain rfl := Option.some.inj h
      exact ⟨rfl, rfl, rfl, rfl⟩
  · cases h

/-- What the end of an exposure does. -/
theorem endExposure_ends {v' : Server} {how : Ending} (h : v.endExposure how = some v') :
    v.exposure ≠ none ∧ v'.state = how.state ∧ v'.exposure = none ∧
      v'.accumulated = how :: v.accumulated := by
  unfold endExposure at h
  split at h
  · rename_i hrunning
    split at h
    · cases h
    · obtain rfl := Option.some.inj h
      exact ⟨by simp [hrunning], rfl, rfl, rfl⟩
  · cases h

end Server

namespace World

variable {w w' : World} {base : ADDriver}

/-- The guids of the task, the registered callbacks and the server agree. -/
structure Linked (w : World) : Prop where
  observers : w.server.observers = w.task.guidState.toList
  updates : w.server.updates = w.task.guidAcquired.toList
  subscribers : w.subscribers = w.task.guidAcquired.toList.map (·, Callback.spectrumUpdated) ++
    w.task.guidState.toList.map (·, Callback.stateChanged)
  freshState : ∀ g, w.task.guidState = some g → g < w.server.nextId
  freshAcquired : ∀ g, w.task.guidAcquired = some g → g < w.server.nextId
  distinct : ∀ g, w.task.guidState = some g → w.task.guidAcquired ≠ some g

/-- Neither side of the agreement changes. -/
structure SameLinks (w w' : World) : Prop where
  observers : w'.server.observers = w.server.observers
  updates : w'.server.updates = w.server.updates
  nextId : w.server.nextId ≤ w'.server.nextId
  subscribers : w'.subscribers = w.subscribers
  guidState : w'.task.guidState = w.task.guidState
  guidAcquired : w'.task.guidAcquired = w.task.guidAcquired

theorem SameLinks.of_eq (hserver : w'.server = w.server) (hsubscribers : w'.subscribers = w.subscribers)
    (hstate : w'.task.guidState = w.task.guidState)
    (hacquired : w'.task.guidAcquired = w.task.guidAcquired) : SameLinks w w' :=
  ⟨by rw [hserver], by rw [hserver], by rw [hserver], hsubscribers, hstate, hacquired⟩

theorem Linked.of_same (hw : Linked w) (h : SameLinks w w') : Linked w' where
  observers := by rw [h.observers, h.guidState, hw.observers]
  updates := by rw [h.updates, h.guidAcquired, hw.updates]
  subscribers := by rw [h.subscribers, h.guidState, h.guidAcquired, hw.subscribers]
  freshState g hg := by
    rw [h.guidState] at hg
    exact (hw.freshState g hg).trans_le h.nextId
  freshAcquired g hg := by
    rw [h.guidAcquired] at hg
    exact (hw.freshAcquired g hg).trans_le h.nextId
  distinct g hg := by
    rw [h.guidState] at hg
    rw [h.guidAcquired]
    exact hw.distinct g hg

theorem Locked.sameLinks (h : Locked w w') : SameLinks w w' where
  observers := by rw [h.server]
  updates := by rw [h.server]
  nextId := by rw [h.server]
  subscribers := h.subscribers
  guidState := h.guidState
  guidAcquired := h.guidAcquired

/-! ### The calls that subscribe -/

theorem linked_subscribeToState (hw : Linked w) (hstate : w.task.guidState = none)
    (hacquired : w.task.guidAcquired = none) (log : List Event) :
    Linked (({ w with server := w.server.exec .subscribeToState, log := log }).returnedAt
      .subscribeToState w.server) where
  observers := by simp [returnedAt, Server.exec, hw.observers, hstate]
  updates := hw.updates
  subscribers := by simp [returnedAt, hw.subscribers, hstate, hacquired]
  freshState g hg := by
    obtain rfl := Option.some.inj hg
    exact Nat.lt_succ_self _
  freshAcquired g hg := (hw.freshAcquired g hg).trans (Nat.lt_succ_self _)
  distinct g hg hg' := by
    obtain rfl := Option.some.inj hg
    exact absurd (hw.freshAcquired _ hg') (lt_irrefl _)

theorem linked_subscribeToObservable (hw : Linked w) (hnone : w.task.guidAcquired = none)
    (log : List Event) :
    Linked (({ w with server := w.server.exec .subscribeToObservable, log := log }).returnedAt
      .subscribeToObservable w.server) where
  observers := hw.observers
  updates := by simp [returnedAt, Server.exec, hw.updates, hnone]
  subscribers := by simp [returnedAt, hw.subscribers, hnone]
  freshState g hg := (hw.freshState g hg).trans (Nat.lt_succ_self _)
  freshAcquired g hg := by
    obtain rfl := Option.some.inj hg
    exact Nat.lt_succ_self _
  distinct g hg hg' := by
    obtain rfl := Option.some.inj hg'
    exact absurd (hw.freshState _ hg) (lt_irrefl _)

/-- `unsubscribe(guidState)` and the assignment after it. -/
theorem linked_releaseState {g : Nat} (hw : Linked w) (hg : w.task.guidState = some g)
    (log : List Event) (pc : Pc) :
    Linked { { w with server := w.server.exec (.unsubscribe g) }.forget (some g) with
      task := { w.task with guidState := none }, log := log, pc := pc } where
  observers := by simp [Server.exec, hw.observers, hg]
  updates := by
    have hne := hw.distinct g hg
    cases hacquired : w.task.guidAcquired with
    | none => simp [Server.exec, hw.updates, hacquired]
    | some a =>
      have hdiff : a ≠ g := fun h => hne (by rw [hacquired, h])
      simp [Server.exec, hw.updates, hacquired, hdiff]
  subscribers := by
    have hne := hw.distinct g hg
    cases hacquired : w.task.guidAcquired with
    | none => simp [hw.subscribers, hacquired, hg]
    | some a =>
      have hdiff : a ≠ g := fun h => hne (by rw [hacquired, h])
      simp [hw.subscribers, hacquired, hg, hdiff]
  freshState _ hnone := by cases hnone
  freshAcquired := hw.freshAcquired
  distinct _ hnone := by cases hnone

theorem linked_releaseAcquired {g : Nat} (hw : Linked w) (hg : w.task.guidAcquired = some g)
    (log : List Event) (pc : Pc) :
    Linked { { w with server := w.server.exec (.unsubscribe g) }.forget (some g) with
      task := { w.task with guidAcquired := none }, log := log, pc := pc } where
  observers := by
    cases hstate : w.task.guidState with
    | none => simp [Server.exec, hw.observers, hstate]
    | some a =>
      have hdiff : a ≠ g := fun h => hw.distinct a hstate (by rw [hg, h])
      simp [Server.exec, hw.observers, hstate, hdiff]
  updates := by simp [Server.exec, hw.updates, hg]
  subscribers := by
    cases hstate : w.task.guidState with
    | none => simp [hw.subscribers, hstate, hg]
    | some a =>
      have hdiff : a ≠ g := fun h => hw.distinct a hstate (by rw [hg, h])
      simp [hw.subscribers, hstate, hg, hdiff]
  freshState := hw.freshState
  freshAcquired _ hnone := by cases hnone
  distinct _ _ hnone := by cases hnone

/-- A guid of the task is registered, so that a missing call means a missing guid. -/
theorem guid_of_no_call (hw : Linked w) {guid : Option Nat}
    (hguid : guid = w.task.guidState ∨ guid = w.task.guidAcquired)
    (h : w.unsubscribeCall guid = none) : guid = none := by
  cases guid with
  | none => rfl
  | some g =>
    have hmem : g ∈ w.subscribers.map Prod.fst := by
      rcases hguid with hg | hg
      · simp [hw.subscribers, ← hg]
      · simp [hw.subscribers, ← hg]
    rw [unsubscribeCall_of_mem hmem] at h
    cases h

/-! ### The other calls -/

theorem sameLinks_cleanupAcquired (w : World) : SameLinks w w.cleanupAcquired := by
  unfold cleanupAcquired
  split <;> exact .of_eq rfl rfl rfl rfl

theorem sameLinks_caught (w : World) (what : String) : SameLinks w (w.caught what) := by
  unfold caught
  dsimp only
  split
  · exact .of_eq rfl rfl rfl rfl
  · have hsame := sameLinks_cleanupAcquired
      { w with task := { w.task with failed := true, statusMessage := what } }
    exact ⟨hsame.1, hsame.2, hsame.3, hsame.4, hsame.5, hsame.6⟩

theorem sameLinks_raisedAt (w : World) (site : Site) (what : String) :
    SameLinks w (w.raisedAt site what) := by
  unfold raisedAt
  split
  · exact .of_eq rfl rfl rfl rfl
  · exact sameLinks_caught w what

theorem sameLinks_returnedAt {site : Site} (answer : Server) (h : site.subscribes = false) :
    SameLinks w (w.returnedAt site answer) := by
  cases site
  case currentState =>
    unfold returnedAt
    dsimp only
    split
    · exact .of_eq rfl rfl rfl rfl
    · exact sameLinks_caught w _
  case getMeasuredSpectrum =>
    unfold returnedAt measured
    dsimp only
    split <;> exact .of_eq rfl rfl rfl rfl
  case cleanupCurrentState =>
    unfold returnedAt
    dsimp only
    split
    · split <;> exact .of_eq rfl rfl rfl rfl
    · exact .of_eq rfl rfl rfl rfl
  case subscribeToState | subscribeToObservable | unsubscribeState | unsubscribeAcquired |
      cleanupUnsubscribeState | cleanupUnsubscribeAcquired => cases h
  all_goals exact .of_eq rfl rfl rfl rfl

theorem sameLinks_of_step {l : Label} (hl : ∀ reply, l ≠ .task reply)
    (h : w.step base l = some w') : SameLinks w w' := by
  have hplace := samePlace_of_step hl h
  obtain ⟨n, htask⟩ := hplace.task
  have hlists : w'.server.observers = w.server.observers ∧ w'.server.updates = w.server.updates ∧
      w.server.nextId ≤ w'.server.nextId := by
    cases l with
    | task reply => exact absurd rfl (hl reply)
    | write f v reply =>
      obtain ⟨_, d, action, _, rfl⟩ := step_write h
      rw [portAction_server]
      exact ⟨rfl, rfl, le_refl _⟩
    | writeFloat f v reply =>
      simp only [step] at h
      split at h
      · obtain ⟨_, _, rfl⟩ := Option.map_eq_some_iff.mp h
        exact ⟨rfl, rfl, le_refl _⟩
      · cases h
    | port reply =>
      obtain ⟨_, _, rfl⟩ | ⟨c, _, _, rfl⟩ := portStep_cases h
      · exact ⟨rfl, rfl, le_refl _⟩
      · dsimp only
        split
        · exact Server.exec_lists w.server (by cases c <;> rfl)
        · exact ⟨rfl, rfl, le_refl _⟩
    | exposureEnd how =>
      obtain ⟨v, hv, rfl⟩ := Option.map_eq_some_iff.mp h
      obtain ⟨hobservers, hupdates, _, hnext⟩ := Server.endExposure_lists w.server hv
      exact ⟨hobservers, hupdates, by rw [hnext]⟩
    | notify index keep =>
      obtain ⟨_, _, rfl⟩ := deliver_cases h
      exact ⟨rfl, rfl, le_refl _⟩
    | spectrumUpdate settings =>
      simp only [step] at h
      split at h
      · obtain rfl := Option.some.inj h
        exact ⟨rfl, rfl, le_refl _⟩
      · cases h
    | otherClient state keepsOwn =>
      obtain rfl := Option.some.inj h
      exact ⟨rfl, rfl, le_refl _⟩
  exact ⟨hlists.1, hlists.2.1, hlists.2.2, hplace.subscribers, by rw [htask], by rw [htask]⟩

/-! ### Where the guids are held -/

/-- What the place of the task says about its two guids. -/
def Held (w : World) : Prop :=
  match w.pc with
  | .entry | .waitStart | .woken => w.task.guidState = none ∧ w.task.guidAcquired = none
  | .call site | .inCall site _ =>
    (site.stateReleased = true → w.task.guidState = none) ∧
      (site.acquiredReleased = true → w.task.guidAcquired = none)
  | .leaveTry | .callbacks =>
    w.settled = true → w.task.guidState = none ∧ w.task.guidAcquired = none
  | _ => True

theorem held_of_onward (hw : Held w) (hpc : w.pc = .leaveTry ∨ w.pc = .callbacks)
    (hlocked : Locked w w') (h : Onward w w') : Held w' := by
  have hfree : w.settled = true → w'.task.guidState = none ∧ w'.task.guidAcquired = none := by
    rw [hlocked.guidState, hlocked.guidAcquired]
    unfold Held at hw
    obtain hpc | hpc := hpc <;> rw [hpc] at hw <;> exact hw
  unfold Held
  cases h with
  | parks hpc' hlog hs =>
    rw [hpc']
    exact hfree hs
  | first hpc' hlog hs =>
    rw [hpc']
    exact ⟨fun _ => (hfree hs).1, fun _ => (hfree hs).2⟩
  | next hpc' hlog _ =>
    rw [hpc']
    exact ⟨fun h => absurd h Bool.false_ne_true, fun h => absurd h Bool.false_ne_true⟩
  | callbacks hpc' hlog hs =>
    rw [hpc', hs]
    exact hfree

theorem held_of_begins {log : List Event} (h : Begins log w) (hstate : w.task.guidState = none)
    (hacquired : w.task.guidAcquired = none) : Held w := by
  unfold Held
  obtain ⟨_, hpc, _⟩ | ⟨_, hpc, _⟩ := h.place <;> rw [hpc] <;>
    exact ⟨fun _ => hstate, fun _ => hacquired⟩

theorem held_cleanupAcquired (hstate : w.task.guidState = none) : Held w.cleanupAcquired := by
  unfold cleanupAcquired
  split
  · exact ⟨fun _ => hstate, fun h => absurd h Bool.false_ne_true⟩
  · rename_i hacquired
    exact ⟨fun _ => hstate, fun _ => by simpa using hacquired⟩

theorem held_caught (w : World) (what : String) : Held (w.caught what) := by
  unfold caught
  dsimp only
  split
  · exact ⟨fun h => absurd h Bool.false_ne_true, fun h => absurd h Bool.false_ne_true⟩
  · rename_i hstate
    exact held_cleanupAcquired (by simpa using hstate)

theorem held_measured (spectrum : List Ending) (hfailed : w.task.failed = false) :
    Held (w.measured spectrum) := by
  unfold Held
  obtain hpc | ⟨hpc, hsettled⟩ := measured_cases spectrum hfailed
  · rw [hpc]
    exact ⟨fun h => absurd h Bool.false_ne_true, fun h => absurd h Bool.false_ne_true⟩
  · rw [hpc, hsettled]
    exact fun h => absurd h Bool.false_ne_true

theorem held_returnedAt {site : Site} (answer : Server) (hfailed : w.task.failed = site.inCleanup)
    (hstate : site.stateReleased = true → w.task.guidState = none)
    (hacquired : site.acquiredReleased = true → w.task.guidAcquired = none) :
    Held (w.returnedAt site answer) := by
  cases site
  case currentState =>
    unfold returnedAt
    dsimp only
    split
    · exact ⟨hstate, hacquired⟩
    · exact held_caught _ _
  case subscribeToState =>
    exact ⟨fun h => absurd h Bool.false_ne_true, fun _ => hacquired rfl⟩
  case subscribeToObservable | clearSpectrum | start =>
    first
      | trivial
      | exact ⟨fun h => absurd h Bool.false_ne_true, fun h => absurd h Bool.false_ne_true⟩
  case getMeasuredSpectrum => exact held_measured _ hfailed
  case unsubscribeState => exact ⟨fun _ => rfl, fun h => absurd h Bool.false_ne_true⟩
  case unsubscribeAcquired => exact ⟨fun _ => hstate rfl, fun _ => rfl⟩
  case cleanupUnsubscribeState => exact held_cleanupAcquired rfl
  case cleanupUnsubscribeAcquired => exact ⟨fun _ => hstate rfl, fun _ => rfl⟩
  case cleanupCurrentState =>
    unfold returnedAt
    dsimp only
    split
    · split <;> exact ⟨fun _ => hstate rfl, fun _ => hacquired rfl⟩
    · exact fun _ => ⟨hstate rfl, hacquired rfl⟩
  case finishMeasurement | cleanupFinishMeasurement => exact fun _ => ⟨hstate rfl, hacquired rfl⟩
  all_goals exact ⟨hstate, hacquired⟩

/-- The guids, the registered callbacks and the server's subscriptions. -/
structure Subscribed (w : World) : Prop where
  linked : Linked w
  held : Held w

/-- An exception says that the server did not carry the call out, and the clean-up meets
none. -/
def answersTruly (w : World) : Reply → Prop
  | .ok => True
  | .raised _ executed =>
    executed = false ∧
    match w.pc with
    | .inCall site _ => site.inCleanup = false
    | _ => True

instance (w : World) (reply : Reply) : Decidable (answersTruly w reply) :=
  match reply with
  | .ok => .isTrue trivial
  | .raised _ _ => @instDecidableAnd _ _ inferInstance <|
    match w.pc with
    | .inCall site _ => inferInstanceAs (Decidable (site.inCleanup = false))
    | .entry | .waitStart | .woken | .call _ | .exposureLoop | .clearSteps | .tryWait | .waitStop
    | .exposureDone | .leaveTry | .callbacks => .isTrue trivial

theorem subscribes_of_issued {site : Site} {call : Call} (hw : Issued w)
    (hpc : w.pc = .inCall site call) (hsite : site.subscribes = false) : call.subscribes = false := by
  obtain hcall | ⟨d, _, rfl⟩ := hw site call hpc
  · cases site
    case subscribeToState | subscribeToObservable | unsubscribeState | unsubscribeAcquired |
        cleanupUnsubscribeState | cleanupUnsubscribeAcquired => cases hsite
    all_goals
      obtain rfl := Option.some.inj hcall
      rfl
  · rfl

theorem call_of_issued {site : Site} {call : Call} (hw : Issued w) (hpc : w.pc = .inCall site call)
    (hsite : site ≠ .defineSpectrum) : w.callAt site = some call := by
  obtain hcall | ⟨d, rfl, _⟩ := hw site call hpc
  · exact hcall
  · exact absurd rfl hsite

theorem linked_no_call {site : Site} (hw : Linked w) (hcall : w.callAt site = none) :
    Linked (w.returnedAt site w.server) := by
  cases site
  case unsubscribeState =>
    have hnone := guid_of_no_call hw (.inl rfl) hcall
    refine hw.of_same (.of_eq rfl ?_ hnone.symm rfl)
    simp [returnedAt, hnone]
  case unsubscribeAcquired =>
    have hnone := guid_of_no_call hw (.inr rfl) hcall
    refine hw.of_same (.of_eq rfl ?_ rfl hnone.symm)
    simp [returnedAt, hnone]
  case cleanupUnsubscribeState =>
    have hnone := guid_of_no_call hw (.inl rfl) hcall
    refine Linked.of_same ?_ (sameLinks_cleanupAcquired _)
    refine hw.of_same (.of_eq rfl ?_ hnone.symm rfl)
    simp [hnone]
  case cleanupUnsubscribeAcquired =>
    have hnone := guid_of_no_call hw (.inr rfl) hcall
    refine hw.of_same (.of_eq rfl ?_ rfl hnone.symm)
    simp [returnedAt, hnone]
  all_goals cases hcall

theorem linked_returned {site : Site} {call : Call} (hw : Linked w) (hissued : Issued w)
    (hpc : w.pc = .inCall site call)
    (hstate : site = .subscribeToState → w.task.guidState = none)
    (hacquired : site = .subscribeToState ∨ site = .subscribeToObservable →
      w.task.guidAcquired = none) : Linked (w.answered site call .ok) := by
  have hexec : ((Reply.ok.event call).carriedOut call) = true := by
    simp [Reply.event, Event.carriedOut]
  unfold answered
  simp only [hexec, if_true, record]
  cases hsite : site.subscribes with
  | false =>
    have hlists := Server.exec_lists w.server (subscribes_of_issued hissued hpc hsite)
    refine Linked.of_same (Linked.of_same hw ?_) (sameLinks_returnedAt _ hsite)
    exact ⟨hlists.1, hlists.2.1, hlists.2.2, rfl, rfl, rfl⟩
  | true =>
    have hcall := call_of_issued hissued hpc (by rintro rfl; cases hsite)
    cases site
    case subscribeToState =>
      obtain rfl := Option.some.inj hcall
      exact linked_subscribeToState hw (hstate rfl) (hacquired (Or.inl rfl)) _
    case subscribeToObservable =>
      obtain rfl := Option.some.inj hcall
      exact linked_subscribeToObservable hw (hacquired (Or.inr rfl)) _
    case unsubscribeState =>
      obtain ⟨g, hg, _, rfl⟩ := unsubscribeCall_eq_some hcall
      simp only [returnedAt, hg]
      exact linked_releaseState hw hg _ _
    case unsubscribeAcquired =>
      obtain ⟨g, hg, _, rfl⟩ := unsubscribeCall_eq_some hcall
      simp only [returnedAt, hg]
      exact linked_releaseAcquired hw hg _ _
    case cleanupUnsubscribeState =>
      obtain ⟨g, hg, _, rfl⟩ := unsubscribeCall_eq_some hcall
      refine Linked.of_same ?_ (sameLinks_cleanupAcquired _)
      simp only [hg]
      exact linked_releaseState hw hg _ _
    case cleanupUnsubscribeAcquired =>
      obtain ⟨g, hg, _, rfl⟩ := unsubscribeCall_eq_some hcall
      simp only [returnedAt, hg]
      exact linked_releaseAcquired hw hg _ _
    all_goals cases hsite

theorem sameLinks_raised (w : World) (site : Site) (call : Call) (what : String) :
    SameLinks w (w.answered site call (.raised what false)) := by
  have hexec : ((Reply.raised what false).event call).carriedOut call = false := by
    simp [Reply.event, Event.carriedOut]
  unfold answered
  simp only [hexec, Bool.false_eq_true, if_false]
  obtain ⟨hobservers, hupdates, hnext, hsubscribers, hstate, hacquired⟩ :=
    sameLinks_raisedAt (w.record (Reply.event call (.raised what false))) site what
  exact ⟨hobservers, hupdates, hnext, hsubscribers, hstate, hacquired⟩

/-- The task subscribes only while the guid is empty. -/
structure SubscribesAfresh (w : World) : Prop where
  state : ∀ call, w.pc = .inCall .subscribeToState call → w.task.guidState = none
  acquired : ∀ site call, w.pc = .inCall site call →
    site = .subscribeToState ∨ site = .subscribeToObservable → w.task.guidAcquired = none

theorem linked_taskStep {reply : Reply} (hissued : Issued w) (hafresh : SubscribesAfresh w)
    (hw : Linked w) (htrue : reply.truthful = true) (h : w.taskStep reply = some w') :
    Linked w' := by
  have hstep := taskStep_cases h
  cases hpc : w.pc <;> simp only [hpc] at hstep
  case entry =>
    obtain ⟨_, rfl⟩ := hstep
    exact hw.of_same (loopHead_head w).toLocked.sameLinks
  case woken =>
    obtain ⟨_, rfl⟩ := hstep
    exact hw.of_same ((weAreAcquiring_locked w).trans (startImage_head _).toLocked).sameLinks
  case call site =>
    obtain ⟨call, _, rfl⟩ | ⟨hcall, rfl⟩ := hstep
    · exact hw.of_same (.of_eq rfl rfl rfl rfl)
    · exact linked_no_call hw hcall
  case inCall site call =>
    subst hstep
    cases reply with
    | ok =>
      refine linked_returned hw hissued hpc ?_ (hafresh.acquired site call hpc)
      rintro rfl
      exact hafresh.state call hpc
    | raised what executed =>
      cases executed
      · exact hw.of_same (sameLinks_raised w site call what)
      · cases htrue
  case exposureDone =>
    obtain ⟨_, rfl⟩ := hstep
    unfold exposureFinished
    dsimp only
    split <;> exact hw.of_same (.of_eq rfl rfl rfl rfl)
  case leaveTry =>
    obtain ⟨_, rfl⟩ := hstep
    exact hw.of_same (afterTry_locked w).sameLinks
  case callbacks =>
    obtain ⟨_, rfl⟩ := hstep
    exact hw.of_same (completed_loopHead_locked w).sameLinks
  case waitStart | waitStop =>
    obtain ⟨_, rfl⟩ := hstep
    exact hw.of_same (.of_eq rfl rfl rfl rfl)
  case exposureLoop | clearSteps | tryWait =>
    subst hstep
    exact hw.of_same (.of_eq rfl rfl rfl rfl)

theorem linked_step {l : Label} (hissued : Issued w) (hafresh : SubscribesAfresh w) (hw : Linked w)
    (htrue : ∀ reply, l = .task reply → reply.truthful = true) (h : w.step base l = some w') :
    Linked w' := by
  by_cases hl : ∃ reply, l = .task reply
  · obtain ⟨reply, rfl⟩ := hl
    exact linked_taskStep hissued hafresh hw (htrue reply rfl) h
  · exact hw.of_same (sameLinks_of_step (fun reply hr => hl ⟨reply, hr⟩) h)

theorem afresh_of_held (hw : Held w) : SubscribesAfresh w := by
  constructor
  · intro call hpc
    simp only [Held, hpc] at hw
    exact hw.1 rfl
  · rintro site call hpc (rfl | rfl)
    · simp only [Held, hpc] at hw
      exact hw.2 rfl
    · simp only [Held, hpc] at hw
      exact hw.2 rfl

theorem held_taskStep {reply : Reply} (hplace : Placed w) (hcounted : Counted w) (hw : Held w)
    (hagree : w.readsAgree) (htrue : answersTruly w reply) (h : w.taskStep reply = some w') :
    Held w' := by
  have hstep := taskStep_cases h
  have hheld := hw
  have hplaced := hplace
  unfold Held at hheld
  cases hpc : w.pc <;> simp only [hpc] at hstep hheld
  case entry =>
    obtain ⟨_, rfl⟩ := hstep
    have hlocked := (loopHead_head w).toLocked
    have hstate := hlocked.guidState.trans hheld.1
    have hacquired := hlocked.guidAcquired.trans hheld.2
    obtain ⟨_, hparks⟩ | ⟨_, hbegins⟩ := loopHead_cases w
    · unfold Held
      rw [hparks.pc]
      exact ⟨hstate, hacquired⟩
    · exact held_of_begins hbegins hstate hacquired
  case waitStart =>
    obtain ⟨_, rfl⟩ := hstep
    exact hheld
  case woken =>
    obtain ⟨_, rfl⟩ := hstep
    have hlocked := (weAreAcquiring_locked w).trans (startImage_head _).toLocked
    exact held_of_begins (startImage_begins rfl) (hlocked.guidState.trans hheld.1)
      (hlocked.guidAcquired.trans hheld.2)
  case call site =>
    obtain ⟨call, _, rfl⟩ | ⟨hcall, rfl⟩ := hstep
    · exact hheld
    · simp only [Placed, hpc] at hplaced
      exact held_returnedAt _ hplaced.1 hheld.1 hheld.2
  case inCall site call =>
    subst hstep
    simp only [Placed, hpc] at hplaced
    cases reply with
    | ok => exact held_returnedAt _ hplaced.1 hheld.1 hheld.2
    | raised what executed =>
      simp only [answersTruly, hpc] at htrue
      simp only [answered, raisedAt, htrue.2, Bool.false_eq_true, if_false]
      exact held_caught _ _
  case exposureLoop =>
    subst hstep
    unfold exposureTest
    split
    · trivial
    · exact ⟨fun h => absurd h Bool.false_ne_true, fun h => absurd h Bool.false_ne_true⟩
  case waitStop =>
    obtain ⟨_, rfl⟩ := hstep
    trivial
  case exposureDone =>
    obtain ⟨_, rfl⟩ := hstep
    unfold exposureFinished
    dsimp only
    split
    · exact ⟨fun h => absurd h Bool.false_ne_true, fun h => absurd h Bool.false_ne_true⟩
    · trivial
  case leaveTry =>
    obtain ⟨_, rfl⟩ := hstep
    exact held_of_onward hw (Or.inl hpc) (afterTry_locked w) (onward_afterTry hcounted hpc hagree)
  case callbacks =>
    obtain ⟨_, rfl⟩ := hstep
    exact held_of_onward hw (Or.inr hpc) (completed_loopHead_locked w)
      (onward_callbacks hplace hcounted hpc hagree)
  case clearSteps =>
    subst hstep
    trivial
  case tryWait =>
    subst hstep
    exact ⟨fun h => absurd h Bool.false_ne_true, fun h => absurd h Bool.false_ne_true⟩

theorem held_of_samePlace (hw : Held w) (h : SamePlace w w') : Held w' := by
  obtain ⟨n, htask⟩ := h.task
  unfold Held
  rw [h.pc, settled_of_samePlace h, htask]
  exact hw

/-- A step of the task that settles what it leaves, and is answered truly. -/
def subscribes (w : World) (l : Label) : Prop :=
  settles w l ∧
  match l with
  | .task reply => answersTruly w reply
  | _ => True

instance (w : World) (l : Label) : Decidable (subscribes w l) :=
  @instDecidableAnd _ _ inferInstance <|
    match l with
    | .task reply => inferInstanceAs (Decidable (answersTruly w reply))
    | .write _ _ _ | .writeFloat _ _ _ | .port _ | .exposureEnd _ | .notify _ _ | .spectrumUpdate _
    | .otherClient _ _ => .isTrue trivial

theorem truthful_of_answersTruly {reply : Reply} (h : answersTruly w reply) :
    reply.truthful = true := by
  cases reply with
  | ok => rfl
  | raised what executed =>
    obtain ⟨rfl, _⟩ := h
    rfl

theorem subscribed_step {l : Label} (hm : Measures w) (hw : Subscribed w) (hok : subscribes w l)
    (h : w.step base l = some w') : Subscribed w' := by
  constructor
  · refine linked_step hm.issued (afresh_of_held hw.held) hw.linked ?_ h
    rintro reply rfl
    exact truthful_of_answersTruly hok.2
  · by_cases hl : ∃ reply, l = .task reply
    · obtain ⟨reply, rfl⟩ := hl
      exact held_taskStep hm.placed hm.counted hw.held hok.1.2.1 hok.2 h
    · exact held_of_samePlace hw.held (samePlace_of_step (fun reply hr => hl ⟨reply, hr⟩) h)

theorem subscribed_initial (h : Initial w) : Subscribed w where
  linked :=
    { observers := by simp [h.observers, h.guidState]
      updates := by simp [h.updates, h.guidAcquired]
      subscribers := by simp [h.subscribers, h.guidState, h.guidAcquired]
      freshState := fun g hg => by simp [h.guidState] at hg
      freshAcquired := fun g hg => by simp [h.guidAcquired] at hg
      distinct := fun g hg => by simp [h.guidState] at hg }
  held := by
    unfold Held
    rw [h.pc]
    exact ⟨h.guidState, h.guidAcquired⟩

end World

end PeakAnalyser

import PeakAnalyser.Library.InTransit
import PeakAnalyser.Subscriptions

/-!
# State notifications and the stop event

The server notifies each change of state once. A notification that will signal
`stopEventId` is live; there is none but that of the exposure the task waits for, so
that the task leaves its wait only after that exposure has ended.
-/

namespace PeakAnalyser

set_option autoImplicit false

open Runs InTransit

/-- The calls that change the state of the server or run an exposure. -/
def Call.acts : Call → Bool
  | .startMeasurement | .acquisitionAsync _ | .finishMeasurement => true
  | _ => false

namespace Server

variable {v v' : Server}

theorem exec_quiet (v : Server) {call : Call} (h : call.acts = false) :
    (v.exec call).state = v.state ∧ ((v.exec call).exposure = none ↔ v.exposure = none) := by
  cases call
  case startMeasurement | acquisitionAsync | finishMeasurement => cases h
  case cancelAcquisition => simp [exec]
  all_goals exact ⟨rfl, Iff.rfl⟩

/-- The notifications on their way to `guid` that signal the stop event. -/
def live (v : Server) (guid : Option Nat) : Nat :=
  v.pending.countP fun p => guid = some p.1 && p.2.endsExposure

/-- Guids are handed out in order. -/
def Fresh (v : Server) : Prop := ∀ p ∈ v.pending, p.1 < v.nextId

@[simp] theorem live_none (v : Server) : v.live none = 0 := by simp [live]

theorem live_nextId (h : v.Fresh) : v.live (some v.nextId) = 0 := by
  unfold live
  rw [List.countP_eq_zero]
  intro p hp
  have hlt := h p hp
  simp only [Option.some.injEq, Bool.and_eq_true, decide_eq_true_eq, not_and]
  omega

theorem live_enter_quiet (state : AnalyserState) (guid : Option Nat)
    (h : state.endsExposure = false) : (v.enter state).live guid = v.live guid := by
  simp [live, List.countP_append, List.countP_map, Function.comp_def, h]

theorem live_enter_ending (state : AnalyserState) {guid : Option Nat}
    (hobservers : v.observers = guid.toList) :
    (v.enter state).live guid ≤ v.live guid + 1 := by
  unfold live
  rw [enter_pending, List.countP_append, hobservers]
  have hle := List.countP_le_length (p := fun p : Nat × AnalyserState =>
    guid = some p.1 && p.2.endsExposure) (l := guid.toList.map fun g => (g, state))
  have hlength : (guid.toList.map fun g => (g, state)).length ≤ 1 := by cases guid <;> simp
  omega

theorem live_exec {call : Call} (guid : Option Nat) (h : call ≠ .startMeasurement) :
    (v.exec call).live guid = v.live guid := by
  cases call
  case startMeasurement => exact absurd rfl h
  case acquisitionAsync =>
    simp only [exec]
    split
    · exact live_enter_quiet .acquiring guid rfl
    · rfl
  case finishMeasurement =>
    simp only [exec]
    split
    · exact live_enter_quiet .active guid rfl
    · rfl
  all_goals rfl

theorem fresh_enter (state : AnalyserState) (h : v.Fresh)
    (hobservers : ∀ g ∈ v.observers, g < v.nextId) : (v.enter state).Fresh := by
  intro p hp
  rw [enter_pending, List.mem_append] at hp
  obtain hp | hp := hp
  · exact h p hp
  · obtain ⟨g, hg, rfl⟩ := List.mem_map.mp hp
    exact hobservers g hg

theorem fresh_exec (call : Call) (h : v.Fresh) (hobservers : ∀ g ∈ v.observers, g < v.nextId) :
    (v.exec call).Fresh := by
  cases call
  case startMeasurement | acquisitionAsync | finishMeasurement =>
    simp only [exec]
    split
    · exact fresh_enter _ h hobservers
    · exact h
  case defineSpectrum | subscribeToState | subscribeToObservable =>
    exact fun p hp => (h p hp).trans (Nat.lt_succ_self _)
  all_goals exact h

theorem exposure_exec {call : Call} (h : ∀ id, call ≠ .acquisitionAsync id) :
    (v.exec call).exposure = none ↔ v.exposure = none := by
  cases call
  case acquisitionAsync id => exact absurd rfl (h id)
  case startMeasurement | finishMeasurement =>
    simp only [exec]
    split <;> rfl
  case cancelAcquisition => simp [exec]
  all_goals rfl

end Server

namespace World

variable {w w' : World} {base : ADDriver}

/-- No exposure is running and nothing is about to signal the stop event. -/
structure Silent (w : World) : Prop where
  stopEvent : w.stopEvent = false
  exposure : w.server.exposure = none
  live : w.server.live w.task.guidState = 0

/-- While the task waits for an exposure: at most one signal, and none before its end. -/
structure Awaits (w : World) : Prop where
  one : w.server.live w.task.guidState + w.stopEvent.toNat ≤ 1
  ended : w.server.exposure ≠ none → w.server.live w.task.guidState + w.stopEvent.toNat = 0

/-- The notifications on their way, by the place of the task. -/
structure Notified (w : World) : Prop where
  fresh : w.server.Fresh
  waiting : w.pc = .waitStop → Awaits w
  silent : w.pc ≠ .waitStop → Silent w

theorem Silent.of_eq (h : Silent w) (hserver : w'.server = w.server)
    (hstop : w'.stopEvent = w.stopEvent) (hguid : w'.task.guidState = w.task.guidState) :
    Silent w' :=
  ⟨hstop.trans h.stopEvent, by rw [hserver, h.exposure], by rw [hserver, hguid, h.live]⟩

theorem Notified.of_silent (hfresh : w.server.Fresh) (h : Silent w) : Notified w where
  fresh := hfresh
  waiting _ := ⟨by simp [h.live, h.stopEvent], fun hne => absurd h.exposure hne⟩
  silent _ := h

theorem observers_lt (hw : Linked w) : ∀ g ∈ w.server.observers, g < w.server.nextId := by
  intro g hg
  rw [hw.observers] at hg
  exact hw.freshState g (by simpa using hg)

theorem mem_subscribers (hw : Linked w) {g : Nat} :
    (g, Callback.stateChanged) ∈ w.subscribers ↔ w.task.guidState = some g := by
  rw [hw.subscribers]
  simp

theorem Locked.silent (hw : Silent w) (h : Locked w w') : Silent w' :=
  hw.of_eq h.server h.stopEvent h.guidState

theorem guidState_returnedAt {site : Site} (answer : Server) (h : site ≠ .subscribeToState) :
    (w.returnedAt site answer).task.guidState = w.task.guidState ∨
      (w.returnedAt site answer).task.guidState = none := by
  cases hsite : site.subscribes with
  | false => exact Or.inl (sameLinks_returnedAt answer hsite).guidState
  | true =>
    cases site
    case subscribeToState => exact absurd rfl h
    case subscribeToObservable | unsubscribeAcquired | cleanupUnsubscribeAcquired =>
      exact Or.inl rfl
    case unsubscribeState => exact Or.inr rfl
    case cleanupUnsubscribeState => exact Or.inr (sameLinks_cleanupAcquired _).guidState
    all_goals cases hsite

theorem acquisitionAsync_of_issued {site : Site} {call : Call} (hissued : Issued w)
    (hpc : w.pc = .inCall site call) (hsite : site ≠ .start) (id : Option Nat) :
    call ≠ .acquisitionAsync id := by
  rintro rfl
  obtain hcall | ⟨d, _, hcall⟩ := hissued _ _ hpc
  · obtain rfl | rfl := site_of_starts hcall rfl
    · cases hcall
    · exact hsite rfl
  · cases hcall

theorem silent_returned {site : Site} {call : Call} (hw : Notified w) (hissued : Issued w)
    (hpc : w.pc = .inCall site call) (hsite : site ≠ .start)
    (hfree : site = .startMeasurement → w.task.guidState = none) :
    Silent (w.answered site call .ok) := by
  have hsilent := hw.silent (by simp [hpc])
  have hsame := answered_taskOnly w site call .ok
  have hexec : (Reply.ok.event call).carriedOut call = true := by
    simp [Reply.event, Event.carriedOut]
  have hserver : (w.answered site call .ok).server = w.server.exec call := by
    rw [hsame.server]
    simp [hexec]
  refine ⟨hsame.stopEvent.trans hsilent.stopEvent, ?_, ?_⟩
  · rw [hserver]
    exact (Server.exposure_exec (acquisitionAsync_of_issued hissued hpc hsite)).mpr hsilent.exposure
  rw [hserver]
  by_cases hsubscribe : site = .subscribeToState
  · -- The new guid is in no notification yet.
    subst hsubscribe
    obtain rfl := Option.some.inj (call_of_issued hissued hpc (by simp))
    exact Server.live_nextId hw.fresh
  · have hguid : (w.answered site call .ok).task.guidState = w.task.guidState ∨
        (w.answered site call .ok).task.guidState = none :=
      guidState_returnedAt (w := _) w.server hsubscribe
    obtain hguid | hguid := hguid
    · rw [hguid]
      by_cases hstart : call = .startMeasurement
      · subst hstart
        rw [hfree (site_of_startMeasurement hissued hpc)]
        exact Server.live_none _
      · rw [Server.live_exec _ hstart]
        exact hsilent.live
    · rw [hguid]
      exact Server.live_none _

theorem notified_answered {site : Site} {call : Call} {reply : Reply} (hw : Notified w)
    (hlinked : Linked w) (hissued : Issued w) (hpc : w.pc = .inCall site call)
    (hfree : site = .startMeasurement → w.task.guidState = none) (htrue : reply.truthful = true) :
    Notified (w.answered site call reply) := by
  have hsilent := hw.silent (by simp [hpc])
  have hsame := answered_taskOnly w site call reply
  cases reply with
  | raised what executed =>
    cases executed with
    | true => cases htrue
    | false =>
      have hserver : (w.answered site call (.raised what false)).server = w.server := by
        rw [hsame.server]
        simp [Reply.event, Event.carriedOut]
      refine .of_silent (by rw [hserver]; exact hw.fresh) ?_
      exact hsilent.of_eq hserver hsame.stopEvent (sameLinks_raised w site call what).guidState
  | ok =>
    have hserver : (w.answered site call .ok).server = w.server.exec call := by
      rw [hsame.server]
      simp [Reply.event, Event.carriedOut]
    have hfresh : (w.answered site call .ok).server.Fresh := by
      rw [hserver]
      exact Server.fresh_exec call hw.fresh (observers_lt hlinked)
    by_cases hsite : site = .start
    · subst hsite
      obtain rfl := Option.some.inj (call_of_issued hissued hpc (by simp))
      have hlive : (w.answered .start (.acquisitionAsync w.task.spectrumId) .ok).server.live
          w.task.guidState = 0 := by
        rw [hserver, Server.live_exec _ (by simp)]
        exact hsilent.live
      have hstop := hsame.stopEvent.trans hsilent.stopEvent
      have hnone : (w.answered .start (.acquisitionAsync w.task.spectrumId) .ok).server.live
          w.task.guidState + (w.answered .start (.acquisitionAsync w.task.spectrumId)
            .ok).stopEvent.toNat = 0 := by
        rw [hlive, hstop]
        rfl
      exact ⟨hfresh, fun _ => ⟨hnone.trans_le (Nat.zero_le 1), fun _ => hnone⟩,
        fun hne => absurd rfl hne⟩
    · exact .of_silent hfresh (silent_returned hw hissued hpc hsite hfree)

theorem notified_taskStep {reply : Reply} (hissued : Issued w) (hlinked : Linked w)
    (hw : Notified w)
    (hfree : ∀ call, w.pc = .inCall .startMeasurement call → w.task.guidState = none)
    (htrue : reply.truthful = true) (h : w.taskStep reply = some w') : Notified w' := by
  have hstep := taskStep_cases h
  by_cases hwait : w.pc = .waitStop
  · -- The event is consumed: its exposure has ended, and no other signal is on its way.
    simp only [hwait] at hstep
    obtain ⟨hevent, rfl⟩ := hstep
    obtain ⟨hone, hended⟩ := hw.waiting hwait
    rw [hevent] at hone hended
    have hlive : w.server.live w.task.guidState = 0 := by
      simp only [Bool.toNat_true] at hone
      omega
    have hexposure : w.server.exposure = none := by
      by_contra hne
      have hzero := hended hne
      simp only [Bool.toNat_true] at hzero
      omega
    exact .of_silent hw.fresh ⟨rfl, hexposure, hlive⟩
  have hsilent := hw.silent hwait
  have hfresh := hw.fresh
  cases hpc : w.pc <;> simp only [hpc] at hstep
  case entry =>
    obtain ⟨_, rfl⟩ := hstep
    have hlocked := (loopHead_head w).toLocked
    exact .of_silent (by rw [hlocked.server]; exact hfresh) (hlocked.silent hsilent)
  case woken =>
    obtain ⟨_, rfl⟩ := hstep
    have hlocked := (weAreAcquiring_locked w).trans (startImage_head _).toLocked
    exact .of_silent (by rw [hlocked.server]; exact hfresh) (hlocked.silent hsilent)
  case call site =>
    obtain ⟨call, _, rfl⟩ | ⟨hcall, rfl⟩ := hstep
    · exact .of_silent hfresh (hsilent.of_eq rfl rfl rfl)
    · have hsame := returnedAt_taskOnly w site w.server
      refine .of_silent (by rw [hsame.server]; exact hfresh) ?_
      obtain hguid | hguid := guidState_returnedAt (w := w) w.server
        (fun hsite : site = .subscribeToState => by subst hsite; cases hcall)
      · exact hsilent.of_eq hsame.server hsame.stopEvent hguid
      · exact ⟨hsame.stopEvent.trans hsilent.stopEvent, by rw [hsame.server, hsilent.exposure],
          by rw [hguid, Server.live_none]⟩
  case inCall site call =>
    subst hstep
    refine notified_answered hw hlinked hissued hpc ?_ htrue
    rintro rfl
    exact hfree call hpc
  case exposureDone =>
    obtain ⟨_, rfl⟩ := hstep
    unfold exposureFinished
    dsimp only
    split <;> exact .of_silent hfresh (hsilent.of_eq rfl rfl rfl)
  case leaveTry =>
    obtain ⟨_, rfl⟩ := hstep
    have hlocked := afterTry_locked w
    exact .of_silent (by rw [hlocked.server]; exact hfresh) (hlocked.silent hsilent)
  case callbacks =>
    obtain ⟨_, rfl⟩ := hstep
    have hlocked := completed_loopHead_locked w
    exact .of_silent (by rw [hlocked.server]; exact hfresh) (hlocked.silent hsilent)
  case waitStart =>
    obtain ⟨_, rfl⟩ := hstep
    exact .of_silent hfresh (hsilent.of_eq rfl rfl rfl)
  case waitStop => exact absurd hpc hwait
  case exposureLoop | clearSteps =>
    subst hstep
    exact .of_silent hfresh (hsilent.of_eq rfl rfl rfl)
  case tryWait =>
    subst hstep
    exact .of_silent hfresh ⟨rfl, hsilent.exposure, hsilent.live⟩

/-- The server's notifications that will signal the stop event, and the event itself. -/
def signals (w : World) : Nat := w.server.live w.task.guidState + w.stopEvent.toNat

/-- The server keeps its state, no exposure begins or ends, and no signal is added. -/
structure Quiet (w w' : World) : Prop where
  fresh : w'.server.Fresh
  state : w'.server.state = w.server.state
  exposure : w'.server.exposure = none ↔ w.server.exposure = none
  accumulated : w'.server.accumulated = w.server.accumulated
  signals : w'.signals ≤ w.signals

theorem Quiet.of_eq (hfresh : w.server.Fresh) (hserver : w'.server = w.server)
    (hguid : w'.task.guidState = w.task.guidState) (hstop : w'.stopEvent = w.stopEvent) :
    Quiet w w' := by
  refine ⟨by rw [hserver]; exact hfresh, by rw [hserver], by rw [hserver], by rw [hserver], ?_⟩
  unfold World.signals
  rw [hserver, hguid, hstop]

theorem Notified.of_quiet (hw : Notified w) (hpc : w'.pc = w.pc) (h : Quiet w w') :
    Notified w' where
  fresh := h.fresh
  waiting hwait := by
    obtain ⟨hone, hended⟩ := hw.waiting (hpc.symm.trans hwait)
    refine ⟨h.signals.trans hone, fun hne => ?_⟩
    have hzero := hended (fun hnone => hne (h.exposure.mpr hnone))
    have hle := h.signals
    unfold World.signals at hle
    omega
  silent hwait := by
    obtain ⟨hstop, hnone, hlive⟩ := hw.silent (by rwa [← hpc])
    have hle := h.signals
    unfold World.signals at hle
    rw [hlive, hstop] at hle
    simp only [Bool.toNat_false, Nat.add_zero, Nat.le_zero] at hle
    refine ⟨?_, h.exposure.mpr hnone, by omega⟩
    cases hstop' : w'.stopEvent with
    | false => rfl
    | true =>
      rw [hstop'] at hle
      simp at hle

theorem quiet_deliver {index : Nat} (hlinked : Linked w) (hfresh : w.server.Fresh)
    (h : w.deliver index false = some w') : Quiet w w' := by
  unfold deliver at h
  split at h
  · rename_i guid state hat
    obtain rfl := Option.some.inj h
    have hfresh : ∀ p ∈ w.server.pending.eraseIdx index, p.1 < w.server.nextId :=
      fun p hp => hfresh p (List.mem_of_mem_eraseIdx hp)
    have hcount : ({ w.server with pending := w.server.pending.eraseIdx index } : Server).live
        w.task.guidState + (w.task.guidState = some guid && state.endsExposure : Bool).toNat =
          w.server.live w.task.guidState := countP_eraseIdx_add _ hat
    simp only [Bool.false_eq_true, if_false]
    unfold stateCallback
    split
    · rename_i hsignal
      obtain ⟨hmem, hends⟩ := hsignal
      have hguid : w.task.guidState = some guid := (mem_subscribers hlinked).mp hmem
      have hlive : (w.task.guidState = some guid && state.endsExposure : Bool) = true := by
        simp [hguid, hends]
      rw [hlive] at hcount
      refine ⟨hfresh, rfl, Iff.rfl, rfl, ?_⟩
      change ({ w.server with pending := w.server.pending.eraseIdx index } : Server).live
        w.task.guidState + true.toNat ≤ w.server.live w.task.guidState + w.stopEvent.toNat
      simp only [Bool.toNat_true] at hcount ⊢
      omega
    · refine ⟨hfresh, rfl, Iff.rfl, rfl, ?_⟩
      change ({ w.server with pending := w.server.pending.eraseIdx index } : Server).live
        w.task.guidState + w.stopEvent.toNat ≤ w.server.live w.task.guidState + w.stopEvent.toNat
      omega
  · cases h

/-- Off the task, only the end of an exposure adds a signal. -/
theorem quiet_of_step {l : Label} (hl : ∀ reply, l ≠ .task reply) (halone : l.alone = true)
    (hend : ∀ how, l ≠ .exposureEnd how) (hlinked : Linked w) (hfresh : w.server.Fresh)
    (h : w.step base l = some w') : Quiet w w' := by
  cases l with
  | task reply => exact absurd rfl (hl reply)
  | exposureEnd how => exact absurd rfl (hend how)
  | write f v reply =>
    obtain ⟨_, d, action, _, rfl⟩ := step_write h
    obtain ⟨n, htask⟩ := (samePlace_portAction (w := { w with driver := d }) action).task
    exact .of_eq hfresh (portAction_server action) (by rw [htask]) (portAction_stopEvent action)
  | writeFloat f v reply =>
    simp only [step] at h
    split at h
    · obtain ⟨_, _, rfl⟩ := Option.map_eq_some_iff.mp h
      exact .of_eq hfresh rfl rfl rfl
    · cases h
  | port reply =>
    obtain ⟨_, _, rfl⟩ | ⟨c, _, _, rfl⟩ := portStep_cases h
    · exact .of_eq hfresh rfl rfl rfl
    · dsimp only
      split
      · have hquiet : c.call.acts = false := by cases c <;> rfl
        obtain ⟨hstate, hexposure⟩ := w.server.exec_quiet hquiet
        refine ⟨Server.fresh_exec _ hfresh (observers_lt hlinked), hstate, hexposure, ?_, ?_⟩
        · cases c <;> rfl
        · have hlive : (w.server.exec c.call).live w.task.guidState =
              w.server.live w.task.guidState :=
            Server.live_exec _ (by cases c <;> simp [PortCall.call])
          change (w.server.exec c.call).live w.task.guidState + w.stopEvent.toNat ≤
            w.server.live w.task.guidState + w.stopEvent.toNat
          omega
      · exact .of_eq hfresh rfl rfl rfl
  | notify index keep =>
    obtain rfl : keep = false := by simpa [Label.alone] using halone
    exact quiet_deliver hlinked hfresh h
  | spectrumUpdate settings =>
    simp only [step] at h
    split at h
    · obtain rfl := Option.some.inj h
      exact .of_eq hfresh rfl rfl rfl
    · cases h
  | otherClient state keepsOwn => cases halone

/-- An exposure ends while the task waits for it. -/
theorem notified_endExposure {how : Ending} {v : Server} (hlinked : Linked w) (hw : Notified w)
    (h : w.server.endExposure how = some v) :
    w.pc = .waitStop ∧ Notified { w with server := v } := by
  unfold Server.endExposure at h
  split at h
  · rename_i cancelled hexposure
    split at h
    · cases h
    · obtain rfl := Option.some.inj h
      have hrunning : w.server.exposure ≠ none := by simp [hexposure]
      have hwait : w.pc = .waitStop := by
        by_contra hne
        exact hrunning (hw.silent hne).exposure
      refine ⟨hwait, Server.fresh_enter how.state hw.fresh (observers_lt hlinked),
        fun _ => ⟨?_, ?_⟩, ?_⟩
      · have hzero := (hw.waiting hwait).ended hrunning
        have hle := Server.live_enter_ending how.state hlinked.observers
        change (w.server.enter how.state).live w.task.guidState + w.stopEvent.toNat ≤ 1
        omega
      · intro hne
        exact absurd rfl hne
      · intro hne
        exact absurd hwait hne
  · cases h

theorem notified_of_step {l : Label} (hl : ∀ reply, l ≠ .task reply) (halone : l.alone = true)
    (hlinked : Linked w) (hw : Notified w) (h : w.step base l = some w') : Notified w' := by
  by_cases hend : ∃ how, l = .exposureEnd how
  · obtain ⟨how, rfl⟩ := hend
    obtain ⟨v, hv, rfl⟩ := Option.map_eq_some_iff.mp h
    exact (notified_endExposure hlinked hw hv).2
  · exact hw.of_quiet (samePlace_of_step hl h).pc
      (quiet_of_step hl halone (fun how hr => hend ⟨how, hr⟩) hlinked hw.fresh h)

theorem notified_initial (h : Initial w) : Notified w := by
  refine .of_silent ?_ ⟨h.stopEvent, h.exposure, by rw [h.guidState, Server.live_none]⟩
  intro p hp
  simp [h.pending] at hp

end World

end PeakAnalyser

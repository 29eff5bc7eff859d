import PeakAnalyser.AcquisitionEnd
import PeakAnalyser.Ownership
import PeakAnalyser.StaleNotifications

/-!
# No wake-up is lost

The task waits for `stopEventId` without a timeout. While it waits, an exposure runs, or the
notification of its end is on its way to the callback of the task, or the event is signalled:
exactly one of the three, also if calls fail, exposures fail and a client stops and restarts the
acquisition at any moment.
-/

namespace PeakAnalyser

set_option autoImplicit false

open Runs

/-- The sites between the first subscription and the decision to finish. -/
def Site.exposes : Site → Bool
  | .subscribeToObservable | .clearSpectrum | .start | .getMeasuredSpectrum => true
  | _ => false

/-- The task awaits the answer to `AcquisitionAsync`. -/
def Pc.startsExposure : Pc → Bool
  | .inCall .start _ => true
  | _ => false

/-- The sites that come right after `StartMeasurement`. -/
def Site.follows : Site → Bool
  | .setupSpectrum | .subscribeToState | .subscribeToObservable => true
  | _ => false

namespace Server

variable {v : Server}

theorem exec_active {call : Call} (hstart : call ≠ .startMeasurement)
    (hfinish : call ≠ .finishMeasurement) (h : (v.exec call).state = .active) :
    v.state = .active := by
  cases call
  case startMeasurement => exact absurd rfl hstart
  case finishMeasurement => exact absurd rfl hfinish
  case acquisitionAsync =>
    simp only [exec] at h
    split at h
    · cases h
    · exact h
  all_goals exact h

theorem exec_measuring {call : Call} (hstart : call ≠ .startMeasurement)
    (h : (v.exec call).state = .measuring) : v.state = .measuring := by
  cases call
  case startMeasurement => exact absurd rfl hstart
  case acquisitionAsync | finishMeasurement =>
    simp only [exec] at h
    split at h
    · cases h
    · exact h
  all_goals exact h

/-- `StartMeasurement` leaves no server Active. -/
theorem startMeasurement_state (v : Server) : (v.exec .startMeasurement).state ≠ .active := by
  simp only [exec]
  split
  · simp
  · assumption

/-- `FinishMeasurement` leaves no server Measuring. -/
theorem finishMeasurement_state (v : Server) : (v.exec .finishMeasurement).state ≠ .measuring := by
  simp only [exec]
  split
  · simp
  · assumption

end Server

namespace World

variable {w w' : World} {base : ADDriver}

/-- Where the task relies on its subscription to the state. -/
def Exposes (w : World) : Prop :=
  match w.pc with
  | .call site | .inCall site _ => site.exposes = true
  | .exposureLoop | .clearSteps | .tryWait | .waitStop | .exposureDone => True
  | .leaveTry | .callbacks => w.task.failed = false
  | _ => False

/-- The guids that the place of the task has given back; the test of line 427 stands between a
guid that a failed clean-up left behind and the next subscription. -/
def Released (w : World) : Prop :=
  match w.pc with
  | .call site | .inCall site _ =>
    site ≠ .currentState → (site.stateReleased = true → w.task.guidState = none) ∧
      (site.acquiredReleased = true → w.task.guidAcquired = none)
  | _ => True

/-- A measurement is open. -/
def Follows (w : World) : Prop :=
  match w.pc with
  | .call site | .inCall site _ => site.follows = true → w.server.state ≠ .active
  | _ => True

/-- An Active analyser keeps no subscription of the task, and one in state Measuring has the
subscription that the place of the task relies on. -/
structure Tended (w : World) : Prop where
  active : w.server.state = .active → w.task.guidState = none ∧ w.task.guidAcquired = none
  released : Released w
  follows : Follows w
  measuring : Exposes w → w.server.state = .measuring → w.task.guidState ≠ none

theorem tended_of_place (hplace : Released w ∧ Follows w) (hexposes : ¬ Exposes w)
    (hactive : w.server.state = .active → w.task.guidState = none ∧ w.task.guidAcquired = none) :
    Tended w :=
  ⟨hactive, hplace.1, hplace.2, fun h => absurd h hexposes⟩

/-! ### The answers to the calls of the task -/

theorem tended_cleanupAcquired (hstate : w.task.guidState = none)
    (hactive : w.server.state = .active → w.task.guidState = none ∧ w.task.guidAcquired = none) :
    Tended w.cleanupAcquired := by
  unfold cleanupAcquired
  split
  · exact tended_of_place ⟨fun _ => ⟨fun _ => hstate, by simp [Site.acquiredReleased]⟩,
      by simp [Follows, Site.follows]⟩ (by simp [Exposes, Site.exposes]) hactive
  · rename_i hacquired
    have hnone : w.task.guidAcquired = none := by simpa using hacquired
    exact tended_of_place ⟨fun _ => ⟨fun _ => hstate, fun _ => hnone⟩,
      by simp [Follows, Site.follows]⟩ (by simp [Exposes, Site.exposes]) hactive

theorem tended_caught (what : String)
    (hactive : w.server.state = .active → w.task.guidState = none ∧ w.task.guidAcquired = none) :
    Tended (w.caught what) := by
  unfold caught
  dsimp only
  split
  · refine tended_of_place ⟨fun _ => ⟨?_, ?_⟩, by simp [Follows, Site.follows]⟩
      (by simp [Exposes, Site.exposes]) hactive
    · simp [Site.stateReleased]
    · simp [Site.acquiredReleased]
  · rename_i hstate
    exact tended_cleanupAcquired (by simpa using hstate) hactive

theorem tended_leaveTry (hpc : w.pc = .leaveTry) (hfailed : w.task.failed = true)
    (hactive : w.server.state = .active → w.task.guidState = none ∧ w.task.guidAcquired = none) :
    Tended w := by
  refine tended_of_place ?_ ?_ hactive
  · simp [Released, Follows, hpc]
  · simp [Exposes, hpc, hfailed]

theorem tended_measured (spectrum : List Ending)
    (hactive : w.server.state = .active → w.task.guidState = none ∧ w.task.guidAcquired = none)
    (hmeasuring : w.server.state = .measuring → w.task.guidState ≠ none) :
    Tended (w.measured spectrum) := by
  have hplace : (w.measured spectrum).pc = .call .unsubscribeState ∨
      (w.measured spectrum).pc = .leaveTry := by
    unfold measured
    dsimp only
    split <;> split <;> simp
  have hguids : (w.measured spectrum).task.guidState = w.task.guidState ∧
      (w.measured spectrum).task.guidAcquired = w.task.guidAcquired := by
    unfold measured
    dsimp only
    split <;> exact ⟨rfl, rfl⟩
  have hserver : (w.measured spectrum).server = w.server := rfl
  constructor
  · rw [hserver, hguids.1, hguids.2]
    exact hactive
  · rcases hplace with hpc | hpc <;>
      simp [Released, hpc, Site.stateReleased, Site.acquiredReleased]
  · rcases hplace with hpc | hpc <;> simp [Follows, hpc, Site.follows]
  · intro _
    rw [hserver, hguids.1]
    exact hmeasuring

/-- What is known of the guids and the state right after the server has answered a call. -/
structure Attends (site : Site) (w : World) : Prop where
  failed : w.task.failed = site.inCleanup
  active : w.server.state = .active → w.task.guidState = none ∧ w.task.guidAcquired = none
  released : site ≠ .currentState → (site.stateReleased = true → w.task.guidState = none) ∧
    (site.acquiredReleased = true → w.task.guidAcquired = none)
  follows : site = .startMeasurement ∨ site.follows = true → w.server.state ≠ .active
  measuring : site.exposes = true → w.server.state = .measuring → w.task.guidState ≠ none
  finished : site = .finishMeasurement → w.server.state ≠ .measuring

theorem tended_returnedAt {site : Site} {answer : Server} (hw : Attends site w)
    (hanswer : site = .currentState → answer.state = w.server.state) :
    Tended (w.returnedAt site answer) := by
  have hactive := hw.active
  cases site
  case currentState =>
    unfold returnedAt
    dsimp only
    split
    · rename_i hstate
      have hnone := hactive ((hanswer rfl).symm.trans hstate)
      exact tended_of_place ⟨fun _ => ⟨fun _ => hnone.1, fun _ => hnone.2⟩,
        by simp [Follows, Site.follows]⟩ (by simp [Exposes, Site.exposes]) hactive
    · exact tended_caught _ hactive
  case defineSpectrum =>
    exact tended_of_place ⟨fun _ => hw.released (by simp), by simp [Follows, returnedAt, Site.follows]⟩
      (by simp [Exposes, returnedAt, Site.exposes]) hactive
  case startMeasurement =>
    exact tended_of_place ⟨fun _ => hw.released (by simp), fun _ => hw.follows (.inl rfl)⟩
      (by simp [Exposes, returnedAt, Site.exposes]) hactive
  case setupSpectrum =>
    exact tended_of_place ⟨fun _ => hw.released (by simp), fun _ => hw.follows (.inr rfl)⟩
      (by simp [Exposes, returnedAt, Site.exposes]) hactive
  case subscribeToState =>
    have hstate : w.server.state ≠ .active := hw.follows (.inr rfl)
    refine ⟨fun h => absurd h hstate, fun _ => ⟨?_, ?_⟩, fun _ => hstate, fun _ _ => ?_⟩
    · simp [Site.stateReleased]
    · exact fun _ => (hw.released (by simp)).2 rfl
    · simp [returnedAt]
  case subscribeToObservable =>
    have hstate : w.server.state ≠ .active := hw.follows (.inr rfl)
    refine ⟨fun h => absurd h hstate, fun _ => ⟨?_, ?_⟩, ?_, fun _ => hw.measuring rfl⟩
    · simp [Site.stateReleased]
    · simp [Site.acquiredReleased]
    · simp [Follows, returnedAt, Site.follows]
  case clearSpectrum | start =>
    exact ⟨hactive, trivial, trivial, fun _ => hw.measuring rfl⟩
  case getMeasuredSpectrum => exact tended_measured _ hactive (hw.measuring rfl)
  case unsubscribeState =>
    refine tended_of_place ⟨fun _ => ⟨fun _ => rfl, ?_⟩, by simp [Follows, returnedAt, Site.follows]⟩
      (by simp [Exposes, returnedAt, Site.exposes]) (fun h => ⟨rfl, (hactive h).2⟩)
    simp [Site.acquiredReleased]
  case unsubscribeAcquired =>
    have hstate := (hw.released (by simp)).1 rfl
    exact tended_of_place ⟨fun _ => ⟨fun _ => hstate, fun _ => rfl⟩,
      by simp [Follows, returnedAt, Site.follows]⟩ (by simp [Exposes, returnedAt, Site.exposes])
      (fun _ => ⟨hstate, rfl⟩)
  case finishSpectrum =>
    exact tended_of_place ⟨fun _ => hw.released (by simp), by simp [Follows, returnedAt, Site.follows]⟩
      (by simp [Exposes, returnedAt, Site.exposes]) hactive
  case finishMeasurement =>
    exact ⟨hactive, trivial, trivial, fun _ h => absurd h (hw.finished rfl)⟩
  case cleanupUnsubscribeState =>
    exact tended_cleanupAcquired rfl fun h => ⟨rfl, (hactive h).2⟩
  case cleanupUnsubscribeAcquired =>
    have hstate := (hw.released (by simp)).1 rfl
    exact tended_of_place ⟨fun _ => ⟨fun _ => hstate, fun _ => rfl⟩,
      by simp [Follows, returnedAt, Site.follows]⟩ (by simp [Exposes, returnedAt, Site.exposes])
      (fun _ => ⟨hstate, rfl⟩)
  case cleanupCurrentState =>
    have hnone := hw.released (by simp)
    unfold returnedAt
    dsimp only
    split
    · split
      · exact tended_of_place ⟨fun _ => hnone, by simp [Follows, Site.follows]⟩
          (by simp [Exposes, Site.exposes]) hactive
      · exact tended_of_place ⟨fun _ => hnone, by simp [Follows, Site.follows]⟩
          (by simp [Exposes, Site.exposes]) hactive
    · exact tended_leaveTry rfl hw.failed hactive
  case cleanupFinishSpectrum =>
    exact tended_of_place ⟨fun _ => hw.released (by simp), by simp [Follows, returnedAt, Site.follows]⟩
      (by simp [Exposes, returnedAt, Site.exposes]) hactive
  case cleanupFinishMeasurement => exact tended_leaveTry rfl hw.failed hactive

theorem attends_returned {site : Site} {call : Call} (hissued : Issued w) (hplaced : Placed w)
    (hw : Tended w) (hpc : w.pc = .inCall site call) :
    Attends site { w with server := w.server.exec call, log := .returned call :: w.log } := by
  obtain ⟨hactive, hreleased, hfollows, hmeasuring⟩ := hw
  unfold Placed at hplaced
  unfold Released at hreleased
  unfold Follows at hfollows
  unfold Exposes at hmeasuring
  simp only [hpc] at hplaced hreleased hfollows hmeasuring
  refine ⟨hplaced.1, ?_, hreleased, ?_, ?_, ?_⟩
  · intro hstate
    by_cases hstart : call = .startMeasurement
    · subst hstart
      exact absurd hstate (Server.startMeasurement_state _)
    by_cases hfinish : call = .finishMeasurement
    · subst hfinish
      obtain rfl | rfl := site_of_finishMeasurement hissued hpc
      · exact ⟨(hreleased (by simp)).1 rfl, (hreleased (by simp)).2 rfl⟩
      · exact ⟨(hreleased (by simp)).1 rfl, (hreleased (by simp)).2 rfl⟩
    · exact hactive (Server.exec_active hstart hfinish hstate)
  · rintro (rfl | hsite)
    · obtain rfl := Option.some.inj (call_of_issued hissued hpc (by simp))
      exact Server.startMeasurement_state _
    · intro hstate
      refine hfollows hsite (Server.exec_active ?_ ?_ hstate)
      · rintro rfl
        obtain rfl := site_of_startMeasurement hissued hpc
        cases hsite
      · rintro rfl
        obtain rfl | rfl := site_of_finishMeasurement hissued hpc <;> cases hsite
  · intro hsite hstate
    refine hmeasuring hsite (Server.exec_measuring ?_ hstate)
    rintro rfl
    obtain rfl := site_of_startMeasurement hissued hpc
    cases hsite
  · rintro rfl
    obtain rfl := Option.some.inj (call_of_issued hissued hpc (by simp))
    exact Server.finishMeasurement_state _

/-- A guid that the client does not know any more is given back without a call. -/
theorem attends_no_call {site : Site} (hplaced : Placed w) (hw : Tended w)
    (hpc : w.pc = .call site) (hcall : w.callAt site = none) : Attends site w := by
  obtain ⟨hactive, hreleased, hfollows, hmeasuring⟩ := hw
  unfold Placed at hplaced
  unfold Released at hreleased
  unfold Follows at hfollows
  unfold Exposes at hmeasuring
  simp only [hpc] at hplaced hreleased hfollows hmeasuring
  refine ⟨hplaced.1, hactive, hreleased, ?_, hmeasuring, ?_⟩
  · rintro (rfl | hsite)
    · cases hcall
    · exact hfollows hsite
  · rintro rfl
    cases hcall

theorem tended_answered {site : Site} {call : Call} {reply : Reply} (hissued : Issued w)
    (hplaced : Placed w) (hw : Tended w) (hpc : w.pc = .inCall site call)
    (htrue : reply.truthful = true) : Tended (w.answered site call reply) := by
  cases reply with
  | ok =>
    rw [answered_ok]
    refine tended_returnedAt (attends_returned hissued hplaced hw hpc) ?_
    rintro rfl
    obtain rfl := Option.some.inj (call_of_issued hissued hpc (by simp))
    rfl
  | raised what executed =>
    cases executed with
    | true => cases htrue
    | false =>
      rw [answered_raised]
      unfold Placed at hplaced
      simp only [hpc] at hplaced
      unfold raisedAt
      split
      · rename_i hcleanup
        exact tended_leaveTry rfl (hplaced.1.trans hcleanup) hw.active
      · exact tended_caught what hw.active

/-! ### The other steps of the task -/

/-- Where the locked sections lead: only from inside an acquisition to its next exposure. -/
theorem tended_of_section (hw : Tended w) (h : Locked w w')
    (hpc : w'.pc = .waitStart ∨ w'.pc = .call .currentState ∨
      Exposes w ∧ (w'.pc = .call .clearSpectrum ∨ w'.pc = .callbacks)) : Tended w' := by
  constructor
  · rw [h.server, h.guidState, h.guidAcquired]
    exact hw.active
  · rcases hpc with hpc | hpc | ⟨_, hpc | hpc⟩ <;>
      simp [Released, hpc, Site.stateReleased, Site.acquiredReleased]
  · rcases hpc with hpc | hpc | ⟨_, hpc | hpc⟩ <;> simp [Follows, hpc, Site.follows]
  · intro hexposes
    rw [h.server, h.guidState]
    rcases hpc with hpc | hpc | ⟨hbefore, _⟩
    · simp [Exposes, hpc] at hexposes
    · simp [Exposes, hpc, Site.exposes] at hexposes
    · exact hw.measuring hbefore

theorem loopHead_place (w : World) : w.loopHead.pc = .waitStart ∨
    w.loopHead.pc = .call .currentState ∨ w.loopHead.pc = .call .clearSpectrum := by
  rcases loopHead_cases w with ⟨_, hparks⟩ | ⟨_, hbegins⟩
  · exact .inl hparks.pc
  · rcases hbegins.place with ⟨_, hpc, _⟩ | ⟨_, hpc, _⟩
    · exact .inr (.inl hpc)
    · exact .inr (.inr hpc)

theorem afterTry_place (w : World) : w.afterTry.pc = .waitStart ∨ w.task.failed = false ∧
    (w.afterTry.pc = .waitStart ∨ w.afterTry.pc = .call .currentState ∨
      w.afterTry.pc = .call .clearSpectrum ∨ w.afterTry.pc = .callbacks) := by
  unfold afterTry
  split
  · exact .inl (loopHead_parks (by simp [errored])).pc
  · rename_i hfailed
    refine .inr ⟨by simpa using hfailed, ?_⟩
    split
    · rcases loopHead_place w.aborted with hpc | hpc | hpc <;> simp [hpc]
    · split
      · simp
      · rcases loopHead_place w.published.completed with hpc | hpc | hpc <;> simp [hpc]

theorem startImage_place (h : w.driver.int .adNumImagesCounter = 0) :
    w.loopHead.pc = .waitStart ∨ w.loopHead.pc = .call .currentState := by
  rcases loopHead_cases w with ⟨_, hparks⟩ | ⟨_, hbegins⟩
  · exact .inl hparks.pc
  · rcases hbegins.place with ⟨_, hpc, _⟩ | ⟨hne, _⟩
    · exact .inr hpc
    · refine absurd ?_ hne
      rw [hbegins.numImagesCounter, (loopHead_head w).int _ (by simp), h]

theorem tended_taskStep {reply : Reply} (hissued : Issued w) (hplaced : Placed w) (hw : Tended w)
    (hentry : w.pc = .entry → w.driver.int .adNumImagesCounter = 0)
    (htrue : reply.truthful = true) (h : w.taskStep reply = some w') : Tended w' := by
  have hstep := taskStep_cases h
  cases hpc : w.pc <;> simp only [hpc] at hstep
  case entry =>
    obtain ⟨_, rfl⟩ := hstep
    refine tended_of_section hw (loopHead_head w).toLocked ?_
    rcases startImage_place (hentry hpc) with hnext | hnext
    · exact .inl hnext
    · exact .inr (.inl hnext)
  case woken =>
    obtain ⟨_, rfl⟩ := hstep
    exact tended_of_section hw ((weAreAcquiring_locked w).trans (startImage_head _).toLocked)
      (.inr (.inl (pc_woken w)))
  case call site =>
    obtain ⟨call, _, rfl⟩ | ⟨hcall, rfl⟩ := hstep
    · obtain ⟨hactive, hreleased, hfollows, hmeasuring⟩ := hw
      unfold Released at hreleased
      unfold Follows at hfollows
      unfold Exposes at hmeasuring
      simp only [hpc] at hreleased hfollows hmeasuring
      exact ⟨hactive, hreleased, hfollows, hmeasuring⟩
    · exact tended_returnedAt (attends_no_call hplaced hw hpc hcall) fun _ => rfl
  case inCall site call =>
    subst hstep
    exact tended_answered hissued hplaced hw hpc htrue
  case leaveTry =>
    obtain ⟨_, rfl⟩ := hstep
    refine tended_of_section hw (afterTry_locked w) ?_
    rcases afterTry_place w with hnext | ⟨hfailed, hnext⟩
    · exact .inl hnext
    · have hexposes : Exposes w := by
        unfold Exposes
        rw [hpc]
        exact hfailed
      rcases hnext with hnext | hnext | hnext | hnext <;> simp [hnext, hexposes]
  case callbacks =>
    obtain ⟨_, rfl⟩ := hstep
    have hexposes : Exposes w := by
      unfold Placed at hplaced
      unfold Exposes
      rw [hpc] at hplaced ⊢
      exact hplaced.1
    refine tended_of_section hw (completed_loopHead_locked w) ?_
    rcases loopHead_place w.completed with hnext | hnext | hnext <;> simp [hnext, hexposes]
  case waitStart =>
    obtain ⟨_, rfl⟩ := hstep
    exact tended_of_place ⟨trivial, trivial⟩ (by simp [Exposes]) hw.active
  case waitStop =>
    obtain ⟨_, rfl⟩ := hstep
    exact ⟨hw.active, trivial, trivial, fun _ => hw.measuring (by simp [Exposes, hpc])⟩
  case exposureDone =>
    obtain ⟨_, rfl⟩ := hstep
    have hmeasuring := hw.measuring (by simp [Exposes, hpc])
    unfold exposureFinished
    dsimp only
    split
    · refine ⟨hw.active, ?_, ?_, fun _ => hmeasuring⟩
      · simp [Released, Site.stateReleased, Site.acquiredReleased]
      · simp [Follows, Site.follows]
    · exact ⟨hw.active, trivial, trivial, fun _ => hmeasuring⟩
  case exposureLoop =>
    subst hstep
    have hmeasuring := hw.measuring (by simp [Exposes, hpc])
    unfold exposureTest
    split
    · exact ⟨hw.active, trivial, trivial, fun _ => hmeasuring⟩
    · refine ⟨hw.active, ?_, ?_, fun _ => hmeasuring⟩
      · simp [Released, Site.stateReleased, Site.acquiredReleased]
      · simp [Follows, Site.follows]
  case clearSteps =>
    subst hstep
    exact ⟨hw.active, trivial, trivial, fun _ => hw.measuring (by simp [Exposes, hpc])⟩
  case tryWait =>
    subst hstep
    refine ⟨hw.active, ?_, ?_, fun _ => hw.measuring (by simp [Exposes, hpc])⟩
    · simp [Released, Site.stateReleased, Site.acquiredReleased]
    · simp [Follows, Site.follows]

/-! ### The steps of the others -/

theorem tended_of_samePlace (hw : Tended w) (h : SamePlace w w')
    (hstate : w'.server.state = w.server.state) : Tended w' := by
  obtain ⟨hactive, hreleased, hfollows, hmeasuring⟩ := hw
  obtain ⟨n, htask⟩ := h.task
  refine ⟨?_, ?_, ?_, ?_⟩
  · rw [hstate, htask]
    exact hactive
  · unfold Released at hreleased ⊢
    rw [h.pc, htask]
    exact hreleased
  · unfold Follows at hfollows ⊢
    rw [h.pc, hstate]
    exact hfollows
  · intro hexposes
    rw [hstate, htask]
    refine hmeasuring ?_
    unfold Exposes at hexposes ⊢
    rw [h.pc, htask] at hexposes
    exact hexposes

theorem watched_of_linked (hlinked : Linked w) (h : w.task.guidState ≠ none) : Watched w := by
  obtain ⟨guid, hguid⟩ := Option.ne_none_iff_exists'.mp h
  exact ⟨guid, hguid, by simp [hlinked.observers, hguid], (mem_subscribers hlinked).mpr hguid⟩

/-- An exposure that ends is notified to the task, and a notification is delivered or still on
its way. -/
theorem owed_of_step {l : Label} (hl : ∀ reply, l ≠ .task reply) (halone : l.alone = true)
    (hwatched : Watched w) (howed : Owed w) (h : w.step base l = some w') : Owed w' := by
  cases l with
  | task reply => exact absurd rfl (hl reply)
  | otherClient state keepsOwn => cases halone
  | write f v reply =>
    obtain ⟨_, d, action, _, rfl⟩ := step_write h
    obtain ⟨n, htask⟩ := (samePlace_portAction (w := { w with driver := d }) action).task
    unfold Owed
    rw [portAction_server, portAction_stopEvent, htask]
    exact howed
  | writeFloat f v reply =>
    simp only [step] at h
    split at h
    · obtain ⟨d, _, rfl⟩ := Option.map_eq_some_iff.mp h
      exact howed
    · cases h
  | port reply =>
    obtain ⟨_, _, rfl⟩ | ⟨c, _, _, rfl⟩ := portStep_cases h
    · exact howed
    · dsimp only
      split
      · rcases howed with hexposure | hstop | ⟨guid, state, hguid, hpending, hends⟩
        · left
          have hquiet : c.call.acts = false := by cases c <;> rfl
          exact fun hnone => hexposure ((w.server.exec_quiet hquiet).2.mp hnone)
        · exact .inr (.inl hstop)
        · refine .inr (.inr ⟨guid, state, hguid, ?_, hends⟩)
          cases c <;> exact hpending
      · exact howed
  | exposureEnd how =>
    obtain ⟨v, hend, rfl⟩ := Option.map_eq_some_iff.mp h
    obtain ⟨guid, hguid, hobserver, _⟩ := hwatched
    refine .inr (.inr ⟨guid, how.state, hguid, ?_, by cases how <;> rfl⟩)
    rw [Traced.pending_of_endExposure hend]
    exact List.mem_append_right _ (List.mem_map.mpr ⟨guid, hobserver, rfl⟩)
  | notify index keep => exact (attended_deliver h).owed hwatched howed
  | spectrumUpdate settings =>
    simp only [step] at h
    split at h
    · obtain rfl := Option.some.inj h
      exact howed
    · cases h

/-! ### Whole runs -/

/-- The driver has the analyser to itself, an exception says that a call was not carried out, and
`AcquisitionAsync` raises one unless the analyser is in state Measuring. No client writes the
image counter before the task has begun. -/
def soleClient (w : World) (l : Label) : Prop :=
  l.alone = true ∧ (w.pc = .entry → keepsImageCounter l) ∧
  match l with
  | .task reply =>
    reply.truthful = true ∧
      (w.pc.startsExposure = true → reply = .ok → w.server.state = .measuring)
  | _ => True

instance (w : World) (l : Label) : Decidable (soleClient w l) :=
  @instDecidableAnd _ _ inferInstance <| @instDecidableAnd _ _ inferInstance <|
    match l with
    | .task reply => inferInstanceAs (Decidable (reply.truthful = true ∧
        (w.pc.startsExposure = true → reply = .ok → w.server.state = .measuring)))
    | .write _ _ _ | .writeFloat _ _ _ | .port _ | .exposureEnd _ | .notify _ _ | .spectrumUpdate _
    | .otherClient _ _ => .isTrue trivial

/-- What every state of such a run satisfies. -/
structure Awake (w : World) : Prop where
  placed : Placed w
  issued : Issued w
  linked : Linked w
  tended : Tended w
  notified : Notified w
  entry : w.pc = .entry → w.driver.int .adNumImagesCounter = 0
  waiting : w.pc = .waitStop → w.task.guidState ≠ none ∧ Owed w

theorem afresh_of_tended (hw : Tended w) : SubscribesAfresh w := by
  have hreleased := hw.released
  constructor
  · intro call hpc
    simp only [Released, hpc] at hreleased
    exact (hreleased (by simp)).1 rfl
  · rintro site call hpc (rfl | rfl)
    · simp only [Released, hpc] at hreleased
      exact (hreleased (by simp)).2 rfl
    · simp only [Released, hpc] at hreleased
      exact (hreleased (by simp)).2 rfl

/-- The task begins its wait with the exposure running and the subscription in place. -/
theorem waiting_of_taskStep {reply : Reply} (hw : Awake w) (hok : soleClient w (.task reply))
    (h : w.taskStep reply = some w') (hwait : w'.pc = .waitStop) :
    w'.task.guidState ≠ none ∧ Owed w' := by
  obtain ⟨call, hpc⟩ := Traced.waitStop_of_taskStep h hwait
  have hstep := taskStep_cases h
  simp only [hpc] at hstep
  subst hstep
  obtain ⟨_, _, _, hstart⟩ := hok
  cases reply with
  | raised what executed => exact absurd hwait (raisedAt_starts (w := _) .start what).2
  | ok =>
    obtain rfl := Option.some.inj (call_of_issued hw.issued hpc (by simp))
    have hstate := hstart (by rw [hpc]; rfl) rfl
    have hguid := hw.tended.measuring (by simp [Exposes, hpc, Site.exposes]) hstate
    rw [answered_ok]
    refine ⟨hguid, .inl ?_⟩
    simp [returnedAt, Server.exec, hstate]

theorem pc_taskStep_ne_entry {reply : Reply} (h : w.taskStep reply = some w') :
    w'.pc ≠ .entry := by
  have hstep := taskStep_cases h
  cases hpc : w.pc <;> simp only [hpc] at hstep
  case entry =>
    obtain ⟨_, rfl⟩ := hstep
    rcases loopHead_place w with hnext | hnext | hnext <;> simp [hnext]
  case woken =>
    obtain ⟨_, rfl⟩ := hstep
    simp [pc_woken]
  case call site =>
    obtain ⟨call, _, rfl⟩ | ⟨_, rfl⟩ := hstep
    · simp
    · exact fun hentry => (answered_returnedAt w site w.server).not_resting (.inl hentry)
  case inCall site call =>
    subst hstep
    exact fun hentry => (answered_place w site call reply).not_resting (.inl hentry)
  case leaveTry =>
    obtain ⟨_, rfl⟩ := hstep
    rcases afterTry_place w with hnext | ⟨_, hnext | hnext | hnext | hnext⟩ <;> simp [hnext]
  case callbacks =>
    obtain ⟨_, rfl⟩ := hstep
    rcases loopHead_place w.completed with hnext | hnext | hnext <;> simp [hnext]
  case exposureDone =>
    obtain ⟨_, rfl⟩ := hstep
    unfold exposureFinished
    dsimp only
    split <;> simp
  case exposureLoop =>
    subst hstep
    unfold exposureTest
    split <;> simp
  case waitStart | waitStop =>
    obtain ⟨_, rfl⟩ := hstep
    simp
  case clearSteps | tryWait =>
    subst hstep
    simp

theorem awake_taskStep {reply : Reply} (hw : Awake w) (hok : soleClient w (.task reply))
    (h : w.taskStep reply = some w') : Awake w' where
  placed := placed_taskStep hw.placed h
  issued := issued_taskStep h
  linked := linked_taskStep hw.issued (afresh_of_tended hw.tended) hw.linked hok.2.2.1 h
  tended := tended_taskStep hw.issued hw.placed hw.tended hw.entry hok.2.2.1 h
  notified := by
    refine notified_taskStep hw.issued hw.linked hw.notified ?_ hok.2.2.1 h
    intro call hpc
    have hreleased := hw.tended.released
    simp only [Released, hpc] at hreleased
    exact (hreleased (by simp)).1 rfl
  entry hentry := absurd hentry (pc_taskStep_ne_entry h)
  waiting := waiting_of_taskStep hw hok h

/-- The end of an exposure finds the task in its wait; any other step leaves the state alone. -/
theorem tended_of_step {l : Label} (hl : ∀ reply, l ≠ .task reply) (halone : l.alone = true)
    (hw : Awake w) (h : w.step base l = some w') : Tended w' := by
  have hplace := samePlace_of_step hl h
  by_cases hend : ∃ how, l = .exposureEnd how
  · obtain ⟨how, rfl⟩ := hend
    obtain ⟨v, hv, rfl⟩ := Option.map_eq_some_iff.mp h
    have hpc := (notified_endExposure hw.linked hw.notified hv).1
    obtain ⟨_, hstate, _⟩ := w.server.endExposure_ends hv
    refine ⟨?_, ?_, ?_, fun _ _ => (hw.waiting hpc).1⟩
    · intro hactive
      have hne : how.state = .active := hstate.symm.trans hactive
      cases how <;> cases hne
    · unfold Released
      rw [hplace.pc, hpc]
      trivial
    · unfold Follows
      rw [hplace.pc, hpc]
      trivial
  · exact tended_of_samePlace hw.tended hplace (quiet_of_step hl halone
      (fun how hr => hend ⟨how, hr⟩) hw.linked hw.notified.fresh h).state

theorem awake_step {l : Label} (hw : Awake w) (hok : soleClient w l)
    (h : w.step base l = some w') : Awake w' := by
  by_cases hl : ∃ reply, l = .task reply
  · obtain ⟨reply, rfl⟩ := hl
    exact awake_taskStep hw hok h
  have hl : ∀ reply, l ≠ .task reply := fun reply hr => hl ⟨reply, hr⟩
  have hplace := samePlace_of_step hl h
  exact
    { placed := hw.placed.of_samePlace hplace
      issued := hw.issued.of_samePlace hplace
      linked := hw.linked.of_same (sameLinks_of_step hl h)
      tended := tended_of_step hl hok.1 hw h
      notified := notified_of_step hl hok.1 hw.linked hw.notified h
      entry := by
        intro hentry
        have hbefore := hplace.pc.symm.trans hentry
        refine (control_of_step rfl hl ?_ h).trans (hw.entry hbefore)
        rintro v reply rfl
        exact hok.2.1 hbefore
      waiting := by
        intro hwait
        obtain ⟨hguid, howed⟩ := hw.waiting (hplace.pc.symm.trans hwait)
        obtain ⟨n, htask⟩ := hplace.task
        refine ⟨by rw [htask]; exact hguid, ?_⟩
        exact owed_of_step hl hok.1 (watched_of_linked hw.linked hguid) howed h }

theorem awake_initial (h : Initial w) : Awake w where
  placed := by
    unfold Placed
    rw [h.pc]
    exact h.failed
  issued := issued_of_not fun site call => by simp [h.pc]
  linked := (subscribed_initial h).linked
  tended := by
    refine tended_of_place ?_ ?_ fun _ => ⟨h.guidState, h.guidAcquired⟩
    · simp [Released, Follows, h.pc]
    · simp [Exposes, h.pc]
  notified := notified_initial h
  entry := fun _ => h.adNumImagesCounter
  waiting hpc := absurd hpc (by simp [h.pc])

/-- In every run in which the driver has the analyser to itself, each notification comes once, an
exception says that its call was not carried out, `AcquisitionAsync` raises one unless the analyser
is in state Measuring, and no client writes the image counter before the task has begun; whatever
fails and whatever else clients write: while the task waits for an exposure, that exposure runs, or
the event is signalled, or exactly one notification that will signal it is on its way. -/
theorem wakeup_kept {w₀ : World} (hinitial : Initial w₀) (hrun : Run (step base) soleClient w₀ w)
    (hwait : w.pc = .waitStop) :
    w.server.live w.task.guidState + w.stopEvent.toNat + w.server.exposure.isSome.toNat = 1 := by
  have hw : Awake w := hrun.invariant (fun _ _ _ => awake_step) (awake_initial hinitial)
  obtain ⟨hone, hended⟩ := hw.notified.waiting hwait
  obtain ⟨_, hexposure | hstop | ⟨guid, state, hguid, hpending, hends⟩⟩ := hw.waiting hwait
  · have hsome : w.server.exposure.isSome = true := Option.isSome_iff_ne_none.mpr hexposure
    have hzero := hended hexposure
    rw [hsome]
    simp only [Bool.toNat_true]
    omega
  · have hnone : w.server.exposure = none := by
      by_contra hne
      have hzero := hended hne
      simp [hstop] at hzero
    simp only [hstop, hnone, Bool.toNat_true, Option.isSome_none, Bool.toNat_false] at hone ⊢
    omega
  · have hlive : 0 < w.server.live w.task.guidState := by
      unfold Server.live
      rw [List.countP_pos_iff]
      exact ⟨(guid, state), hpending, by simp [hguid, hends]⟩
    have hnone : w.server.exposure = none := by
      by_contra hne
      have hzero := hended hne
      omega
    simp only [hnone, Option.isSome_none, Bool.toNat_false]
    omega

/-- A stopped exposure has ended, and the notification is on its way. -/
theorem wakeup_kept_after_stop : ∃ w,
    Run (step (.store 8)) soleClient (atRest adImageMultiple 2 2 0) w ∧ w.pc = .waitStop ∧
      w.server.exposure = none ∧ w.stopEvent = false ∧
      w.server.live w.task.guidState + w.stopEvent.toNat + w.server.exposure.isSome.toNat = 1 := by
  have hreached : reaches (step (.store 8)) soleClient (atRest adImageMultiple 2 2 0)
      (firstExposure ++ [.write .adAcquire 0 .raised, .port .ok, .port .ok, .exposureEnd .cancelled])
      (fun w => w.pc = .waitStop ∧ w.server.exposure = none ∧ w.stopEvent = false) = true := by
    decide +kernel
  obtain ⟨w, hrun, htest⟩ := run_of_reaches hreached
  obtain ⟨hpc, hexposure, hstop⟩ := of_decide_eq_true htest
  exact ⟨w, hrun, hpc, hexposure, hstop, wakeup_kept (atRest_initial _ _ _ _) hrun hpc⟩

end World

end PeakAnalyser

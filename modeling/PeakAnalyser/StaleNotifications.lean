import PeakAnalyser.ErrorExit
import PeakAnalyser.Images

/-!
# Late and repeated notifications of state

A notification carries the new state and nothing that says which exposure ended. The system is
followed here with what no thread sees: how many of the notifications on their way are older
than the exposure that the task waits for, whether an exposure has ended since, and which of
the two kinds has signalled `stopEventId`.
-/

namespace PeakAnalyser

set_option autoImplicit false

open Runs

/-- A world, and what is known about its notifications: the first `stale` that are on their way
were generated before the `AcquisitionAsync` of the exposure that the task waits for; `ended`
says that an exposure has ended since, and `old` that the notification that has signalled
`stopEventId` was generated before. -/
structure Traced where
  world : World
  stale : Nat := 0
  ended : Bool := false
  old : Bool := false

namespace Traced

variable (t : Traced)

/-- The answer to `AcquisitionAsync` is the next step of the task. -/
def starting : Bool :=
  match t.world.pc with
  | .inCall .start _ => true
  | _ => false

/-- From the drain of `stopEventId` to the end of the wait. -/
def awaiting : Bool :=
  match t.world.pc with
  | .call .start | .inCall .start _ | .waitStop => true
  | _ => false

/-- The notification was generated before the `AcquisitionAsync` of the exposure. -/
def generatedBefore (index : Nat) : Bool := t.world.pc ≠ .waitStop || index < t.stale

/-- The notification signals `stopEventId`. -/
def signals (index : Nat) : Bool :=
  t.world.server.pending[index]?.any fun p =>
    t.world.subscribers.contains (p.1, Callback.stateChanged) && p.2.endsExposure

/-- What is known after a step that leads to `w`. -/
def follow (w : World) : Label → Traced
  | .task _ =>
    if t.starting then
      { world := w, stale := t.world.server.pending.length, ended := false, old := t.old }
    else { t with world := w }
  | .exposureEnd _ => { t with world := w, ended := true }
  | .notify index keep =>
    { world := w
      stale := if keep = false ∧ index < t.stale then t.stale - 1 else t.stale
      ended := t.ended
      old := if t.world.stopEvent then t.old else t.generatedBefore index }
  | _ => { t with world := w }

def step (base : ADDriver) (t : Traced) (l : Label) : Option Traced :=
  (t.world.step base l).map fun w => t.follow w l

/-- No notification of an earlier time signals while the task is between the drain and the end
of its wait, and no other client changes the state of the server while an exposure runs or the
task waits for one. -/
def timely : Label → Bool
  | .notify index _ =>
    !(t.awaiting && !t.world.stopEvent && t.signals index && t.generatedBefore index)
  | .otherClient _ _ => t.world.server.exposure = none && decide (t.world.pc ≠ .waitStop)
  | _ => true

end Traced

namespace Server

variable {v v' : Server}

/-- A running exposure is what the state says. -/
def RunsAcquiring (v : Server) : Prop := v.exposure ≠ none → v.state = .acquiring

theorem runsAcquiring_exec (call : Call) (h : v.RunsAcquiring) : (v.exec call).RunsAcquiring := by
  cases call
  case startMeasurement =>
    simp only [exec]
    split
    · rename_i hactive
      intro hrunning
      rw [h hrunning] at hactive
      cases hactive
    · exact h
  case acquisitionAsync =>
    simp only [exec]
    split
    · intro _
      rfl
    · exact h
  case finishMeasurement =>
    simp only [exec]
    split
    · rename_i hmeasuring
      intro hrunning
      rw [h hrunning] at hmeasuring
      cases hmeasuring
    · exact h
  case cancelAcquisition =>
    intro hrunning
    apply h
    intro hnone
    apply hrunning
    simp [exec, hnone]
  all_goals exact h

end Server

namespace World

variable {w w' : World} {base : ADDriver}

/-- Where the task can be while an exposure runs: it waits for it, or has given it up and will
not start another before it has found the server in Active. -/
def MayRun (w : World) : Prop :=
  match w.pc with
  | .waitStop | .waitStart | .woken => True
  | .call site | .inCall site _ =>
    site = .currentState ∨ (site.inCleanup = true ∧ w.task.failed = true)
  | .leaveTry => w.task.failed = true
  | _ => False

theorem mayRun_of_failing (h : Failing w) : MayRun w := by
  unfold Failing at h
  unfold MayRun
  cases hpc : w.pc <;> simp only [hpc] at h ⊢
  case call site => exact .inr h
  case inCall site call => exact .inr h
  case leaveTry => exact h

theorem mayRun_raisedAt (site : Site) (what : String)
    (hfailed : site.inCleanup = true → w.task.failed = true) : MayRun (w.raisedAt site what) := by
  unfold raisedAt
  split
  · rename_i hcleanup
    exact hfailed hcleanup
  · exact mayRun_of_failing (failing_caught w what)

theorem MayRun.of_samePlace (h : MayRun w) (hsame : SamePlace w w') : MayRun w' := by
  obtain ⟨n, htask⟩ := hsame.task
  have hfailed : w'.task.failed = w.task.failed := by rw [htask]
  unfold MayRun at h ⊢
  rw [hsame.pc, hfailed]
  exact h

/-- The task does not come to a start by the way of an exception. -/
theorem mayRun_not_starting (h : MayRun w) :
    w.pc ≠ .call .start ∧ ∀ call, w.pc ≠ .inCall .start call := by
  unfold MayRun at h
  constructor
  · intro hpc
    rw [hpc] at h
    rcases h with hsite | hsite
    · cases hsite
    · cases hsite.1
  · intro call hpc
    rw [hpc] at h
    rcases h with hsite | hsite
    · cases hsite
    · cases hsite.1

theorem cleanupAcquired_starts (w : World) :
    w.cleanupAcquired.pc ≠ .call .start ∧ w.cleanupAcquired.pc ≠ .waitStop := by
  unfold cleanupAcquired
  split <;> simp

theorem caught_starts (w : World) (what : String) :
    (w.caught what).pc ≠ .call .start ∧ (w.caught what).pc ≠ .waitStop := by
  unfold caught
  dsimp only
  split
  · simp
  · exact cleanupAcquired_starts _

/-- Only the answer to `AcquisitionAsync` leads to the wait, and none to another start. -/
theorem returnedAt_starts (site : Site) (answer : Server) :
    (w.returnedAt site answer).pc ≠ .call .start ∧
      (site ≠ .start → (w.returnedAt site answer).pc ≠ .waitStop) := by
  cases site
  case currentState =>
    unfold returnedAt
    dsimp only
    split
    · simp
    · have hcaught := caught_starts w ("Analyser not active: " ++ answer.state.name)
      exact ⟨hcaught.1, fun _ => hcaught.2⟩
  case getMeasuredSpectrum =>
    unfold returnedAt measured
    dsimp only
    split <;> split <;> simp
  case cleanupUnsubscribeState =>
    have hcleanup := cleanupAcquired_starts
      { w.forget w.task.guidState with task := { w.task with guidState := none } }
    exact ⟨hcleanup.1, fun _ => hcleanup.2⟩
  case cleanupCurrentState =>
    unfold returnedAt
    dsimp only
    split
    · split <;> simp
    · simp
  all_goals simp [returnedAt]

theorem raisedAt_starts (site : Site) (what : String) :
    (w.raisedAt site what).pc ≠ .call .start ∧ (w.raisedAt site what).pc ≠ .waitStop := by
  unfold raisedAt
  split
  · simp
  · exact caught_starts w what

theorem loopHead_starts (w : World) :
    w.loopHead.pc ≠ .call .start ∧ w.loopHead.pc ≠ .waitStop := by
  obtain ⟨_, hparks⟩ | ⟨_, hbegins⟩ := loopHead_cases w
  · simp [hparks.pc]
  · obtain ⟨_, hpc, _⟩ | ⟨_, hpc, _⟩ := hbegins.place <;> simp [hpc]

theorem afterTry_starts (w : World) :
    w.afterTry.pc ≠ .call .start ∧ w.afterTry.pc ≠ .waitStop := by
  unfold afterTry
  split
  · exact loopHead_starts _
  · split
    · exact loopHead_starts _
    · split
      · simp
      · exact loopHead_starts _

/-- After the wait for the start command the task asks for the state of the server. -/
theorem weAreAcquiring_pc (w : World) : w.weAreAcquiring.startImage.pc = .call .currentState := by
  have hbegins := startImage_begins (w := w.weAreAcquiring) rfl
  have hzero : w.weAreAcquiring.startImage.task.numImagesCounter = 0 := by
    rw [hbegins.numImagesCounter, (startImage_head _).int .adNumImagesCounter (by simp)]
    simp [weAreAcquiring]
  obtain ⟨_, hpc, _⟩ | ⟨hne, _⟩ := hbegins.place
  · exact hpc
  · exact absurd hzero hne

theorem loopHead_inCall (w : World) (site : Site) (call : Call) :
    w.loopHead.pc ≠ .inCall site call := by
  obtain ⟨_, hparks⟩ | ⟨_, hbegins⟩ := loopHead_cases w
  · simp [hparks.pc]
  · obtain ⟨_, hpc, _⟩ | ⟨_, hpc, _⟩ := hbegins.place <;> simp [hpc]

theorem afterTry_inCall (w : World) (site : Site) (call : Call) :
    w.afterTry.pc ≠ .inCall site call := by
  unfold afterTry
  split
  · exact loopHead_inCall _ site call
  · split
    · exact loopHead_inCall _ site call
    · split
      · simp
      · exact loopHead_inCall _ site call

theorem Answered.not_inCall (h : Answered w) (site : Site) (call : Call) :
    w.pc ≠ .inCall site call := by
  obtain ⟨_, hpc⟩ | hpc | hpc | hpc := h <;> simp [hpc]

end World

namespace Traced

open World

variable {t t' : Traced} {w' : World} {base : ADDriver}

/-- What the wait can be ended by: only notifications younger than the exposure, and these only
once it has ended. -/
structure Awaited (t : Traced) : Prop where
  younger : ∀ i, t.stale ≤ i → ∀ p, t.world.server.pending[i]? = some p →
    p.2.endsExposure = true → t.ended = true ∧ t.world.server.exposure = none
  signalled : t.world.stopEvent = true →
    t.ended = true ∧ t.old = false ∧ t.world.server.exposure = none

structure Kept (t : Traced) : Prop where
  issued : Issued t.world
  acquiring : t.world.server.RunsAcquiring
  running : t.world.server.exposure ≠ none → MayRun t.world
  drained : t.world.pc = .call .start ∨ (∃ call, t.world.pc = .inCall .start call) →
    t.world.stopEvent = false
  waiting : t.world.pc = .waitStop → t.Awaited

/-- A step of the task to a place that is not between the drain and the end of the wait. -/
theorem kept_elsewhere (hissued : Issued w') (hacquiring : w'.server.RunsAcquiring)
    (hrunning : w'.server.exposure ≠ none → MayRun w')
    (hplace : w'.pc ≠ .call .start ∧ w'.pc ≠ .waitStop)
    (hcall : ∀ call, w'.pc ≠ .inCall .start call) : Kept { t with world := w' } where
  issued := hissued
  acquiring := hacquiring
  running := hrunning
  drained hpc := by
    rcases hpc with hpc | hpc
    · exact absurd hpc hplace.1
    · obtain ⟨call, hpc⟩ := hpc
      exact absurd hpc (hcall call)
  waiting hpc := absurd hpc hplace.2

theorem exposure_none (ht : t.Kept) (h : ¬ MayRun t.world) : t.world.server.exposure = none := by
  by_contra hrunning
  exact h (ht.running hrunning)

/-- No exposure runs, and the step begins none. -/
theorem kept_unexposed (ht : t.Kept) (hnone : t.world.server.exposure = none)
    (hissued : Issued w') (hserver : w'.server = t.world.server)
    (hplace : w'.pc ≠ .call .start ∧ w'.pc ≠ .waitStop)
    (hcall : ∀ call, w'.pc ≠ .inCall .start call) : Kept { t with world := w' } := by
  refine kept_elsewhere hissued (by rw [hserver]; exact ht.acquiring) ?_ hplace hcall
  intro hrunning
  rw [hserver] at hrunning
  exact absurd hnone hrunning

/-- The answer to a call other than `AcquisitionAsync`. -/
theorem kept_answered {site : Site} {call : Call} {reply : Reply} (ht : t.Kept)
    (hpc : t.world.pc = .inCall site call) (hsite : site ≠ .start) :
    Kept { t with world := t.world.answered site call reply } := by
  have hanswered := answered_place t.world site call reply
  have hsame := answered_taskOnly t.world site call reply
  have hserver : (t.world.answered site call reply).server.RunsAcquiring ∧
      ((t.world.answered site call reply).server.exposure ≠ none →
        t.world.server.exposure ≠ none) := by
    rw [hsame.server]
    dsimp only
    split
    · refine ⟨Server.runsAcquiring_exec call ht.acquiring, ?_⟩
      intro hrunning hnone
      exact hrunning ((Server.exposure_exec
        (acquisitionAsync_of_issued ht.issued hpc hsite)).mpr hnone)
    · exact ⟨ht.acquiring, fun hrunning => hrunning⟩
  refine kept_elsewhere hanswered.issued hserver.1 ?_ ?_ fun call' => hanswered.not_inCall .start call'
  · intro hafter
    have hrunning := hserver.2 hafter
    have hmay := ht.running hrunning
    unfold MayRun at hmay
    simp only [hpc] at hmay
    cases reply with
    | ok =>
      rcases hmay with hcurrent | hcleanup
      · subst hcurrent
        rw [answered_ok]
        have hstate : t.world.server.state ≠ .active := by
          rw [ht.acquiring hrunning]
          decide
        unfold returnedAt
        dsimp only
        rw [if_neg hstate]
        exact mayRun_of_failing (failing_caught _ _)
      · exact mayRun_of_failing (failing_answered call hcleanup.1 hcleanup.2).1
    | raised what executed =>
      refine mayRun_raisedAt (w := { t.world with
        server := if ((Reply.raised what executed).event call).carriedOut call then
          t.world.server.exec call else t.world.server
        log := (Reply.raised what executed).event call :: t.world.log }) site what ?_
      intro hcleanup
      rcases hmay with hcurrent | hfailing
      · subst hcurrent
        cases hcleanup
      · exact hfailing.2
  · cases reply with
    | ok =>
      rw [answered_ok]
      have hstarts := returnedAt_starts (w := { t.world with
        server := t.world.server.exec call, log := .returned call :: t.world.log }) site
        t.world.server
      exact ⟨hstarts.1, hstarts.2 hsite⟩
    | raised what executed =>
      exact raisedAt_starts (w := { t.world with
        server := if ((Reply.raised what executed).event call).carriedOut call then
          t.world.server.exec call else t.world.server
        log := (Reply.raised what executed).event call :: t.world.log }) site what

/-- `AcquisitionAsync` notifies of the state Acquiring at most. -/
theorem pending_of_started {v : Server} {id : Option Nat} {i : Nat} {p : Nat × AnalyserState}
    (hi : v.pending.length ≤ i) (hp : (v.exec (.acquisitionAsync id)).pending[i]? = some p) :
    p.2.endsExposure = false := by
  simp only [Server.exec] at hp
  split at hp
  · rw [show ({ v.enter .acquiring with exposure := some false } : Server).pending =
      v.pending ++ v.observers.map fun guid => (guid, AnalyserState.acquiring) from rfl,
      List.getElem?_append_right hi] at hp
    obtain ⟨guid, _, rfl⟩ := List.mem_map.mp (List.mem_of_getElem? hp)
    rfl
  · rw [List.getElem?_eq_none hi] at hp
    cases hp

/-- The answer to `AcquisitionAsync`: all that is on its way is older than this exposure. -/
theorem kept_started {call : Call} {reply : Reply} (ht : t.Kept)
    (hpc : t.world.pc = .inCall .start call) :
    Kept { world := t.world.answered .start call reply
           stale := t.world.server.pending.length, ended := false, old := t.old } := by
  have hanswered := answered_place t.world .start call reply
  have hsame := answered_taskOnly t.world .start call reply
  have hstop : t.world.stopEvent = false := ht.drained (.inr ⟨call, hpc⟩)
  have hacquiring : (t.world.answered .start call reply).server.RunsAcquiring := by
    rw [hsame.server]
    dsimp only
    split
    · exact Server.runsAcquiring_exec call ht.acquiring
    · exact ht.acquiring
  obtain rfl := Option.some.inj (call_of_issued ht.issued hpc (by simp))
  cases reply with
  | raised what executed =>
    have hmay : MayRun (t.world.answered .start (.acquisitionAsync t.world.task.spectrumId)
        (.raised what executed)) := by
      refine mayRun_raisedAt (w := { t.world with
        server := if ((Reply.raised what executed).event
            (.acquisitionAsync t.world.task.spectrumId)).carriedOut
            (.acquisitionAsync t.world.task.spectrumId) then
          t.world.server.exec (.acquisitionAsync t.world.task.spectrumId) else t.world.server
        log := (Reply.raised what executed).event (.acquisitionAsync t.world.task.spectrumId) ::
          t.world.log }) .start what ?_
      intro hcleanup
      cases hcleanup
    have hstarts := mayRun_not_starting hmay
    refine ⟨hanswered.issued, hacquiring, fun _ => hmay, ?_, ?_⟩
    · intro hplace
      rcases hplace with hplace | hplace
      · exact absurd hplace hstarts.1
      · obtain ⟨call', hplace⟩ := hplace
        exact absurd hplace (hstarts.2 call')
    · intro hwait
      exact absurd hwait (raisedAt_starts (w := _) .start what).2
  | ok =>
    have hwait : (t.world.answered .start (.acquisitionAsync t.world.task.spectrumId) .ok).pc =
        .waitStop := rfl
    refine ⟨hanswered.issued, hacquiring, ?_, ?_, ?_⟩
    · intro _
      unfold MayRun
      simp only [hwait]
    · intro hplace
      rw [hwait] at hplace
      rcases hplace with hplace | hplace
      · cases hplace
      · obtain ⟨call', hplace⟩ := hplace
        cases hplace
    · intro _
      constructor
      · intro i hi p hp hends
        rw [answered_ok] at hp
        have hexec : (t.world.server.exec
            (.acquisitionAsync t.world.task.spectrumId)).pending[i]? = some p := hp
        rw [pending_of_started hi hexec] at hends
        cases hends
      · intro hsignalled
        rw [hsame.stopEvent] at hsignalled
        dsimp only at hsignalled
        rw [hstop] at hsignalled
        cases hsignalled

/-- A call is sent, or was not needed. -/
theorem kept_call {site : Site} {reply : Reply} (ht : t.Kept) (hpc : t.world.pc = .call site)
    (h : t.world.taskStep reply = some w')
    (hstep : (∃ call, t.world.callAt site = some call ∧
        w' = { t.world with log := .issued call :: t.world.log, pc := .inCall site call }) ∨
      t.world.callAt site = none ∧ w' = t.world.returnedAt site t.world.server) :
    Kept { t with world := w' } := by
  have hmay : t.world.server.exposure ≠ none →
      site = .currentState ∨ (site.inCleanup = true ∧ t.world.task.failed = true) := by
    intro hrunning
    have hmay := ht.running hrunning
    unfold MayRun at hmay
    simpa only [hpc] using hmay
  obtain ⟨call, hcall, rfl⟩ | ⟨hcall, rfl⟩ := hstep
  · refine ⟨issued_taskStep h, ht.acquiring, hmay, ?_, ?_⟩
    · intro hplace
      rcases hplace with hplace | hplace
      · cases hplace
      · obtain ⟨call', hplace⟩ := hplace
        obtain ⟨rfl, _⟩ := Pc.inCall.inj hplace
        exact ht.drained (.inl hpc)
    · intro hplace
      cases hplace
  · have hsame := returnedAt_taskOnly t.world site t.world.server
    have hanswered := answered_returnedAt t.world site t.world.server
    have hne : site ≠ .start := by
      rintro rfl
      cases hcall
    have hstarts := returnedAt_starts (w := t.world) site t.world.server
    refine kept_elsewhere hanswered.issued (by rw [hsame.server]; exact ht.acquiring) ?_
      ⟨hstarts.1, hstarts.2 hne⟩ fun call' => hanswered.not_inCall .start call'
    intro hrunning
    rw [hsame.server] at hrunning
    rcases hmay hrunning with hcurrent | hcleanup
    · subst hcurrent
      cases hcall
    · exact mayRun_of_failing (failing_returnedAt _ hcleanup.1 hcleanup.2).1

theorem kept_taskStep {reply : Reply} (ht : t.Kept) (h : t.world.taskStep reply = some w') :
    Kept (t.follow w' (.task reply)) := by
  have hstep := taskStep_cases h
  by_cases hstart : ∃ call, t.world.pc = .inCall .start call
  · obtain ⟨call, hpc⟩ := hstart
    simp only [hpc] at hstep
    subst hstep
    have hstarting : t.starting = true := by simp [starting, hpc]
    simp only [follow, hstarting, if_true]
    exact kept_started ht hpc
  have hstarting : t.starting = false := by
    unfold starting
    split
    · rename_i call hpc
      exact absurd ⟨call, hpc⟩ hstart
    · rfl
  simp only [follow, hstarting, Bool.false_eq_true, if_false]
  cases hpc : t.world.pc <;> simp only [hpc] at hstep
  case entry =>
    obtain ⟨_, rfl⟩ := hstep
    exact kept_unexposed ht (exposure_none ht (by simp [MayRun, hpc])) (issued_loopHead _)
      (loopHead_head t.world).toLocked.server (loopHead_starts _) (loopHead_inCall _ .start)
  case waitStart =>
    obtain ⟨_, rfl⟩ := hstep
    refine kept_elsewhere (issued_of_not fun site call => by simp) ht.acquiring ?_ (by simp)
      fun call => by simp
    intro _
    simp [MayRun]
  case woken =>
    obtain ⟨_, rfl⟩ := hstep
    have hplace := weAreAcquiring_pc t.world
    have hserver := ((weAreAcquiring_locked t.world).trans (startImage_head _).toLocked).server
    refine kept_elsewhere (issued_of_not fun site call => by simp [hplace])
      (by rw [hserver]; exact ht.acquiring) ?_ (by simp [hplace]) fun call => by simp [hplace]
    intro _
    unfold MayRun
    simp only [hplace]
    exact .inl trivial
  case call site => exact kept_call ht hpc h hstep
  case inCall site call =>
    subst hstep
    apply kept_answered ht hpc
    rintro rfl
    exact hstart ⟨call, hpc⟩
  case exposureLoop =>
    subst hstep
    have hplace : t.world.exposureTest.pc = .clearSteps ∨
        t.world.exposureTest.pc = .call .getMeasuredSpectrum := by
      unfold exposureTest
      split <;> simp
    refine kept_unexposed ht (exposure_none ht (by simp [MayRun, hpc])) (issued_taskStep h) rfl ?_ ?_
    · rcases hplace with hplace | hplace <;> simp [hplace]
    · intro call
      rcases hplace with hplace | hplace <;> simp [hplace]
  case clearSteps =>
    subst hstep
    exact kept_unexposed ht (exposure_none ht (by simp [MayRun, hpc])) (issued_taskStep h) rfl
      (by simp) fun call => by simp
  case tryWait =>
    subst hstep
    have hnone := exposure_none ht (by simp [MayRun, hpc])
    refine ⟨issued_taskStep h, ht.acquiring, fun hrunning => absurd hnone hrunning, ?_, ?_⟩
    · intro _
      rfl
    · intro hplace
      cases hplace
  case waitStop =>
    -- The exposure has ended, so that none runs outside of the wait.
    obtain ⟨hevent, rfl⟩ := hstep
    exact kept_unexposed ht ((ht.waiting hpc).signalled hevent).2.2 (issued_taskStep h) rfl
      (by simp) fun call => by simp
  case exposureDone =>
    obtain ⟨_, rfl⟩ := hstep
    have hplace : t.world.exposureFinished.server = t.world.server ∧
        (t.world.exposureFinished.pc = .call .getMeasuredSpectrum ∨
          t.world.exposureFinished.pc = .exposureLoop) := by
      unfold exposureFinished
      dsimp only
      split
      · exact ⟨rfl, .inl rfl⟩
      · exact ⟨rfl, .inr rfl⟩
    refine kept_unexposed ht (exposure_none ht (by simp [MayRun, hpc])) (issued_taskStep h)
      hplace.1 ?_ ?_
    · rcases hplace.2 with hplace | hplace <;> simp [hplace]
    · intro call
      rcases hplace.2 with hplace | hplace <;> simp [hplace]
  case leaveTry =>
    obtain ⟨_, rfl⟩ := hstep
    have hserver := (afterTry_locked t.world).server
    refine kept_elsewhere (issued_afterTry _) (by rw [hserver]; exact ht.acquiring) ?_
      (afterTry_starts _) (afterTry_inCall _ .start)
    intro hrunning
    rw [hserver] at hrunning
    have hmay := ht.running hrunning
    unfold MayRun at hmay
    simp only [hpc] at hmay
    unfold MayRun
    simp only [(failing_afterTry hmay).2.1]
  case callbacks =>
    obtain ⟨_, rfl⟩ := hstep
    exact kept_unexposed ht (exposure_none ht (by simp [MayRun, hpc])) (issued_loopHead _)
      (completed_loopHead_locked t.world).server (loopHead_starts _) (loopHead_inCall _ .start)

/-- A step of which neither the task nor the server's notifications know. -/
theorem kept_same (ht : t.Kept) (hissued : Issued w') (hplace : SamePlace t.world w')
    (hpending : w'.server.pending = t.world.server.pending)
    (hacquiring : w'.server.RunsAcquiring)
    (hexposure : w'.server.exposure = none ↔ t.world.server.exposure = none)
    (hstop : w'.stopEvent = t.world.stopEvent) : Kept { t with world := w' } where
  issued := hissued
  acquiring := hacquiring
  running hrunning := (ht.running fun hnone => hrunning (hexposure.mpr hnone)).of_samePlace hplace
  drained hpc := by
    dsimp only at hpc ⊢
    rw [hplace.pc] at hpc
    rw [hstop]
    exact ht.drained hpc
  waiting hpc := by
    dsimp only at hpc
    rw [hplace.pc] at hpc
    obtain ⟨hyounger, hsignalled⟩ := ht.waiting hpc
    constructor
    · intro i hi p hp hends
      dsimp only at hp hi ⊢
      rw [hpending] at hp
      obtain ⟨hended, hnone⟩ := hyounger i hi p hp hends
      exact ⟨hended, hexposure.mpr hnone⟩
    · intro hevent
      dsimp only at hevent ⊢
      rw [hstop] at hevent
      obtain ⟨hended, hold, hnone⟩ := hsignalled hevent
      exact ⟨hended, hold, hexposure.mpr hnone⟩

/-- An exposure ends: what it notifies of, it has done. -/
theorem kept_exposureEnd {how : Ending} {v : Server} (ht : t.Kept)
    (hissued : Issued { t.world with server := v }) (h : t.world.server.endExposure how = some v) :
    Kept { t with world := { t.world with server := v }, ended := true } := by
  obtain ⟨_, _, hnone, _⟩ := Server.endExposure_ends _ h
  refine ⟨hissued, fun hrunning => absurd hnone hrunning, fun hrunning => absurd hnone hrunning,
    ht.drained, ?_⟩
  intro hpc
  constructor
  · intro _ _ _ _ _
    exact ⟨rfl, hnone⟩
  · intro hevent
    exact ⟨rfl, ((ht.waiting hpc).signalled hevent).2.1, hnone⟩

theorem kept_otherClient {state : AnalyserState} {keepsOwn : Bool} (ht : t.Kept)
    (hissued : Issued { t.world with server := t.world.server.disturb state keepsOwn })
    (hok : t.timely (.otherClient state keepsOwn) = true) :
    Kept { t with world := { t.world with server := t.world.server.disturb state keepsOwn } } := by
  obtain ⟨hnone, hplace⟩ : t.world.server.exposure = none ∧ t.world.pc ≠ .waitStop := by
    simpa [timely] using hok
  exact ⟨hissued, fun hrunning => absurd hnone hrunning, fun hrunning => absurd hnone hrunning,
    ht.drained, fun hpc => absurd hpc hplace⟩

theorem stateCallback_eq (w : World) (guid : Nat) (state : AnalyserState) :
    w.stateCallback guid state = { w with
      stopEvent := w.stopEvent ||
        (w.subscribers.contains (guid, Callback.stateChanged) && state.endsExposure) } := by
  unfold stateCallback
  by_cases hsignal : (guid, Callback.stateChanged) ∈ w.subscribers ∧ state.endsExposure = true
  · rw [if_pos hsignal]
    simp [hsignal.1, hsignal.2]
  · rw [if_neg hsignal]
    have hfalse : (w.subscribers.contains (guid, Callback.stateChanged) &&
        state.endsExposure) = false := by
      simpa using hsignal
    rw [hfalse, Bool.or_false]

/-- What a notification does to the stop event. -/
theorem deliver_signals {index : Nat} {keep : Bool} (h : t.world.deliver index keep = some w') :
    ∃ p, t.world.server.pending[index]? = some p ∧
      w' = { t.world with
        server := { t.world.server with
          pending := if keep then t.world.server.pending
            else t.world.server.pending.eraseIdx index }
        stopEvent := t.world.stopEvent || t.signals index } := by
  unfold deliver at h
  split at h
  · rename_i guid state hat
    obtain rfl := Option.some.inj h
    refine ⟨(guid, state), hat, ?_⟩
    have hsignals : t.signals index =
        (t.world.subscribers.contains (guid, Callback.stateChanged) && state.endsExposure) := by
      simp [signals, hat]
    rw [hsignals, stateCallback_eq]
  · cases h

theorem kept_notify {index : Nat} {keep : Bool} (ht : t.Kept) (hissued : Issued w')
    (hok : t.timely (.notify index keep) = true) (h : t.world.deliver index keep = some w') :
    Kept (t.follow w' (.notify index keep)) := by
  obtain ⟨p, hp, rfl⟩ := deliver_signals h
  have htimely : t.awaiting = true → t.world.stopEvent = false → t.signals index = true →
      t.generatedBefore index = false := by
    intro hawaiting hstop hsignals
    simpa [timely, hawaiting, hstop, hsignals] using hok
  refine ⟨hissued, ht.acquiring, ht.running, ?_, ?_⟩
  · intro hpc
    have hstop := ht.drained hpc
    have hawaiting : t.awaiting = true := by
      unfold awaiting
      rcases hpc with hpc | hpc
      · rw [show t.world.pc = .call .start from hpc]
      · obtain ⟨call, hpc⟩ := hpc
        rw [show t.world.pc = .inCall .start call from hpc]
    have hbefore : t.generatedBefore index = true := by
      unfold generatedBefore
      rcases hpc with hpc | hpc
      · rw [show t.world.pc = .call .start from hpc]
        rfl
      · obtain ⟨call, hpc⟩ := hpc
        rw [show t.world.pc = .inCall .start call from hpc]
        rfl
    have hsignals : t.signals index = false := by
      by_contra hsignals
      have hlate := htimely hawaiting hstop (by simpa using hsignals)
      rw [hbefore] at hlate
      cases hlate
    simp [follow, hstop, hsignals]
  · intro hpc
    obtain ⟨hyounger, hsignalled⟩ := ht.waiting hpc
    constructor
    · intro i hi q hq hends
      dsimp only [follow] at hi hq ⊢
      cases keep with
      | true => exact hyounger i (by simpa using hi) q hq hends
      | false =>
        simp only [Bool.false_eq_true, if_false, List.getElem?_eraseIdx, true_and] at hq hi
        -- The notifications behind the one that has gone move up by one place.
        split at hq
        · refine hyounger i ?_ q hq hends
          split at hi <;> omega
        · refine hyounger (i + 1) ?_ q hq hends
          split at hi <;> omega
    · intro hevent
      dsimp only [follow] at hevent ⊢
      cases hstop : t.world.stopEvent with
      | true =>
        obtain ⟨hended, hold, hnone⟩ := hsignalled hstop
        exact ⟨hended, hold, hnone⟩
      | false =>
        rw [hstop, Bool.false_or] at hevent
        have hawaiting : t.awaiting = true := by
          unfold awaiting
          rw [show t.world.pc = .waitStop from hpc]
        have hlate := htimely hawaiting hstop hevent
        have hindex : t.stale ≤ index := by
          unfold generatedBefore at hlate
          simp only [Bool.or_eq_false_iff, decide_eq_false_iff_not] at hlate
          omega
        have hends : p.2.endsExposure = true := by
          unfold signals at hevent
          rw [hp, Option.any_some, Bool.and_eq_true] at hevent
          exact hevent.2
        obtain ⟨hended, hnone⟩ := hyounger index hindex p hp hends
        exact ⟨hended, by simpa using hlate, hnone⟩

theorem kept_step {l : Label} (ht : t.Kept) (hok : t.timely l = true)
    (h : t.step base l = some t') : t'.Kept := by
  obtain ⟨w', hstep, rfl⟩ := Option.map_eq_some_iff.mp h
  have hissued : Issued w' := issued_step ht.issued hstep
  by_cases hl : ∃ reply, l = .task reply
  · obtain ⟨reply, rfl⟩ := hl
    exact kept_taskStep ht hstep
  have hplace := samePlace_of_step (fun reply hr => hl ⟨reply, hr⟩) hstep
  cases l with
  | task reply => exact absurd ⟨reply, rfl⟩ hl
  | write f v reply =>
    obtain ⟨_, d, action, _, rfl⟩ := step_write hstep
    have hserver := portAction_server (w := { t.world with driver := d }) action
    refine kept_same ht hissued hplace (by rw [hserver]) (by rw [hserver]; exact ht.acquiring)
      (by rw [hserver]) (portAction_stopEvent action)
  | writeFloat f v reply =>
    simp only [World.step] at hstep
    split at hstep
    · obtain ⟨d, _, rfl⟩ := Option.map_eq_some_iff.mp hstep
      exact kept_same ht hissued hplace rfl ht.acquiring Iff.rfl rfl
    · cases hstep
  | port reply =>
    obtain ⟨_, _, rfl⟩ | ⟨c, _, _, rfl⟩ := portStep_cases hstep
    · exact kept_same ht hissued hplace rfl ht.acquiring Iff.rfl rfl
    · have hpending : (t.world.server.exec c.call).pending = t.world.server.pending := by
        cases c <;> rfl
      have hexposure : (t.world.server.exec c.call).exposure = none ↔
          t.world.server.exposure = none :=
        (t.world.server.exec_quiet (by cases c <;> rfl)).2
      by_cases hcarried : (reply.event c.call).carriedOut c.call = true
      · refine kept_same ht hissued hplace ?_ ?_ ?_ rfl
        · simp only [if_pos hcarried]
          exact hpending
        · simp only [if_pos hcarried]
          exact Server.runsAcquiring_exec _ ht.acquiring
        · simp only [if_pos hcarried]
          exact hexposure
      · refine kept_same ht hissued hplace ?_ ?_ ?_ rfl
        · simp only [if_neg hcarried]
        · simp only [if_neg hcarried]
          exact ht.acquiring
        · simp only [if_neg hcarried]
  | exposureEnd how =>
    obtain ⟨v, hv, rfl⟩ := Option.map_eq_some_iff.mp hstep
    exact kept_exposureEnd ht hissued hv
  | notify index keep => exact kept_notify ht hissued hok hstep
  | spectrumUpdate settings =>
    simp only [World.step] at hstep
    split at hstep
    · obtain rfl := Option.some.inj hstep
      exact kept_same ht hissued hplace rfl ht.acquiring Iff.rfl rfl
    · cases hstep
  | otherClient state keepsOwn =>
    obtain rfl := Option.some.inj hstep
    exact kept_otherClient ht hissued hok

theorem kept_initial {w : World} (h : Initial w) : Kept { world := w } := by
  refine ⟨issued_of_not fun site call => by simp [h.pc], fun hrunning => absurd h.exposure hrunning,
    fun hrunning => absurd h.exposure hrunning, ?_, ?_⟩
  · intro _
    exact h.stopEvent
  · intro hpc
    dsimp only at hpc
    rw [h.pc] at hpc
    cases hpc

/-! ### Each notification once -/

/-- Every call succeeds, each notification is handled once, and the driver has the analyser to
itself. The order of the notifications and their delays are free. -/
def single (l : Label) : Prop := l.succeeds = true ∧ l.alone = true

/-- What holds then: the subscriptions agree, signals are counted, and no notification that is
older than the exposure will signal. -/
structure Single (t : Traced) : Prop where
  issued : Issued t.world
  linked : Linked t.world
  notified : Notified t.world
  secured : Secured t.world
  older : t.world.pc = .waitStop → t.stale ≤ t.world.server.pending.length ∧
    ∀ i, i < t.stale → t.signals i = false

/-- Where nothing is on its way, no notification signals. -/
theorem signals_of_silent (hlinked : Linked t.world) (hsilent : Silent t.world) (i : Nat) :
    t.signals i = false := by
  by_contra hsignals
  rw [Bool.not_eq_false, signals, Option.any_eq_true] at hsignals
  obtain ⟨p, hp, hsignals⟩ := hsignals
  rw [Bool.and_eq_true, List.contains_iff_mem] at hsignals
  have hguid : t.world.task.guidState = some p.1 := (mem_subscribers hlinked).mp hsignals.1
  have hlive := hsilent.live
  rw [Server.live, List.countP_eq_zero] at hlive
  apply hlive p (List.mem_of_getElem? hp)
  simp [hguid, hsignals.2]

theorem follow_world (w : World) (l : Label) : (t.follow w l).world = w := by
  cases l with
  | task reply =>
    simp only [follow]
    split <;> rfl
  | _ => rfl

/-- Only the answer to `AcquisitionAsync` leads to the wait. -/
theorem waitStop_of_taskStep {w : World} {reply : Reply} (h : w.taskStep reply = some w')
    (hwait : w'.pc = .waitStop) : ∃ call, w.pc = .inCall .start call := by
  have hstep := taskStep_cases h
  cases hpc : w.pc <;> simp only [hpc] at hstep
  case entry =>
    obtain ⟨_, rfl⟩ := hstep
    exact absurd hwait (loopHead_starts w).2
  case woken =>
    obtain ⟨_, rfl⟩ := hstep
    rw [weAreAcquiring_pc] at hwait
    cases hwait
  case call site =>
    obtain ⟨call, _, rfl⟩ | ⟨hcall, rfl⟩ := hstep
    · cases hwait
    · by_cases hsite : site = .start
      · subst hsite
        cases hcall
      · exact absurd hwait ((returnedAt_starts site w.server).2 hsite)
  case inCall site call =>
    subst hstep
    by_cases hsite : site = .start
    · subst hsite
      exact ⟨call, rfl⟩
    · cases reply with
      | ok =>
        rw [answered_ok] at hwait
        exact absurd hwait ((returnedAt_starts site _).2 hsite)
      | raised what executed => exact absurd hwait (raisedAt_starts (w := _) site what).2
  case leaveTry =>
    obtain ⟨_, rfl⟩ := hstep
    exact absurd hwait (afterTry_starts w).2
  case callbacks =>
    obtain ⟨_, rfl⟩ := hstep
    exact absurd hwait (loopHead_starts _).2
  case exposureLoop =>
    subst hstep
    unfold exposureTest at hwait
    dsimp only at hwait
    split at hwait <;> cases hwait
  case exposureDone =>
    obtain ⟨_, rfl⟩ := hstep
    unfold exposureFinished at hwait
    dsimp only at hwait
    split at hwait <;> cases hwait
  case waitStart | waitStop =>
    obtain ⟨_, rfl⟩ := hstep
    cases hwait
  case clearSteps | tryWait =>
    subst hstep
    cases hwait

theorem length_pending_exec (v : Server) (call : Call) :
    v.pending.length ≤ (v.exec call).pending.length := by
  cases call
  case startMeasurement | acquisitionAsync | finishMeasurement =>
    simp only [Server.exec]
    split
    · simp [Server.enter]
    · exact le_refl _
  all_goals exact le_refl _

theorem pending_of_endExposure {v v' : Server} {how : Ending} (h : v.endExposure how = some v') :
    v'.pending = v.pending ++ v.observers.map fun guid => (guid, how.state) := by
  unfold Server.endExposure at h
  split at h
  · split at h
    · cases h
    · obtain rfl := Option.some.inj h
      rfl
  · cases h

/-- At the beginning of the wait all that is older has signalled already. -/
theorem older_of_started {id : Option Nat} (hlinked : Linked t.world) (hsilent : Silent t.world)
    {i : Nat} (hi : i < t.world.server.pending.length) {stale : Nat} {ended old : Bool} :
    Traced.signals { world := t.world.answered .start (.acquisitionAsync id) .ok
                     stale := stale, ended := ended, old := old } i = false := by
  have hpending : (t.world.server.exec (.acquisitionAsync id)).pending[i]? =
      t.world.server.pending[i]? := by
    simp only [Server.exec]
    split
    · exact List.getElem?_append_left hi
    · rfl
  rw [← signals_of_silent hlinked hsilent i, answered_ok]
  unfold signals
  simp only [returnedAt, hpending]

theorem single_taskStep (ht : t.Single) (h : t.world.taskStep .ok = some w') :
    Single (t.follow w' (.task .ok)) := by
  have hfree : ∀ call, t.world.pc = .inCall .startMeasurement call →
      t.world.task.guidState = none := by
    intro call hpc
    exact (ht.secured.idle (ht.secured.place _ (Or.inr ⟨call, hpc⟩))).1
  constructor
  · rw [follow_world]
    exact issued_taskStep h
  · rw [follow_world]
    exact linked_taskStep ht.issued (afresh_of_secured ht.secured) ht.linked rfl h
  · rw [follow_world]
    exact notified_taskStep ht.issued ht.linked ht.notified hfree rfl h
  · rw [follow_world]
    exact secured_taskStep ht.issued ht.secured h
  · intro hwait
    rw [follow_world] at hwait
    obtain ⟨call, hpc⟩ := waitStop_of_taskStep h hwait
    have hstarting : t.starting = true := by simp [starting, hpc]
    have hsilent : Silent t.world := ht.notified.silent (by simp [hpc])
    have hstep := taskStep_cases h
    simp only [hpc] at hstep
    obtain rfl := Option.some.inj (call_of_issued ht.issued hpc (by simp))
    subst hstep
    simp only [follow, hstarting, if_true]
    constructor
    · rw [answered_ok]
      exact length_pending_exec t.world.server _
    · intro i hi
      exact older_of_started ht.linked hsilent hi

theorem single_of_step {l : Label} (hl : ∀ reply, l ≠ .task reply) (ht : t.Single)
    (halone : l.alone = true) (h : t.world.step base l = some w') : Single (t.follow w' l) := by
  have hplace := samePlace_of_step hl h
  constructor
  · rw [follow_world]
    exact ht.issued.of_samePlace hplace
  · rw [follow_world]
    exact ht.linked.of_same (sameLinks_of_step hl h)
  · rw [follow_world]
    exact notified_of_step hl halone ht.linked ht.notified h
  · rw [follow_world]
    exact secured_of_step hl halone ht.linked ht.notified ht.secured h
  · intro hwait
    rw [follow_world, hplace.pc] at hwait
    obtain ⟨hlength, holder⟩ := ht.older hwait
    have hsame : (∀ i, i < t.world.server.pending.length →
        w'.server.pending[i]? = t.world.server.pending[i]?) →
        t.world.server.pending.length ≤ w'.server.pending.length →
        ∀ ended, t.stale ≤ w'.server.pending.length ∧ ∀ i, i < t.stale →
          Traced.signals { world := w', stale := t.stale, ended := ended, old := t.old } i = false := by
      intro hkeeps hgrows ended
      refine ⟨hlength.trans hgrows, ?_⟩
      intro i hi
      rw [← holder i hi]
      unfold signals
      dsimp only
      rw [hkeeps i (hi.trans_le hlength), hplace.subscribers]
    cases l with
    | task reply => exact absurd rfl (hl reply)
    | write f v reply =>
      obtain ⟨_, d, action, _, rfl⟩ := step_write h
      have hserver := portAction_server (w := { t.world with driver := d }) action
      exact hsame (fun i _ => by rw [hserver]) (by rw [hserver]) t.ended
    | writeFloat f v reply =>
      simp only [World.step] at h
      split at h
      · obtain ⟨d, _, rfl⟩ := Option.map_eq_some_iff.mp h
        exact hsame (fun _ _ => rfl) le_rfl t.ended
      · cases h
    | port reply =>
      obtain ⟨_, _, rfl⟩ | ⟨c, _, _, rfl⟩ := portStep_cases h
      · exact hsame (fun _ _ => rfl) le_rfl t.ended
      · have hpending : (if (reply.event c.call).carriedOut c.call then t.world.server.exec c.call
            else t.world.server).pending = t.world.server.pending := by
          split
          · cases c <;> rfl
          · rfl
        exact hsame (fun i _ => by rw [hpending]) (by rw [hpending]) t.ended
    | exposureEnd how =>
      obtain ⟨v, hv, rfl⟩ := Option.map_eq_some_iff.mp h
      have hpending := pending_of_endExposure hv
      refine hsame ?_ ?_ true
      · intro i hi
        dsimp only
        rw [hpending, List.getElem?_append_left hi]
      · dsimp only
        rw [hpending, List.length_append]
        omega
    | notify index keep =>
      obtain rfl : keep = false := by simpa [Label.alone] using halone
      obtain ⟨p, hp, rfl⟩ := deliver_signals h
      have hindex := (List.getElem?_eq_some_iff.mp hp).1
      dsimp only [follow]
      simp only [Bool.false_eq_true, if_false, true_and]
      constructor
      · rw [List.length_eraseIdx_of_lt hindex]
        split <;> omega
      · intro i hi
        -- The notifications behind the one that has gone move up by one place.
        have hmoved : i < index ∧ i < t.stale ∨ ¬ i < index ∧ i + 1 < t.stale := by
          split at hi <;> omega
        unfold signals
        dsimp only
        rw [List.getElem?_eraseIdx]
        rcases hmoved with ⟨hbefore, hstale⟩ | ⟨hbehind, hstale⟩
        · rw [if_pos hbefore]
          exact holder i hstale
        · rw [if_neg hbehind]
          exact holder (i + 1) hstale
    | spectrumUpdate settings =>
      simp only [World.step] at h
      split at h
      · obtain rfl := Option.some.inj h
        exact hsame (fun _ _ => rfl) le_rfl t.ended
      · cases h
    | otherClient state keepsOwn => cases halone

theorem single_step {l : Label} (ht : t.Single) (hok : single l) (h : t.step base l = some t') :
    t'.Single := by
  obtain ⟨w', hstep, rfl⟩ := Option.map_eq_some_iff.mp h
  by_cases hl : ∃ reply, l = .task reply
  · obtain ⟨reply, rfl⟩ := hl
    obtain rfl : reply = .ok := by simpa [Label.succeeds] using hok.1
    exact single_taskStep ht hstep
  · exact single_of_step (fun reply hr => hl ⟨reply, hr⟩) ht hok.2 hstep

theorem single_initial {w : World} (h : Initial w) : Single { world := w } where
  issued := (measures_initial h).issued
  linked := (subscribed_initial h).linked
  notified := notified_initial h
  secured := by
    refine .of_away (fun _ => ⟨h.guidState, h.guidAcquired⟩) ?_ ?_ <;> simp [h.pc]
  older hwait := by
    dsimp only at hwait
    rw [h.pc] at hwait
    cases hwait

/-- A notification that is handled once is handled before the next exposure. -/
theorem timely_of_single {l : Label} (ht : t.Single) (hok : single l) : t.timely l = true := by
  cases l with
  | notify index keep =>
    simp only [timely]
    by_contra hlate
    simp only [Bool.not_eq_true, Bool.not_eq_false', Bool.and_eq_true] at hlate
    obtain ⟨⟨_, hsignals⟩, hbefore⟩ := hlate
    by_cases hwait : t.world.pc = .waitStop
    · have hstale : index < t.stale := by simpa [generatedBefore, hwait] using hbefore
      rw [(ht.older hwait).2 index hstale] at hsignals
      cases hsignals
    · rw [signals_of_silent ht.linked (ht.notified.silent hwait) index] at hsignals
      cases hsignals
  | otherClient state keepsOwn => cases hok.2
  | _ => rfl

/-- In every run in which no notification of an earlier time signals between the drain and the
end of a wait, a wait ends only after its exposure has, and by a notification generated since
its `AcquisitionAsync`. Delays and reordering alone never break this. -/
theorem wait_ends_after_exposure {w₀ : World} (hinit : Initial w₀) :
    (∀ t, Run (step base) (fun t l => t.timely l = true) { world := w₀ } t →
      ∀ reply t', t.step base (.task reply) = some t' → t.world.pc = .waitStop →
        t.ended = true ∧ t.old = false ∧ t.world.server.exposure = none) ∧
      ∀ t, Run (step base) (fun _ l => single l) { world := w₀ } t →
        Run (step base) (fun t l => t.timely l = true) { world := w₀ } t := by
  constructor
  · intro t hrun reply t' h hwait
    have ht : t.Kept :=
      hrun.invariant (fun _ _ _ ha hok hs => kept_step ha hok hs) (kept_initial hinit)
    obtain ⟨w', hstep, _⟩ := Option.map_eq_some_iff.mp h
    have hcases := taskStep_cases hstep
    simp only [hwait] at hcases
    exact (ht.waiting hwait).signalled hcases.1
  · intro t hrun
    have hstrong := hrun.strengthen (fun _ _ _ ha hok hs => single_step ha hok hs)
      (single_initial hinit)
    exact hstrong.mono fun t l hok => timely_of_single hok.1 hok.2

/-- An exposure ends, and the notification of its end comes twice before the task goes on. -/
theorem wait_ends_after_exposure_repeated :
    ∃ t t' : Traced, Run (step (.store 8)) (fun t l => t.timely l = true)
        { world := .atRest adImageSingle 1 2 0 } t ∧
      t.step (.store 8) (.task .ok) = some t' ∧ t.ended = true ∧ t.old = false ∧
      t.world.server.exposure = none := by
  have hreaches : reaches (step (.store 8)) (fun t l => t.timely l = true)
      { world := .atRest adImageSingle 1 2 0 }
      (firstExposure ++ [.exposureEnd .normal, .notify 1 true, .notify 1 false])
      (fun t => t.world.pc = .waitStop ∧ (t.step (.store 8) (.task .ok)).isSome) = true := by
    decide +kernel
  obtain ⟨t, hrun, htest⟩ := run_of_reaches hreaches
  obtain ⟨hwait, hstep⟩ := of_decide_eq_true htest
  obtain ⟨t', hstep⟩ := Option.isSome_iff_exists.mp hstep
  have hends := (wait_ends_after_exposure (atRest_initial adImageSingle 1 2 0)).1 t hrun .ok t' hstep
    hwait
  exact ⟨t, t', hrun, hstep, hends⟩

/-- The notification of the end of the first exposure comes a second time while the task waits
for the second, and releases that wait with the exposure running. -/
theorem repeated_notification_releases :
    Initial (.atRest adImageSingle 1 2 0) ∧
      ∃ t t' : Traced, Run (step (.store 8)) always { world := .atRest adImageSingle 1 2 0 } t ∧
        t.world.pc = .waitStop ∧ t.step (.store 8) (.task .ok) = some t' ∧
        t'.world.pc = .exposureDone ∧ t.old = true ∧ t.ended = false ∧
        t.world.server.exposure ≠ none := by
  refine ⟨atRest_initial .., ?_⟩
  have hreaches : reaches (step (.store 8)) always { world := .atRest adImageSingle 1 2 0 }
      (firstExposure ++ [.exposureEnd .normal, .notify 1 true] ++ .replicate 7 (.task .ok) ++
        [.notify 1 false])
      (fun t => t.world.pc = .waitStop ∧ t.old = true ∧ t.ended = false ∧
        t.world.server.exposure ≠ none ∧
        (t.step (.store 8) (.task .ok)).any fun t' => t'.world.pc = .exposureDone) = true := by
    decide +kernel
  obtain ⟨t, hrun, htest⟩ := run_of_reaches hreaches
  obtain ⟨hwait, hold, hended, hexposure, hstep⟩ := of_decide_eq_true htest
  obtain ⟨t', hstep, hdone⟩ := (Option.any_eq_true _ _).mp hstep
  exact ⟨t, t', hrun, hwait, hstep, of_decide_eq_true hdone, hold, hended, hexposure⟩

end Traced

end PeakAnalyser

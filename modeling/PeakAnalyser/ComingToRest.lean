import PeakAnalyser.AcquireStatus
import PeakAnalyser.StopRequests
import PeakAnalyser.Wakeups

/-!
# A stop request brings the driver to rest

Once `ADAcquire` is zero and nobody asks for a start, the task has a bounded number of steps left,
whatever the server does. With the analyser to itself it is never stuck before it waits for the
next start command, which is then accepted.
-/

namespace PeakAnalyser

set_option autoImplicit false

open Runs

/-- The steps from the answer of a site to the wait for the start command: the finishing sequence
comes before the clean-up, into which every call of it can fail. -/
def Site.stepsToRest : Site → Nat
  | .currentState => 42
  | .defineSpectrum => 40
  | .startMeasurement => 38
  | .setupSpectrum => 36
  | .subscribeToState => 34
  | .subscribeToObservable => 32
  | .clearSpectrum => 30
  | .start => 25
  | .getMeasuredSpectrum => 21
  | .unsubscribeState => 19
  | .unsubscribeAcquired => 17
  | .finishSpectrum => 15
  | .finishMeasurement => 13
  | .cleanupUnsubscribeState => 11
  | .cleanupUnsubscribeAcquired => 9
  | .cleanupCurrentState => 7
  | .cleanupFinishSpectrum => 5
  | .cleanupFinishMeasurement => 3

def Pc.stepsToRest : Pc → Nat
  | .entry => 1
  | .waitStart => 0
  | .woken => 44
  | .call site => site.stepsToRest + 1
  | .inCall site _ => site.stepsToRest
  | .exposureLoop => 29
  | .clearSteps => 28
  | .tryWait => 27
  | .waitStop => 24
  | .exposureDone => 23
  | .leaveTry => 2
  | .callbacks => 1

/-- The steps still ahead of the port thread. -/
def Port.steps : Port → Nat
  | .idle => 0
  | .calling _ false => 2
  | .calling _ true => 1

/-- A step of the task, of the port thread, or of the server towards the driver. A client decides
how often it writes, and the server how many updates an exposure has. -/
def Label.isWork : Label → Bool
  | .task _ | .port _ | .exposureEnd _ | .notify _ _ => true
  | _ => false

/-- No client writes `ADStatus`. -/
def Label.leavesStatus : Label → Bool
  | .write .adStatus _ _ => false
  | _ => true

namespace Server

variable {v : Server}

/-- An exposure that runs, and the notifications on their way. -/
def load (v : Server) : Nat := 2 * v.exposure.isSome.toNat + v.pending.length

theorem load_enter (state : AnalyserState) (h : v.observers.length ≤ 1) :
    (v.enter state).pending.length ≤ v.pending.length + 1 := by
  simp only [enter_pending, List.length_append, List.length_map]
  omega

theorem load_exec (call : Call) (h : v.observers.length ≤ 1) : (v.exec call).load ≤ v.load + 3 := by
  have henter := fun state => load_enter (v := v) state h
  unfold load
  cases call
  case startMeasurement =>
    simp only [exec]
    split
    · have hle := henter .measuring
      simp only [enter_exposure, enter_pending] at hle ⊢
      omega
    · omega
  case acquisitionAsync =>
    simp only [exec]
    split
    · have hle := henter .acquiring
      have hsome := Bool.toNat_le v.exposure.isSome
      simp only [enter_pending, Option.isSome_some, Bool.toNat_true] at hle ⊢
      omega
    · omega
  case finishMeasurement =>
    simp only [exec]
    split
    · have hle := henter .active
      simp only [enter_exposure, enter_pending] at hle ⊢
      omega
    · omega
  case cancelAcquisition => simp [exec]
  all_goals exact Nat.le_add_right _ _

theorem load_endExposure {v' : Server} {how : Ending} (h : v.observers.length ≤ 1)
    (hend : v.endExposure how = some v') : v'.load + 1 ≤ v.load := by
  obtain ⟨hrunning, _, hnone, _⟩ := v.endExposure_ends hend
  have hpending := congrArg List.length (Traced.pending_of_endExposure hend)
  have hsome : v.exposure.isSome = true := Option.isSome_iff_ne_none.mpr hrunning
  rw [List.length_append, List.length_map] at hpending
  unfold load
  rw [hnone, hsome]
  simp only [Option.isSome_none, Bool.toNat_false, Bool.toNat_true]
  omega

end Server

namespace World

variable {w w' : World} {base : ADDriver}

/-- A bound for the steps of the task until it waits for the next start command, if `ADAcquire` is
zero. -/
def stepsToRest (w : World) : Nat := w.pc.stepsToRest + if w.startEvent then 45 else 0

/-! ### The steps of the task -/

theorem adAcquire_weAreAcquiring (w : World) :
    w.weAreAcquiring.driver.int .adAcquire = w.driver.int .adAcquire := by
  simp [weAreAcquiring]

theorem adAcquire_completed (h : w.driver.int .adAcquire = 0) :
    w.completed.driver.int .adAcquire = 0 := by
  unfold completed
  dsimp only
  split
  · simp
  · exact h

/-- The task writes nothing but zero to `ADAcquire`. -/
theorem adAcquire_taskStep {reply : Reply} (hzero : w.driver.int .adAcquire = 0)
    (h : w.taskStep reply = some w') : w'.driver.int .adAcquire = 0 := by
  have hhead : ∀ v : World, v.driver.int .adAcquire = 0 → v.loopHead.driver.int .adAcquire = 0 :=
    fun v hv => ((loopHead_head v).int .adAcquire (by simp)).trans hv
  have hstep := taskStep_cases h
  cases hpc : w.pc <;> simp only [hpc] at hstep
  case entry =>
    obtain ⟨_, rfl⟩ := hstep
    exact hhead w hzero
  case woken =>
    obtain ⟨_, rfl⟩ := hstep
    exact ((startImage_head _).int .adAcquire (by simp)).trans
      ((adAcquire_weAreAcquiring w).trans hzero)
  case call site =>
    obtain ⟨call, _, rfl⟩ | ⟨_, rfl⟩ := hstep
    · exact hzero
    · rw [(returnedAt_taskOnly w site w.server).driver]
      exact hzero
  case inCall site call =>
    subst hstep
    rw [(answered_taskOnly w site call reply).driver]
    exact hzero
  case exposureDone =>
    obtain ⟨_, rfl⟩ := hstep
    have hread : w.int .adAcquire = 0 := hzero
    unfold exposureFinished
    rw [if_pos hread]
    exact hzero
  case leaveTry =>
    obtain ⟨_, rfl⟩ := hstep
    unfold afterTry
    split
    · exact hhead _ (by simp [errored])
    · split
      · exact hhead _ (by simpa [aborted] using hzero)
      · have hpublished : w.published.driver.int .adAcquire = 0 := by simpa [published] using hzero
        split
        · exact hpublished
        · exact hhead _ (adAcquire_completed hpublished)
  case callbacks =>
    obtain ⟨_, rfl⟩ := hstep
    exact hhead _ (adAcquire_completed hzero)
  case waitStart | waitStop =>
    obtain ⟨_, rfl⟩ := hstep
    exact hzero
  case exposureLoop | clearSteps | tryWait =>
    subst hstep
    exact hzero

theorem stepsToRest_cleanupAcquired (w : World) : w.cleanupAcquired.pc.stepsToRest ≤ 10 := by
  unfold cleanupAcquired
  split <;> simp [Pc.stepsToRest, Site.stepsToRest]

theorem stepsToRest_caught (w : World) (what : String) : (w.caught what).pc.stepsToRest ≤ 12 := by
  unfold caught
  dsimp only
  split
  · simp [Pc.stepsToRest, Site.stepsToRest]
  · exact (stepsToRest_cleanupAcquired _).trans (by omega)

theorem stepsToRest_returnedAt (w : World) (site : Site) (answer : Server) :
    (w.returnedAt site answer).pc.stepsToRest < site.stepsToRest := by
  cases site
  case currentState =>
    unfold returnedAt
    dsimp only
    split
    · simp [Pc.stepsToRest, Site.stepsToRest]
    · exact (stepsToRest_caught w _).trans_lt (by simp [Site.stepsToRest])
  case getMeasuredSpectrum =>
    unfold returnedAt measured
    dsimp only
    split <;> split <;> simp [Pc.stepsToRest, Site.stepsToRest]
  case cleanupUnsubscribeState =>
    exact (stepsToRest_cleanupAcquired _).trans_lt (by simp [Site.stepsToRest])
  case cleanupCurrentState =>
    unfold returnedAt
    dsimp only
    split
    · split <;> simp [Pc.stepsToRest, Site.stepsToRest]
    · simp [Pc.stepsToRest, Site.stepsToRest]
  all_goals simp [returnedAt, Pc.stepsToRest, Site.stepsToRest]

theorem stepsToRest_raisedAt (w : World) (site : Site) (what : String) :
    (w.raisedAt site what).pc.stepsToRest < site.stepsToRest := by
  unfold raisedAt
  split
  · cases site <;> simp [Pc.stepsToRest, Site.stepsToRest]
  · rename_i hcleanup
    refine (stepsToRest_caught w what).trans_lt ?_
    cases site <;> simp [Site.inCleanup, Site.stepsToRest] at hcleanup ⊢

theorem stepsToRest_answered (w : World) (site : Site) (call : Call) (reply : Reply) :
    (w.answered site call reply).pc.stepsToRest < site.stepsToRest := by
  cases reply with
  | ok => exact stepsToRest_returnedAt _ site _
  | raised what executed => exact stepsToRest_raisedAt _ site what

/-- The section that ends an image comes to rest, or to the array callbacks first. -/
theorem stepsToRest_afterTry (hzero : w.driver.int .adAcquire = 0) :
    w.afterTry.pc.stepsToRest ≤ 1 := by
  have hparks : ∀ v : World, v.driver.int .adAcquire = 0 → v.loopHead.pc.stepsToRest ≤ 1 := by
    intro v hv
    rw [(loopHead_parks hv).pc]
    simp [Pc.stepsToRest]
  unfold afterTry
  split
  · exact hparks _ (by simp [errored])
  · split
    · exact hparks _ (by simpa [aborted] using hzero)
    · split
      · simp [Pc.stepsToRest]
      · exact hparks _ (adAcquire_completed (by simpa [published] using hzero))

theorem stepsToRest_taskStep {reply : Reply} (hzero : w.driver.int .adAcquire = 0)
    (h : w.taskStep reply = some w') : w'.stepsToRest < w.stepsToRest := by
  have hlower : w'.startEvent = w.startEvent → w'.pc.stepsToRest < w.pc.stepsToRest →
      w'.stepsToRest < w.stepsToRest := by
    intro hevent hlt
    unfold World.stepsToRest
    rw [hevent]
    omega
  have hstep := taskStep_cases h
  cases hpc : w.pc <;> simp only [hpc] at hstep hlower
  case waitStart =>
    obtain ⟨hevent, rfl⟩ := hstep
    simp [World.stepsToRest, hpc, hevent, Pc.stepsToRest]
  case entry =>
    obtain ⟨_, rfl⟩ := hstep
    refine hlower (loopHead_head w).startEvent ?_
    rw [(loopHead_parks hzero).pc]
    simp [Pc.stepsToRest]
  case woken =>
    obtain ⟨_, rfl⟩ := hstep
    refine hlower ((startImage_head _).startEvent.trans (weAreAcquiring_locked w).startEvent) ?_
    rw [pc_woken]
    simp [Pc.stepsToRest, Site.stepsToRest]
  case call site =>
    obtain ⟨call, _, rfl⟩ | ⟨_, rfl⟩ := hstep
    · exact hlower rfl (Nat.lt_succ_self _)
    · exact hlower (returnedAt_taskOnly w site w.server).startEvent
        ((stepsToRest_returnedAt w site w.server).trans (Nat.lt_succ_self _))
  case inCall site call =>
    subst hstep
    exact hlower (answered_taskOnly w site call reply).startEvent
      (stepsToRest_answered w site call reply)
  case exposureLoop =>
    subst hstep
    refine hlower rfl ?_
    unfold exposureTest
    dsimp only
    split <;> simp [Pc.stepsToRest, Site.stepsToRest]
  case exposureDone =>
    obtain ⟨_, rfl⟩ := hstep
    have hread : w.int .adAcquire = 0 := hzero
    unfold exposureFinished at hlower ⊢
    rw [if_pos hread] at hlower ⊢
    exact hlower rfl (by simp [Pc.stepsToRest, Site.stepsToRest])
  case leaveTry =>
    obtain ⟨_, rfl⟩ := hstep
    exact hlower (afterTry_locked w).startEvent
      ((stepsToRest_afterTry hzero).trans_lt (by simp [Pc.stepsToRest]))
  case callbacks =>
    obtain ⟨_, rfl⟩ := hstep
    refine hlower (completed_loopHead_locked w).startEvent ?_
    rw [(loopHead_parks (adAcquire_completed hzero)).pc]
    simp [Pc.stepsToRest]
  case waitStop =>
    obtain ⟨_, rfl⟩ := hstep
    exact hlower rfl (by simp [Pc.stepsToRest])
  case clearSteps | tryWait =>
    subst hstep
    exact hlower rfl (by simp [Pc.stepsToRest, Site.stepsToRest])

/-- No other step takes the task away from its rest, or lets `ADAcquire` ask for an image. -/
theorem stepsToRest_of_step {l : Label} (hl : ∀ reply, l ≠ .task reply) (hstart : noStart w l)
    (hzero : w.driver.int .adAcquire = 0) (h : w.step base l = some w') :
    w'.driver.int .adAcquire = 0 ∧ w'.stepsToRest = w.stepsToRest := by
  constructor
  · by_cases hwrite : ∃ v reply, l = .write .adAcquire v reply
    · obtain ⟨v, reply, rfl⟩ := hwrite
      obtain ⟨_, rfl⟩ := step_write_adAcquire h
      rw [portAction_driver]
      simpa [noStart, Label.isStart] using hstart
    · rw [control_of_step rfl hl (fun v reply hr => hwrite ⟨v, reply, hr⟩) h]
      exact hzero
  · unfold World.stepsToRest
    rw [(samePlace_of_step hl h).pc]
    obtain hsame | ⟨v, reply, rfl, hne, _⟩ := startEvent_of_step hl h
    · rw [hsame]
    · exact absurd (by simpa [noStart, Label.isStart] using hstart) hne

/-- From any state with `ADAcquire` zero, whatever the server answers, fails and notifies, whatever
other clients do and whatever is written but a start: the task has at most 89 steps left before
it waits for a start command. -/
theorem stop_bounds_task {labels : List Label} (hzero : w.driver.int .adAcquire = 0)
    (hpath : Path (step base) noStart w labels w') :
    labels.countP Label.isTask + w'.stepsToRest ≤ w.stepsToRest ∧ w.stepsToRest ≤ 89 := by
  constructor
  · refine hpath.count_add_rank_le (P := fun v => v.driver.int .adAcquire = 0) ?_ ?_ hzero
    · intro a l b ha hok h
      by_cases hl : ∃ reply, l = .task reply
      · obtain ⟨reply, rfl⟩ := hl
        exact adAcquire_taskStep ha h
      · exact (stepsToRest_of_step (fun reply hr => hl ⟨reply, hr⟩) hok ha h).1
    · intro a l b ha hok h
      by_cases hl : ∃ reply, l = .task reply
      · obtain ⟨reply, rfl⟩ := hl
        exact stepsToRest_taskStep ha h
      · have hl : ∀ reply, l ≠ .task reply := fun reply hr => hl ⟨reply, hr⟩
        rw [(stepsToRest_of_step hl hok ha h).2]
        cases l with
        | task reply => exact absurd rfl (hl reply)
        | _ => exact Nat.le_refl _
  · have hpc : w.pc.stepsToRest ≤ 44 := by
      cases w.pc with
      | call site | inCall site => cases site <;> simp [Pc.stepsToRest, Site.stepsToRest]
      | _ => simp [Pc.stepsToRest]
    unfold World.stepsToRest
    split <;> omega

/-- A stop that meets a failing exposure and a failing clean-up. -/
theorem stop_bounds_task_failing : ∃ w w' labels, w.driver.int .adAcquire = 0 ∧
    Path (step (.store 8)) noStart w labels w' ∧ w'.pc = .waitStart ∧
      labels.countP Label.isTask + w'.stepsToRest ≤ w.stepsToRest ∧ w.stepsToRest ≤ 89 := by
  have hstopped : reaches (step (.store 8)) always (atRest adImageMultiple 2 2 0)
      (firstExposure ++ [.write .adAcquire 0 .raised])
      (fun w => w.driver.int .adAcquire = 0 ∧ reaches (step (.store 8)) noStart w
        [.port .ok, .port .ok, .exposureEnd .failed, .notify 1 true, .otherClient .idle false,
          .task .ok, .task .ok, .task .ok, .task (.raised "" true), .task .ok,
          .task (.raised "" true), .task .ok]
        (fun w' => w'.pc = .waitStart)) = true := by
    decide +kernel
  obtain ⟨w, _, htest⟩ := run_of_reaches hstopped
  obtain ⟨hzero, hrest⟩ := of_decide_eq_true htest
  obtain ⟨w', hpath, hpc⟩ := path_of_reaches hrest
  exact ⟨w, w', _, hzero, hpath, of_decide_eq_true hpc, stop_bounds_task hzero hpath⟩

/-! ### With the analyser to itself -/

/-- No client writes, and the driver has the analyser to itself. -/
def unattended (w : World) (l : Label) : Prop :=
  soleClient w l ∧
  match l with
  | .write _ _ _ | .writeFloat _ _ _ => False
  | _ => True

/-- The driver waits for the next start command, and nothing is on its way to it. -/
structure AtRest (w : World) : Prop where
  pc : w.pc = .waitStart
  startEvent : w.startEvent = false
  port : w.port = .idle
  exposure : w.server.exposure = none
  pending : w.server.pending = []

/-- A bound for all steps that are left before the driver is at rest. -/
def pendingWork (w : World) : Nat := 4 * w.stepsToRest + w.server.load + w.port.steps

theorem observers_length (hlinked : Linked w) : w.server.observers.length ≤ 1 := by
  rw [hlinked.observers]
  cases w.task.guidState <;> simp

/-- A call of the task starts at most one exposure and sends at most one notification. -/
theorem load_taskStep {reply : Reply} (hlinked : Linked w) (h : w.taskStep reply = some w') :
    w'.server.load ≤ w.server.load + 3 := by
  rcases server_of_taskStep h with hsame | ⟨site, call, _, hserver⟩
  · rw [hsame]
    omega
  · rw [hserver]
    split
    · exact Server.load_exec call (observers_length hlinked)
    · omega

theorem pendingWork_step {l : Label} (hw : Awake w) (hzero : w.driver.int .adAcquire = 0)
    (hok : unattended w l) (h : w.step base l = some w') :
    w'.driver.int .adAcquire = 0 ∧
      w'.pendingWork + (if l.isWork then 1 else 0) ≤ w.pendingWork := by
  unfold pendingWork
  by_cases hl : ∃ reply, l = .task reply
  · obtain ⟨reply, rfl⟩ := hl
    have hload := load_taskStep hw.linked h
    have hlower := stepsToRest_taskStep hzero h
    refine ⟨adAcquire_taskStep hzero h, ?_⟩
    rw [port_of_taskStep h]
    simp only [Label.isWork, if_true]
    omega
  have hl : ∀ reply, l ≠ .task reply := fun reply hr => hl ⟨reply, hr⟩
  have hstart : noStart w l := by
    cases l with
    | write f v reply => exact hok.2.elim
    | _ => rfl
  obtain ⟨hzero', hsame⟩ := stepsToRest_of_step hl hstart hzero h
  refine ⟨hzero', ?_⟩
  rw [hsame]
  cases l with
  | task reply => exact absurd rfl (hl reply)
  | write f v reply => exact hok.2.elim
  | writeFloat f v reply => exact hok.2.elim
  | otherClient state keepsOwn =>
    obtain ⟨⟨halone, _⟩, _⟩ := hok
    cases halone
  | port reply =>
    obtain ⟨c, hport, rfl⟩ | ⟨c, text, hport, rfl⟩ := portStep_cases h
    · simp [record, hport, Port.steps, Label.isWork]
    · have hload : (w.server.exec c.call).load = w.server.load := by
        cases c <;> simp [PortCall.call, Server.exec, Server.load]
      rw [hport]
      dsimp only
      split
      · rw [hload]
        simp [Port.steps, Label.isWork]
      · simp [Port.steps, Label.isWork]
  | exposureEnd how =>
    obtain ⟨v, hend, rfl⟩ := Option.map_eq_some_iff.mp h
    have hload := Server.load_endExposure (observers_length hw.linked) hend
    simp only [Label.isWork, if_true]
    omega
  | notify index keep =>
    obtain ⟨⟨halone, _⟩, _⟩ := hok
    obtain rfl : keep = false := by simpa [Label.alone] using halone
    change w.deliver index false = some w' at h
    unfold deliver at h
    split at h
    · rename_i guid state hdelivered
      obtain rfl := Option.some.inj h
      obtain ⟨hindex, _⟩ := List.getElem?_eq_some_iff.mp hdelivered
      have hlength := List.length_eraseIdx_of_lt hindex
      obtain hcallback | hcallback := stateCallback_cases
        { w with server := { w.server with pending := w.server.pending.eraseIdx index } } guid state
      · simp only [Bool.false_eq_true, if_false, hcallback, Label.isWork, if_true, Server.load]
        omega
      · simp only [Bool.false_eq_true, if_false, hcallback, Label.isWork, if_true, Server.load]
        omega
    · cases h
  | spectrumUpdate settings =>
    simp only [step] at h
    split at h
    · obtain rfl := Option.some.inj h
      exact Nat.le_refl _
    · cases h

/-- The task waits for the port thread, the port thread for the server, and the task for an
exposure that runs or a notification that is on its way: somebody can always go on. -/
theorem atRest_or_enabled (hw : Awake w) :
    AtRest w ∨ ∃ l, l.isWork = true ∧ unattended w l ∧ (w.step base l).isSome = true := by
  by_cases hport : w.port = .idle
  swap
  · -- The port thread is in a call: it can issue it, or get its answer.
    refine .inr ⟨.port (.raised "" false), rfl, ⟨⟨rfl, fun _ => trivial, trivial⟩, trivial⟩, ?_⟩
    change (w.portStep (.raised "" false)).isSome = true
    unfold portStep
    split
    · rename_i hidle
      exact absurd hidle hport
    · rfl
    · rename_i c _
      dsimp only
      split <;> rfl
  by_cases hpending : w.server.pending = []
  swap
  · obtain ⟨p, rest, hcons⟩ := List.exists_cons_of_ne_nil hpending
    refine .inr ⟨.notify 0 false, rfl, ⟨⟨rfl, fun _ => trivial, trivial⟩, trivial⟩, ?_⟩
    unfold step deliver
    simp [hcons]
  have htask : ∀ w', w.taskStep (.raised "" false) = some w' →
      ∃ l, l.isWork = true ∧ unattended w l ∧ (w.step base l).isSome = true := by
    intro w' hstep
    refine ⟨.task (.raised "" false), rfl, ⟨⟨rfl, fun _ => trivial, rfl, ?_⟩, trivial⟩, ?_⟩
    · intro _ hok
      cases hok
    · exact Option.isSome_iff_exists.mpr ⟨w', hstep⟩
  cases hpc : w.pc with
  | waitStart =>
    cases hevent : w.startEvent with
    | true => exact .inr (htask _ (by simp [taskStep, hpc, hevent]; rfl))
    | false =>
      have hsilent := hw.notified.silent (by simp [hpc])
      exact .inl ⟨hpc, hevent, hport, hsilent.exposure, hpending⟩
  | waitStop =>
    obtain ⟨_, hexposure | hstop | ⟨guid, state, _, hmem, _⟩⟩ := hw.waiting hpc
    · obtain ⟨cancelled, hrunning⟩ := Option.ne_none_iff_exists'.mp hexposure
      refine .inr ⟨.exposureEnd .normal, rfl, ⟨⟨rfl, fun _ => trivial, trivial⟩, trivial⟩, ?_⟩
      unfold step Server.endExposure
      simp [hrunning]
    · exact .inr (htask _ (by simp [taskStep, hpc, hstop]; rfl))
    · rw [hpending] at hmem
      cases hmem
  | entry | woken | exposureDone | leaveTry | callbacks =>
    exact .inr (htask _ (by simp [taskStep, hpc, hport]; rfl))
  | call site =>
    right
    cases hcall : w.callAt site with
    | none => exact htask _ (by simp [taskStep, hpc, hcall]; rfl)
    | some call => exact htask _ (by simp [taskStep, hpc, hcall]; rfl)
  | inCall site call => exact .inr (htask _ (by simp [taskStep, hpc]; rfl))
  | exposureLoop | clearSteps | tryWait => exact .inr (htask _ (by simp [taskStep, hpc]; rfl))

/-! ### The next start command -/

/-- `ADStatus` lets a start command through. -/
def Startable (w : World) : Prop :=
  w.driver.int .adStatus ≠ adStatusAcquire ∧ w.driver.int .adStatus ≠ adStatusDisconnected

theorem startable_completed (hwait : w.completed.loopHead.pc = .waitStart) :
    Startable w.completed.loopHead := by
  unfold Startable
  rw [(loopHead_head w.completed).int .adStatus (by simp)]
  obtain ⟨_, hstatus⟩ | ⟨hacquire, hdriver⟩ := completed_cases w
  · rw [hstatus]
    decide
  · have hbegins := loopHead_begins (w := w.completed) (by rwa [hdriver])
    exact absurd (.inr (.inl hwait)) hbegins.not_resting

theorem startable_afterTry : w.afterTry.pc = .waitStart → Startable w.afterTry := by
  unfold afterTry
  split
  · intro _
    unfold Startable
    rw [(loopHead_head w.errored).int .adStatus (by simp)]
    simp [errored]
    decide
  · split
    · intro _
      unfold Startable
      rw [(loopHead_head w.aborted).int .adStatus (by simp)]
      simp [aborted]
      decide
    · split
      · intro hwait
        cases hwait
      · exact startable_completed

/-- Wherever the task comes from, it waits for a start command with `ADStatus` set accordingly. -/
theorem startable_step {l : Label} (hw : w.pc = .entry ∨ w.pc = .waitStart → Startable w)
    (hok : l.leavesStatus = true) (h : w.step base l = some w')
    (hpc' : w'.pc = .entry ∨ w'.pc = .waitStart) : Startable w' := by
  by_cases hl : ∃ reply, l = .task reply
  · obtain ⟨reply, rfl⟩ := hl
    have hwait : w'.pc = .waitStart := hpc'.resolve_left (pc_taskStep_ne_entry h)
    have hstep := taskStep_cases h
    cases hpc : w.pc <;> simp only [hpc] at hstep
    case entry =>
      obtain ⟨_, rfl⟩ := hstep
      unfold Startable
      rw [(loopHead_head w).int .adStatus (by simp)]
      exact hw (.inl hpc)
    case woken =>
      obtain ⟨_, rfl⟩ := hstep
      rw [pc_woken] at hwait
      cases hwait
    case call site =>
      obtain ⟨call, _, rfl⟩ | ⟨_, rfl⟩ := hstep
      · cases hwait
      · exact absurd (.inr (.inl hwait)) (answered_returnedAt w site w.server).not_resting
    case inCall site call =>
      subst hstep
      exact absurd (.inr (.inl hwait)) (answered_place w site call reply).not_resting
    case leaveTry =>
      obtain ⟨_, rfl⟩ := hstep
      exact startable_afterTry hwait
    case callbacks =>
      obtain ⟨_, rfl⟩ := hstep
      exact startable_completed hwait
    case exposureDone =>
      obtain ⟨_, rfl⟩ := hstep
      unfold exposureFinished at hwait
      dsimp only at hwait
      split at hwait <;> cases hwait
    case exposureLoop =>
      subst hstep
      unfold exposureTest at hwait
      dsimp only at hwait
      split at hwait <;> cases hwait
    case waitStart | waitStop =>
      obtain ⟨_, rfl⟩ := hstep
      cases hwait
    case clearSteps | tryWait =>
      subst hstep
      cases hwait
  · have hl : ∀ reply, l ≠ .task reply := fun reply hr => hl ⟨reply, hr⟩
    have hstatus : w'.driver.int .adStatus = w.driver.int .adStatus := by
      refine control_of_step rfl hl ?_ h
      rintro v reply rfl
      cases hok
    unfold Startable
    rw [hstatus]
    rw [(samePlace_of_step hl h).pc] at hpc'
    exact hw hpc'

/-- The driver has the analyser to itself, as `soleClient` says, and no client writes `ADStatus`. -/
def soleUser (w : World) (l : Label) : Prop := soleClient w l ∧ l.leavesStatus = true

instance (w : World) (l : Label) : Decidable (soleUser w l) := by
  unfold soleUser
  infer_instance

/-- From every state with `ADAcquire` zero that a run of a sole user reaches, once the clients are
silent and the server still keeps to what `soleClient` says of it: every run has a bounded number of
steps besides the updates that the server sends, none of them ends before the driver is at rest, one
that ends there exists, and a start written at rest wakes the task. -/
theorem stop_comes_to_rest {w₀ : World} (hinitial : Initial w₀)
    (hrun : Run (step base) soleUser w₀ w) (hzero : w.driver.int .adAcquire = 0) :
    (∀ labels w', Path (step base) unattended w labels w' →
      labels.countP Label.isWork ≤ w.pendingWork ∧
      ((∀ l, l.isWork = true → unattended w' l → w'.step base l = none) → AtRest w') ∧
      (AtRest w' → ∀ v reply, v ≠ 0 →
        ∃ w'', w'.step base (.write .adAcquire v reply) = some w'' ∧ w''.startEvent = true)) ∧
    ∃ w', Run (step base) unattended w w' ∧ AtRest w' := by
  have hboth : Awake w ∧ (w.pc = .entry ∨ w.pc = .waitStart → Startable w) := by
    refine hrun.invariant (P := fun v => Awake v ∧ (v.pc = .entry ∨ v.pc = .waitStart → Startable v))
      ?_ ⟨awake_initial hinitial, fun _ => ?_⟩
    · intro a l b ha hok h
      exact ⟨awake_step ha.1 hok.1 h, startable_step ha.2 hok.2 h⟩
    · have hstatus : w₀.driver.int .adStatus = adStatusIdle := hinitial.adStatus
      unfold Startable
      rw [hstatus]
      decide
  have hkeep : ∀ a l b, Awake a ∧ a.driver.int .adAcquire = 0 ∧
      (a.pc = .entry ∨ a.pc = .waitStart → Startable a) → unattended a l →
      a.step base l = some b → Awake b ∧ b.driver.int .adAcquire = 0 ∧
        (b.pc = .entry ∨ b.pc = .waitStart → Startable b) := by
    intro a l b ha hok h
    refine ⟨awake_step ha.1 hok.1 h, (pendingWork_step ha.1 ha.2.1 hok h).1, ?_⟩
    refine startable_step ha.2.2 ?_ h
    cases l with
    | write f v reply => exact hok.2.elim
    | _ => rfl
  refine ⟨?_, ?_⟩
  · intro labels w' hpath
    obtain ⟨hawake, _, hstartable⟩ := hpath.run.invariant hkeep ⟨hboth.1, hzero, hboth.2⟩
    refine ⟨?_, ?_, ?_⟩
    · have hcount : labels.countP Label.isWork + w'.pendingWork ≤ w.pendingWork :=
        hpath.count_add_rank_le hkeep (fun _ _ _ ha hok h => (pendingWork_step ha.1 ha.2.1 hok h).2)
          ⟨hboth.1, hzero, hboth.2⟩
      omega
    · intro hstuck
      have hchoice : AtRest w' ∨
          ∃ l, l.isWork = true ∧ unattended w' l ∧ (w'.step base l).isSome = true :=
        atRest_or_enabled hawake
      rcases hchoice with hrest | ⟨l, hwork, hok, henabled⟩
      · exact hrest
      · rw [hstuck l hwork hok] at henabled
        cases henabled
    · intro hrest v reply hv
      have hstep : ∃ w'', w'.step base (.write .adAcquire v reply) = some w'' := by
        rw [step_of_writeInt32 hrest.port (Driver.writeInt32_adAcquire base w'.driver v reply),
          if_pos (hasClient_acquireAction _ v)]
        exact ⟨_, rfl⟩
      obtain ⟨w'', hstep⟩ := hstep
      exact ⟨w'', hstep, startEvent_of_start hv (hstartable (.inr hrest.pc)) hstep⟩
  · have hadvance : ∀ v, (Awake v ∧ v.driver.int .adAcquire = 0) → ¬ AtRest v →
        ∃ v', Run (step base) unattended v v' ∧ (Awake v' ∧ v'.driver.int .adAcquire = 0) ∧
          pendingWork v' < pendingWork v := by
      intro v hv hrest
      have hchoice : AtRest v ∨
          ∃ l, l.isWork = true ∧ unattended v l ∧ (v.step base l).isSome = true :=
        atRest_or_enabled hv.1
      rcases hchoice with hfinal | ⟨l, hwork, hok, henabled⟩
      · exact absurd hfinal hrest
      · obtain ⟨v', hstep⟩ := Option.isSome_iff_exists.mp henabled
        obtain ⟨hzero', hlt⟩ := pendingWork_step hv.1 hv.2 hok hstep
        rw [hwork, if_pos rfl] at hlt
        exact ⟨v', .single hok hstep, ⟨awake_step hv.1 hok.1 hstep, hzero'⟩, hlt⟩
    exact exists_final hadvance ⟨hboth.1, hzero⟩

/-- A stop during a first exposure. -/
theorem stop_comes_to_rest_first_exposure : ∃ w,
    Run (step (.store 8)) soleUser (atRest adImageMultiple 2 2 0) w ∧ w.pc = .waitStop ∧
      w.driver.int .adAcquire = 0 ∧ ∃ w', Run (step (.store 8)) unattended w w' ∧ AtRest w' := by
  have hreached : reaches (step (.store 8)) soleUser (atRest adImageMultiple 2 2 0)
      (firstExposure ++ [.write .adAcquire 0 .raised])
      (fun w => w.pc = .waitStop ∧ w.driver.int .adAcquire = 0) = true := by
    decide +kernel
  obtain ⟨w, hrun, htest⟩ := run_of_reaches hreached
  obtain ⟨hpc, hzero⟩ := of_decide_eq_true htest
  exact ⟨w, hrun, hpc, hzero, (stop_comes_to_rest (atRest_initial _ _ _ _) hrun hzero).2⟩

end World

end PeakAnalyser

import PeakAnalyser.AcquisitionSteps
import PeakAnalyser.Library.Tallies

/-!
# The updates of an exposure

What the SpectrumUpdate callback leaves behind is kept beside the run, numbered by the `start`
calls of the image and by the updates since the last of them. As long as the updates of an
exposure come between its `start` call and the end of it, the two counters of the task
number them in the same way.
-/

namespace PeakAnalyser

set_option autoImplicit false

open Runs

/-- What one update leaves behind: `AcqProgress`, the copied and the shown step count, and
`IsLast`. `announced` is the step count of the first update of the exposure. -/
structure StepReport where
  exposure : Nat
  update : Nat
  announced : Int
  acqProgress : Number
  numSteps : Int
  acqNumSteps : Int
  isLast : Bool

/-- The reports of an image so far, newest first. -/
structure ImageTally where
  exposure : Nat := 0
  update : Nat := 0
  announced : Int := 0
  reports : List StepReport := []

/-- What the task is doing within an image. -/
inductive Phase where
  | setUp | loop | clear | ready | exposing | ended | aside
  deriving DecidableEq

def Site.phase : Site → Phase
  | .currentState | .defineSpectrum | .startMeasurement | .setupSpectrum
  | .subscribeToState | .subscribeToObservable | .clearSpectrum => .setUp
  | .start => .exposing
  | _ => .aside

def Pc.phase : Pc → Phase
  | .call .start | .tryWait => .ready
  | .call site | .inCall site _ => site.phase
  | .exposureLoop => .loop
  | .clearSteps => .clear
  | .waitStop => .exposing
  | .exposureDone => .ended
  | _ => .aside

/-- The next step of the task may begin another image. -/
def Pc.leavesImage : Pc → Bool
  | .entry | .waitStart | .woken | .leaveTry | .callbacks => true
  | _ => false

namespace World

variable {w w' : World} {base : ADDriver}

/-- The step count that the first update of an exposure announces stays with the tally. -/
def announcedBy (w : World) (settings : ChannelSettings) (g : ImageTally) : Int :=
  if g.update = 0 then Params.numSteps (w.int .analyserAcquisitionMode) settings else g.announced

/-- The report of an update that led to `w`. -/
def stepReport (w : World) (announced : Int) (g : ImageTally) : StepReport where
  exposure := g.exposure
  update := g.update + 1
  announced := announced
  acqProgress := w.driver.acqProgress
  numSteps := w.task.numSteps
  acqNumSteps := w.int .acqNumSteps
  isLast := w.spectrumLive.any LiveSpectrum.isLast

/-- What a step adds to the tally. -/
def takeTally (w : World) (l : Label) (w' : World) (g : ImageTally) : ImageTally :=
  match l with
  | .task _ =>
    if w.pc = .call .start then { g with exposure := g.exposure + 1, update := 0 } else g
  | .spectrumUpdate settings =>
    { g with
      update := g.update + 1
      announced := w.announcedBy settings g
      reports := w'.stepReport (w.announcedBy settings g) g :: g.reports }
  | _ => g

/-- The system with its tally. -/
def talliedStep (base : ADDriver) : World × ImageTally → Label → Option (World × ImageTally) :=
  tallied (step base) takeTally

/-! ### The course of an image -/

/-- The locals of the task that tell the exposures and the steps apart. -/
structure SameCounters (w w' : World) : Prop where
  numSteps : w'.task.numSteps = w.task.numSteps
  numExposures : w'.task.numExposures = w.task.numExposures
  numExposuresCounter : w'.task.numExposuresCounter = w.task.numExposuresCounter
  numStepsCounter : w'.task.numStepsCounter = w.task.numStepsCounter

theorem SameCounters.refl (w : World) : SameCounters w w := ⟨rfl, rfl, rfl, rfl⟩

theorem SameCounters.trans {w₁ w₂ w₃ : World} (h : SameCounters w₁ w₂) (h' : SameCounters w₂ w₃) :
    SameCounters w₁ w₃ where
  numSteps := h'.numSteps.trans h.numSteps
  numExposures := h'.numExposures.trans h.numExposures
  numExposuresCounter := h'.numExposuresCounter.trans h.numExposuresCounter
  numStepsCounter := h'.numStepsCounter.trans h.numStepsCounter

theorem sameCounters_cleanupAcquired (w : World) : SameCounters w w.cleanupAcquired := by
  unfold cleanupAcquired
  split <;> exact ⟨rfl, rfl, rfl, rfl⟩

theorem phase_cleanupAcquired (w : World) : w.cleanupAcquired.pc.phase = .aside := by
  unfold cleanupAcquired
  split <;> rfl

theorem sameCounters_caught (w : World) (what : String) : SameCounters w (w.caught what) := by
  unfold caught
  dsimp only
  split
  · exact ⟨rfl, rfl, rfl, rfl⟩
  · obtain ⟨hsteps, hexposures, hexposure, hstep⟩ := sameCounters_cleanupAcquired
      { w with task := { w.task with failed := true, statusMessage := what } }
    exact ⟨hsteps, hexposures, hexposure, hstep⟩

theorem phase_caught (w : World) (what : String) : (w.caught what).pc.phase = .aside := by
  unfold caught
  dsimp only
  split
  · rfl
  · exact phase_cleanupAcquired _

theorem sameCounters_measured (w : World) (spectrum : List Ending) :
    SameCounters w (w.measured spectrum) := by
  unfold measured
  dsimp only
  split <;> exact ⟨rfl, rfl, rfl, rfl⟩

theorem phase_measured (w : World) (spectrum : List Ending) :
    (w.measured spectrum).pc.phase = .aside := by
  unfold measured
  dsimp only
  split <;> split <;> rfl

theorem sameCounters_returnedAt (w : World) (site : Site) (answer : Server) :
    SameCounters w (w.returnedAt site answer) := by
  cases site
  case currentState =>
    unfold returnedAt
    dsimp only
    split
    · exact ⟨rfl, rfl, rfl, rfl⟩
    · exact sameCounters_caught w _
  case getMeasuredSpectrum => exact sameCounters_measured w _
  case cleanupUnsubscribeState =>
    obtain ⟨hsteps, hexposures, hexposure, hstep⟩ := sameCounters_cleanupAcquired
      { w.forget w.task.guidState with task := { w.task with guidState := none } }
    exact ⟨hsteps, hexposures, hexposure, hstep⟩
  case cleanupCurrentState =>
    unfold returnedAt
    dsimp only
    split
    · split <;> exact ⟨rfl, rfl, rfl, rfl⟩
    · exact ⟨rfl, rfl, rfl, rfl⟩
  all_goals exact ⟨rfl, rfl, rfl, rfl⟩

/-- How the phase of the task goes on after a call has returned. -/
theorem phase_returnedAt (w : World) (site : Site) (answer : Server) :
    (w.returnedAt site answer).pc.phase = .aside ∨
      (site.phase = .setUp ∧ ((w.returnedAt site answer).pc.phase = .setUp ∨
        (w.returnedAt site answer).pc.phase = .loop)) ∨
      (site = .start ∧ (w.returnedAt site answer).pc.phase = .exposing) := by
  cases site
  case currentState =>
    unfold returnedAt
    dsimp only
    split
    · exact Or.inr (Or.inl ⟨rfl, Or.inl rfl⟩)
    · exact Or.inl (phase_caught w _)
  case defineSpectrum | startMeasurement | setupSpectrum | subscribeToState
    | subscribeToObservable => exact Or.inr (Or.inl ⟨rfl, Or.inl rfl⟩)
  case clearSpectrum => exact Or.inr (Or.inl ⟨rfl, Or.inr rfl⟩)
  case start => exact Or.inr (Or.inr ⟨rfl, rfl⟩)
  case getMeasuredSpectrum => exact Or.inl (phase_measured w _)
  case cleanupUnsubscribeState => exact Or.inl (phase_cleanupAcquired _)
  case cleanupCurrentState =>
    unfold returnedAt
    dsimp only
    split
    · split <;> exact Or.inl rfl
    · exact Or.inl rfl
  all_goals exact Or.inl rfl

theorem sameCounters_answered (w : World) (site : Site) (call : Call) (reply : Reply) :
    SameCounters w (w.answered site call reply) := by
  cases reply with
  | ok =>
    obtain ⟨hsteps, hexposures, hexposure, hstep⟩ := sameCounters_returnedAt
      ({ w with server := w.server.exec call, log := .returned call :: w.log } : World) site w.server
    rw [answered_ok]
    exact ⟨hsteps, hexposures, hexposure, hstep⟩
  | raised what executed =>
    unfold answered raisedAt
    dsimp only
    split
    · exact ⟨rfl, rfl, rfl, rfl⟩
    · obtain ⟨hsteps, hexposures, hexposure, hstep⟩ := sameCounters_caught _ what
      exact ⟨hsteps, hexposures, hexposure, hstep⟩

theorem phase_call {site : Site} (h : site ≠ .start) : (Pc.call site).phase = site.phase := by
  cases site
  case start => exact absurd rfl h
  all_goals rfl

theorem phase_of_ne_start {site : Site} (h : site ≠ .start) :
    site.phase = .setUp ∨ site.phase = .aside := by
  cases site
  case start => exact absurd rfl h
  case currentState | defineSpectrum | startMeasurement | setupSpectrum | subscribeToState
    | subscribeToObservable | clearSpectrum => exact Or.inl rfl
  all_goals exact Or.inr rfl

theorem phase_raisedAt (w : World) (site : Site) (what : String) :
    (w.raisedAt site what).pc.phase = .aside := by
  unfold raisedAt
  split
  · rfl
  · exact phase_caught w what

/-- One step of the task within an image. -/
inductive PhaseStep (w w' : World) : Prop where
  | aside (hto : w'.pc.phase = .aside)
  | setUp (hfrom : w.pc.phase = .setUp) (hto : w'.pc.phase = .setUp ∨ w'.pc.phase = .loop)
      (hsame : SameCounters w w')
  | enter (hfrom : w.pc.phase = .loop) (hto : w'.pc.phase = .clear)
      (hlt : w.task.numExposuresCounter < w.task.numExposures)
      (hcounter : w'.task.numExposuresCounter = w.task.numExposuresCounter + 1)
  | clear (hfrom : w.pc.phase = .clear) (hto : w'.pc.phase = .ready)
      (hcounter : w'.task.numExposuresCounter = w.task.numExposuresCounter)
      (hzero : w'.task.numStepsCounter = 0)
  | prepare (hfrom : w.pc = .tryWait) (hto : w'.pc.phase = .ready) (hsame : SameCounters w w')
  | start (hfrom : w.pc = .call .start) (hto : w'.pc.phase = .exposing)
      (hsame : SameCounters w w')
  | wait (call : Call) (hfrom : w.pc = .inCall .start call) (hto : w'.pc.phase = .exposing)
      (hsame : SameCounters w w')
  | stop (hfrom : w.pc = .waitStop) (hto : w'.pc.phase = .ended) (hsame : SameCounters w w')
  | again (hfrom : w.pc.phase = .ended) (hto : w'.pc.phase = .loop) (hsame : SameCounters w w')

theorem phaseStep_returnedAt {w₁ : World} {site : Site} {answer : Server}
    (hplace : (w.pc = .call site ∧ site ≠ .start) ∨ ∃ call, w.pc = .inCall site call)
    (hsame : SameCounters w w₁) : PhaseStep w (w₁.returnedAt site answer) := by
  have hreturned := hsame.trans (sameCounters_returnedAt w₁ site answer)
  rcases phase_returnedAt w₁ site answer with haside | ⟨hsite, hnext⟩ | ⟨rfl, hexposing⟩
  · exact .aside haside
  · refine .setUp ?_ hnext hreturned
    rcases hplace with ⟨hpc, hstart⟩ | ⟨call, hpc⟩
    · rw [hpc, phase_call hstart]
      exact hsite
    · rw [hpc]
      exact hsite
  · rcases hplace with ⟨hpc, hstart⟩ | ⟨call, hpc⟩
    · exact absurd rfl hstart
    · exact .wait call hpc hexposing hreturned

theorem phaseStep_answered {site : Site} {call : Call} {reply : Reply}
    (hpc : w.pc = .inCall site call) : PhaseStep w (w.answered site call reply) := by
  cases reply with
  | ok =>
    rw [answered_ok]
    exact phaseStep_returnedAt (Or.inr ⟨call, hpc⟩) ⟨rfl, rfl, rfl, rfl⟩
  | raised what executed => exact .aside (phase_raisedAt _ site what)

theorem phaseStep_exposureTest (hpc : w.pc = .exposureLoop) : PhaseStep w w.exposureTest := by
  by_cases hlt : w.task.numExposuresCounter < w.task.numExposures
  · refine .enter (by rw [hpc]; rfl) ?_ hlt rfl
    unfold exposureTest
    rw [if_pos hlt]
    rfl
  · apply PhaseStep.aside
    unfold exposureTest
    rw [if_neg hlt]
    rfl

theorem phaseStep_exposureFinished (hpc : w.pc = .exposureDone) :
    PhaseStep w w.exposureFinished := by
  unfold exposureFinished
  dsimp only
  split
  · exact .aside rfl
  · exact .again (by rw [hpc]; rfl) rfl ⟨rfl, rfl, rfl, rfl⟩

theorem phaseStep_taskStep {reply : Reply} (hstay : w.pc.leavesImage = false)
    (h : w.taskStep reply = some w') : PhaseStep w w' := by
  have hstep := taskStep_cases h
  cases hpc : w.pc <;> simp only [hpc] at hstep
  case entry | waitStart | woken | leaveTry | callbacks =>
    rw [hpc] at hstay
    cases hstay
  case call site =>
    rcases hstep with ⟨call, _, rfl⟩ | ⟨hcall, rfl⟩
    · by_cases hstart : site = .start
      · subst hstart
        exact .start hpc rfl ⟨rfl, rfl, rfl, rfl⟩
      · rcases phase_of_ne_start hstart with hphase | hphase
        · refine .setUp ?_ (Or.inl hphase) ⟨rfl, rfl, rfl, rfl⟩
          rw [hpc, phase_call hstart]
          exact hphase
        · exact .aside hphase
    · refine phaseStep_returnedAt (Or.inl ⟨hpc, ?_⟩) (.refl w)
      rintro rfl
      cases hcall
  case inCall site call =>
    subst hstep
    exact phaseStep_answered hpc
  case exposureLoop =>
    subst hstep
    exact phaseStep_exposureTest hpc
  case clearSteps =>
    subst hstep
    exact .clear (by rw [hpc]; rfl) rfl rfl rfl
  case tryWait =>
    subst hstep
    exact .prepare hpc rfl ⟨rfl, rfl, rfl, rfl⟩
  case waitStop =>
    obtain ⟨_, rfl⟩ := hstep
    exact .stop hpc rfl ⟨rfl, rfl, rfl, rfl⟩
  case exposureDone =>
    obtain ⟨_, rfl⟩ := hstep
    exact phaseStep_exposureFinished hpc

theorem copies_taskStep {reply : Reply} (hstay : w.pc.leavesImage = false)
    (h : w.taskStep reply = some w') :
    w'.task.numSteps = w.task.numSteps ∧ w'.task.numExposures = w.task.numExposures := by
  have hstep := taskStep_cases h
  cases hpc : w.pc <;> simp only [hpc] at hstep
  case entry | waitStart | woken | leaveTry | callbacks =>
    rw [hpc] at hstay
    cases hstay
  case call site =>
    rcases hstep with ⟨call, _, rfl⟩ | ⟨_, rfl⟩
    · exact ⟨rfl, rfl⟩
    · have hsame := sameCounters_returnedAt w site w.server
      exact ⟨hsame.numSteps, hsame.numExposures⟩
  case inCall site call =>
    subst hstep
    have hsame := sameCounters_answered w site call reply
    exact ⟨hsame.numSteps, hsame.numExposures⟩
  case exposureLoop | clearSteps | tryWait =>
    subst hstep
    exact ⟨rfl, rfl⟩
  case waitStop =>
    obtain ⟨_, rfl⟩ := hstep
    exact ⟨rfl, rfl⟩
  case exposureDone =>
    obtain ⟨_, rfl⟩ := hstep
    unfold exposureFinished
    dsimp only
    split <;> exact ⟨rfl, rfl⟩

/-- Only the task and the SpectrumUpdate callback change the locals of the task. -/
theorem task_of_step {l : Label} (htask : ∀ reply, l ≠ .task reply)
    (hupdate : ∀ settings, l ≠ .spectrumUpdate settings) (h : w.step base l = some w') :
    w'.task = w.task := by
  cases l with
  | task reply => exact absurd rfl (htask reply)
  | spectrumUpdate settings => exact absurd rfl (hupdate settings)
  | write f v reply =>
    obtain ⟨_, d, action, _, rfl⟩ := step_write h
    cases action <;> rfl
  | writeFloat f v reply =>
    simp only [step] at h
    split at h
    · obtain ⟨d, _, rfl⟩ := Option.map_eq_some_iff.mp h
      rfl
    · cases h
  | port reply =>
    rcases portStep_cases h with ⟨_, _, rfl⟩ | ⟨_, _, _, rfl⟩
    · rfl
    · rfl
  | exposureEnd how =>
    obtain ⟨_, _, rfl⟩ := Option.map_eq_some_iff.mp h
    rfl
  | notify index keep =>
    obtain ⟨_, _, rfl⟩ := deliver_cases h
    rfl
  | otherClient state keepsOwn =>
    obtain rfl := Option.some.inj h
    rfl

/-! ### The counters and the tally -/

/-- Updates come in while an exposure is on, and the image is not left. -/
def withinImage (s : World × ImageTally) : Label → Bool
  | .task _ => !s.1.pc.leavesImage
  | .spectrumUpdate _ => s.1.pc.phase = .exposing
  | _ => true

/-- The counters of the task, as the tally has them. -/
def InStep (w : World) (g : ImageTally) : Prop :=
  match w.pc.phase with
  | .setUp => w.task.numExposuresCounter = 0 ∧ g.exposure = 0
  | .loop | .ended => w.task.numExposuresCounter = g.exposure
  | .clear => w.task.numExposuresCounter = g.exposure + 1 ∧
      w.task.numExposuresCounter ≤ w.task.numExposures
  | .ready => w.task.numExposuresCounter = g.exposure + 1 ∧
      w.task.numExposuresCounter ≤ w.task.numExposures ∧ w.task.numStepsCounter = 0
  | .exposing => w.task.numExposuresCounter = g.exposure ∧
      w.task.numExposuresCounter ≤ w.task.numExposures ∧ w.task.numStepsCounter = g.update ∧
      1 ≤ g.exposure
  | .aside => True

/-- What an image keeps of the parameters it began with, and its counters. -/
structure Tallies (numSteps numExposures : Int) (s : World × ImageTally) : Prop where
  numSteps : s.1.task.numSteps = numSteps
  numExposures : s.1.task.numExposures = numExposures
  inStep : InStep s.1 s.2

section Tally

variable {reply : Reply} {g : ImageTally}

theorem takeTally_start (h : w.pc = .call .start) :
    w.takeTally (.task reply) w' g = { g with exposure := g.exposure + 1, update := 0 } :=
  if_pos h

theorem takeTally_task (h : w.pc.phase ≠ .ready) : w.takeTally (.task reply) w' g = g := by
  apply if_neg
  intro hpc
  rw [hpc] at h
  exact h rfl

theorem takeTally_other {l : Label} (htask : ∀ reply, l ≠ .task reply)
    (hupdate : ∀ settings, l ≠ .spectrumUpdate settings) : w.takeTally l w' g = g := by
  cases l with
  | task reply => exact absurd rfl (htask reply)
  | spectrumUpdate settings => exact absurd rfl (hupdate settings)
  | _ => rfl

end Tally

theorem inStep_task {reply : Reply} {g : ImageTally} (hstay : w.pc.leavesImage = false)
    (hin : InStep w g) (h : w.taskStep reply = some w') :
    InStep w' (w.takeTally (.task reply) w' g) := by
  have hcopies := copies_taskStep hstay h
  unfold InStep at hin
  cases phaseStep_taskStep hstay h with
  | aside hto =>
    unfold InStep
    rw [hto]
    trivial
  | setUp hfrom hto hsame =>
    simp only [hfrom] at hin
    rw [takeTally_task (by rw [hfrom]; decide)]
    unfold InStep
    rcases hto with hto | hto <;> rw [hto]
    · exact ⟨hsame.numExposuresCounter.trans hin.1, hin.2⟩
    · change w'.task.numExposuresCounter = g.exposure
      rw [hsame.numExposuresCounter, hin.1, hin.2]
      rfl
  | enter hfrom hto hlt hcounter =>
    simp only [hfrom] at hin
    rw [takeTally_task (by rw [hfrom]; decide)]
    unfold InStep
    rw [hto]
    refine ⟨by rw [hcounter, hin], ?_⟩
    rw [hcounter, hcopies.2]
    omega
  | clear hfrom hto hcounter hzero =>
    simp only [hfrom] at hin
    rw [takeTally_task (by rw [hfrom]; decide)]
    unfold InStep
    rw [hto]
    exact ⟨hcounter.trans hin.1, by rw [hcounter, hcopies.2]; exact hin.2, hzero⟩
  | prepare hfrom hto hsame =>
    have htally : w.takeTally (.task reply) w' g = g := if_neg (by rw [hfrom]; decide)
    rw [hfrom] at hin
    rw [htally]
    unfold InStep
    rw [hto]
    refine ⟨hsame.numExposuresCounter.trans hin.1, ?_, hsame.numStepsCounter.trans hin.2.2⟩
    rw [hsame.numExposuresCounter, hcopies.2]
    exact hin.2.1
  | start hfrom hto hsame =>
    rw [hfrom] at hin
    rw [takeTally_start hfrom]
    unfold InStep
    rw [hto]
    refine ⟨?_, ?_, hsame.numStepsCounter.trans hin.2.2, ?_⟩
    · rw [hsame.numExposuresCounter, hin.1]
      push_cast
      rfl
    · rw [hsame.numExposuresCounter, hcopies.2]
      exact hin.2.1
    · exact Nat.le_add_left 1 g.exposure
  | wait call hfrom hto hsame =>
    have hphase : w.pc.phase = .exposing := by rw [hfrom]; rfl
    simp only [hphase] at hin
    rw [takeTally_task (by rw [hphase]; decide)]
    unfold InStep
    rw [hto]
    refine ⟨hsame.numExposuresCounter.trans hin.1, ?_, hsame.numStepsCounter.trans hin.2.2.1,
      hin.2.2.2⟩
    rw [hsame.numExposuresCounter, hcopies.2]
    exact hin.2.1
  | stop hfrom hto hsame =>
    have hphase : w.pc.phase = .exposing := by rw [hfrom]; rfl
    simp only [hphase] at hin
    rw [takeTally_task (by rw [hphase]; decide)]
    unfold InStep
    rw [hto]
    exact hsame.numExposuresCounter.trans hin.1
  | again hfrom hto hsame =>
    simp only [hfrom] at hin
    rw [takeTally_task (by rw [hfrom]; decide)]
    unfold InStep
    rw [hto]
    exact hsame.numExposuresCounter.trans hin

/-- `AcqProgress` after an update, with the counters the tally has for it. -/
def reportedProgress (numSteps numExposures : Int) (exposure update : Nat) : Number :=
  (Number.fdiv (100 * update) numSteps).bind fun q => .fdiv (q * exposure) numExposures

/-- The report that an update adds to the tally. -/
def newReport (numSteps numExposures announced acqNumSteps : Int) (g : ImageTally) : StepReport where
  exposure := g.exposure
  update := g.update + 1
  announced := announced
  acqProgress := reportedProgress numSteps numExposures g.exposure (g.update + 1)
  numSteps := numSteps
  acqNumSteps := acqNumSteps
  isLast := numSteps = (g.update + 1 : Nat)

theorem acqNumSteps_setRegion (p : Params) (settings : ChannelSettings) :
    (p.setRegion settings).int .acqNumSteps =
      Params.numSteps (p.int .analyserAcquisitionMode) settings := by
  simp [Params.setRegion]

theorem acqNumSteps_spectrumCallback (settings : ChannelSettings) :
    (w.spectrumCallback settings).int .acqNumSteps =
      if w.task.numStepsCounter = 0 then
        Params.numSteps (w.int .analyserAcquisitionMode) settings
      else w.int .acqNumSteps := by
  unfold spectrumCallback
  dsimp only
  split
  · simp [acqNumSteps_setRegion]
  · simp

theorem progress_eq (t : Task) {exposure update : Nat}
    (hexposure : t.numExposuresCounter = exposure) (hupdate : t.numStepsCounter = update) :
    progress t = reportedProgress t.numSteps t.numExposures exposure update := by
  unfold progress reportedProgress
  rw [hexposure, hupdate]
  rfl

theorem stepReport_spectrumCallback {numSteps numExposures announced : Int}
    {settings : ChannelSettings} {g : ImageTally} (hsteps : w.task.numSteps = numSteps)
    (hexposures : w.task.numExposures = numExposures)
    (hexposure : w.task.numExposuresCounter = g.exposure)
    (hupdate : w.task.numStepsCounter = g.update) :
    (w.spectrumCallback settings).stepReport announced g =
      newReport numSteps numExposures announced
        ((w.spectrumCallback settings).int .acqNumSteps) g := by
  have hcounter : w.task.numStepsCounter + 1 = (g.update + 1 : Nat) := by omega
  have hprogress := progress_eq { w.task with numStepsCounter := w.task.numStepsCounter + 1 }
    hexposure hcounter
  have hlast : (w.spectrumCallback settings).spectrumLive.any LiveSpectrum.isLast =
      decide (w.task.numSteps = w.task.numStepsCounter + 1) := rfl
  unfold stepReport newReport
  rw [hlast, hcounter, ← hsteps, ← hexposures]
  exact congrArg (fun progress => StepReport.mk _ _ _ progress _ _ _) hprogress

/-- An update counts one step and reports it. -/
theorem tallies_update {numSteps numExposures : Int} {settings : ChannelSettings}
    {g : ImageTally} (hexposing : w.pc.phase = .exposing)
    (hw : Tallies numSteps numExposures (w, g))
    (h : w.step base (.spectrumUpdate settings) = some w') :
    Tallies numSteps numExposures (w', w.takeTally (.spectrumUpdate settings) w' g) ∧
      w'.pc = w.pc ∧
      w'.int .acqNumSteps =
        (if g.update = 0 then w.announcedBy settings g else w.int .acqNumSteps) ∧
      (w.takeTally (.spectrumUpdate settings) w' g).reports =
        newReport numSteps numExposures (w.announcedBy settings g) (w'.int .acqNumSteps) g ::
          g.reports := by
  obtain ⟨hsteps, hexposures, hin⟩ := hw
  simp only [InStep, hexposing] at hin
  obtain ⟨hexposure, hle, hupdate, hone⟩ := hin
  simp only [step] at h
  split at h
  · obtain rfl := Option.some.inj h
    refine ⟨⟨hsteps, hexposures, ?_⟩, rfl, ?_, ?_⟩
    · unfold InStep
      have hphase : (w.spectrumCallback settings).pc.phase = .exposing := hexposing
      rw [hphase]
      refine ⟨hexposure, hle, ?_, hone⟩
      change w.task.numStepsCounter + 1 = (g.update + 1 : Nat)
      omega
    · rw [acqNumSteps_spectrumCallback]
      unfold announcedBy
      by_cases hzero : g.update = 0
      · rw [if_pos (by omega), if_pos hzero, if_pos hzero]
      · rw [if_neg (by omega), if_neg hzero]
    · exact congrArg (· :: g.reports)
        (stepReport_spectrumCallback hsteps hexposures hexposure hupdate)
  · cases h

/-- A step is one of the task, an update, or leaves the task and the tally alone. -/
theorem talliedStep_cases {g g' : ImageTally} {l : Label}
    (h : talliedStep base (w, g) l = some (w', g')) :
    (∃ reply, l = .task reply ∧ w.taskStep reply = some w' ∧
      g' = w.takeTally (.task reply) w' g) ∨
    (∃ settings, l = .spectrumUpdate settings ∧
      w.step base (.spectrumUpdate settings) = some w' ∧
      g' = w.takeTally (.spectrumUpdate settings) w' g) ∨
    ((∀ reply, l ≠ .task reply) ∧ (∀ settings, l ≠ .spectrumUpdate settings) ∧
      w.step base l = some w' ∧ w'.pc = w.pc ∧ w'.task = w.task ∧ g' = g) := by
  obtain ⟨hstep, htally⟩ := tallied_eq_some.mp h
  dsimp only at hstep htally
  by_cases htask : ∃ reply, l = .task reply
  · obtain ⟨reply, rfl⟩ := htask
    exact Or.inl ⟨reply, rfl, hstep, htally⟩
  · by_cases hupdate : ∃ settings, l = .spectrumUpdate settings
    · obtain ⟨settings, rfl⟩ := hupdate
      exact Or.inr (Or.inl ⟨settings, rfl, hstep, htally⟩)
    · have htask : ∀ reply, l ≠ .task reply := fun reply hl => htask ⟨reply, hl⟩
      have hupdate : ∀ settings, l ≠ .spectrumUpdate settings := fun u hl => hupdate ⟨u, hl⟩
      refine Or.inr (Or.inr ⟨htask, hupdate, hstep, (samePlace_of_step htask hstep).pc,
        task_of_step htask hupdate hstep, ?_⟩)
      exact htally.trans (takeTally_other htask hupdate)

/-- Every step within an image keeps the counters and the tally together. -/
theorem tallies_step {numSteps numExposures : Int} {s s' : World × ImageTally} {l : Label}
    (hw : Tallies numSteps numExposures s) (hok : withinImage s l = true)
    (h : talliedStep base s l = some s') : Tallies numSteps numExposures s' := by
  obtain ⟨w, g⟩ := s
  obtain ⟨w', g'⟩ := s'
  rcases talliedStep_cases h with ⟨reply, rfl, hstep, rfl⟩ | ⟨settings, rfl, hstep, rfl⟩ |
    ⟨_, _, _, hpc, htask, rfl⟩
  · have hstay : w.pc.leavesImage = false := by simpa [withinImage] using hok
    have hcopies := copies_taskStep hstay hstep
    exact ⟨hcopies.1.trans hw.numSteps, hcopies.2.trans hw.numExposures,
      inStep_task hstay hw.inStep hstep⟩
  · exact (tallies_update (by simpa [withinImage] using hok) hw hstep).1
  · refine ⟨(congrArg Task.numSteps htask).trans hw.numSteps,
      (congrArg Task.numExposures htask).trans hw.numExposures, ?_⟩
    have hin := hw.inStep
    unfold InStep at hin ⊢
    rw [hpc, htask]
    exact hin

theorem phase_startImage (w : World) : w.startImage.pc.phase = .setUp := by
  unfold startImage
  dsimp only
  split <;> rfl

/-- An image begins with nothing counted. -/
theorem tallies_startImage (w : World) :
    Tallies (w.int .acqNumSteps) (w.int .adNumExposures) (w.startImage, {}) := by
  unfold startImage beginTask
  dsimp only
  split
  · exact ⟨by simp, by simp, by simp [InStep, Pc.phase, Site.phase]⟩
  · exact ⟨by simp, by simp, by simp [InStep, Pc.phase, Site.phase]⟩

end World

end PeakAnalyser

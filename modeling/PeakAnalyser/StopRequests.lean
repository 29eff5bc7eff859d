import PeakAnalyser.LockedSections

/-!
# Stop requests

A client stops an acquisition by writing zero to `ADAcquire`. The flag is read by
the task after each exposure; while `ADStatus` says that the driver acquires, the
write also cancels the running exposure.
-/

namespace PeakAnalyser

set_option autoImplicit false

open Runs

namespace World

variable {w w' : World} {base : ADDriver}

/-! ### Where a stop request comes too late -/

/-- The task is on its way to a `StartMeasurement` or an `AcquisitionAsync` without
another look at `ADAcquire`. -/
def willStart (w : World) : Bool :=
  match w.pc with
  | .woken | .clearSteps | .tryWait => true
  | .call site =>
    match site with
    | .currentState | .defineSpectrum | .startMeasurement | .start => true
    | .setupSpectrum | .subscribeToState | .subscribeToObservable | .clearSpectrum =>
      w.task.numExposuresCounter < w.task.numExposures
    | _ => false
  | .inCall site _ =>
    match site with
    | .currentState | .defineSpectrum => true
    | .startMeasurement | .setupSpectrum | .subscribeToState | .subscribeToObservable
    | .clearSpectrum => w.task.numExposuresCounter < w.task.numExposures
    | _ => false
  | .exposureLoop => w.task.numExposuresCounter < w.task.numExposures
  | _ => false

/-- The stop request stands and nothing leads past it. -/
structure Stopped (w : World) : Prop where
  adAcquire : w.driver.int .adAcquire = 0
  startEvent : w.startEvent = false
  willStart : w.willStart = false

/-- No client asks for a start. -/
def noStart (_ : World) (l : Label) : Prop := l.isStart = false

instance (w : World) (l : Label) : Decidable (noStart w l) := by
  unfold noStart
  infer_instance

theorem willStart_of_samePlace (h : SamePlace w w') : w'.willStart = w.willStart := by
  obtain ⟨n, htask⟩ := h.task
  unfold World.willStart
  rw [h.pc, htask]

theorem willStart_caught (what : String) : (w.caught what).willStart = false := by
  unfold caught cleanupAcquired
  dsimp only
  split
  · rfl
  · split <;> rfl

/-- Once a call is answered, the task is no nearer to a start than before. -/
theorem willStart_returnedAt {site : Site} (call : Call) (answer : Server)
    (h : ({ w with pc := .inCall site call } : World).willStart = false) :
    (w.returnedAt site answer).willStart = false := by
  cases site
  case currentState | defineSpectrum => simp [World.willStart] at h
  case getMeasuredSpectrum =>
    unfold returnedAt measured
    dsimp only
    split <;> split <;> rfl
  case cleanupUnsubscribeState =>
    unfold returnedAt cleanupAcquired
    dsimp only
    split <;> rfl
  case cleanupCurrentState =>
    unfold returnedAt
    dsimp only
    split
    · split <;> rfl
    · rfl
  all_goals exact h

theorem willStart_answered {site : Site} {call : Call} (reply : Reply)
    (h : ({ w with pc := .inCall site call } : World).willStart = false) :
    (w.answered site call reply).willStart = false := by
  cases reply with
  | ok => exact willStart_returnedAt call _ h
  | raised what executed =>
    unfold answered raisedAt
    dsimp only
    split
    · rfl
    · exact willStart_caught what

theorem willStart_of_parks {log : List Event} (h : Parks log w) : w.willStart = false := by
  unfold World.willStart
  rw [h.pc]

theorem stopped_loopHead (hacquire : w.driver.int .adAcquire = 0) (hstart : w.startEvent = false) :
    Stopped w.loopHead := by
  have hparks := loopHead_parks hacquire
  exact ⟨hparks.adAcquire, (loopHead_head w).startEvent.trans hstart, willStart_of_parks hparks⟩

theorem stopped_completed (hacquire : w.driver.int .adAcquire = 0) (hstart : w.startEvent = false) :
    Stopped w.completed.loopHead ∧ w.completed.loopHead.log = w.log := by
  have hcompleted := completed_of_finishes (Or.inl hacquire)
  have hzero : w.completed.driver.int .adAcquire = 0 := by simp [hcompleted]
  refine ⟨stopped_loopHead hzero ((completed_locked w).startEvent.trans hstart), ?_⟩
  rw [(loopHead_parks hzero).log, hcompleted]

/-- Every section that ends an image comes to rest once `ADAcquire` is zero. -/
theorem stopped_afterTry (hacquire : w.driver.int .adAcquire = 0) (hstart : w.startEvent = false) :
    Stopped w.afterTry ∧ w.afterTry.log = w.log := by
  unfold afterTry
  split
  · have hzero : w.errored.driver.int .adAcquire = 0 := by simp [errored]
    exact ⟨stopped_loopHead hzero hstart, (loopHead_parks hzero).log⟩
  · split
    · have hzero : w.aborted.driver.int .adAcquire = 0 := by simpa [aborted] using hacquire
      exact ⟨stopped_loopHead hzero hstart, (loopHead_parks hzero).log⟩
    · have hzero : w.published.driver.int .adAcquire = 0 := by simpa [published] using hacquire
      split
      · exact ⟨⟨hzero, hstart, rfl⟩, rfl⟩
      · exact stopped_completed hzero hstart

theorem startsIssued_issued {call : Call} (h : call.starts = false) (log : List Event) :
    startsIssued (.issued call :: log) = startsIssued log := by
  simp [startsIssued, h]

theorem startsIssued_event (reply : Reply) (call : Call) (log : List Event) :
    startsIssued (reply.event call :: log) = startsIssued log := by
  cases reply <;> simp [Reply.event, startsIssued]

theorem startsIssued_of_step {l : Label} (hl : ∀ reply, l ≠ .task reply)
    (h : w.step base l = some w') : startsIssued w'.log = startsIssued w.log := by
  obtain hsame | ⟨c, _, hlog⟩ | ⟨c, reply, _, hlog⟩ := log_of_step hl h
  · rw [hsame]
  · rw [hlog]
    exact startsIssued_issued (by cases c <;> rfl) _
  · rw [hlog]
    exact startsIssued_event reply c.call _

theorem stopped_answered {site : Site} {call : Call} (reply : Reply) (hpc : w.pc = .inCall site call)
    (hw : Stopped w) :
    Stopped (w.answered site call reply) ∧
      startsIssued (w.answered site call reply).log = startsIssued w.log := by
  have hsame := answered_taskOnly w site call reply
  have hwill : (w.answered site call reply).willStart = false := by
    apply willStart_answered
    have heq : ({ w with pc := .inCall site call } : World) = w := by rw [← hpc]
    rw [heq]
    exact hw.willStart
  refine ⟨⟨?_, hsame.startEvent.trans hw.startEvent, hwill⟩, ?_⟩
  · rw [hsame.driver]
    exact hw.adAcquire
  · rw [hsame.log]
    exact startsIssued_event reply call w.log

theorem stopped_call {site : Site} (hw : Stopped w) (hpc : w.pc = .call site) :
    (∀ call, w.callAt site = some call → call.starts = false) ∧
      ∀ call, ({ w with pc := .inCall site call } : World).willStart = false := by
  have hwill := hw.willStart
  unfold World.willStart at hwill ⊢
  rw [hpc] at hwill
  constructor
  · intro call hcall
    by_contra hstarts
    obtain rfl | rfl := site_of_starts hcall (Bool.eq_true_of_not_eq_false hstarts) <;> simp at hwill
  · intro call
    cases site <;> first | exact hwill | simp at hwill

theorem stopped_taskStep {reply : Reply} (hw : Stopped w) (h : w.taskStep reply = some w') :
    Stopped w' ∧ startsIssued w'.log = startsIssued w.log := by
  have hstep := taskStep_cases h
  have hwill := hw.willStart
  cases hpc : w.pc <;> simp only [hpc] at hstep
  case entry =>
    obtain ⟨_, rfl⟩ := hstep
    exact ⟨stopped_loopHead hw.adAcquire hw.startEvent, congrArg _ (loopHead_parks hw.adAcquire).log⟩
  case waitStart => exact absurd hstep.1 (by simp [hw.startEvent])
  case woken | clearSteps | tryWait => simp [World.willStart, hpc] at hwill
  case call site =>
    obtain ⟨hcalls, hinCall⟩ := stopped_call hw hpc
    obtain ⟨call, hcall, rfl⟩ | ⟨hcall, rfl⟩ := hstep
    · exact ⟨⟨hw.adAcquire, hw.startEvent, hinCall call⟩, startsIssued_issued (hcalls call hcall) _⟩
    · have hsame := returnedAt_taskOnly w site w.server
      refine ⟨⟨?_, hsame.startEvent.trans hw.startEvent, ?_⟩, congrArg _ hsame.log⟩
      · rw [hsame.driver]
        exact hw.adAcquire
      · exact willStart_returnedAt .getState _ (hinCall _)
  case inCall site call =>
    subst hstep
    exact stopped_answered reply hpc hw
  case exposureLoop =>
    subst hstep
    refine ⟨⟨hw.adAcquire, hw.startEvent, ?_⟩, rfl⟩
    simp only [World.willStart, hpc, decide_eq_false_iff_not] at hwill
    simp [World.willStart, exposureTest, hwill]
  case waitStop =>
    obtain ⟨_, rfl⟩ := hstep
    exact ⟨⟨hw.adAcquire, hw.startEvent, rfl⟩, rfl⟩
  case exposureDone =>
    obtain ⟨_, rfl⟩ := hstep
    have hzero : w.int .adAcquire = 0 := hw.adAcquire
    unfold exposureFinished
    rw [if_pos hzero]
    exact ⟨⟨hw.adAcquire, hw.startEvent, rfl⟩, rfl⟩
  case leaveTry =>
    obtain ⟨_, rfl⟩ := hstep
    obtain ⟨hstopped, hlog⟩ := stopped_afterTry hw.adAcquire hw.startEvent
    exact ⟨hstopped, congrArg _ hlog⟩
  case callbacks =>
    obtain ⟨_, rfl⟩ := hstep
    obtain ⟨hstopped, hlog⟩ := stopped_completed hw.adAcquire hw.startEvent
    exact ⟨hstopped, congrArg _ hlog⟩

theorem stopped_step {l : Label} (hw : Stopped w) (hok : noStart w l)
    (h : w.step base l = some w') : Stopped w' ∧ startsIssued w'.log = startsIssued w.log := by
  by_cases hl : ∃ reply, l = .task reply
  · obtain ⟨reply, rfl⟩ := hl
    exact stopped_taskStep hw h
  · have htask : ∀ reply, l ≠ .task reply := fun reply hr => hl ⟨reply, hr⟩
    refine ⟨⟨?_, ?_, ?_⟩, startsIssued_of_step htask h⟩
    · by_cases hwrite : ∃ v reply, l = .write .adAcquire v reply
      · obtain ⟨v, reply, rfl⟩ := hwrite
        obtain ⟨_, rfl⟩ := step_write_adAcquire h
        rw [portAction_driver]
        simpa [noStart, Label.isStart] using hok
      · rw [control_of_step rfl htask (fun v reply hr => hwrite ⟨v, reply, hr⟩) h]
        exact hw.adAcquire
    · obtain hsame | ⟨v, reply, rfl, hne, _⟩ := startEvent_of_step htask h
      · exact hsame.trans hw.startEvent
      · exact absurd (by simpa [noStart, Label.isStart] using hok) hne
    · exact (willStart_of_samePlace (samePlace_of_step htask h)).trans hw.willStart

/-- A stop request that finds no start signalled and the task not on its way to one is
kept until a client asks for a start again. -/
theorem no_start_after_stop {w₁ w₂ : World} {reply : AdjustReply}
    (hstop : w.step base (.write .adAcquire 0 reply) = some w₁)
    (hevent : w.startEvent = false) (hwill : w.willStart = false)
    (hrun : Run (step base) noStart w₁ w₂) : startsIssued w₂.log = startsIssued w₁.log := by
  have htask : ∀ r, Label.write .adAcquire 0 reply ≠ .task r := fun r hr => by cases hr
  have hstopped : Stopped w₁ := by
    refine ⟨?_, ?_, (willStart_of_samePlace (samePlace_of_step htask hstop)).trans hwill⟩
    · obtain ⟨_, rfl⟩ := step_write_adAcquire hstop
      simp [portAction_driver]
    · obtain hsame | ⟨v, r, hl, hne, _⟩ := startEvent_of_step htask hstop
      · exact hsame.trans hevent
      · cases hl
        exact absurd rfl hne
  have hstep : ∀ a l b, Stopped a → noStart a l → a.step base l = some b →
      Stopped b ∧ startsIssued b.log = startsIssued a.log :=
    fun a l b ha hok hs => stopped_step ha hok hs
  exact hrun.constant (fun a => startsIssued a.log) hstep hstopped

theorem no_start_after_stop_in_exposure :
    ∃ w w₁ w₂ : World, Run (step (.store 8)) always (.atRest adImageSingle 1 3 0) w ∧
      w.step (.store 8) (.write .adAcquire 0 .raised) = some w₁ ∧
      Run (step (.store 8)) noStart w₁ w₂ ∧ w₂.pc = .waitStart ∧
      startsIssued w₂.log = startsIssued w₁.log := by
  have hreach : reaches (step (.store 8)) always (.atRest adImageSingle 1 3 0) firstExposure
      (fun w => (w.startEvent = false ∧ w.willStart = false) ∧
        (w.step (.store 8) (.write .adAcquire 0 .raised)).any fun w₁ =>
          reaches (step (.store 8)) noStart w₁ (stopExposure.tail ++ .replicate 13 (.task .ok))
            fun w₂ => w₂.pc = .waitStart) = true := by
    decide +kernel
  obtain ⟨w, hrun, hw⟩ := run_of_reaches hreach
  simp only [decide_eq_true_eq, Option.any_eq_true] at hw
  obtain ⟨⟨hevent, hwill⟩, w₁, hstop, hw₁⟩ := hw
  obtain ⟨w₂, hrest, hw₂⟩ := run_of_reaches hw₁
  exact ⟨w, w₁, w₂, hrun, hstop, hrest, by simpa using hw₂,
    no_start_after_stop hstop hevent hwill hrest⟩

/-- The stop request is written before the task has woken up for the start request. -/
theorem start_after_stop :
    Initial (.atRest adImageSingle 1 1 0) ∧
    ¬ ∀ w w₁ w₂ : World, ∀ reply,
      Run (step (.store 8)) always (.atRest adImageSingle 1 1 0) w →
      w.step (.store 8) (.write .adAcquire 0 reply) = some w₁ →
      Run (step (.store 8)) noStart w₁ w₂ → startsIssued w₂.log = startsIssued w₁.log := by
  refine ⟨atRest_initial .., fun hclaim => ?_⟩
  have hreach : reaches (step (.store 8)) always (.atRest adImageSingle 1 1 0)
      [.task .ok, .write .adAcquire 1 .raised] (fun w =>
        (w.step (.store 8) (.write .adAcquire 0 .raised)).any fun w₁ =>
          reaches (step (.store 8)) noStart w₁ (.replicate 8 (.task .ok)) fun w₂ =>
            startsIssued w₂.log ≠ startsIssued w₁.log) = true := by
    decide +kernel
  obtain ⟨w, hrun, hw⟩ := run_of_reaches hreach
  obtain ⟨w₁, hstop, hw₁⟩ := (Option.any_eq_true _ _).mp hw
  obtain ⟨w₂, hrest, hw₂⟩ := run_of_reaches hw₁
  exact absurd (hclaim w w₁ w₂ .raised hrun hstop hrest) (by simpa using hw₂)

end World

end PeakAnalyser

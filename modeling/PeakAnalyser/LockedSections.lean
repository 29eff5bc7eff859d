import PeakAnalyser.AcquisitionSteps

/-!
# The sections of the task that hold the port lock

Between two images, and when an acquisition ends, the task works under the port
lock. Each such section ends at the head of the loop: the task waits for the next
start command or begins an image.
-/

namespace PeakAnalyser

set_option autoImplicit false

namespace World

/-- What the locked sections leave alone. -/
structure Locked (w w' : World) : Prop where
  server : w'.server = w.server
  port : w'.port = w.port
  startEvent : w'.startEvent = w.startEvent
  stopEvent : w'.stopEvent = w.stopEvent
  subscribers : w'.subscribers = w.subscribers
  spectrumId : w'.task.spectrumId = w.task.spectrumId
  guidState : w'.task.guidState = w.task.guidState
  guidAcquired : w'.task.guidAcquired = w.task.guidAcquired

/-- The task is about to wait for the start command; `log` is the trace so far. -/
structure Parks (log : List Event) (w : World) : Prop where
  pc : w.pc = .waitStart
  acquire : w.task.acquire = 0
  adAcquire : w.driver.int .adAcquire = 0
  log : w.log = log

/-- The task begins an image: with the set-up of a measurement if it is the first. -/
structure Begins (log : List Event) (w : World) : Prop where
  acquire : w.task.acquire = w.driver.int .adAcquire
  numImagesCounter : w.task.numImagesCounter = w.driver.int .adNumImagesCounter
  numExposures : w.task.numExposures = w.driver.int .adNumExposures
  numExposuresCounter : w.task.numExposuresCounter = 0
  imageCounter : w.task.imageCounter = w.driver.int .ndArrayCounter
  place : (w.task.numImagesCounter = 0 ∧ w.pc = .call .currentState ∧ w.log = .firstFrame :: log) ∨
    (w.task.numImagesCounter ≠ 0 ∧ w.pc = .call .clearSpectrum ∧ w.log = log)

variable {w : World}

theorem Locked.refl (w : World) : Locked w w := ⟨rfl, rfl, rfl, rfl, rfl, rfl, rfl, rfl⟩

theorem Locked.trans {w₁ w₂ w₃ : World} (h : Locked w₁ w₂) (h' : Locked w₂ w₃) : Locked w₁ w₃ where
  server := h'.server.trans h.server
  port := h'.port.trans h.port
  startEvent := h'.startEvent.trans h.startEvent
  stopEvent := h'.stopEvent.trans h.stopEvent
  subscribers := h'.subscribers.trans h.subscribers
  spectrumId := h'.spectrumId.trans h.spectrumId
  guidState := h'.guidState.trans h.guidState
  guidAcquired := h'.guidAcquired.trans h.guidAcquired

/-- Only the exposure counter of the parameter library changes, and neither the
images nor `status` do. -/
structure Head (w w' : World) : Prop extends Locked w w' where
  failed : w'.task.failed = w.task.failed
  images : w'.images = w.images
  int : ∀ q, q ≠ .adNumExposuresCounter → w'.driver.int q = w.driver.int q

theorem startImage_head (w : World) : Head w w.startImage := by
  unfold startImage beginTask
  dsimp only
  split <;> exact ⟨⟨rfl, rfl, rfl, rfl, rfl, rfl, rfl, rfl⟩, rfl, rfl, fun q hq => by simp [hq]⟩

theorem startImage_begins (hacquire : w.task.acquire = w.driver.int .adAcquire) :
    Begins w.log w.startImage := by
  unfold startImage beginTask
  dsimp only
  split
  · rename_i hzero
    refine ⟨by simpa using hacquire, by simp, by simp, by simp, by simp, Or.inl ⟨hzero, rfl, rfl⟩⟩
  · rename_i hzero
    refine ⟨by simpa using hacquire, by simp, by simp, by simp, by simp, Or.inr ⟨hzero, rfl, rfl⟩⟩

theorem loopHead_head (w : World) : Head w w.loopHead := by
  unfold loopHead
  dsimp only
  split
  · split <;> exact ⟨⟨rfl, rfl, rfl, rfl, rfl, rfl, rfl, rfl⟩, rfl, rfl, fun q _ => rfl⟩
  · obtain ⟨hlocked, hfailed, himages, hint⟩ := startImage_head
      { w with task := { w.task with acquire := w.int .adAcquire } }
    exact ⟨⟨hlocked.1, hlocked.2, hlocked.3, hlocked.4, hlocked.5, hlocked.6, hlocked.7, hlocked.8⟩,
      hfailed, himages, hint⟩

theorem loopHead_parks (hacquire : w.driver.int .adAcquire = 0) : Parks w.log w.loopHead := by
  unfold loopHead
  dsimp only
  rw [if_pos (by simpa using hacquire)]
  split <;> exact ⟨rfl, hacquire, hacquire, rfl⟩

theorem loopHead_begins (hacquire : w.driver.int .adAcquire ≠ 0) : Begins w.log w.loopHead := by
  unfold loopHead
  dsimp only
  rw [if_neg (by simpa using hacquire)]
  exact startImage_begins (w := { w with task := { w.task with acquire := w.int .adAcquire } }) rfl

/-- The head of the loop: the task waits or begins an image, as `ADAcquire` says. -/
theorem loopHead_cases (w : World) :
    (w.driver.int .adAcquire = 0 ∧ Parks w.log w.loopHead) ∨
      (w.driver.int .adAcquire ≠ 0 ∧ Begins w.log w.loopHead) := by
  by_cases hacquire : w.driver.int .adAcquire = 0
  · exact Or.inl ⟨hacquire, loopHead_parks hacquire⟩
  · exact Or.inr ⟨hacquire, loopHead_begins hacquire⟩

theorem weAreAcquiring_locked (w : World) : Locked w w.weAreAcquiring :=
  ⟨rfl, rfl, rfl, rfl, rfl, rfl, rfl, rfl⟩

theorem errored_locked (w : World) : Locked w w.errored :=
  ⟨rfl, rfl, rfl, rfl, rfl, rfl, rfl, rfl⟩

theorem aborted_locked (w : World) : Locked w w.aborted :=
  ⟨rfl, rfl, rfl, rfl, rfl, rfl, rfl, rfl⟩

theorem published_locked (w : World) : Locked w w.published :=
  ⟨rfl, rfl, rfl, rfl, rfl, rfl, rfl, rfl⟩

theorem completed_locked (w : World) : Locked w w.completed := by
  unfold completed
  dsimp only
  split <;> exact ⟨rfl, rfl, rfl, rfl, rfl, rfl, rfl, rfl⟩

theorem afterTry_locked (w : World) : Locked w w.afterTry := by
  unfold afterTry
  split
  · exact (errored_locked w).trans (loopHead_head _).toLocked
  · split
    · exact (aborted_locked w).trans (loopHead_head _).toLocked
    · split
      · exact ⟨rfl, rfl, rfl, rfl, rfl, rfl, rfl, rfl⟩
      · exact ((published_locked w).trans (completed_locked _)).trans (loopHead_head _).toLocked

theorem finishes_of_ne {t : Task} {a : Int} (ha : a ≠ 0) (ht : t.acquire ≠ 0) :
    ({ t with acquire := a } : Task).finishes = t.finishes := by
  simp [Task.finishes, ha, ht]

/-- The fresh read of line 625 or the image count ends the acquisition. -/
theorem completed_of_finishes
    (h : w.driver.int .adAcquire = 0 ∨ (w.task.acquire ≠ 0 ∧ w.task.finishes = true)) :
    w.completed = { w with
      task := { w.task with acquire := w.driver.int .adAcquire }
      driver := (w.driver.setIntegerParam .adAcquire 0).setIntegerParam .adStatus adStatusIdle } := by
  have hfinishes :
      ({ w.task with acquire := w.driver.int .adAcquire } : Task).finishes = true := by
    by_cases hzero : w.driver.int .adAcquire = 0
    · simp [Task.finishes, hzero]
    · obtain ⟨hne, hfin⟩ := h.resolve_left hzero
      rw [finishes_of_ne hzero hne]
      exact hfin
  unfold completed
  exact if_pos hfinishes

theorem completed_of_continues (hne : w.task.acquire ≠ 0) (hacquire : w.driver.int .adAcquire ≠ 0)
    (h : w.task.finishes = false) :
    w.completed = { w with task := { w.task with acquire := w.driver.int .adAcquire } } := by
  have hfinishes :
      ({ w.task with acquire := w.driver.int .adAcquire } : Task).finishes ≠ true := by
    rw [finishes_of_ne hacquire hne, h]
    exact Bool.false_ne_true
  unfold completed
  exact if_neg hfinishes

/-- Line 626 finds the acquisition complete, or the next image is wanted. -/
theorem completed_cases (w : World) :
    (w.completed.driver.int .adAcquire = 0 ∧ w.completed.driver.int .adStatus = adStatusIdle) ∨
      (w.driver.int .adAcquire ≠ 0 ∧ w.completed.driver = w.driver) := by
  unfold completed
  dsimp only
  split
  · exact Or.inl ⟨by simp, by simp⟩
  · rename_i hfinishes
    refine Or.inr ⟨fun hzero => hfinishes ?_, rfl⟩
    simp [Task.finishes, hzero]

/-! ### Where the task can be -/

/-- Outside an acquisition. -/
def Resting (w : World) : Prop := w.pc = .entry ∨ w.pc = .waitStart ∨ w.pc = .woken

theorem Begins.not_resting {log : List Event} (h : Begins log w) : ¬ Resting w := by
  unfold Resting
  obtain ⟨_, hpc, _⟩ | ⟨_, hpc, _⟩ := h.place <;> simp [hpc]

/-- Where the answer to a call can lead. -/
def Answered (w : World) : Prop :=
  (∃ site, w.pc = .call site) ∨ w.pc = .exposureLoop ∨ w.pc = .waitStop ∨ w.pc = .leaveTry

theorem answered_cleanupAcquired (w : World) : Answered w.cleanupAcquired := by
  unfold cleanupAcquired
  split <;> exact Or.inl ⟨_, rfl⟩

theorem answered_caught (w : World) (what : String) : Answered (w.caught what) := by
  unfold caught
  dsimp only
  split
  · exact Or.inl ⟨_, rfl⟩
  · exact answered_cleanupAcquired _

theorem answered_returnedAt (w : World) (site : Site) (answer : Server) :
    Answered (w.returnedAt site answer) := by
  cases site
  case currentState =>
    unfold returnedAt
    dsimp only
    split
    · exact Or.inl ⟨_, rfl⟩
    · exact answered_caught _ _
  case getMeasuredSpectrum =>
    unfold returnedAt measured
    dsimp only
    split <;> split <;> simp [Answered]
  case cleanupUnsubscribeState => exact answered_cleanupAcquired _
  case cleanupCurrentState =>
    unfold returnedAt
    dsimp only
    split
    · split <;> simp [Answered]
    · simp [Answered]
  all_goals simp [Answered, returnedAt]

theorem answered_place (w : World) (site : Site) (call : Call) (reply : Reply) :
    Answered (w.answered site call reply) := by
  cases reply with
  | ok => exact answered_returnedAt _ _ _
  | raised what executed =>
    unfold answered raisedAt
    dsimp only
    split
    · exact Or.inr (Or.inr (Or.inr rfl))
    · exact answered_caught _ _

theorem Answered.not_resting (h : Answered w) : ¬ Resting w := by
  unfold Resting
  obtain ⟨site, hpc⟩ | hpc | hpc | hpc := h <;> simp [hpc]

/-- A call in flight is the call of its site; only the spectrum definition may have
been rebuilt meanwhile. -/
def Issued (w : World) : Prop :=
  ∀ site call, w.pc = .inCall site call →
    w.callAt site = some call ∨ ∃ d, site = .defineSpectrum ∧ call = .defineSpectrum d

theorem issued_of_not {w : World} (h : ∀ site call, w.pc ≠ .inCall site call) : Issued w :=
  fun site call hpc => absurd hpc (h site call)

theorem Answered.issued (h : Answered w) : Issued w := by
  refine issued_of_not fun site call => ?_
  obtain ⟨site, hpc⟩ | hpc | hpc | hpc := h <;> simp [hpc]

theorem Begins.issued {log : List Event} (h : Begins log w) : Issued w := by
  refine issued_of_not fun site call => ?_
  obtain ⟨_, hpc, _⟩ | ⟨_, hpc, _⟩ := h.place <;> simp [hpc]

theorem issued_loopHead (w : World) : Issued w.loopHead := by
  obtain ⟨_, hparks⟩ | ⟨_, hbegins⟩ := loopHead_cases w
  · exact issued_of_not fun site call => by simp [hparks.pc]
  · exact hbegins.issued

theorem issued_afterTry (w : World) : Issued w.afterTry := by
  unfold afterTry
  split
  · exact issued_loopHead _
  · split
    · exact issued_loopHead _
    · split
      · exact issued_of_not fun site call => by simp
      · exact issued_loopHead _

theorem callAt_inCall (site : Site) (call : Call) (log : List Event) :
    ({ w with log := log, pc := .inCall site call } : World).callAt site = w.callAt site := by
  cases site <;> rfl

theorem issued_taskStep {w' : World} {reply : Reply} (h : w.taskStep reply = some w') :
    Issued w' := by
  have hstep := taskStep_cases h
  cases hpc : w.pc <;> simp only [hpc] at hstep
  case entry | callbacks =>
    obtain ⟨_, rfl⟩ := hstep
    exact issued_loopHead _
  case woken =>
    obtain ⟨_, rfl⟩ := hstep
    exact (startImage_begins rfl).issued
  case call site =>
    obtain ⟨call, hcall, rfl⟩ | ⟨_, rfl⟩ := hstep
    · intro site' call' hpc'
      obtain ⟨rfl, rfl⟩ := Pc.inCall.inj hpc'
      exact Or.inl ((callAt_inCall _ _ _).trans hcall)
    · exact (answered_returnedAt _ _ _).issued
  case inCall site call =>
    subst hstep
    exact (answered_place _ _ _ _).issued
  case leaveTry =>
    obtain ⟨_, rfl⟩ := hstep
    exact issued_afterTry w
  case exposureDone =>
    obtain ⟨_, rfl⟩ := hstep
    unfold exposureFinished
    dsimp only
    split <;> exact issued_of_not fun site call => by simp
  case waitStart | waitStop =>
    obtain ⟨_, rfl⟩ := hstep
    exact issued_of_not fun site call => by simp
  case exposureLoop =>
    subst hstep
    refine issued_of_not fun site call => ?_
    unfold exposureTest
    split <;> simp
  case clearSteps | tryWait =>
    subst hstep
    exact issued_of_not fun site call => by simp

theorem Issued.of_samePlace {w' : World} (hw : Issued w) (h : SamePlace w w') : Issued w' := by
  intro site call hpc
  obtain ⟨n, htask⟩ := h.task
  rw [h.pc] at hpc
  obtain hcall | ⟨d, rfl, rfl⟩ := hw site call hpc
  · by_cases hsite : site = .defineSpectrum
    · subst hsite
      obtain rfl := Option.some.inj hcall
      exact Or.inr ⟨_, rfl, rfl⟩
    · refine Or.inl (Eq.trans ?_ hcall)
      unfold callAt unsubscribeCall
      rw [h.subscribers, htask]
      cases site <;> first | rfl | exact absurd rfl hsite
  · exact Or.inr ⟨d, rfl, rfl⟩

theorem issued_step {w' : World} {base : ADDriver} {l : Label} (hw : Issued w)
    (h : w.step base l = some w') : Issued w' := by
  by_cases hl : ∃ reply, l = .task reply
  · obtain ⟨reply, rfl⟩ := hl
    exact issued_taskStep h
  · exact hw.of_samePlace (samePlace_of_step (fun reply hr => hl ⟨reply, hr⟩) h)

/-- `status` is set by the handler only, the measurement is finished only when the
acquisition is complete, and only a counted image is published. -/
def Placed (w : World) : Prop :=
  match w.pc with
  | .waitStart | .woken | .leaveTry => True
  | .call site | .inCall site _ =>
    w.task.failed = site.inCleanup ∧ (site.inFinish = true → w.task.finishes = true)
  | .callbacks => w.task.failed = false ∧ w.task.acquire ≠ 0
  | _ => w.task.failed = false

theorem Placed.of_samePlace {w' : World} (hw : Placed w) (h : SamePlace w w') : Placed w' := by
  obtain ⟨n, htask⟩ := h.task
  unfold Placed at hw ⊢
  rw [h.pc, htask]
  exact hw

theorem placed_of_parks {log : List Event} (h : Parks log w) : Placed w := by
  unfold Placed
  rw [h.pc]
  trivial

theorem placed_of_begins {log : List Event} (h : Begins log w) (hfailed : w.task.failed = false) :
    Placed w := by
  unfold Placed
  obtain ⟨_, hpc, _⟩ | ⟨_, hpc, _⟩ := h.place <;> rw [hpc] <;> exact ⟨hfailed, by simp [Site.inFinish]⟩

theorem placed_loopHead (h : w.driver.int .adAcquire = 0 ∨ w.task.failed = false) :
    Placed w.loopHead := by
  obtain ⟨_, hparks⟩ | ⟨hne, hbegins⟩ := loopHead_cases w
  · exact placed_of_parks hparks
  · exact placed_of_begins hbegins ((loopHead_head w).failed.trans (h.resolve_left hne))

theorem placed_afterTry (w : World) : Placed w.afterTry := by
  unfold afterTry
  split
  · exact placed_loopHead (Or.inl (by simp [errored]))
  · rename_i hfailed
    have hfailed : w.task.failed = false := by simpa using hfailed
    split
    · exact placed_loopHead (Or.inr hfailed)
    · rename_i hacquire
      split
      · exact ⟨hfailed, hacquire⟩
      · refine placed_loopHead (Or.inr ?_)
        unfold completed
        dsimp only
        split <;> exact hfailed

theorem placed_cleanupAcquired (h : w.task.failed = true) : Placed w.cleanupAcquired := by
  unfold cleanupAcquired
  split <;> exact ⟨h, by simp [Site.inFinish]⟩

theorem placed_caught (what : String) : Placed (w.caught what) := by
  unfold caught
  dsimp only
  split
  · exact ⟨rfl, by simp [Site.inFinish]⟩
  · exact placed_cleanupAcquired rfl

theorem placed_measured (spectrum : List Ending) (h : w.task.failed = false) :
    Placed (w.measured spectrum) := by
  unfold measured
  dsimp only
  split
  · split
    · rename_i hfinishes
      exact ⟨h, fun _ => hfinishes⟩
    · trivial
  · split
    · rename_i hfinishes
      exact ⟨h, fun _ => hfinishes⟩
    · trivial

theorem placed_returnedAt {site : Site} (answer : Server) (h : w.task.failed = site.inCleanup)
    (hfinish : site.inFinish = true → w.task.finishes = true) :
    Placed (w.returnedAt site answer) := by
  cases site
  case currentState =>
    unfold returnedAt
    dsimp only
    split
    · exact ⟨h, by simp [Site.inFinish]⟩
    · exact placed_caught _
  case getMeasuredSpectrum => exact placed_measured _ h
  case cleanupUnsubscribeState => exact placed_cleanupAcquired h
  case cleanupCurrentState =>
    unfold returnedAt
    dsimp only
    split
    · split <;> exact ⟨h, by simp [Site.inFinish]⟩
    · trivial
  case unsubscribeState | unsubscribeAcquired | finishSpectrum =>
    exact ⟨h, fun _ => hfinish rfl⟩
  case clearSpectrum | start => exact h
  case finishMeasurement | cleanupFinishMeasurement => trivial
  all_goals exact ⟨h, by simp [Site.inFinish]⟩

theorem placed_answered {site : Site} (call : Call) (reply : Reply)
    (h : w.task.failed = site.inCleanup) (hfinish : site.inFinish = true → w.task.finishes = true) :
    Placed (w.answered site call reply) := by
  cases reply with
  | ok => exact placed_returnedAt _ h hfinish
  | raised what executed =>
    simp only [answered, raisedAt]
    split
    · trivial
    · exact placed_caught _

theorem placed_taskStep {w' : World} {reply : Reply} (hw : Placed w)
    (h : w.taskStep reply = some w') : Placed w' := by
  have hstep := taskStep_cases h
  unfold Placed at hw
  cases hpc : w.pc <;> simp only [hpc] at hstep hw
  case entry =>
    obtain ⟨_, rfl⟩ := hstep
    exact placed_loopHead (Or.inr hw)
  case waitStart =>
    obtain ⟨_, rfl⟩ := hstep
    trivial
  case woken =>
    obtain ⟨_, rfl⟩ := hstep
    exact placed_of_begins (startImage_begins rfl) (startImage_head _).failed
  case call site =>
    obtain ⟨call, _, rfl⟩ | ⟨_, rfl⟩ := hstep
    · exact hw
    · exact placed_returnedAt _ hw.1 hw.2
  case inCall site call =>
    subst hstep
    exact placed_answered call reply hw.1 hw.2
  case exposureLoop =>
    subst hstep
    unfold exposureTest
    split
    · exact hw
    · exact ⟨hw, by simp [Site.inFinish]⟩
  case waitStop =>
    obtain ⟨_, rfl⟩ := hstep
    exact hw
  case exposureDone =>
    obtain ⟨_, rfl⟩ := hstep
    unfold exposureFinished
    dsimp only
    split
    · exact ⟨hw, by simp [Site.inFinish]⟩
    · exact hw
  case leaveTry =>
    obtain ⟨_, rfl⟩ := hstep
    exact placed_afterTry w
  case callbacks =>
    obtain ⟨_, rfl⟩ := hstep
    refine placed_loopHead (Or.inr ?_)
    unfold completed
    dsimp only
    split <;> exact hw.1
  case tryWait =>
    subst hstep
    exact ⟨hw, by simp [Site.inFinish]⟩
  case clearSteps =>
    subst hstep
    exact hw

theorem placed_step {w' : World} {base : ADDriver} {l : Label} (hw : Placed w)
    (h : w.step base l = some w') : Placed w' := by
  by_cases hl : ∃ reply, l = .task reply
  · obtain ⟨reply, rfl⟩ := hl
    exact placed_taskStep hw h
  · exact hw.of_samePlace (samePlace_of_step (fun reply hr => hl ⟨reply, hr⟩) h)

/-! ### The task alone -/

theorem loopHead_log (w : World) : w.loopHead.log = w.log ∨ w.loopHead.log = .firstFrame :: w.log := by
  obtain ⟨_, hparks⟩ | ⟨_, hbegins⟩ := loopHead_cases w
  · exact Or.inl hparks.log
  · obtain ⟨_, _, hlog⟩ | ⟨_, _, hlog⟩ := hbegins.place
    · exact Or.inr hlog
    · exact Or.inl hlog

theorem completed_log (w : World) : w.completed.log = w.log := by
  unfold completed
  dsimp only
  split <;> rfl

theorem afterTry_log (w : World) : w.afterTry.log = w.log ∨ w.afterTry.log = .firstFrame :: w.log := by
  unfold afterTry
  split
  · exact loopHead_log w.errored
  · split
    · exact loopHead_log w.aborted
    · split
      · exact Or.inl rfl
      · have hlog := loopHead_log w.published.completed
        rw [completed_log] at hlog
        exact hlog

/-- What a step of the task adds to the trace. -/
theorem log_of_taskStep {w' : World} {reply : Reply} (h : w.taskStep reply = some w') :
    w'.log = w.log ∨ w'.log = .firstFrame :: w.log ∨
      (∃ site call, w.pc = .call site ∧ w.callAt site = some call ∧
        w'.log = .issued call :: w.log) ∨
      ∃ site call, w.pc = .inCall site call ∧ w'.log = reply.event call :: w.log := by
  have hstep := taskStep_cases h
  cases hpc : w.pc <;> simp only [hpc] at hstep
  case entry =>
    obtain ⟨_, rfl⟩ := hstep
    obtain hlog | hlog := loopHead_log w
    · exact Or.inl hlog
    · exact Or.inr (Or.inl hlog)
  case woken =>
    obtain ⟨_, rfl⟩ := hstep
    obtain ⟨_, _, hlog⟩ | ⟨_, _, hlog⟩ := (startImage_begins (w := w.weAreAcquiring) rfl).place
    · exact Or.inr (Or.inl hlog)
    · exact Or.inl hlog
  case call site =>
    obtain ⟨call, hcall, rfl⟩ | ⟨_, rfl⟩ := hstep
    · exact Or.inr (Or.inr (Or.inl ⟨site, call, rfl, hcall, rfl⟩))
    · exact Or.inl (returnedAt_taskOnly w site w.server).log
  case inCall site call =>
    subst hstep
    exact Or.inr (Or.inr (Or.inr ⟨site, call, rfl, (answered_taskOnly w site call reply).log⟩))
  case exposureDone =>
    obtain ⟨_, rfl⟩ := hstep
    unfold exposureFinished
    dsimp only
    split <;> exact Or.inl rfl
  case leaveTry =>
    obtain ⟨_, rfl⟩ := hstep
    obtain hlog | hlog := afterTry_log w
    · exact Or.inl hlog
    · exact Or.inr (Or.inl hlog)
  case callbacks =>
    obtain ⟨_, rfl⟩ := hstep
    have hlog := loopHead_log w.completed
    rw [completed_log] at hlog
    obtain hlog | hlog := hlog
    · exact Or.inl hlog
    · exact Or.inr (Or.inl hlog)
  case waitStart | waitStop =>
    obtain ⟨_, rfl⟩ := hstep
    exact Or.inl rfl
  case exposureLoop | clearSteps | tryWait =>
    subst hstep
    exact Or.inl rfl

/-- The task never touches the port thread, and works under the lock only. -/
theorem port_of_taskStep {w' : World} {reply : Reply} (h : w.taskStep reply = some w') :
    w'.port = w.port := by
  have hstep := taskStep_cases h
  cases hpc : w.pc <;> simp only [hpc] at hstep
  case entry =>
    obtain ⟨_, rfl⟩ := hstep
    exact (loopHead_head w).port
  case woken =>
    obtain ⟨_, rfl⟩ := hstep
    exact (startImage_head w.weAreAcquiring).port
  case call site =>
    obtain ⟨call, _, rfl⟩ | ⟨_, rfl⟩ := hstep
    · rfl
    · exact (returnedAt_taskOnly w site w.server).port
  case inCall site call =>
    subst hstep
    exact (answered_taskOnly w site call reply).port
  case exposureDone =>
    obtain ⟨_, rfl⟩ := hstep
    unfold exposureFinished
    dsimp only
    split <;> rfl
  case leaveTry =>
    obtain ⟨_, rfl⟩ := hstep
    exact (afterTry_locked w).port
  case callbacks =>
    obtain ⟨_, rfl⟩ := hstep
    exact (loopHead_head _).port.trans (completed_locked w).port
  case waitStart | waitStop =>
    obtain ⟨_, rfl⟩ := hstep
    rfl
  case exposureLoop | clearSteps | tryWait =>
    subst hstep
    rfl

end World

end PeakAnalyser

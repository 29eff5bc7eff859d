import PeakAnalyser.LockedSections

/-!
# From one image to the next

The task finishes the measurement inside the `try` block, by its own copy of
`ADAcquire`, and goes idle after the array callbacks, by a fresh read. What the
two decisions make of the next place of the task is settled here once.
-/

namespace PeakAnalyser

set_option autoImplicit false

open Runs

namespace World

variable {w w' : World} {base : ADDriver}

/-- The measurement of the acquisition has been finished or cleaned up. -/
def settled (w : World) : Bool := w.task.failed || w.task.finishes

/-- The next step of the task performs the fresh read of line 625. -/
def atCompletion (w : World) : Bool :=
  w.pc = .callbacks ||
    (w.pc = .leaveTry && !w.task.failed && w.task.acquire ≠ 0 && w.driver.int .ndArrayCallbacks = 0)

/-- The fresh read does not see a stop request that the `try` block had not seen. -/
def readsAgree (w : World) : Prop :=
  w.atCompletion = true → w.task.finishes = false → w.driver.int .adAcquire ≠ 0

instance (w : World) : Decidable w.readsAgree := by
  unfold readsAgree
  infer_instance

/-- The image counter: not negative, and positive once an image has been counted. -/
def Counted (w : World) : Prop :=
  0 ≤ w.driver.int .adNumImagesCounter ∧
  match w.pc with
  | .entry | .waitStart | .woken => True
  | .leaveTry =>
    0 ≤ w.task.numImagesCounter ∧ (w.settled = false → 1 ≤ w.task.numImagesCounter)
  | .callbacks =>
    0 ≤ w.task.numImagesCounter ∧ (w.settled = false → 1 ≤ w.task.numImagesCounter) ∧
      w.driver.int .adNumImagesCounter = w.task.numImagesCounter
  | _ => 0 ≤ w.task.numImagesCounter

theorem Counted.of_eq (hw : Counted w) (h : SamePlace w w')
    (hint : w'.driver.int .adNumImagesCounter = w.driver.int .adNumImagesCounter) :
    Counted w' := by
  obtain ⟨n, htask⟩ := h.task
  unfold Counted settled at hw ⊢
  rw [h.pc, htask, hint]
  exact hw

theorem counted_of_begins {log : List Event} (h : Begins log w)
    (hint : 0 ≤ w.driver.int .adNumImagesCounter) : Counted w := by
  refine ⟨hint, ?_⟩
  have hcount : 0 ≤ w.task.numImagesCounter := by
    rw [h.numImagesCounter]
    exact hint
  obtain ⟨_, hpc, _⟩ | ⟨_, hpc, _⟩ := h.place <;> rw [hpc] <;> exact hcount

theorem counted_of_parks {log : List Event} (h : Parks log w)
    (hint : 0 ≤ w.driver.int .adNumImagesCounter) : Counted w := by
  refine ⟨hint, ?_⟩
  rw [h.pc]
  trivial

theorem counted_loopHead (hint : 0 ≤ w.driver.int .adNumImagesCounter) : Counted w.loopHead := by
  have hkeep := (loopHead_head w).int .adNumImagesCounter (by simp)
  obtain ⟨_, hparks⟩ | ⟨_, hbegins⟩ := loopHead_cases w
  · exact counted_of_parks hparks (by rwa [hkeep])
  · exact counted_of_begins hbegins (by rwa [hkeep])

theorem completed_adNumImagesCounter (w : World) :
    w.completed.driver.int .adNumImagesCounter = w.driver.int .adNumImagesCounter := by
  unfold completed
  dsimp only
  split
  · simp
  · rfl

theorem settled_eq_false : w.settled = false ↔ w.task.failed = false ∧ w.task.finishes = false := by
  simp [settled]

theorem counted_afterTry (hw : Counted w) (hpc : w.pc = .leaveTry) : Counted w.afterTry := by
  simp only [Counted, hpc] at hw
  obtain ⟨hint, hcount, hone⟩ := hw
  unfold afterTry
  split
  · exact counted_loopHead (by simpa [errored] using hint)
  · split
    · exact counted_loopHead (by simpa [aborted] using hint)
    · have hpublished : w.published.driver.int .adNumImagesCounter = w.task.numImagesCounter := by
        simp [published]
      split
      · exact ⟨by rwa [hpublished], hcount, hone, hpublished⟩
      · refine counted_loopHead ?_
        rw [completed_adNumImagesCounter, hpublished]
        exact hcount

theorem counted_caught (what : String) (hint : 0 ≤ w.driver.int .adNumImagesCounter)
    (hcount : 0 ≤ w.task.numImagesCounter) : Counted (w.caught what) := by
  unfold caught cleanupAcquired
  dsimp only
  split
  · exact ⟨hint, hcount⟩
  · split <;> exact ⟨hint, hcount⟩

theorem counted_measured (spectrum : List Ending) (hint : 0 ≤ w.driver.int .adNumImagesCounter)
    (hcount : 0 ≤ w.task.numImagesCounter) : Counted (w.measured spectrum) := by
  unfold measured
  dsimp only
  split
  · split
    · exact ⟨hint, by change 0 ≤ w.task.numImagesCounter + 1; omega⟩
    · exact ⟨hint, by change 0 ≤ w.task.numImagesCounter + 1; omega,
        fun _ => by change 1 ≤ w.task.numImagesCounter + 1; omega⟩
  · rename_i hacquire
    have hfinishes : ({ w.task with spectrum := spectrum } : Task).finishes = true := by
      simp only [ne_eq, not_not] at hacquire
      simp [Task.finishes, hacquire]
    rw [if_pos hfinishes]
    exact ⟨hint, hcount⟩

theorem counted_returnedAt {site : Site} (answer : Server) (hplaced : w.task.failed = site.inCleanup)
    (hfinish : site.inFinish = true → w.task.finishes = true)
    (hint : 0 ≤ w.driver.int .adNumImagesCounter) (hcount : 0 ≤ w.task.numImagesCounter) :
    Counted (w.returnedAt site answer) := by
  cases site
  case currentState =>
    unfold returnedAt
    dsimp only
    split
    · exact ⟨hint, hcount⟩
    · exact counted_caught _ hint hcount
  case getMeasuredSpectrum => exact counted_measured _ hint hcount
  case finishMeasurement =>
    refine ⟨hint, hcount, fun hsettled => ?_⟩
    have hfinishes : w.task.finishes = false := (settled_eq_false.mp hsettled).2
    exact absurd (hfinishes.symm.trans (hfinish rfl)) (by decide)
  case cleanupUnsubscribeState =>
    unfold returnedAt cleanupAcquired
    dsimp only
    split <;> exact ⟨hint, hcount⟩
  case cleanupCurrentState =>
    unfold returnedAt
    dsimp only
    split
    · split <;> exact ⟨hint, hcount⟩
    · refine ⟨hint, hcount, fun hsettled => ?_⟩
      have hfailed : w.task.failed = false := (settled_eq_false.mp hsettled).1
      exact absurd (hfailed.symm.trans hplaced) (by decide)
  case cleanupFinishMeasurement =>
    refine ⟨hint, hcount, fun hsettled => ?_⟩
    have hfailed : w.task.failed = false := (settled_eq_false.mp hsettled).1
    exact absurd (hfailed.symm.trans hplaced) (by decide)
  all_goals exact ⟨hint, hcount⟩

theorem counted_answered {site : Site} (call : Call) (reply : Reply)
    (hplaced : w.task.failed = site.inCleanup)
    (hfinish : site.inFinish = true → w.task.finishes = true)
    (hint : 0 ≤ w.driver.int .adNumImagesCounter) (hcount : 0 ≤ w.task.numImagesCounter) :
    Counted (w.answered site call reply) := by
  cases reply with
  | ok => exact counted_returnedAt _ hplaced hfinish hint hcount
  | raised what executed =>
    unfold answered raisedAt
    dsimp only
    split
    · rename_i hcleanup
      refine ⟨hint, hcount, fun hsettled => ?_⟩
      rw [hcleanup] at hplaced
      exact absurd hplaced (by simpa using (settled_eq_false.mp hsettled).1)
    · exact counted_caught _ hint hcount

theorem counted_taskStep {reply : Reply} (hplaced : Placed w) (hw : Counted w)
    (h : w.taskStep reply = some w') : Counted w' := by
  have hstep := taskStep_cases h
  have hint := hw.1
  have hcount := hw.2
  unfold Placed at hplaced
  cases hpc : w.pc <;> simp only [hpc] at hstep hplaced hcount
  case entry =>
    obtain ⟨_, rfl⟩ := hstep
    exact counted_loopHead hint
  case waitStart =>
    obtain ⟨_, rfl⟩ := hstep
    exact ⟨hint, trivial⟩
  case woken =>
    obtain ⟨_, rfl⟩ := hstep
    refine counted_of_begins (startImage_begins rfl) ?_
    rw [(startImage_head _).int .adNumImagesCounter (by simp)]
    simp [weAreAcquiring]
  case call site =>
    obtain ⟨call, _, rfl⟩ | ⟨_, rfl⟩ := hstep
    · exact ⟨hint, hcount⟩
    · exact counted_returnedAt _ hplaced.1 hplaced.2 hint hcount
  case inCall site call =>
    subst hstep
    exact counted_answered call reply hplaced.1 hplaced.2 hint hcount
  case exposureLoop =>
    subst hstep
    unfold exposureTest
    split <;> exact ⟨hint, hcount⟩
  case waitStop =>
    obtain ⟨_, rfl⟩ := hstep
    exact ⟨hint, hcount⟩
  case exposureDone =>
    obtain ⟨_, rfl⟩ := hstep
    unfold exposureFinished
    dsimp only
    split
    · exact ⟨hint, hcount⟩
    · exact ⟨by simpa using hint, hcount⟩
  case leaveTry =>
    obtain ⟨_, rfl⟩ := hstep
    exact counted_afterTry hw hpc
  case callbacks =>
    obtain ⟨_, rfl⟩ := hstep
    refine counted_loopHead ?_
    rw [completed_adNumImagesCounter]
    exact hint
  case clearSteps | tryWait =>
    subst hstep
    exact ⟨hint, hcount⟩

/-- No client writes the image counter. -/
def keepsImageCounter : Label → Prop
  | .write .adNumImagesCounter _ _ => False
  | _ => True

theorem keepsImageCounter_write (f : IntParam) (value : Int) (reply : AdjustReply) :
    f ≠ .adNumImagesCounter ↔ keepsImageCounter (.write f value reply) := by
  cases f <;> simp [keepsImageCounter]

instance (l : Label) : Decidable (keepsImageCounter l) :=
  match l with
  | .write f value reply => decidable_of_iff _ (keepsImageCounter_write f value reply)
  | .task _ | .writeFloat _ _ _ | .port _ | .exposureEnd _ | .notify _ _ | .spectrumUpdate _
  | .otherClient _ _ => .isTrue trivial

theorem counted_step {l : Label} (hplaced : Placed w) (hw : Counted w) (hl : keepsImageCounter l)
    (h : w.step base l = some w') : Counted w' := by
  by_cases htask : ∃ reply, l = .task reply
  · obtain ⟨reply, rfl⟩ := htask
    exact counted_taskStep hplaced hw h
  · have htask : ∀ reply, l ≠ .task reply := fun reply hr => htask ⟨reply, hr⟩
    refine hw.of_eq (samePlace_of_step htask h) (control_of_step rfl htask ?_ h)
    rintro v reply rfl
    exact hl

/-- Where the task goes on from the end of an image. After a settled measurement the next
image comes without a set-up only if the acquisition was restarted during its abort. -/
inductive Onward (w w' : World) : Prop where
  | parks (hpc : w'.pc = .waitStart) (hlog : w'.log = w.log) (hsettled : w.settled = true)
  | first (hpc : w'.pc = .call .currentState) (hlog : w'.log = .firstFrame :: w.log)
      (hsettled : w.settled = true)
  | next (hpc : w'.pc = .call .clearSpectrum) (hlog : w'.log = w.log)
      (hrestart : w.settled = true →
        w.task.acquire = 0 ∧ w.driver.int .adNumImagesCounter ≠ 0)
  | callbacks (hpc : w'.pc = .callbacks) (hlog : w'.log = w.log) (hsettled : w'.settled = w.settled)

theorem onward_parks (hsettled : w.settled = true) (hlog : w'.log = w.log)
    (hacquire : w'.driver.int .adAcquire = 0) : Onward w w'.loopHead :=
  .parks (loopHead_parks hacquire).pc ((loopHead_parks hacquire).log.trans hlog) hsettled

theorem onward_aborted (hacquire : w.task.acquire = 0) : Onward w w.aborted.loopHead := by
  have hsettled : w.settled = true := by simp [settled, Task.finishes, hacquire]
  obtain ⟨hzero, _⟩ | ⟨_, hbegins⟩ := loopHead_cases w.aborted
  · exact onward_parks hsettled rfl hzero
  · obtain ⟨_, hpc, hlog⟩ | ⟨hne, hpc, hlog⟩ := hbegins.place
    · exact .first hpc hlog hsettled
    · refine .next hpc hlog fun _ => ⟨hacquire, ?_⟩
      rw [hbegins.numImagesCounter, (loopHead_head _).int .adNumImagesCounter (by simp)] at hne
      simpa [aborted] using hne

/-- Completion with an image counted and not the last one leads to the next image. -/
theorem onward_completed {w₀ : World} (hsettled : w.settled = w₀.settled) (hlog : w.log = w₀.log)
    (hacquire : w.task.acquire ≠ 0) (hfailed : w.task.failed = false)
    (hagree : w.task.finishes = false → w.driver.int .adAcquire ≠ 0)
    (hone : w.settled = false → 1 ≤ w.driver.int .adNumImagesCounter) :
    Onward w₀ w.completed.loopHead := by
  cases hfinishes : w.task.finishes with
  | true =>
    have hcompleted := completed_of_finishes (Or.inr ⟨hacquire, hfinishes⟩)
    refine onward_parks ?_ (by rw [hcompleted, ← hlog]) (by simp [hcompleted])
    rw [← hsettled]
    simp [settled, hfinishes]
  | false =>
    have hcompleted := completed_of_continues hacquire (hagree hfinishes) hfinishes
    have hopen := settled_eq_false.mpr ⟨hfailed, hfinishes⟩
    have hbegins : Begins w.completed.log w.completed.loopHead :=
      loopHead_begins (by rw [hcompleted]; exact hagree hfinishes)
    obtain ⟨hzero, _, _⟩ | ⟨_, hpc, hnext⟩ := hbegins.place
    · have hkeep := (loopHead_head w.completed).int .adNumImagesCounter (by simp)
      rw [hbegins.numImagesCounter, hkeep, completed_adNumImagesCounter] at hzero
      have hone := hone hopen
      omega
    · refine .next hpc (hnext.trans ?_) fun hs => ?_
      · rw [hcompleted]
        exact hlog
      · rw [← hsettled, hopen] at hs
        cases hs

/-- Leaving the `try` block. -/
theorem onward_afterTry (hw : Counted w) (hpc : w.pc = .leaveTry) (hagree : w.readsAgree) :
    Onward w w.afterTry := by
  simp only [Counted, hpc] at hw
  obtain ⟨hint, hcount, hone⟩ := hw
  unfold afterTry
  split
  · rename_i hfailed
    exact onward_parks (by simp [settled, hfailed]) rfl (by simp [errored])
  · rename_i hfailed
    have hfailed : w.task.failed = false := by simpa using hfailed
    split
    · rename_i hacquire
      exact onward_aborted hacquire
    · rename_i hacquire
      split
      · exact .callbacks rfl rfl rfl
      · rename_i hcallbacks
        have hcompletion : w.atCompletion = true := by
          have hnone : w.driver.int .ndArrayCallbacks = 0 := not_not.mp hcallbacks
          simp [atCompletion, hpc, hfailed, hacquire, hnone]
        refine onward_completed (w := w.published) rfl rfl hacquire hfailed ?_ ?_
        · intro hfinishes
          simpa [published] using hagree hcompletion hfinishes
        · intro hsettled
          simpa [published] using hone hsettled

/-- Coming back from the array callbacks. -/
theorem onward_callbacks (hplaced : Placed w) (hw : Counted w) (hpc : w.pc = .callbacks)
    (hagree : w.readsAgree) : Onward w w.completed.loopHead := by
  simp only [Placed, hpc] at hplaced
  simp only [Counted, hpc] at hw
  obtain ⟨hint, hcount, hone, heq⟩ := hw
  refine onward_completed rfl rfl hplaced.2 hplaced.1 (hagree (by simp [atCompletion, hpc])) ?_
  intro hsettled
  rw [heq]
  exact hone hsettled

theorem completed_loopHead_locked (w : World) : Locked w w.completed.loopHead :=
  (completed_locked w).trans (loopHead_head _).toLocked

end World

end PeakAnalyser

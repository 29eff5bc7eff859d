import PeakAnalyser.LockedSections

/-!
# ADStatus and the phase of the acquisition

A stop request cancels the running exposure only while `ADStatus` is
`ADStatusAcquire`, and a start request is signalled only while it is not.
-/

namespace PeakAnalyser

set_option autoImplicit false

open Runs

namespace World

variable {w w' : World} {base : ADDriver}

/-- The task is about to look at `ADAcquire` at the head of the loop while `ADStatus` is
not `ADStatusAcquire`: at its very beginning, or once it has reported an abort. -/
def readsAtRest (w : World) : Bool :=
  w.pc = .entry || (w.pc = .leaveTry && !w.task.failed && w.task.acquire = 0)

/-- That look finds `ADAcquire` cleared, and no client writes `ADStatus`. -/
def restsFirst (w : World) : Label → Prop
  | .task _ => w.readsAtRest = true → w.driver.int .adAcquire = 0
  | .write .adStatus _ _ => False
  | _ => True

theorem restsFirst_write (w : World) (f : IntParam) (value : Int) (reply : AdjustReply) :
    f ≠ .adStatus ↔ restsFirst w (.write f value reply) := by
  cases f <;> simp [restsFirst]

instance (w : World) (l : Label) : Decidable (restsFirst w l) :=
  match l with
  | .task _ => inferInstanceAs (Decidable (w.readsAtRest = true → w.driver.int .adAcquire = 0))
  | .write f value reply => decidable_of_iff _ (restsFirst_write w f value reply)
  | .writeFloat _ _ _ | .port _ | .exposureEnd _ | .notify _ _ | .spectrumUpdate _
  | .otherClient _ _ => .isTrue trivial

/-- `ADStatus` in agreement with the place of the task. -/
structure StatusAgrees (w : World) : Prop where
  resting : Resting w →
    w.driver.int .adStatus ≠ adStatusAcquire ∧ w.driver.int .adStatus ≠ adStatusDisconnected
  acquiring : ¬ Resting w → w.driver.int .adStatus = adStatusAcquire
  waiting : w.pc = .waitStart → w.startEvent = false → w.driver.int .adAcquire = 0

theorem StatusAgrees.of_acquiring (hrest : ¬ Resting w)
    (h : w.driver.int .adStatus = adStatusAcquire) : StatusAgrees w where
  resting hr := absurd hr hrest
  acquiring _ := h
  waiting hpc := absurd (Or.inr (Or.inl hpc)) hrest

theorem StatusAgrees.of_parks {log : List Event} (hparks : Parks log w)
    (h : w.driver.int .adStatus ≠ adStatusAcquire ∧
      w.driver.int .adStatus ≠ adStatusDisconnected) : StatusAgrees w where
  resting _ := h
  acquiring hrest := absurd (Or.inr (Or.inl hparks.pc)) hrest
  waiting _ _ := hparks.adAcquire

/-- The head of the loop reached with `ADAcquire` cleared. -/
theorem statusAgrees_parked (hacquire : w.driver.int .adAcquire = 0)
    (h : w.driver.int .adStatus ≠ adStatusAcquire ∧
      w.driver.int .adStatus ≠ adStatusDisconnected) : StatusAgrees w.loopHead := by
  refine .of_parks (loopHead_parks hacquire) ?_
  rw [(loopHead_head w).int .adStatus (by simp)]
  exact h

theorem statusAgrees_completed (h : w.driver.int .adStatus = adStatusAcquire) :
    StatusAgrees w.completed.loopHead := by
  obtain ⟨hacquire, hstatus⟩ | ⟨hacquire, hdriver⟩ := completed_cases w
  · refine statusAgrees_parked hacquire ?_
    rw [hstatus]
    decide
  · have hbegins := loopHead_begins (w := w.completed) (by rwa [hdriver])
    refine .of_acquiring hbegins.not_resting ?_
    rw [(loopHead_head w.completed).int .adStatus (by simp), hdriver]
    exact h

theorem statusAgrees_afterTry (h : w.driver.int .adStatus = adStatusAcquire)
    (habort : w.task.failed = false → w.task.acquire = 0 → w.driver.int .adAcquire = 0) :
    StatusAgrees w.afterTry := by
  unfold afterTry
  split
  · refine statusAgrees_parked (by simp [errored]) ?_
    simp [errored]
    decide
  · rename_i hfailed
    split
    · rename_i hacquire
      have hzero := habort (by simpa using hfailed) hacquire
      refine statusAgrees_parked (by simpa [aborted] using hzero) ?_
      simp [aborted]
      decide
    · have hstatus : w.published.driver.int .adStatus = adStatusAcquire := by
        simpa [published] using h
      split
      · exact .of_acquiring (by simp [Resting]) hstatus
      · exact statusAgrees_completed hstatus

theorem statusAgrees_taskStep {reply : Reply} (hw : StatusAgrees w)
    (hok : w.readsAtRest = true → w.driver.int .adAcquire = 0)
    (h : w.taskStep reply = some w') : StatusAgrees w' := by
  have hstep := taskStep_cases h
  have hacquiring := hw.acquiring
  cases hpc : w.pc <;> simp only [hpc] at hstep <;> simp [Resting, hpc] at hacquiring
  case entry =>
    obtain ⟨_, rfl⟩ := hstep
    exact statusAgrees_parked (hok (by simp [readsAtRest, hpc])) (hw.resting (Or.inl hpc))
  case waitStart =>
    obtain ⟨_, rfl⟩ := hstep
    have hrest := hw.resting (Or.inr (Or.inl hpc))
    exact ⟨fun _ => hrest, fun hr => absurd (Or.inr (Or.inr rfl)) hr, by simp⟩
  case woken =>
    obtain ⟨_, rfl⟩ := hstep
    refine .of_acquiring (startImage_begins rfl).not_resting ?_
    rw [(startImage_head _).int .adStatus (by simp)]
    simp [weAreAcquiring]
  case call site =>
    obtain ⟨call, _, rfl⟩ | ⟨_, rfl⟩ := hstep
    · exact .of_acquiring (by simp [Resting]) hacquiring
    · refine .of_acquiring (answered_returnedAt _ _ _).not_resting ?_
      rw [(returnedAt_taskOnly w site w.server).driver]
      exact hacquiring
  case inCall site call =>
    subst hstep
    refine .of_acquiring (answered_place _ _ _ _).not_resting ?_
    rw [(answered_taskOnly w site call reply).driver]
    exact hacquiring
  case exposureLoop =>
    subst hstep
    refine .of_acquiring ?_ hacquiring
    unfold exposureTest Resting
    split <;> simp
  case clearSteps | tryWait =>
    subst hstep
    exact .of_acquiring (by simp [Resting]) hacquiring
  case waitStop =>
    obtain ⟨_, rfl⟩ := hstep
    exact .of_acquiring (by simp [Resting]) hacquiring
  case exposureDone =>
    obtain ⟨_, rfl⟩ := hstep
    unfold exposureFinished
    dsimp only
    split
    · exact .of_acquiring (by simp [Resting]) hacquiring
    · exact .of_acquiring (by simp [Resting]) (by simpa using hacquiring)
  case leaveTry =>
    obtain ⟨_, rfl⟩ := hstep
    refine statusAgrees_afterTry hacquiring fun hfailed hzero => hok ?_
    simp [readsAtRest, hpc, hfailed, hzero]
  case callbacks =>
    obtain ⟨_, rfl⟩ := hstep
    exact statusAgrees_completed hacquiring

/-- A start request is signalled whenever `ADStatus` allows it. -/
theorem startEvent_of_start {v : Int} {reply : AdjustReply} (hv : v ≠ 0)
    (hstatus : w.driver.int .adStatus ≠ adStatusAcquire ∧
      w.driver.int .adStatus ≠ adStatusDisconnected)
    (h : w.step base (.write .adAcquire v reply) = some w') : w'.startEvent = true := by
  obtain ⟨_, rfl⟩ := step_write_adAcquire h
  have haction : (w.driver.setIntegerParam .adAcquire v).acquireAction v = .signalStart := by
    unfold Driver.acquireAction
    simp [hv, hstatus]
  rw [haction]
  rfl

theorem statusAgrees_step {l : Label} (hw : StatusAgrees w) (hok : restsFirst w l)
    (h : w.step base l = some w') : StatusAgrees w' := by
  by_cases hl : ∃ reply, l = .task reply
  · obtain ⟨reply, rfl⟩ := hl
    exact statusAgrees_taskStep hw hok h
  have htask : ∀ reply, l ≠ .task reply := fun reply hr => hl ⟨reply, hr⟩
  have hpc := (samePlace_of_step htask h).pc
  have hstatus : w'.driver.int .adStatus = w.driver.int .adStatus := by
    refine control_of_step rfl htask ?_ h
    rintro v reply rfl
    exact hok
  have hresting : Resting w' ↔ Resting w := by simp [Resting, hpc]
  by_cases hwrite : ∃ v reply, l = .write .adAcquire v reply
  · obtain ⟨v, reply, rfl⟩ := hwrite
    have hvalue : w'.driver.int .adAcquire = v := by
      obtain ⟨_, rfl⟩ := step_write_adAcquire h
      simp [portAction_driver]
    refine ⟨?_, ?_, ?_⟩
    · rw [hresting, hstatus]
      exact hw.resting
    · rw [hresting, hstatus]
      exact hw.acquiring
    · intro hwait hevent
      rw [hpc] at hwait
      by_contra hne
      rw [hvalue] at hne
      have hsignalled := startEvent_of_start hne (hw.resting (Or.inr (Or.inl hwait))) h
      exact absurd (hsignalled.symm.trans hevent) (by simp)
  · have hacquire : w'.driver.int .adAcquire = w.driver.int .adAcquire :=
      control_of_step rfl htask (fun v reply hr => hwrite ⟨v, reply, hr⟩) h
    have hevent : w'.startEvent = w.startEvent := by
      obtain hsame | ⟨v, reply, hr, _⟩ := startEvent_of_step htask h
      · exact hsame
      · exact absurd ⟨v, reply, hr⟩ hwrite
    refine ⟨?_, ?_, ?_⟩
    · rw [hresting, hstatus]
      exact hw.resting
    · rw [hresting, hstatus]
      exact hw.acquiring
    · rw [hpc, hacquire, hevent]
      exact hw.waiting

theorem statusAgrees_initial (h : Initial w) : StatusAgrees w where
  resting _ := by
    have hstatus : w.driver.int .adStatus = adStatusIdle := h.adStatus
    rw [hstatus]
    decide
  acquiring hrest := absurd (Or.inl h.pc) hrest
  waiting hpc := absurd (h.pc.symm.trans hpc) (by simp)

theorem abort_of_stop {reply : AdjustReply} (hstatus : w.driver.int .adStatus = adStatusAcquire)
    (h : w.step base (.write .adAcquire 0 reply) = some w') : w'.port = .calling .abort false := by
  obtain ⟨_, rfl⟩ := step_write_adAcquire h
  have haction : (w.driver.setIntegerParam .adAcquire 0).acquireAction 0 = .abort := by
    unfold Driver.acquireAction
    simp [hstatus]
  rw [haction]
  rfl

/-- While no restart overtakes the report of an abort, `ADStatus` is `ADStatusAcquire`
throughout an acquisition, a stop request reaches `CancelAcquisition`, and a task
that waits without a start signal finds `ADAcquire` cleared. -/
theorem adStatus_while_acquiring {w₀ : World} (hinit : Initial w₀)
    (hrun : Run (step base) restsFirst w₀ w) :
    (¬ Resting w → w.driver.int .adStatus = adStatusAcquire ∧
      ∀ reply w', w.step base (.write .adAcquire 0 reply) = some w' →
        w'.port = .calling .abort false) ∧
    (w.pc = .waitStart → w.startEvent = false → w.driver.int .adAcquire = 0) := by
  have hw : StatusAgrees w :=
    hrun.invariant (fun _ _ _ ha hok hs => statusAgrees_step ha hok hs) (statusAgrees_initial hinit)
  refine ⟨fun hrest => ⟨hw.acquiring hrest, ?_⟩, hw.waiting⟩
  intro reply w' hs
  exact abort_of_stop (hw.acquiring hrest) hs

theorem adStatus_while_acquiring_first_exposure :
    ∃ w, Run (step (.store 8)) restsFirst (.atRest adImageSingle 1 1 0) w ∧ w.pc = .waitStop ∧
      w.driver.int .adStatus = adStatusAcquire := by
  have hreach : reaches (step (.store 8)) restsFirst (.atRest adImageSingle 1 1 0) firstExposure
      (fun w => w.pc = .waitStop) = true := by
    decide +kernel
  obtain ⟨w, hrun, hw⟩ := run_of_reaches hreach
  have hpc : w.pc = .waitStop := by simpa using hw
  have hrest : ¬ Resting w := by simp [Resting, hpc]
  exact ⟨w, hrun, hpc, ((adStatus_while_acquiring (atRest_initial ..) hrun).1 hrest).1⟩

/-- The next start request lands while the abort is being processed: the acquisition that
follows runs under `ADStatusAborted`. -/
theorem adStatus_aborted_while_acquiring :
    Initial (.atRest adImageSingle 1 1 0) ∧
    ¬ ∀ w : World, Run (step (.store 8)) always (.atRest adImageSingle 1 1 0) w →
      w.pc = .waitStop → w.driver.int .adStatus = adStatusAcquire := by
  refine ⟨atRest_initial .., fun hclaim => ?_⟩
  have hreach : reaches (step (.store 8)) always (.atRest adImageSingle 1 1 0)
      (firstExposure ++ stopExposure ++ .replicate 12 (.task .ok) ++
        .write .adAcquire 1 .raised :: .replicate 20 (.task .ok))
      (fun w => w.pc = .waitStop ∧ w.driver.int .adStatus ≠ adStatusAcquire) = true := by
    decide +kernel
  obtain ⟨w, hrun, hw⟩ := run_of_reaches hreach
  obtain ⟨hpc, hstatus⟩ : w.pc = .waitStop ∧ w.driver.int .adStatus ≠ adStatusAcquire := by
    simpa using hw
  exact hstatus (hclaim w hrun hpc)

end World

end PeakAnalyser

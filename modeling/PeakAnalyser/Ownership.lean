import PeakAnalyser.Measurement

/-!
# Whose measurement the clean-up finishes

The driver does not record that it started a measurement. Its finishing sequence and
its clean-up send `FinishMeasurement` to a server that is Measuring, whoever brought
it there.
-/

namespace PeakAnalyser

set_option autoImplicit false

open Runs

namespace Server

variable {v : Server}

/-- Another client's measurement is open. -/
def foreign (v : Server) : Prop := v.state = .measuring ∧ v.own = false

instance (v : Server) : Decidable v.foreign := by
  unfold foreign
  infer_instance

/-- Every `FinishMeasurement` that took effect has its `StartMeasurement`, and so has the
measurement now open. -/
def Accounted (v : Server) : Prop := v.finished + v.own.toNat ≤ v.started

theorem Accounted.finished_le (h : v.Accounted) : v.finished ≤ v.started := by
  unfold Accounted at h
  omega

theorem accounted_exec (call : Call) (h : v.Accounted)
    (hforeign : call = .finishMeasurement → ¬ v.foreign) : (v.exec call).Accounted := by
  have hle := h.finished_le
  unfold Accounted at h ⊢
  cases call
  case startMeasurement =>
    simp only [exec]
    split
    · change v.finished + 1 ≤ v.started + 1
      omega
    · exact h
  case finishMeasurement =>
    simp only [exec]
    split
    · rename_i hstate
      have hown : v.own = true := by
        by_contra hnot
        exact hforeign rfl ⟨hstate, by simpa using hnot⟩
      rw [hown] at h
      exact h
    · exact h
  case acquisitionAsync =>
    simp only [exec]
    split <;> exact h
  all_goals exact h

theorem accounted_disturb (state : AnalyserState) (keepsOwn : Bool) (h : v.Accounted) :
    (v.disturb state keepsOwn).Accounted := by
  unfold Accounted at h ⊢
  cases hown : v.own <;> cases keepsOwn <;> simp [disturb, hown] at h ⊢ <;> omega

theorem accounted_endExposure {v' : Server} {how : Ending} (h : v.Accounted)
    (hend : v.endExposure how = some v') : v'.Accounted := by
  unfold endExposure at hend
  split at hend
  · split at hend
    · cases hend
    · obtain rfl := Option.some.inj hend
      exact h
  · cases hend

end Server

namespace World

variable {w w' : World} {base : ADDriver}

/-- The task is in its finishing sequence or in its clean-up. -/
def finishing (w : World) : Bool :=
  match w.pc with
  | .call site | .inCall site _ => site.inFinish || site.inCleanup
  | _ => false

/-- No measurement of another client is open while the task finishes or cleans up. -/
def exclusive (w : World) : Label → Prop
  | .task _ => w.finishing = true → ¬ w.server.foreign
  | _ => True

instance (w : World) (l : Label) : Decidable (exclusive w l) :=
  match l with
  | .task _ => inferInstanceAs (Decidable (w.finishing = true → ¬ w.server.foreign))
  | .write _ _ _ | .writeFloat _ _ _ | .port _ | .exposureEnd _ | .notify _ _ | .spectrumUpdate _
  | .otherClient _ _ => .isTrue trivial

theorem site_of_finishMeasurement {site : Site} (hw : Issued w)
    (hpc : w.pc = .inCall site .finishMeasurement) :
    site = .finishMeasurement ∨ site = .cleanupFinishMeasurement := by
  obtain hcall | ⟨d, _, hcall⟩ := hw site _ hpc
  · cases site
    case finishMeasurement => exact Or.inl rfl
    case cleanupFinishMeasurement => exact Or.inr rfl
    case unsubscribeState | unsubscribeAcquired | cleanupUnsubscribeState |
        cleanupUnsubscribeAcquired =>
      obtain ⟨_, _, _, hne⟩ := unsubscribeCall_eq_some hcall
      cases hne
    all_goals cases hcall
  · cases hcall

/-- Only the answer to a call of the task changes the server. -/
theorem server_of_taskStep {reply : Reply} (h : w.taskStep reply = some w') :
    w'.server = w.server ∨ ∃ site call, w.pc = .inCall site call ∧
      w'.server = if (reply.event call).carriedOut call then w.server.exec call else w.server := by
  have hstep := taskStep_cases h
  cases hpc : w.pc <;> simp only [hpc] at hstep
  case entry =>
    obtain ⟨_, rfl⟩ := hstep
    exact Or.inl (loopHead_head w).server
  case woken =>
    obtain ⟨_, rfl⟩ := hstep
    exact Or.inl (startImage_head w.weAreAcquiring).server
  case call site =>
    obtain ⟨call, _, rfl⟩ | ⟨_, rfl⟩ := hstep
    · exact Or.inl rfl
    · exact Or.inl (returnedAt_taskOnly w site w.server).server
  case inCall site call =>
    subst hstep
    exact Or.inr ⟨site, call, rfl, (answered_taskOnly w site call reply).server⟩
  case exposureDone =>
    obtain ⟨_, rfl⟩ := hstep
    unfold exposureFinished
    dsimp only
    split <;> exact Or.inl rfl
  case leaveTry =>
    obtain ⟨_, rfl⟩ := hstep
    exact Or.inl (afterTry_locked w).server
  case callbacks =>
    obtain ⟨_, rfl⟩ := hstep
    exact Or.inl ((loopHead_head _).server.trans (completed_locked w).server)
  case waitStart | waitStop =>
    obtain ⟨_, rfl⟩ := hstep
    exact Or.inl rfl
  case exposureLoop | clearSteps | tryWait =>
    subst hstep
    exact Or.inl rfl

theorem accounted_step {l : Label} (hissued : Issued w) (hw : w.server.Accounted)
    (hok : exclusive w l) (h : w.step base l = some w') : w'.server.Accounted := by
  cases l with
  | task reply =>
    obtain hsame | ⟨site, call, hpc, hserver⟩ := server_of_taskStep h
    · rwa [hsame]
    · rw [hserver]
      split
      · refine Server.accounted_exec call hw ?_
        rintro rfl
        refine hok ?_
        obtain rfl | rfl := site_of_finishMeasurement hissued hpc <;>
          simp [finishing, hpc, Site.inFinish, Site.inCleanup]
      · exact hw
  | write f v reply =>
    obtain ⟨_, d, action, _, rfl⟩ := step_write h
    rw [portAction_server]
    exact hw
  | writeFloat f v reply =>
    simp only [step] at h
    split at h
    · obtain ⟨_, _, rfl⟩ := Option.map_eq_some_iff.mp h
      exact hw
    · cases h
  | port reply =>
    obtain ⟨_, _, rfl⟩ | ⟨c, _, _, rfl⟩ := portStep_cases h
    · exact hw
    · dsimp only
      split
      · exact Server.accounted_exec _ hw (by cases c <;> simp [PortCall.call])
      · exact hw
  | exposureEnd how =>
    obtain ⟨v, hv, rfl⟩ := Option.map_eq_some_iff.mp h
    exact Server.accounted_endExposure hw hv
  | notify index keep =>
    obtain ⟨_, _, rfl⟩ := deliver_cases h
    exact hw
  | spectrumUpdate settings =>
    simp only [step] at h
    split at h
    · obtain rfl := Option.some.inj h
      exact hw
    · cases h
  | otherClient state keepsOwn =>
    obtain rfl := Option.some.inj h
    exact Server.accounted_disturb state keepsOwn hw

/-- As long as no measurement of another client is open while the task finishes or cleans
up, the driver finishes no measurement that it did not start, whatever calls fail. -/
theorem finished_le_started {w₀ : World} (hinit : Initial w₀)
    (hrun : Run (step base) exclusive w₀ w) : w.server.finished ≤ w.server.started := by
  have hw : Issued w ∧ w.server.Accounted := by
    refine hrun.invariant (P := fun a => Issued a ∧ a.server.Accounted) ?_ ?_
    · intro a l b ha hok hs
      exact ⟨issued_step ha.1 hs, accounted_step ha.1 ha.2 hok hs⟩
    · refine ⟨issued_of_not fun site call => by simp [hinit.pc], ?_⟩
      unfold Server.Accounted
      rw [hinit.own, hinit.started, hinit.finished]
      decide
  exact hw.2.finished_le

theorem finished_le_started_after_failure :
    ∃ w : World, Run (step (.store 8)) exclusive (.atRest adImageSingle 1 1 0) w ∧
      w.server.started = 1 ∧ w.server.finished = 1 ∧ w.server.finished ≤ w.server.started := by
  have hreach : reaches (step (.store 8)) exclusive (.atRest adImageSingle 1 1 0)
      ([.task .ok, .write .adAcquire 1 .raised] ++ .replicate 9 (.task .ok) ++
        [.task (.raised "SetupSpectrum failed" false)] ++ .replicate 6 (.task .ok))
      (fun w => w.server.started = 1 ∧ w.server.finished = 1) = true := by
    decide +kernel
  obtain ⟨w, hrun, hw⟩ := run_of_reaches hreach
  obtain ⟨hstarted, hfinished⟩ : w.server.started = 1 ∧ w.server.finished = 1 := by simpa using hw
  exact ⟨w, hrun, hstarted, hfinished, finished_le_started (atRest_initial ..) hrun⟩

/-- Another client is Measuring when an acquisition begins: the check of line 428 raises
its exception, and the clean-up finishes that client's measurement. -/
theorem finished_without_start :
    Initial (.atRest adImageSingle 1 1 0) ∧
    ¬ ∀ w : World, Run (step (.store 8)) always (.atRest adImageSingle 1 1 0) w →
      w.server.finished ≤ w.server.started := by
  refine ⟨atRest_initial .., fun hclaim => ?_⟩
  have hreach : reaches (step (.store 8)) always (.atRest adImageSingle 1 1 0)
      ([.task .ok, .write .adAcquire 1 .raised, .otherClient .measuring false] ++
        .replicate 8 (.task .ok))
      (fun w => w.server.started < w.server.finished) = true := by
    decide +kernel
  obtain ⟨w, hrun, hw⟩ := run_of_reaches hreach
  have hlt : w.server.started < w.server.finished := by simpa using hw
  exact absurd (hclaim w hrun) (Nat.not_le.mpr hlt)

end World

end PeakAnalyser

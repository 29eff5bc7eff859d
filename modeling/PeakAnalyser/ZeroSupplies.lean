import PeakAnalyser.Measurement

/-!
# ZeroSupplies

The command to zero all power supplies is refused while `ADAcquire` equals
`ADStatusAcquire`. What keeps it away from a running measurement is the place of
the task, not the flag.
-/

namespace PeakAnalyser

set_option autoImplicit false

open Runs

namespace World

variable {w w' : World} {base : ADDriver}

/-- A measurement of the task is open, or its `StartMeasurement` is under way. -/
def Measuring (w : World) : Prop :=
  0 < openMeasurements w.log ∨ ∃ call, w.pc = .inCall .startMeasurement call

/-- The task is not inside an acquisition, or is done with its measurement. -/
def between (w : World) : Bool :=
  match w.pc with
  | .entry | .waitStart | .woken => true
  | .leaveTry | .callbacks => w.settled
  | _ => false

/-- A command to zero the supplies finds `ADAcquire` at 1 or the task outside of its
measurement. -/
def zeroesBetween (w : World) (l : Label) : Prop :=
  settles w l ∧
  match l with
  | .write .zeroSupplies value _ => value = 1 → w.driver.int .adAcquire = 1 ∨ w.between = true
  | _ => True

theorem zeroesBetween_write (w : World) (f : IntParam) (value : Int) (reply : AdjustReply) :
    (settles w (.write f value reply) ∧
      (f = .zeroSupplies → value = 1 → w.driver.int .adAcquire = 1 ∨ w.between = true)) ↔
      zeroesBetween w (.write f value reply) := by
  cases f <;> simp [zeroesBetween]

instance (w : World) (l : Label) : Decidable (zeroesBetween w l) :=
  match l with
  | .write f value reply => decidable_of_iff _ (zeroesBetween_write w f value reply)
  | .task _ | .writeFloat _ _ _ | .port _ | .exposureEnd _ | .notify _ _ | .spectrumUpdate _
  | .otherClient _ _ => inferInstanceAs (Decidable (settles w _ ∧ True))

/-- The port thread is about to zero the supplies. -/
def zeroing (w : World) : Prop := w.port = .calling .zeroAllSupplies false

theorem between_of_samePlace (h : SamePlace w w') : w'.between = w.between := by
  unfold between
  rw [h.pc, settled_of_samePlace h]

/-- Outside of its measurement the task needs the lock to go on, which the port thread
keeps while it zeroes the supplies. -/
theorem between_taskStep {reply : Reply} (hzero : w.zeroing) (hbetween : w.between = true)
    (h : w.taskStep reply = some w') : w'.between = true := by
  have hstep := taskStep_cases h
  unfold zeroing at hzero
  cases hpc : w.pc <;> simp only [hpc] at hstep
  case entry | woken | leaveTry | callbacks => simp [hzero] at hstep
  case waitStart =>
    obtain ⟨_, rfl⟩ := hstep
    rfl
  all_goals simp [between, hpc] at hbetween

theorem port_of_writeInt32 {f : IntParam} {v : Int} {reply : AdjustReply}
    (h : w.step base (.write f v reply) = some w') (hzero : w'.zeroing) :
    f = .zeroSupplies ∧ v = 1 ∧ w.driver.int .adAcquire ≠ 1 := by
  obtain ⟨hport, d, action, hd, rfl⟩ := step_write h
  have haction : action = .zeroAllSupplies := by
    cases action <;> simp [zeroing, portAction, hport] at hzero
    rfl
  exact (Driver.writeInt32_zeroes base hd).mp haction

theorem between_step {l : Label} (hw : w.zeroing → w.between = true) (hok : zeroesBetween w l)
    (h : w.step base l = some w') (hzero : w'.zeroing) : w'.between = true := by
  by_cases hl : ∃ reply, l = .task reply
  · obtain ⟨reply, rfl⟩ := hl
    have hbefore : w.zeroing := (port_of_taskStep h).symm.trans hzero
    exact between_taskStep hbefore (hw hbefore) h
  have htask : ∀ reply, l ≠ .task reply := fun reply hr => hl ⟨reply, hr⟩
  rw [between_of_samePlace (samePlace_of_step htask h)]
  cases l with
  | task reply => exact absurd rfl (htask reply)
  | write f v reply =>
    obtain ⟨rfl, rfl, hacquire⟩ := port_of_writeInt32 h hzero
    exact (hok.2 rfl).resolve_left hacquire
  | writeFloat f v reply =>
    simp only [step] at h
    split at h
    · obtain ⟨_, _, rfl⟩ := Option.map_eq_some_iff.mp h
      exact hw hzero
    · cases h
  | port reply =>
    obtain ⟨_, _, rfl⟩ | ⟨_, _, _, rfl⟩ := portStep_cases h <;> simp [zeroing] at hzero
  | exposureEnd how =>
    obtain ⟨_, _, rfl⟩ := Option.map_eq_some_iff.mp h
    exact hw hzero
  | notify index keep =>
    obtain ⟨_, _, rfl⟩ := deliver_cases h
    exact hw hzero
  | spectrumUpdate settings =>
    simp only [step] at h
    split at h
    · obtain rfl := Option.some.inj h
      exact hw hzero
    · cases h
  | otherClient state keepsOwn =>
    obtain rfl := Option.some.inj h
    exact hw hzero

theorem not_measuring_of_between (hw : Measures w) (h : w.between = true) : ¬ Measuring w := by
  have hplace := hw.atMostOne.2
  unfold between at h
  rintro (hopen | ⟨call, hpc⟩)
  · cases hpc : w.pc <;> simp [hpc] at h hplace
    case entry | waitStart | woken => omega
    case leaveTry | callbacks =>
      have hzero := hplace h
      omega
  · simp [hpc] at h

/-- Only the port thread asks for the supplies to be zeroed. -/
theorem zeroing_of_issued {l : Label} (h : w.step base l = some w')
    (hlog : w'.log = .issued .zeroAllSupplies :: w.log) : w.zeroing := by
  by_cases hl : ∃ reply, l = .task reply
  · obtain ⟨reply, rfl⟩ := hl
    obtain hsame | hfirst | ⟨site, call, _, hcall, hissued⟩ | ⟨site, call, _, hevent⟩ :=
      log_of_taskStep h
    · simp [hsame] at hlog
    · simp [hfirst] at hlog
    · rw [hissued] at hlog
      obtain rfl : call = .zeroAllSupplies := by simpa using hlog
      cases site
      case unsubscribeState | unsubscribeAcquired | cleanupUnsubscribeState |
          cleanupUnsubscribeAcquired =>
        obtain ⟨_, _, _, hne⟩ := unsubscribeCall_eq_some hcall
        cases hne
      all_goals cases hcall
    · rw [hevent] at hlog
      cases reply <;> simp [Reply.event] at hlog
  · obtain hsame | ⟨c, hport, hissued⟩ | ⟨c, reply, _, hevent⟩ :=
      log_of_step (fun reply hr => hl ⟨reply, hr⟩) h
    · simp [hsame] at hlog
    · rw [hissued] at hlog
      cases c
      · simp [PortCall.call] at hlog
      · exact hport
    · rw [hevent] at hlog
      cases reply <;> simp [Reply.event] at hlog

/-- The supplies are never zeroed during a measurement of the task, as long as each
acquisition settles its measurement and the command finds `ADAcquire` at 1 or the task
outside of its measurement. -/
theorem no_zeroing_while_measuring {w₀ : World} {l : Label} (hinit : Initial w₀)
    (hrun : Run (step base) zeroesBetween w₀ w) (hstep : w.step base l = some w')
    (hlog : w'.log = .issued .zeroAllSupplies :: w.log) : ¬ Measuring w := by
  have hw : Measures w ∧ (w.zeroing → w.between = true) := by
    refine hrun.invariant (P := fun a => Measures a ∧ (a.zeroing → a.between = true)) ?_ ?_
    · intro a l b ha hok hs
      exact ⟨measures_step ha.1 hok.1 hs, between_step ha.2 hok hs⟩
    · refine ⟨measures_initial hinit, fun hzero => ?_⟩
      unfold zeroing at hzero
      rw [hinit.port] at hzero
      cases hzero
  exact not_measuring_of_between hw.1 (hw.2 (zeroing_of_issued hstep hlog))

theorem no_zeroing_while_measuring_at_rest :
    ∃ w w' : World, Run (step (.store 8)) zeroesBetween (.atRest adImageSingle 1 1 0) w ∧
      w.step (.store 8) (.port .ok) = some w' ∧ w'.log = [.issued .zeroAllSupplies] ∧
      ¬ Measuring w := by
  have hreach : reaches (step (.store 8)) zeroesBetween (.atRest adImageSingle 1 1 0)
      [.task .ok, .write .zeroSupplies 1 .raised] (fun w =>
        w.log = [] ∧ (w.step (.store 8) (.port .ok)).any fun w' =>
          w'.log = [.issued .zeroAllSupplies]) = true := by
    decide +kernel
  obtain ⟨w, hrun, hw⟩ := run_of_reaches hreach
  simp only [decide_eq_true_eq, Option.any_eq_true] at hw
  obtain ⟨hlog, w', hstep, hissued⟩ := hw
  refine ⟨w, w', hrun, hstep, hissued, ?_⟩
  exact no_zeroing_while_measuring (atRest_initial ..) hrun hstep (by rw [hissued, hlog])

/-- A stop request clears the flag that guards the command, while the exposure is still
being cancelled. -/
theorem zeroing_while_measuring :
    Initial (.atRest adImageSingle 1 1 0) ∧
    ¬ ∀ (w w' : World) (l : Label), Run (step (.store 8)) always (.atRest adImageSingle 1 1 0) w →
      w.step (.store 8) l = some w' → w'.log = .issued .zeroAllSupplies :: w.log →
      ¬ Measuring w := by
  refine ⟨atRest_initial .., fun hclaim => ?_⟩
  have hreach : reaches (step (.store 8)) always (.atRest adImageSingle 1 1 0)
      (firstExposure ++ [.write .adAcquire 0 .raised, .port .ok, .port .ok,
        .write .zeroSupplies 1 .raised]) (fun w =>
        0 < openMeasurements w.log ∧ (w.step (.store 8) (.port .ok)).any fun w' =>
          w'.log = .issued .zeroAllSupplies :: w.log) = true := by
    decide +kernel
  obtain ⟨w, hrun, hw⟩ := run_of_reaches hreach
  simp only [decide_eq_true_eq, Option.any_eq_true] at hw
  obtain ⟨hopen, w', hstep, hissued⟩ := hw
  exact hclaim w w' _ hrun hstep hissued (Or.inl hopen)

end World

end PeakAnalyser

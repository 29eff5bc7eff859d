import PeakAnalyser.Subscriptions

/-!
# What is released when the task goes idle

With every call succeeding, an acquisition ends through its finishing sequence or,
if the analyser was not Active, through a clean-up that has nothing to release. A
stop request between the two decisions to finish and to go idle defeats both.
-/

namespace PeakAnalyser

set_option autoImplicit false

open Runs

/-- `spectrumId` is empty at these sites. -/
def Site.spectrumReleased : Site → Bool
  | .currentState | .defineSpectrum | .finishMeasurement => true
  | site => site.inCleanup

namespace World

variable {w w' : World} {base : ADDriver}

/-- Where `spectrumId` has been given back, and that a clean-up has nothing to release. -/
def SpectrumPlace (w : World) : Prop :=
  match w.pc with
  | .entry | .waitStart | .woken => w.task.spectrumId = none
  | .call site | .inCall site _ =>
    (site.spectrumReleased = true → w.task.spectrumId = none) ∧
      (site.inCleanup = true → openMeasurements w.log = 0)
  | .leaveTry | .callbacks => w.settled = true → w.task.spectrumId = none
  | _ => True

/-- The spectrum that the server keeps for the driver is that of `spectrumId`. -/
structure SpectrumHeld (w : World) : Prop where
  spectra : w.server.spectra = w.task.spectrumId.toList
  place : SpectrumPlace w

/-- Every call of the task succeeds, no stop request lands between the finishing decision
and the fresh read, and no client writes the image counter. -/
def callsSucceed (w : World) (l : Label) : Prop :=
  keepsImageCounter l ∧
  match l with
  | .task reply => reply = .ok ∧ w.readsAgree
  | _ => True

instance (w : World) (l : Label) : Decidable (callsSucceed w l) :=
  @instDecidableAnd _ _ inferInstance <|
    match l with
    | .task reply => inferInstanceAs (Decidable (reply = .ok ∧ w.readsAgree))
    | .write _ _ _ | .writeFloat _ _ _ | .port _ | .exposureEnd _ | .notify _ _ | .spectrumUpdate _
    | .otherClient _ _ => .isTrue trivial

theorem subscribes_of_callsSucceed {l : Label} (hw : SpectrumHeld w) (hissued : Issued w)
    (hok : callsSucceed w l) : subscribes w l := by
  refine ⟨⟨hok.1, ?_⟩, ?_⟩
  · cases l with
    | task reply =>
      obtain ⟨_, rfl, hagree⟩ := hok
      refine ⟨hagree, ?_⟩
      unfold cleansUp
      split
      · rename_i site call hpc
        intro hcleanup hopen
        have hplace := hw.place
        unfold SpectrumPlace at hplace
        rw [hpc] at hplace
        have hzero := hplace.2 hcleanup
        have hstart : call ≠ .startMeasurement := by
          rintro rfl
          obtain rfl := site_of_startMeasurement hissued hpc
          cases hcleanup
        have hle := openMeasurements_other .ok w.log hstart
        omega
      · trivial
    | _ => trivial
  · cases l with
    | task reply =>
      obtain ⟨_, rfl, _⟩ := hok
      trivial
    | _ => trivial

theorem spectrumPlace_cleanupAcquired (hid : w.task.spectrumId = none)
    (hopen : openMeasurements w.log = 0) : SpectrumPlace w.cleanupAcquired := by
  unfold cleanupAcquired
  split <;> exact ⟨fun _ => hid, fun _ => hopen⟩

theorem spectrumPlace_caught (what : String) (hid : w.task.spectrumId = none)
    (hopen : openMeasurements w.log = 0) : SpectrumPlace (w.caught what) := by
  unfold caught
  dsimp only
  split
  · exact ⟨fun _ => hid, fun _ => hopen⟩
  · exact spectrumPlace_cleanupAcquired hid hopen

theorem spectrumPlace_measured (spectrum : List Ending) (hfailed : w.task.failed = false) :
    SpectrumPlace (w.measured spectrum) := by
  unfold SpectrumPlace
  obtain hpc | ⟨hpc, hsettled⟩ := measured_cases spectrum hfailed
  · rw [hpc]
    exact ⟨fun h => absurd h Bool.false_ne_true, fun h => absurd h Bool.false_ne_true⟩
  · rw [hpc, hsettled]
    exact fun h => absurd h Bool.false_ne_true

theorem spectrumPlace_returnedAt {site : Site} (answer : Server)
    (hfailed : w.task.failed = site.inCleanup)
    (hid : site.spectrumReleased = true → w.task.spectrumId = none)
    (hopen : site = .currentState ∨ site.inCleanup = true → openMeasurements w.log = 0) :
    SpectrumPlace (w.returnedAt site answer) := by
  have hcleanup : site.inCleanup = true → openMeasurements w.log = 0 := fun h => hopen (Or.inr h)
  cases site
  case currentState =>
    unfold returnedAt
    dsimp only
    split
    · exact ⟨hid, fun h => absurd h Bool.false_ne_true⟩
    · exact spectrumPlace_caught _ (hid rfl) (hopen (Or.inl rfl))
  case getMeasuredSpectrum => exact spectrumPlace_measured _ hfailed
  case finishSpectrum => exact ⟨fun _ => rfl, fun h => absurd h Bool.false_ne_true⟩
  case cleanupUnsubscribeState => exact spectrumPlace_cleanupAcquired (hid rfl) (hcleanup rfl)
  case cleanupUnsubscribeAcquired => exact ⟨fun _ => hid rfl, fun _ => hcleanup rfl⟩
  case cleanupCurrentState =>
    unfold returnedAt
    dsimp only
    split
    · split <;> exact ⟨fun _ => hid rfl, fun _ => hcleanup rfl⟩
    · exact fun _ => hid rfl
  case cleanupFinishSpectrum => exact ⟨fun _ => rfl, fun _ => hcleanup rfl⟩
  case finishMeasurement | cleanupFinishMeasurement => exact fun _ => hid rfl
  case clearSpectrum | start => trivial
  all_goals exact ⟨fun h => absurd h Bool.false_ne_true, fun h => absurd h Bool.false_ne_true⟩

theorem exec_spectra (v : Server) {call : Call} (hdefine : ∀ d, call ≠ .defineSpectrum d)
    (hfinish : ∀ id, call ≠ .finishSpectrum id) : (v.exec call).spectra = v.spectra := by
  cases call
  case defineSpectrum d => exact absurd rfl (hdefine d)
  case finishSpectrum id => exact absurd rfl (hfinish id)
  case startMeasurement | acquisitionAsync | finishMeasurement =>
    simp only [Server.exec]
    split <;> rfl
  all_goals rfl

theorem finished_spectra (v : Server) {id : Option Nat} (h : v.spectra = id.toList) :
    (v.exec (.finishSpectrum id)).spectra = [] := by
  cases id <;> simp [Server.exec, h]

/-- The answer to a call keeps the spectrum of the server and `spectrumId` in step. -/
theorem spectra_returned {site : Site} {call : Call} (hw : SpectrumHeld w) (hissued : Issued w)
    (hpc : w.pc = .inCall site call) (log : List Event) :
    (w.server.exec call).spectra =
      (({ w with server := w.server.exec call, log := log }).returnedAt site
        w.server).task.spectrumId.toList := by
  have hplace := hw.place
  unfold SpectrumPlace at hplace
  rw [hpc] at hplace
  by_cases hdefine : site = .defineSpectrum
  · subst hdefine
    have hnone := hplace.1 rfl
    obtain ⟨d, rfl⟩ : ∃ d, call = .defineSpectrum d := by
      obtain hcall | ⟨d, _, rfl⟩ := hissued _ _ hpc
      · exact ⟨_, (Option.some.inj hcall).symm⟩
      · exact ⟨d, rfl⟩
    simp [Server.exec, returnedAt, hw.spectra, hnone]
  have hcall := call_of_issued hissued hpc hdefine
  by_cases hfinish : site = .finishSpectrum ∨ site = .cleanupFinishSpectrum
  · obtain rfl | rfl := hfinish <;> obtain rfl := Option.some.inj hcall <;>
      exact finished_spectra w.server hw.spectra
  · obtain ⟨hfinish, hcleanup⟩ := not_or.mp hfinish
    rw [spectrumId_returnedAt _ hdefine hfinish hcleanup]
    refine (exec_spectra _ ?_ ?_).trans hw.spectra
    · rintro d rfl
      cases site
      case defineSpectrum => exact absurd rfl hdefine
      case unsubscribeState | unsubscribeAcquired | cleanupUnsubscribeState |
          cleanupUnsubscribeAcquired =>
        obtain ⟨_, _, _, hne⟩ := unsubscribeCall_eq_some hcall
        cases hne
      all_goals cases hcall
    · rintro id rfl
      cases site
      case finishSpectrum => exact absurd rfl hfinish
      case cleanupFinishSpectrum => exact absurd rfl hcleanup
      case unsubscribeState | unsubscribeAcquired | cleanupUnsubscribeState |
          cleanupUnsubscribeAcquired =>
        obtain ⟨_, _, _, hne⟩ := unsubscribeCall_eq_some hcall
        cases hne
      all_goals cases hcall

theorem spectrumHeld_answered {site : Site} {call : Call} (hw : SpectrumHeld w) (hm : Measures w)
    (hpc : w.pc = .inCall site call) : SpectrumHeld (w.answered site call .ok) := by
  have hplaced := hm.placed
  have hmost := hm.atMostOne.2
  have hplace := hw.place
  simp only [Placed, hpc] at hplaced
  simp only [hpc] at hmost
  unfold SpectrumPlace at hplace
  rw [hpc] at hplace
  have hexec : ((Reply.ok.event call).carriedOut call) = true := by
    simp [Reply.event, Event.carriedOut]
  unfold answered
  simp only [hexec, if_true, record]
  constructor
  · rw [(returnedAt_taskOnly _ _ _).server]
    exact spectra_returned hw hm.issued hpc _
  · refine spectrumPlace_returnedAt _ hplaced.1 hplace.1 fun hsite => ?_
    have hstart : call ≠ .startMeasurement := by
      rintro rfl
      obtain rfl := site_of_startMeasurement hm.issued hpc
      obtain hsite | hsite := hsite <;> cases hsite
    have hle := openMeasurements_other .ok w.log hstart
    have hzero : openMeasurements w.log = 0 := by
      obtain rfl | hsite := hsite
      · exact hmost rfl
      · exact hplace.2 hsite
    change openMeasurements (Reply.ok.event call :: w.log) = 0
    omega

theorem spectrumPlace_of_begins {log : List Event} (h : Begins log w)
    (hid : w.task.spectrumId = none) : SpectrumPlace w := by
  unfold SpectrumPlace
  obtain ⟨_, hpc, _⟩ | ⟨_, hpc, _⟩ := h.place <;> rw [hpc] <;>
    exact ⟨fun _ => hid, fun h => absurd h Bool.false_ne_true⟩

theorem spectrumHeld_of_onward (hw : SpectrumHeld w) (hpc : w.pc = .leaveTry ∨ w.pc = .callbacks)
    (hlocked : Locked w w') (h : Onward w w') : SpectrumHeld w' := by
  have hid : w.settled = true → w'.task.spectrumId = none := by
    rw [hlocked.spectrumId]
    have hplace := hw.place
    unfold SpectrumPlace at hplace
    obtain hpc | hpc := hpc <;> rw [hpc] at hplace <;> exact hplace
  constructor
  · rw [hlocked.server, hlocked.spectrumId]
    exact hw.spectra
  unfold SpectrumPlace
  cases h with
  | parks hpc' hlog hs =>
    rw [hpc']
    exact hid hs
  | first hpc' hlog hs =>
    rw [hpc']
    exact ⟨fun _ => hid hs, fun h => absurd h Bool.false_ne_true⟩
  | next hpc' hlog _ =>
    rw [hpc']
    exact ⟨fun h => absurd h Bool.false_ne_true, fun h => absurd h Bool.false_ne_true⟩
  | callbacks hpc' hlog hs =>
    rw [hpc', hs]
    exact hid

theorem spectrumHeld_taskStep (hm : Measures w) (hw : SpectrumHeld w) (hagree : w.readsAgree)
    (h : w.taskStep .ok = some w') : SpectrumHeld w' := by
  have hstep := taskStep_cases h
  have hspectra := hw.spectra
  have hplace := hw.place
  unfold SpectrumPlace at hplace
  cases hpc : w.pc <;> simp only [hpc] at hstep hplace
  case entry =>
    obtain ⟨_, rfl⟩ := hstep
    have hlocked := (loopHead_head w).toLocked
    have hid := hlocked.spectrumId.trans hplace
    refine ⟨by rw [hlocked.server, hlocked.spectrumId]; exact hspectra, ?_⟩
    obtain ⟨_, hparks⟩ | ⟨_, hbegins⟩ := loopHead_cases w
    · unfold SpectrumPlace
      rw [hparks.pc]
      exact hid
    · exact spectrumPlace_of_begins hbegins hid
  case waitStart =>
    obtain ⟨_, rfl⟩ := hstep
    exact ⟨hspectra, hplace⟩
  case woken =>
    obtain ⟨_, rfl⟩ := hstep
    have hlocked := (weAreAcquiring_locked w).trans (startImage_head _).toLocked
    exact ⟨by rw [hlocked.server, hlocked.spectrumId]; exact hspectra,
      spectrumPlace_of_begins (startImage_begins rfl) (hlocked.spectrumId.trans hplace)⟩
  case call site =>
    obtain ⟨call, _, rfl⟩ | ⟨hcall, rfl⟩ := hstep
    · refine ⟨hspectra, hplace.1, fun hcleanup => ?_⟩
      rw [openMeasurements_issued]
      exact hplace.2 hcleanup
    · have hplaced := hm.placed
      simp only [Placed, hpc] at hplaced
      constructor
      · rw [(returnedAt_taskOnly w site w.server).server, spectrumId_returnedAt, hspectra] <;>
          (rintro rfl; cases hcall)
      · refine spectrumPlace_returnedAt _ hplaced.1 hplace.1 ?_
        rintro (rfl | hcleanup)
        · cases hcall
        · exact hplace.2 hcleanup
  case inCall site call =>
    subst hstep
    exact spectrumHeld_answered hw hm hpc
  case exposureLoop =>
    subst hstep
    unfold exposureTest
    split
    · exact ⟨hspectra, trivial⟩
    · exact ⟨hspectra, fun h => absurd h Bool.false_ne_true, fun h => absurd h Bool.false_ne_true⟩
  case waitStop =>
    obtain ⟨_, rfl⟩ := hstep
    exact ⟨hspectra, trivial⟩
  case exposureDone =>
    obtain ⟨_, rfl⟩ := hstep
    unfold exposureFinished
    dsimp only
    split
    · exact ⟨hspectra, fun h => absurd h Bool.false_ne_true, fun h => absurd h Bool.false_ne_true⟩
    · exact ⟨hspectra, trivial⟩
  case leaveTry =>
    obtain ⟨_, rfl⟩ := hstep
    have hlocked := afterTry_locked w
    have honward := onward_afterTry hm.counted hpc hagree
    exact spectrumHeld_of_onward hw (Or.inl hpc) hlocked honward
  case callbacks =>
    obtain ⟨_, rfl⟩ := hstep
    have hlocked := completed_loopHead_locked w
    have honward := onward_callbacks hm.placed hm.counted hpc hagree
    exact spectrumHeld_of_onward hw (Or.inr hpc) hlocked honward
  case clearSteps =>
    subst hstep
    exact ⟨hspectra, trivial⟩
  case tryWait =>
    subst hstep
    exact ⟨hspectra, fun h => absurd h Bool.false_ne_true, fun h => absurd h Bool.false_ne_true⟩

theorem spectra_of_step {l : Label} (hl : ∀ reply, l ≠ .task reply) (h : w.step base l = some w') :
    w'.server.spectra = w.server.spectra := by
  cases l with
  | task reply => exact absurd rfl (hl reply)
  | write f v reply =>
    obtain ⟨_, d, action, _, rfl⟩ := step_write h
    rw [portAction_server]
  | writeFloat f v reply =>
    simp only [step] at h
    split at h
    · obtain ⟨_, _, rfl⟩ := Option.map_eq_some_iff.mp h
      rfl
    · cases h
  | port reply =>
    obtain ⟨_, _, rfl⟩ | ⟨c, _, _, rfl⟩ := portStep_cases h
    · rfl
    · dsimp only
      split
      · exact exec_spectra w.server (by cases c <;> simp [PortCall.call])
          (by cases c <;> simp [PortCall.call])
      · rfl
  | exposureEnd how =>
    obtain ⟨v, hv, rfl⟩ := Option.map_eq_some_iff.mp h
    exact (Server.endExposure_lists w.server hv).2.2.1
  | notify index keep =>
    obtain ⟨_, _, rfl⟩ := deliver_cases h
    rfl
  | spectrumUpdate settings =>
    simp only [step] at h
    split at h
    · obtain rfl := Option.some.inj h
      rfl
    · cases h
  | otherClient state keepsOwn =>
    obtain rfl := Option.some.inj h
    rfl

theorem spectrumHeld_step {l : Label} (hm : Measures w) (hw : SpectrumHeld w)
    (hok : callsSucceed w l) (h : w.step base l = some w') : SpectrumHeld w' := by
  by_cases hl : ∃ reply, l = .task reply
  · obtain ⟨reply, rfl⟩ := hl
    obtain ⟨_, rfl, hagree⟩ := hok
    exact spectrumHeld_taskStep hm hw hagree h
  · have htask : ∀ reply, l ≠ .task reply := fun reply hr => hl ⟨reply, hr⟩
    have hplace := samePlace_of_step htask h
    obtain ⟨n, hsame⟩ := hplace.task
    constructor
    · rw [spectra_of_step htask h, hsame]
      exact hw.spectra
    · unfold SpectrumPlace
      rw [hplace.pc, openMeasurements_of_step htask h, settled_of_samePlace hplace, hsame]
      exact hw.place

/-- What the task holds, in a run in which every call succeeds. -/
structure Holdings (w : World) : Prop where
  measures : Measures w
  subscribed : Subscribed w
  spectrum : SpectrumHeld w

theorem holdings_step {l : Label} (hw : Holdings w) (hok : callsSucceed w l)
    (h : w.step base l = some w') : Holdings w' := by
  have hsubscribes := subscribes_of_callsSucceed hw.spectrum hw.measures.issued hok
  exact ⟨measures_step hw.measures hsubscribes.1 h,
    subscribed_step hw.measures hw.subscribed hsubscribes h,
    spectrumHeld_step hw.measures hw.spectrum hok h⟩

theorem holdings_initial (h : Initial w) : Holdings w where
  measures := measures_initial h
  subscribed := subscribed_initial h
  spectrum :=
    { spectra := by simp [h.spectra, h.spectrumId]
      place := by
        unfold SpectrumPlace
        rw [h.pc]
        exact h.spectrumId }

/-- With every call succeeding, and no stop request between the finishing decision and the
fresh read of an image, a task that waits for a start has closed its measurement,
finished its spectrum and given both subscriptions back. -/
theorem released_when_waiting {w₀ : World} (hinit : Initial w₀)
    (hrun : Run (step base) callsSucceed w₀ w) (hpc : w.pc = .waitStart) :
    openMeasurements w.log = 0 ∧ w.server.spectra = [] ∧ w.server.observers = [] ∧
      w.server.updates = [] ∧ w.subscribers = [] := by
  have hw : Holdings w :=
    hrun.invariant (fun _ _ _ ha hok hs => holdings_step ha hok hs) (holdings_initial hinit)
  have hopen := hw.measures.atMostOne.2
  have hheld := hw.subscribed.held
  have hid := hw.spectrum.place
  simp only [hpc] at hopen
  simp only [Held, hpc] at hheld
  simp only [SpectrumPlace, hpc] at hid
  obtain ⟨hstate, hacquired⟩ := hheld
  have hlinked := hw.subscribed.linked
  refine ⟨hopen, ?_, ?_, ?_, ?_⟩
  · simp [hw.spectrum.spectra, hid]
  · simp [hlinked.observers, hstate]
  · simp [hlinked.updates, hacquired]
  · simp [hlinked.subscribers, hstate, hacquired]

theorem released_when_waiting_after_acquisition :
    ∃ w : World, Run (step (.store 8)) callsSucceed (.atRest adImageMultiple 1 1 1) w ∧
      w.images ≠ [] ∧ w.pc = .waitStart ∧ openMeasurements w.log = 0 ∧ w.server.spectra = [] ∧
      w.server.observers = [] ∧ w.server.updates = [] ∧ w.subscribers = [] := by
  have hreach : reaches (step (.store 8)) callsSucceed (.atRest adImageMultiple 1 1 1)
      (firstExposure ++ [.exposureEnd .normal, .notify 1 false] ++ .replicate 15 (.task .ok))
      (fun w => w.images ≠ [] ∧ w.pc = .waitStart) = true := by
    decide +kernel
  obtain ⟨w, hrun, hw⟩ := run_of_reaches hreach
  obtain ⟨himages, hpc⟩ : w.images ≠ [] ∧ w.pc = .waitStart := by simpa using hw
  exact ⟨w, hrun, himages, hpc, released_when_waiting (atRest_initial ..) hrun hpc⟩

/-- A stop request during the array callbacks of the first of two images: the task goes
idle with its measurement open. -/
theorem measurement_left_open :
    Initial (.atRest adImageMultiple 2 1 1) ∧
    ¬ ∀ w : World, Run (step (.store 8)) (fun _ l => l.succeeds = true)
      (.atRest adImageMultiple 2 1 1) w → w.pc = .waitStart → openMeasurements w.log = 0 := by
  refine ⟨atRest_initial .., fun hclaim => ?_⟩
  have hreach : reaches (step (.store 8)) (fun _ l => l.succeeds = true)
      (.atRest adImageMultiple 2 1 1)
      (firstExposure ++ [.exposureEnd .normal, .notify 1 false] ++ .replicate 6 (.task .ok) ++
        [.write .adAcquire 0 .raised, .port .ok, .port .ok, .task .ok])
      (fun w => w.pc = .waitStart ∧ openMeasurements w.log ≠ 0) = true := by
    decide +kernel
  obtain ⟨w, hrun, hw⟩ := run_of_reaches hreach
  obtain ⟨hpc, hopen⟩ : w.pc = .waitStart ∧ openMeasurements w.log ≠ 0 := by simpa using hw
  exact hopen (hclaim w hrun hpc)

end World

end PeakAnalyser

import PeakAnalyser.AcquisitionCalls
import PeakAnalyser.Library.InTransit

/-!
# An acquisition comes to its end

Every step of the task brings an acquisition that nobody disturbs nearer to its end. The task
waits for the server only, and an analyser that it has to itself ends every exposure that it
was asked for.
-/

namespace PeakAnalyser

set_option autoImplicit false

open Runs

def Label.isTask : Label → Bool
  | .task _ => true
  | _ => false

/-- The steps of the task from a place to the end of the image, if `e` of its `n` exposures are
still to be made. -/
def stepsFrom (n e : Nat) : Pc → Nat
  | .call .currentState => 7 * n + 35
  | .inCall .currentState _ => 7 * n + 34
  | .call .defineSpectrum => 7 * n + 33
  | .inCall .defineSpectrum _ => 7 * n + 32
  | .call .startMeasurement => 7 * n + 31
  | .inCall .startMeasurement _ => 7 * n + 30
  | .call .setupSpectrum => 7 * n + 29
  | .inCall .setupSpectrum _ => 7 * n + 28
  | .call .subscribeToState => 7 * n + 27
  | .inCall .subscribeToState _ => 7 * n + 26
  | .call .subscribeToObservable => 7 * n + 25
  | .inCall .subscribeToObservable _ => 7 * n + 24
  | .call .clearSpectrum => 7 * n + 23
  | .inCall .clearSpectrum _ => 7 * n + 22
  | .clearSteps => 7 * e + 26
  | .tryWait => 7 * e + 25
  | .call .start => 7 * e + 24
  | .inCall .start _ => 7 * e + 23
  | .waitStop => 7 * e + 22
  | .exposureDone => 7 * e + 21
  | .exposureLoop => 7 * e + 20
  | .call .getMeasuredSpectrum => 19
  | .inCall .getMeasuredSpectrum _ => 18
  | .call .unsubscribeState => 17
  | .inCall .unsubscribeState _ => 16
  | .call .unsubscribeAcquired => 15
  | .inCall .unsubscribeAcquired _ => 14
  | .call .finishSpectrum => 13
  | .inCall .finishSpectrum _ => 12
  | .call .finishMeasurement => 11
  | .inCall .finishMeasurement _ => 10
  | .leaveTry => 9
  | .callbacks => 8
  | _ => 0

namespace World

variable {w w' w₁ : World} {base : ADDriver} {d : SpectrumDefinition} {id : Option Nat} {k : Nat}
  {pc : Pc}

/-- A bound for the steps of the task until it waits for the next start request. -/
def rank (w₁ w : World) : Nat :=
  let image := 7 * w₁.exposuresWanted + 24
  let counter := (w.driver.int .adNumImagesCounter).toNat
  let exposures := w₁.exposuresWanted - w.task.numExposuresCounter.toNat
  match w.pc with
  | .waitStart =>
    if w.startEvent then (w₁.imagesWanted - 1) * image + (7 * w₁.exposuresWanted + 37) else 0
  | .woken => (w₁.imagesWanted - 1) * image + (7 * w₁.exposuresWanted + 36)
  | .callbacks => (w₁.imagesWanted - counter) * image + 8
  | pc => (w₁.imagesWanted - 1 - counter) * image + stepsFrom w₁.exposuresWanted exposures pc

theorem rank_of_aside (h : Aside w w') : rank w₁ w' = rank w₁ w := by
  obtain ⟨n, htask⟩ := h.task
  unfold rank
  rw [h.pc, h.startEvent, h.int .adNumImagesCounter rfl, htask]

theorem pc_woken (w : World) : w.weAreAcquiring.startImage.pc = .call .currentState := by
  rcases (startImage_begins (w := w.weAreAcquiring) rfl).place with ⟨_, hpc, _⟩ | ⟨hne, _⟩
  · exact hpc
  · exact absurd (by simp [startImage, beginTask, weAreAcquiring]) hne

theorem pc_next (hw : Next w₁ d id (k + 1) w) : w.loopHead.pc = .call .clearSpectrum ∧
    w.loopHead.driver.int .adNumImagesCounter = (k + 1 : Nat) := by
  have hbegins := loopHead_begins hw.adAcquire
  have hcount : w.loopHead.driver.int .adNumImagesCounter = (k + 1 : Nat) :=
    ((loopHead_head w).int .adNumImagesCounter (by simp)).trans hw.counts.adNumImagesCounter
  rcases hbegins.place with ⟨hzero, _⟩ | ⟨_, hpc, _⟩
  · rw [hbegins.numImagesCounter, hcount] at hzero
    omega
  · exact ⟨hpc, hcount⟩

/-- The next image begins with its `ClearSpectrum`. -/
theorem rank_next (hw : Next w₁ d id (k + 1) w) : rank w₁ w.loopHead =
    (w₁.imagesWanted - 1 - (k + 1)) * (7 * w₁.exposuresWanted + 24) +
      (7 * w₁.exposuresWanted + 23) := by
  obtain ⟨hpc, hcount⟩ := pc_next hw
  unfold rank
  rw [hpc, hcount]
  rfl

theorem rank_completed (hmode : w₁.driver.int .adImageMode = adImageSingle ∨
      w₁.driver.int .adImageMode = adImageMultiple)
    (hsettled : Settled w₁ w) (hw : Measured w₁ d id k w) (hcounts : Counts w₁ (k + 1) w) :
    rank w₁ w.completed.loopHead <
      (w₁.imagesWanted - (k + 1)) * (7 * w₁.exposuresWanted + 24) + 8 := by
  cases hcomplete : w.task.finishes with
  | false =>
    have hnext := next_completed hmode hsettled hw hcounts hcomplete
    have hmore := hnext.more
    have hsucc : w₁.imagesWanted - (k + 1) = w₁.imagesWanted - 1 - (k + 1) + 1 := by omega
    rw [rank_next hnext, hsucc, Nat.add_mul]
    omega
  | true =>
    obtain ⟨⟨hpc, hevent⟩, _⟩ := ended_completed hw hcomplete
    unfold rank
    rw [hpc, hevent]
    simp

theorem rank_returnedAt {site : Site} {answer : Server} {call : Call}
    (hsite : site.inCleanup = false) (hanswer : site = .currentState → answer.state = .active)
    (hcounter : site = .clearSpectrum → w.task.numExposuresCounter = 0)
    (hpc : w.pc = .inCall site call) : rank w₁ (w.returnedAt site answer) < rank w₁ w := by
  have hrank : rank w₁ w = (w₁.imagesWanted - 1 - (w.driver.int .adNumImagesCounter).toNat) *
      (7 * w₁.exposuresWanted + 24) + stepsFrom w₁.exposuresWanted
        (w₁.exposuresWanted - w.task.numExposuresCounter.toNat) (.inCall site call) := by
    unfold rank
    rw [hpc]
  rw [hrank]
  cases site
  case cleanupUnsubscribeState | cleanupUnsubscribeAcquired | cleanupCurrentState
      | cleanupFinishSpectrum | cleanupFinishMeasurement => cases hsite
  case currentState =>
    unfold returnedAt
    dsimp only
    rw [if_pos (hanswer rfl)]
    simp only [rank, stepsFrom]
    omega
  case clearSpectrum =>
    simp only [rank, returnedAt, stepsFrom, hcounter rfl]
    omega
  case getMeasuredSpectrum =>
    unfold returnedAt measured
    dsimp only
    split <;> split <;> simp only [rank, stepsFrom] <;> omega
  all_goals
    simp only [rank, returnedAt, stepsFrom, forget]
    omega

theorem rank_afterTry (hmode : w₁.driver.int .adImageMode = adImageSingle ∨
      w₁.driver.int .adImageMode = adImageMultiple)
    (hsettled : Settled w₁ w) (hw : Measured w₁ d id k w) (hcounts : Counts w₁ k w) :
    rank w₁ w.afterTry < (w₁.imagesWanted - 1 - k) * (7 * w₁.exposuresWanted + 24) + 9 := by
  have hpublished := counts_published hw.works hcounts
  have hsame : w₁.imagesWanted - 1 - k = w₁.imagesWanted - (k + 1) := by omega
  unfold afterTry
  split
  · rename_i hfailed
    cases hw.works.failed.symm.trans hfailed
  · split
    · rename_i hacquire
      exact absurd hacquire hw.works.acquire
    · split
      · simp only [rank, hpublished.adNumImagesCounter, Int.toNat_natCast, hsame]
        omega
      · have hcompleted := rank_completed hmode (settled_published hsettled)
          (measured_published hw) hpublished
        rw [hsame]
        omega

theorem rank_exposureTest (hw : Imaging w₁ d id k .exposureLoop w) (hpc : w.pc = .exposureLoop) :
    rank w₁ w.exposureTest < rank w₁ w := by
  have hcounter : 0 ≤ w.task.numExposuresCounter ∧
      w.task.numExposuresCounter ≤ w₁.exposuresWanted := hw.counter
  have hwanted := hw.works.numExposures
  have hnumber : (w₁.exposuresWanted : Int) = max (w₁.driver.int .adNumExposures) 0 := by
    unfold exposuresWanted
    omega
  by_cases hless : w.task.numExposuresCounter < w.task.numExposures
  · simp only [rank, exposureTest, hpc, if_pos hless, stepsFrom]
    omega
  · simp only [rank, exposureTest, hpc, if_neg hless, stepsFrom]
    omega

/-- Every step of the task brings the acquisition nearer to its end. -/
theorem rank_taskStep (hw : Acquiring w₁ w)
    (hactive : ∀ call, w.pc = .inCall .currentState call → w.server.state = .active)
    (h : w.taskStep .ok = some w') : rank w₁ w' < rank w₁ w := by
  have hstep := taskStep_cases h
  have hplace := hw.underway
  unfold Underway at hplace
  cases hpc : w.pc <;> simp only [hpc] at hstep hplace
  case waitStart =>
    obtain ⟨hevent, rfl⟩ := hstep
    simp only [rank, hpc, hevent, if_true]
    omega
  case woken =>
    obtain ⟨_, rfl⟩ := hstep
    have hzero : w.weAreAcquiring.startImage.driver.int .adNumImagesCounter = 0 := by
      rw [(startImage_head _).int .adNumImagesCounter (by simp)]
      simp [weAreAcquiring]
    simp only [rank, pc_woken w, hpc, hzero, stepsFrom, Int.toNat_zero, Nat.sub_zero]
    omega
  case leaveTry =>
    obtain ⟨_, rfl⟩ := hstep
    obtain ⟨d, id, k, hmeasured, hcounts⟩ := hplace
    have hrank := rank_afterTry hw.imageMode hw.settled hmeasured hcounts
    simp only [rank, hpc, hcounts.adNumImagesCounter, Int.toNat_natCast, stepsFrom] at hrank ⊢
    omega
  case callbacks =>
    obtain ⟨_, rfl⟩ := hstep
    obtain ⟨d, id, k, hmeasured, hcounts⟩ := hplace
    have hrank := rank_completed hw.imageMode hw.settled hmeasured hcounts
    simp only [rank, hpc, hcounts.adNumImagesCounter, Int.toNat_natCast] at hrank ⊢
    omega
  all_goals obtain ⟨d, id, k, himaging⟩ := hplace
  case call site =>
    have hsite := himaging.not_inCleanup (.inl rfl)
    rcases hstep with ⟨call, hcall, rfl⟩ | ⟨hcall, rfl⟩
    · cases site
      case cleanupUnsubscribeState | cleanupUnsubscribeAcquired | cleanupCurrentState
          | cleanupFinishSpectrum | cleanupFinishMeasurement => cases hsite
      all_goals
        simp only [rank, hpc, stepsFrom]
        omega
    · rcases site_of_skipped hsite hcall with rfl | rfl
      all_goals
        simp only [rank, returnedAt, forget, hpc, stepsFrom]
        omega
  case inCall site call =>
    subst hstep
    rw [answered_ok]
    refine rank_returnedAt (himaging.not_inCleanup (.inr ⟨call, rfl⟩)) ?_ ?_ hpc
    · rintro rfl
      exact hactive call hpc
    · rintro rfl
      exact himaging.counter
  case exposureLoop =>
    subst hstep
    exact rank_exposureTest himaging hpc
  case clearSteps | tryWait =>
    subst hstep
    simp only [rank, hpc, stepsFrom]
    omega
  case waitStop =>
    obtain ⟨_, rfl⟩ := hstep
    simp only [rank, hpc, stepsFrom]
    omega
  case exposureDone =>
    obtain ⟨_, rfl⟩ := hstep
    simp [rank, exposureFinished_of_acquire himaging.works.adAcquire, hpc, stepsFrom]

/-! ### The analyser, when the driver has it to itself -/

/-- A measurement is open, and an exposure runs if the analyser is Acquiring. -/
def InMeasurement (w : World) : Prop :=
  (w.server.state = .measuring ∧ w.server.exposure = none) ∨
    (w.server.state = .acquiring ∧ w.server.exposure ≠ none)

/-- No measurement is open. -/
def Ready (w : World) : Prop := w.server.state = .active ∧ w.server.exposure = none

/-- Changes of the state reach the callback of the task. -/
def Watched (w : World) : Prop :=
  ∃ guid, w.task.guidState = some guid ∧ guid ∈ w.server.observers ∧
    (guid, Callback.stateChanged) ∈ w.subscribers

/-- The end of an exposure has been signalled, or will be. -/
def Owed (w : World) : Prop :=
  w.server.exposure ≠ none ∨ w.stopEvent = true ∨
    ∃ guid state, w.task.guidState = some guid ∧ (guid, state) ∈ w.server.pending ∧
      state.endsExposure = true

/-- The state of the analyser by the place of the task. -/
def Served (w : World) : Prop :=
  match w.pc with
  | .entry => True
  | .waitStart => w.startEvent = true → Ready w
  | .woken => Ready w
  | .call site | .inCall site _ =>
    match site with
    | .currentState | .defineSpectrum | .startMeasurement => Ready w
    | .setupSpectrum | .subscribeToState => InMeasurement w
    | .subscribeToObservable | .clearSpectrum | .start | .getMeasuredSpectrum =>
      InMeasurement w ∧ Watched w
    | _ => True
  | .exposureLoop | .clearSteps | .tryWait | .exposureDone => InMeasurement w ∧ Watched w
  | .waitStop => InMeasurement w ∧ Watched w ∧ Owed w
  | .leaveTry | .callbacks => w.task.finishes = false → InMeasurement w ∧ Watched w

/-- No client writes, every call succeeds, nobody else uses the analyser, and no exposure
fails. -/
def serverAlone (_ : World) (l : Label) : Prop :=
  l.succeeds = true ∧
  match l with
  | .write _ _ _ | .writeFloat _ _ _ | .otherClient _ _ => False
  | .exposureEnd how => how ≠ .failed
  | _ => True

/-- `AcquisitionAsync` finds an exposure running or starts one. -/
theorem measuring_acquisitionAsync (spectrum : Option Nat) (hw : InMeasurement w)
    (hserver : w'.server = w.server.exec (.acquisitionAsync spectrum)) : InMeasurement w' ∧ Owed w' := by
  unfold InMeasurement Owed
  rw [hserver]
  rcases hw with ⟨hstate, _⟩ | ⟨hstate, hexposure⟩
  · simp [Server.exec, hstate]
  · simp [Server.exec, hstate, hexposure]

theorem watched_of_eq (hw : Watched w) (htask : w'.task.guidState = w.task.guidState)
    (hobservers : ∀ guid ∈ w.server.observers, guid ∈ w'.server.observers)
    (hsubscribers : ∀ s ∈ w.subscribers, s ∈ w'.subscribers) : Watched w' := by
  obtain ⟨guid, hguid, hobserver, hsubscriber⟩ := hw
  exact ⟨guid, htask.trans hguid, hobservers guid hobserver, hsubscribers _ hsubscriber⟩

theorem served_of_locked (hw : InMeasurement w ∧ Watched w) (h : Locked w w') :
    InMeasurement w' ∧ Watched w' := by
  constructor
  · unfold InMeasurement
    rw [h.server]
    exact hw.1
  · refine watched_of_eq hw.2 h.guidState ?_ ?_
    · rw [h.server]
      exact fun _ => id
    · rw [h.subscribers]
      exact fun _ => id

theorem served_completed (hmode : w₁.driver.int .adImageMode = adImageSingle ∨
      w₁.driver.int .adImageMode = adImageMultiple)
    (hsettled : Settled w₁ w) (hmeasured : Measured w₁ d id k w) (hcounts : Counts w₁ (k + 1) w)
    (hw : w.task.finishes = false → InMeasurement w ∧ Watched w) : Served w.completed.loopHead := by
  cases hcomplete : w.task.finishes with
  | true =>
    obtain ⟨⟨hpc, hevent⟩, _⟩ := ended_completed hmeasured hcomplete
    unfold Served
    rw [hpc, hevent]
    exact fun h => by cases h
  | false =>
    have hnext := next_completed hmode hsettled hmeasured hcounts hcomplete
    have hlocked := (completed_locked w).trans (loopHead_head _).toLocked
    unfold Served
    rw [(pc_next hnext).1]
    exact served_of_locked (hw hcomplete) hlocked

theorem served_afterTry (hmode : w₁.driver.int .adImageMode = adImageSingle ∨
      w₁.driver.int .adImageMode = adImageMultiple)
    (hsettled : Settled w₁ w) (hmeasured : Measured w₁ d id k w) (hcounts : Counts w₁ k w)
    (hw : w.task.finishes = false → InMeasurement w ∧ Watched w) : Served w.afterTry := by
  unfold afterTry
  split
  · rename_i hfailed
    cases hmeasured.works.failed.symm.trans hfailed
  · split
    · rename_i hacquire
      exact absurd hacquire hmeasured.works.acquire
    · split
      · exact hw
      · exact served_completed hmode (settled_published hsettled) (measured_published hmeasured)
          (counts_published hmeasured.works hcounts) hw

theorem served_answered {site : Site} {call : Call} (hissued : Issued w)
    (himaging : Imaging w₁ d id k (.inCall site call) w) (hpc : w.pc = .inCall site call)
    (hw : Served w) : Served (w.answered site call .ok) := by
  have hsite := himaging.not_inCleanup (.inr ⟨call, rfl⟩)
  have hcall := hissued site call hpc
  unfold Served at hw
  rw [hpc] at hw
  rw [answered_ok]
  cases site
  case cleanupUnsubscribeState | cleanupUnsubscribeAcquired | cleanupCurrentState
      | cleanupFinishSpectrum | cleanupFinishMeasurement => cases hsite
  case unsubscribeState | unsubscribeAcquired | finishSpectrum => trivial
  case finishMeasurement =>
    intro hcontinues
    cases (himaging.finishes rfl).symm.trans hcontinues
  case defineSpectrum =>
    obtain ⟨d, rfl⟩ : ∃ d, call = .defineSpectrum d := by
      rcases hcall with hcall | ⟨d, _, rfl⟩
      · exact ⟨_, (Option.some.inj hcall).symm⟩
      · exact ⟨d, rfl⟩
    exact hw
  all_goals
    obtain rfl : _ = call := by
      rcases hcall with hcall | ⟨d, hdefine, _⟩
      · exact Option.some.inj hcall
      · cases hdefine
  case currentState =>
    unfold returnedAt
    dsimp only
    rw [if_pos hw.1]
    exact hw
  case startMeasurement =>
    refine .inl ⟨?_, ?_⟩
    · simp [returnedAt, Server.exec, hw.1]
    · simp [returnedAt, Server.exec, hw.1, hw.2]
  case setupSpectrum | clearSpectrum => exact hw
  case subscribeToState =>
    exact ⟨hw, w.server.nextId, rfl, List.mem_cons_self, List.mem_cons_self⟩
  case subscribeToObservable =>
    refine ⟨hw.1, watched_of_eq hw.2 rfl (fun _ h => h) ?_⟩
    intro s hs
    exact List.mem_cons_of_mem _ hs
  case start =>
    have hserver : (returnedAt { w with
        server := w.server.exec (.acquisitionAsync w.task.spectrumId)
        log := .returned (.acquisitionAsync w.task.spectrumId) :: w.log }
        .start w.server).server = w.server.exec (.acquisitionAsync w.task.spectrumId) := rfl
    obtain ⟨hopen, howed⟩ := measuring_acquisitionAsync w.task.spectrumId hw.1 hserver
    refine ⟨hopen, ?_, howed⟩
    refine watched_of_eq hw.2 rfl ?_ (fun _ h => h)
    intro guid hguid
    simp only [returnedAt, Server.exec]
    split
    · exact hguid
    · exact hguid
  case getMeasuredSpectrum =>
    unfold returnedAt measured
    dsimp only
    split <;> split
    · trivial
    · exact fun _ => hw
    · trivial
    · exact fun _ => hw

theorem served_taskStep (hw : Acquiring w₁ w) (hissued : Issued w) (hserved : Served w)
    (h : w.taskStep .ok = some w') : Served w' := by
  have hstep := taskStep_cases h
  have hplace := hw.underway
  have hkept := hserved
  unfold Underway at hplace
  unfold Served at hkept
  cases hpc : w.pc <;> simp only [hpc] at hstep hplace hkept
  case waitStart =>
    obtain ⟨hevent, rfl⟩ := hstep
    exact hkept hevent
  case woken =>
    obtain ⟨_, rfl⟩ := hstep
    have hlocked := (weAreAcquiring_locked w).trans (startImage_head _).toLocked
    unfold Served
    rw [pc_woken w]
    unfold Ready
    rw [hlocked.server]
    exact hkept
  case leaveTry =>
    obtain ⟨_, rfl⟩ := hstep
    obtain ⟨d, id, k, hmeasured, hcounts⟩ := hplace
    exact served_afterTry hw.imageMode hw.settled hmeasured hcounts hkept
  case callbacks =>
    obtain ⟨_, rfl⟩ := hstep
    obtain ⟨d, id, k, hmeasured, hcounts⟩ := hplace
    exact served_completed hw.imageMode hw.settled hmeasured hcounts hkept
  all_goals obtain ⟨d, id, k, himaging⟩ := hplace
  case call site =>
    rcases hstep with ⟨call, hcall, rfl⟩ | ⟨hcall, rfl⟩
    · exact hkept
    · rcases site_of_skipped (himaging.not_inCleanup (.inl rfl)) hcall with rfl | rfl
      · trivial
      · trivial
  case inCall site call =>
    subst hstep
    exact served_answered hissued himaging hpc hserved
  case exposureLoop =>
    subst hstep
    unfold exposureTest
    split
    · exact hkept
    · exact hkept
  case clearSteps | tryWait =>
    subst hstep
    exact hkept
  case waitStop =>
    obtain ⟨_, rfl⟩ := hstep
    exact ⟨hkept.1, hkept.2.1⟩
  case exposureDone =>
    obtain ⟨_, rfl⟩ := hstep
    rw [exposureFinished_of_acquire himaging.works.adAcquire]
    exact hkept

/-- What the other steps do to the server: an exposure ends, or a notification is delivered. -/
structure Attended (w w' : World) : Prop where
  ready : Ready w → Ready w'
  measuring : InMeasurement w → InMeasurement w'
  watched : Watched w → Watched w'
  owed : Watched w → Owed w → Owed w'

theorem attended_of_eq (hserver : w'.server = w.server)
    (hguid : w'.task.guidState = w.task.guidState) (hsubscribers : w'.subscribers = w.subscribers)
    (hstop : w'.stopEvent = w.stopEvent) : Attended w w' := by
  constructor
  · unfold Ready
    rw [hserver]
    exact fun h => h
  · unfold InMeasurement
    rw [hserver]
    exact fun h => h
  · intro hw
    refine watched_of_eq hw hguid ?_ ?_
    · rw [hserver]
      exact fun _ h => h
    · rw [hsubscribers]
      exact fun _ h => h
  · unfold Owed
    rw [hserver, hguid, hstop]
    exact fun _ h => h

theorem attended_endExposure {how : Ending} {v : Server} (hhow : how ≠ .failed)
    (h : w.server.endExposure how = some v) : Attended w { w with server := v } := by
  have hstate : how.state = .measuring := by
    cases how with
    | failed => exact absurd rfl hhow
    | normal | cancelled => rfl
  unfold Server.endExposure at h
  split at h
  · rename_i cancelled hrunning
    split at h
    · cases h
    · obtain rfl := Option.some.inj h
      constructor
      · intro hready
        cases hready.2.symm.trans hrunning
      · intro _
        exact .inl ⟨hstate, rfl⟩
      · intro hwatched
        exact watched_of_eq hwatched rfl (fun _ h => h) (fun _ h => h)
      · intro hwatched _
        obtain ⟨guid, hguid, hobserver, _⟩ := hwatched
        refine .inr (.inr ⟨guid, how.state, hguid, ?_, by rw [hstate]; rfl⟩)
        exact List.mem_append_right _ (List.mem_map.mpr ⟨guid, hobserver, rfl⟩)
  · cases h

theorem mem_of_delivered {α : Type} {l : List α} {a b : α} {index : Nat} {keep : Bool}
    (hdelivered : l[index]? = some b) (ha : a ∈ l) (hne : a ≠ b) :
    a ∈ if keep then l else l.eraseIdx index := by
  cases keep with
  | true => exact ha
  | false => exact InTransit.mem_eraseIdx_of_ne hdelivered ha hne

/-- A notification that the task awaits is delivered, or still pending. -/
theorem attended_deliver {index : Nat} {keep : Bool} (h : w.deliver index keep = some w') :
    Attended w w' := by
  unfold deliver at h
  split at h
  · rename_i guid state hdelivered
    obtain rfl := Option.some.inj h
    have hcallback := stateCallback_cases { w with server := { w.server with
      pending := if keep then w.server.pending else w.server.pending.eraseIdx index } } guid state
    constructor
    · intro hready
      rcases hcallback with hsame | hstop
      · rw [hsame]
        exact hready
      · rw [hstop]
        exact hready
    · intro hmeasuring
      rcases hcallback with hsame | hstop
      · rw [hsame]
        exact hmeasuring
      · rw [hstop]
        exact hmeasuring
    · intro hwatched
      rcases hcallback with hsame | hstop
      · rw [hsame]
        exact watched_of_eq hwatched rfl (fun _ h => h) (fun _ h => h)
      · rw [hstop]
        exact watched_of_eq hwatched rfl (fun _ h => h) (fun _ h => h)
    · intro hwatched howed
      obtain ⟨own, hown, _, hsubscriber⟩ := hwatched
      rcases hcallback with hsame | hstop
      · rcases howed with hexposure | hsignalled | ⟨own', state', hown', hpending, hends⟩
        · exact .inl (by rw [hsame]; exact hexposure)
        · exact .inr (.inl (by rw [hsame]; exact hsignalled))
        · obtain rfl : own = own' := Option.some.inj (hown.symm.trans hown')
          by_cases hpair : (own, state') = (guid, state)
          · obtain ⟨rfl, rfl⟩ := Prod.mk.inj hpair
            refine .inr (.inl ?_)
            unfold stateCallback
            rw [if_pos ⟨hsubscriber, hends⟩]
          · refine .inr (.inr ⟨own, state', ?_, ?_, hends⟩)
            · rw [hsame]
              exact hown
            · rw [hsame]
              exact mem_of_delivered hdelivered hpending hpair
      · exact .inr (.inl (by rw [hstop]))
  · cases h

theorem attended_of_step {l : Label} (hl : ∀ reply, l ≠ .task reply) (hport : w.port = .idle)
    (hok : serverAlone w l) (h : w.step base l = some w') : Attended w w' := by
  cases l with
  | task reply => exact absurd rfl (hl reply)
  | write f v reply => exact hok.2.elim
  | writeFloat f v reply => exact hok.2.elim
  | otherClient state keepsOwn => exact hok.2.elim
  | port reply =>
    simp only [step, portStep, hport] at h
    cases h
  | exposureEnd how =>
    obtain ⟨v, hv, rfl⟩ := Option.map_eq_some_iff.mp h
    exact attended_endExposure hok.2 hv
  | notify index keep => exact attended_deliver h
  | spectrumUpdate settings =>
    simp only [step] at h
    split at h
    · obtain rfl := Option.some.inj h
      exact attended_of_eq rfl rfl rfl rfl
    · cases h

theorem served_of_attended (hw : Served w) (haside : Aside w w') (h : Attended w w') :
    Served w' := by
  obtain ⟨n, htask⟩ := haside.task
  have hboth : InMeasurement w ∧ Watched w → InMeasurement w' ∧ Watched w' :=
    fun hboth => ⟨h.measuring hboth.1, h.watched hboth.2⟩
  unfold Served at hw ⊢
  rw [haside.pc, haside.startEvent, htask]
  cases hpc : w.pc <;> simp only [hpc] at hw ⊢
  case waitStart => exact fun hevent => h.ready (hw hevent)
  case woken => exact h.ready hw
  case call site | inCall site call =>
    cases site
    case currentState | defineSpectrum | startMeasurement => exact h.ready hw
    case setupSpectrum | subscribeToState => exact h.measuring hw
    case subscribeToObservable | clearSpectrum | start | getMeasuredSpectrum => exact hboth hw
    all_goals trivial
  case exposureLoop | clearSteps | tryWait | exposureDone => exact hboth hw
  case waitStop => exact ⟨h.measuring hw.1, h.watched hw.2.1, h.owed hw.2.1 hw.2.2⟩
  case leaveTry | callbacks => exact fun hcontinues => hboth (hw hcontinues)

/-- What holds while the analyser serves an acquisition that nobody disturbs. -/
structure Proceeding (w₁ w : World) : Prop where
  acquiring : Acquiring w₁ w
  issued : Issued w
  served : Served w

theorem Proceeding.active (hw : Proceeding w₁ w) {call : Call}
    (hpc : w.pc = .inCall .currentState call) : w.server.state = .active := by
  have hserved := hw.served
  unfold Served at hserved
  rw [hpc] at hserved
  exact hserved.1

theorem Proceeding.untouched {l : Label} (hw : Proceeding w₁ w) (hok : serverAlone w l) :
    untouched w l := by
  refine ⟨hok.1, ?_⟩
  cases l with
  | task reply => exact fun call hpc => hw.active hpc
  | write f v reply => exact hok.2
  | writeFloat f v reply => exact hok.2
  | port _ | exposureEnd _ | notify _ _ | spectrumUpdate _ | otherClient _ _ => trivial

theorem proceeding_step {l : Label} (hw : Proceeding w₁ w) (hok : serverAlone w l)
    (h : w.step base l = some w') : Proceeding w₁ w' := by
  have huntouched := hw.untouched hok
  refine ⟨acquiring_step hw.acquiring huntouched h, issued_step hw.issued h, ?_⟩
  by_cases hl : ∃ reply, l = .task reply
  · obtain ⟨reply, rfl⟩ := hl
    obtain rfl : reply = .ok := by simpa [Label.succeeds] using hok.1
    exact served_taskStep hw.acquiring hw.issued hw.served h
  · have hl : ∀ reply, l ≠ .task reply := fun reply hr => hl ⟨reply, hr⟩
    have hport := hw.acquiring.settled.port
    exact served_of_attended hw.served (aside_of_step hl hport huntouched h)
      (attended_of_step hl hport hok h)

/-! ### The end -/

/-- Only the steps of the task change the rank, and they lower it. -/
theorem rank_step {l : Label} (hw : Acquiring w₁ w) (hok : untouched w l)
    (h : w.step base l = some w') : rank w₁ w' + (if l.isTask then 1 else 0) ≤ rank w₁ w := by
  by_cases hl : ∃ reply, l = .task reply
  · obtain ⟨reply, rfl⟩ := hl
    obtain rfl : reply = .ok := by simpa [Label.succeeds] using hok.1
    exact rank_taskStep hw hok.2 h
  · have hl : ∀ reply, l ≠ .task reply := fun reply hr => hl ⟨reply, hr⟩
    rw [rank_of_aside (aside_of_step hl hw.settled.port hok h)]
    cases l with
    | task reply => exact absurd rfl (hl reply)
    | _ => exact Nat.le_refl _

/-- The task can take a step, unless it waits for one of its events. -/
theorem taskStep_enabled (hw : Acquiring w₁ w) (hstart : w.pc = .waitStart → w.startEvent = true)
    (hstop : w.pc = .waitStop → w.stopEvent = true) : ∃ w', w.taskStep .ok = some w' := by
  have hport := hw.settled.port
  unfold taskStep locked
  cases hpc : w.pc with
  | entry | woken | exposureDone | leaveTry | callbacks => exact ⟨_, if_pos hport⟩
  | waitStart => exact ⟨_, if_pos (hstart hpc)⟩
  | waitStop => exact ⟨_, if_pos (hstop hpc)⟩
  | call site =>
    dsimp only
    split
    · exact ⟨_, rfl⟩
    · exact ⟨_, rfl⟩
  | inCall site call => exact ⟨_, rfl⟩
  | exposureLoop | clearSteps | tryWait => exact ⟨_, rfl⟩

theorem released_by_notification {guid : Nat} {state : AnalyserState} (hpc : w.pc = .waitStop)
    (hsubscriber : (guid, Callback.stateChanged) ∈ w.subscribers)
    (hpending : (guid, state) ∈ w.server.pending) (hends : state.endsExposure = true) :
    ∃ w', Run (step base) serverAlone w w' ∧ w'.pc = .waitStop ∧ w'.stopEvent = true := by
  obtain ⟨index, hindex⟩ := List.getElem?_of_mem hpending
  have hdeliver : w.deliver index true = some { w with stopEvent := true } := by
    unfold deliver
    rw [hindex]
    exact congrArg some (if_pos ⟨hsubscriber, hends⟩)
  exact ⟨_, Run.single (l := .notify index true) ⟨rfl, trivial⟩ hdeliver, hpc, rfl⟩

/-- The server can signal the end of the exposure that the task waits for. -/
theorem released (hw : Served w) (hpc : w.pc = .waitStop) :
    ∃ w', Run (step base) serverAlone w w' ∧ w'.pc = .waitStop ∧ w'.stopEvent = true := by
  unfold Served at hw
  rw [hpc] at hw
  obtain ⟨_, ⟨guid, hguid, hobserver, hsubscriber⟩, howed⟩ := hw
  rcases howed with hexposure | hsignalled | ⟨guid', state, hguid', hpending, hends⟩
  · obtain ⟨cancelled, hrunning⟩ := Option.ne_none_iff_exists'.mp hexposure
    obtain ⟨v, hend, hpending⟩ : ∃ v, w.server.endExposure .normal = some v ∧
        (guid, AnalyserState.measuring) ∈ v.pending := by
      refine ⟨{ w.server.enter .measuring with
        exposure := none, accumulated := .normal :: w.server.accumulated }, ?_, ?_⟩
      · unfold Server.endExposure
        rw [hrunning]
        exact if_neg (fun h => by cases h.1)
      · exact List.mem_append_right _ (List.mem_map.mpr ⟨guid, hobserver, rfl⟩)
    have hok : serverAlone w (.exposureEnd .normal) := ⟨rfl, fun h => by cases h⟩
    have hstep : w.step base (.exposureEnd .normal) = some { w with server := v } := by
      simp only [step, hend, Option.map_some]
    obtain ⟨w', hrun, hafter⟩ : ∃ w', Run (step base) serverAlone { w with server := v } w' ∧
      w'.pc = .waitStop ∧ w'.stopEvent = true :=
      released_by_notification hpc hsubscriber hpending rfl
    exact ⟨w', Run.head hok hstep hrun, hafter⟩
  · exact ⟨w, .refl w, hpc, hsignalled⟩
  · obtain rfl : guid = guid' := Option.some.inj (hguid.symm.trans hguid')
    exact released_by_notification hpc hsubscriber hpending hends

theorem proceeding_run (hw : Proceeding w₁ w) (hrun : Run (step base) serverAlone w w') :
    Proceeding w₁ w' ∧ rank w₁ w' ≤ rank w₁ w := by
  refine hrun.invariant (P := fun v => Proceeding w₁ v ∧ rank w₁ v ≤ rank w₁ w) ?_
    ⟨hw, Nat.le_refl _⟩
  intro a l b ha hok hstep
  have hrank := rank_step ha.1.acquiring (ha.1.untouched hok) hstep
  exact ⟨proceeding_step ha.1 hok hstep, by omega⟩

/-- An acquisition that has not ended can be brought nearer to its end. -/
theorem advance (hw : Proceeding w₁ w) (hended : ¬ Ended w) :
    ∃ w', Run (step base) serverAlone w w' ∧ Proceeding w₁ w' ∧ rank w₁ w' < rank w₁ w := by
  have hnext : ∀ v, Run (step base) serverAlone w v → (v.pc = .waitStart → v.startEvent = true) →
      (v.pc = .waitStop → v.stopEvent = true) →
      ∃ w', Run (step base) serverAlone w w' ∧ Proceeding w₁ w' ∧ rank w₁ w' < rank w₁ w := by
    intro v hrun hstart hstop
    obtain ⟨hv, hle⟩ := proceeding_run hw hrun
    obtain ⟨w', hstep⟩ := taskStep_enabled hv.acquiring hstart hstop
    have hok : serverAlone v (.task .ok) := ⟨rfl, trivial⟩
    have hworld : v.step base (.task .ok) = some w' := hstep
    have hlt := rank_taskStep hv.acquiring (fun call hpc => hv.active hpc) hstep
    exact ⟨w', .tail hrun hok hworld, proceeding_step hv hok hworld, by omega⟩
  by_cases hpc : w.pc = .waitStop
  · obtain ⟨v, hrun, hpc', hstop⟩ : ∃ v, Run (step base) serverAlone w v ∧
      v.pc = .waitStop ∧ v.stopEvent = true := released hw.served hpc
    refine hnext v hrun ?_ (fun _ => hstop)
    intro hwait
    cases hpc'.symm.trans hwait
  · refine hnext w (.refl w) ?_ (fun h => absurd h hpc)
    intro hwait
    cases hevent : w.startEvent with
    | true => rfl
    | false => exact absurd ⟨hwait, hevent⟩ hended

theorem rank_requested (h : Requested w) :
    rank w w = w.imagesWanted * (7 * w.exposuresWanted + 24) + 13 := by
  have hpos := imagesWanted_pos w
  have hsucc : w.imagesWanted = w.imagesWanted - 1 + 1 := by omega
  unfold rank
  rw [h.pc, h.startEvent]
  dsimp only
  rw [if_pos rfl, hsucc, Nat.add_sub_cancel, Nat.add_mul]
  omega

/-- An acquisition that no client and no failing call disturbs, and whose analyser is Active when
it is asked, makes its sequence of calls, publishes its images and ends Idle. It takes a bounded
number of steps, and an analyser that serves nobody else lets it come to its end. -/
theorem acquisition_carried_out (h : Requested w₁) :
    (∀ w, Run (step base) untouched w₁ w → Ended w → Taken w₁ w) ∧
    (∀ labels w, Path (step base) untouched w₁ labels w →
      labels.countP Label.isTask ≤ w₁.imagesWanted * (7 * w₁.exposuresWanted + 24) + 13) ∧
    (w₁.server.state = .active → w₁.server.exposure = none →
      ∀ w, Run (step base) serverAlone w₁ w →
        ∃ w', Run (step base) serverAlone w w' ∧ Ended w' ∧ Taken w₁ w') := by
  have hinitial := acquiring_requested h
  refine ⟨?_, ?_, ?_⟩
  · intro w hrun hended
    exact taken_of_ended (hrun.invariant (fun _ _ _ => acquiring_step) hinitial) hended
  · intro labels w hpath
    have hcount : labels.countP Label.isTask + rank w₁ w ≤ rank w₁ w₁ :=
      hpath.count_add_rank_le (fun _ _ _ => acquiring_step) (fun _ _ _ => rank_step) hinitial
    rw [rank_requested h] at hcount
    omega
  · intro hactive hexposure w hrun
    have hproceeding : Proceeding w₁ w₁ := by
      refine ⟨hinitial, issued_of_not (by simp [h.pc]), ?_⟩
      unfold Served
      rw [h.pc]
      exact fun _ => ⟨hactive, hexposure⟩
    have hw := (proceeding_run hproceeding hrun).1
    obtain ⟨w', hrest, hended⟩ := exists_final (fun _ => advance) hw
    exact ⟨w', hrest, hended, taken_of_ended (proceeding_run hw hrest).1.acquiring hended⟩

/-- A connected driver whose analyser is in this state, and whose waiting task has been requested
to start. -/
def startRequested (imageMode numImages numExposures : Int) (state : AnalyserState) : World :=
  let w : World := { atRest imageMode numImages numExposures 1 with server := { state := state } }
  { w.loopHead.setIntegerParam .adAcquire 1 with startEvent := true }

theorem startRequested_requested {imageMode : Int} (numImages numExposures : Int)
    (state : AnalyserState) (h : imageMode = adImageSingle ∨ imageMode = adImageMultiple) :
    Requested (startRequested imageMode numImages numExposures state) := by
  let w : World := { atRest imageMode numImages numExposures 1 with server := { state := state } }
  have hstep : w.loopHead.step (.store 8) (.write .adAcquire 1 .raised) =
      some (startRequested imageMode numImages numExposures state) := rfl
  have hstatus : w.loopHead.int .adStatus = adStatusIdle := rfl
  refine requested_of_write (w := w.loopHead) rfl (by decide) ?_ h hstep
  rw [hstatus]
  decide

theorem two_images_carried_out : ∃ w,
    Run (step (.store 8)) serverAlone (startRequested adImageMultiple 2 3 .active) w ∧
      Ended w ∧ Taken (startRequested adImageMultiple 2 3 .active) w :=
  (acquisition_carried_out (startRequested_requested 2 3 .active (.inr rfl))).2.2 rfl rfl _
    (.refl _)

instance (w : World) (l : Label) : Decidable (serverAlone w l) :=
  match l with
  | .write _ _ _ | .writeFloat _ _ _ | .otherClient _ _ =>
    inferInstanceAs (Decidable (_ ∧ False))
  | .exposureEnd how => inferInstanceAs (Decidable (_ ∧ how ≠ .failed))
  | .task _ | .port _ | .notify _ _ | .spectrumUpdate _ => inferInstanceAs (Decidable (_ ∧ True))

/-- An analyser that is not Active refuses the acquisition, and the task ends it with an error. -/
theorem acquisition_refused :
    (∃ w₀, Initial w₀ ∧ Run (step (.store 8)) always w₀ (startRequested adImageSingle 1 1 .idle)) ∧
    ¬ ∀ w₁ w : World, Requested w₁ → Run (step (.store 8)) serverAlone w₁ w → Ended w →
      Taken w₁ w := by
  constructor
  · refine ⟨{ atRest adImageSingle 1 1 1 with server := { state := .idle } }, ?_, ?_⟩
    · constructor <;> rfl
    · have hrun : Run (step (.store 8)) always
          { atRest adImageSingle 1 1 1 with server := { state := .idle } } _ :=
        .tail (.tail (.refl _) trivial (l := .task .ok) rfl) trivial (l := .write .adAcquire 1 .raised)
          rfl
      exact hrun
  · intro hclaim
    have hreach : reaches (step (.store 8)) serverAlone (startRequested adImageSingle 1 1 .idle)
        (.replicate 7 (.task .ok))
        (fun w => w.pc = .waitStart ∧ w.startEvent = false ∧
          w.driver.int .adStatus = adStatusError) = true := by
      decide +kernel
    obtain ⟨w, hrun, hw⟩ := run_of_reaches hreach
    obtain ⟨hpc, hevent, hstatus⟩ := of_decide_eq_true hw
    have htaken := hclaim _ w (startRequested_requested 1 1 .idle (.inl rfl)) hrun ⟨hpc, hevent⟩
    have hidle := htaken.adStatus
    rw [hstatus] at hidle
    cases hidle

end World

end PeakAnalyser

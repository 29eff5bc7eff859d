import PeakAnalyser.Notifications

/-!
# The exposures of an image

With every call succeeding, what the server has accumulated follows the exposure
counter of the task. Completion, cancellation and failure reach the task as the same
event, so an image is complete only if the task reads a stop request after every
exposure that did not end normally.
-/

namespace PeakAnalyser

set_option autoImplicit false

open Runs

/-- It has the exposures that were asked for, and all of them ended normally. -/
def Image.complete (image : Image) : Prop :=
  image.exposures = .replicate image.numExposures.toNat .normal

instance (image : Image) : Decidable image.complete := by
  unfold Image.complete
  infer_instance

theorem Server.active_of_exec (v : Server) {call : Call} (h : call ≠ .finishMeasurement)
    (hactive : (v.exec call).state = .active) : v.state = .active := by
  cases call
  case finishMeasurement => exact absurd rfl h
  case startMeasurement | acquisitionAsync =>
    simp only [exec] at hactive
    split at hactive
    · simp at hactive
    · exact hactive
  all_goals exact hactive

theorem Server.accumulated_exec (v : Server) {call : Call} (h : ∀ id, call ≠ .clearSpectrum id) :
    (v.exec call).accumulated = v.accumulated := by
  cases call
  case clearSpectrum id => exact absurd rfl (h id)
  case startMeasurement | acquisitionAsync | finishMeasurement =>
    simp only [exec]
    split <;> rfl
  all_goals rfl

namespace World

variable {w w' : World} {base : ADDriver}

/-! ### The guids, however an acquisition was stopped -/

/-- What the site of a call says about the guids and the state of the server. A stopped
acquisition can leave its guids behind; it then leaves the server out of Active. -/
def SecuredAt (site : Site) (w : World) : Prop :=
  match site with
  | .defineSpectrum | .startMeasurement => w.server.state = .active
  | .setupSpectrum | .subscribeToState =>
    w.server.state ≠ .active ∧ w.task.guidState = none ∧ w.task.guidAcquired = none
  | .subscribeToObservable => w.server.state ≠ .active ∧ w.task.guidAcquired = none
  | .unsubscribeAcquired | .cleanupUnsubscribeAcquired => w.task.guidState = none
  | .finishSpectrum | .finishMeasurement | .cleanupCurrentState | .cleanupFinishSpectrum
  | .cleanupFinishMeasurement => w.task.guidState = none ∧ w.task.guidAcquired = none
  | _ => True

/-- The task holds no guid while the server is Active. -/
def FreeWhenActive (w : World) : Prop :=
  w.server.state = .active → w.task.guidState = none ∧ w.task.guidAcquired = none

/-- The task subscribes only with the guids empty. -/
structure Secured (w : World) : Prop where
  idle : FreeWhenActive w
  place : ∀ site, w.pc = .call site ∨ (∃ call, w.pc = .inCall site call) → SecuredAt site w

theorem FreeWhenActive.of_locked (hw : FreeWhenActive w) (h : Locked w w') : FreeWhenActive w' := by
  unfold FreeWhenActive
  rw [h.server, h.guidState, h.guidAcquired]
  exact hw

theorem SecuredAt.of_eq {site : Site} (hw : SecuredAt site w)
    (hstate : w'.server.state = w.server.state) (hguid : w'.task.guidState = w.task.guidState)
    (hacquired : w'.task.guidAcquired = w.task.guidAcquired) : SecuredAt site w' := by
  unfold SecuredAt at hw ⊢
  rw [hstate, hguid, hacquired]
  exact hw

theorem Secured.of_away (hidle : FreeWhenActive w) (hcall : ∀ site, w.pc ≠ .call site) (hinCall : ∀ site call, w.pc ≠ .inCall site call) :
    Secured w where
  idle := hidle
  place site hpc := by
    obtain hpc | ⟨call, hpc⟩ := hpc
    · exact absurd hpc (hcall site)
    · exact absurd hpc (hinCall site call)

theorem Secured.of_call {site : Site} (hidle : FreeWhenActive w) (hpc : w.pc = .call site) (hsite : SecuredAt site w) : Secured w where
  idle := hidle
  place site' hpc' := by
    obtain hpc' | ⟨call, hpc'⟩ := hpc'
    · obtain rfl := Pc.call.inj (hpc.symm.trans hpc')
      exact hsite
    · rw [hpc] at hpc'
      cases hpc'

theorem secured_cleanupAcquired (hidle : FreeWhenActive w) (hstate : w.task.guidState = none) : Secured w.cleanupAcquired := by
  unfold cleanupAcquired
  split
  · exact .of_call hidle rfl hstate
  · rename_i hacquired
    exact .of_call hidle rfl ⟨hstate, by simpa using hacquired⟩

theorem secured_caught (what : String) (hidle : FreeWhenActive w) : Secured (w.caught what) := by
  unfold caught
  dsimp only
  split
  · exact .of_call hidle rfl trivial
  · rename_i hstate
    exact secured_cleanupAcquired hidle (by simpa using hstate)

theorem secured_of_begins {log : List Event} (h : Begins log w) (hidle : FreeWhenActive w) : Secured w := by
  obtain ⟨_, hpc, _⟩ | ⟨_, hpc, _⟩ := h.place <;> exact .of_call hidle hpc trivial

theorem secured_loopHead (hidle : FreeWhenActive w) : Secured w.loopHead := by
  have hidle := hidle.of_locked (loopHead_head w).toLocked
  obtain ⟨_, hparks⟩ | ⟨_, hbegins⟩ := loopHead_cases w
  · exact .of_away hidle (by simp [hparks.pc]) (by simp [hparks.pc])
  · exact secured_of_begins hbegins hidle

theorem secured_afterTry (hidle : FreeWhenActive w) : Secured w.afterTry := by
  unfold afterTry
  split
  · exact secured_loopHead hidle
  · split
    · exact secured_loopHead hidle
    · split
      · exact .of_away hidle (by simp) (by simp)
      · exact secured_loopHead
          (hidle.of_locked ((published_locked w).trans (completed_locked _)))

theorem secured_measured (spectrum : List Ending) (hidle : FreeWhenActive w) : Secured (w.measured spectrum) := by
  have hidle' : FreeWhenActive (w.measured spectrum) := by
    unfold measured
    dsimp only
    split <;> exact hidle
  by_cases hfinishes : (w.measured spectrum).task.finishes = true
  · exact .of_call hidle' (if_pos hfinishes) trivial
  · have hpc : (w.measured spectrum).pc = .leaveTry := if_neg hfinishes
    exact .of_away hidle' (by simp [hpc]) (by simp [hpc])

theorem secured_returnedAt {site : Site} {answer : Server} (hsite : site ≠ .startMeasurement)
    (hanswer : site = .currentState → answer.state = w.server.state) (hidle : FreeWhenActive w)
    (hw : SecuredAt site w) : Secured (w.returnedAt site answer) := by
  cases site
  case startMeasurement => exact absurd rfl hsite
  case currentState =>
    unfold returnedAt
    dsimp only
    split
    · rename_i hactive
      exact .of_call hidle rfl ((hanswer rfl).symm.trans hactive)
    · exact secured_caught _ hidle
  case defineSpectrum => exact .of_call hidle rfl hw
  case setupSpectrum => exact .of_call hidle rfl hw
  case subscribeToState => exact .of_call (fun hactive => absurd hactive hw.1) rfl ⟨hw.1, hw.2.2⟩
  case subscribeToObservable => exact .of_call (fun hactive => absurd hactive hw.1) rfl trivial
  case getMeasuredSpectrum => exact secured_measured _ hidle
  case unsubscribeState => exact .of_call (fun hactive => ⟨rfl, (hidle hactive).2⟩) rfl rfl
  case unsubscribeAcquired | cleanupUnsubscribeAcquired =>
    exact .of_call (fun hactive => ⟨(hidle hactive).1, rfl⟩) rfl ⟨hw, rfl⟩
  case finishSpectrum | cleanupFinishSpectrum => exact .of_call hidle rfl hw
  case cleanupUnsubscribeState =>
    exact secured_cleanupAcquired (fun hactive => ⟨rfl, (hidle hactive).2⟩) rfl
  case cleanupCurrentState =>
    unfold returnedAt
    dsimp only
    split
    · split <;> exact .of_call hidle rfl hw
    · exact .of_away hidle (by simp) (by simp)
  case clearSpectrum | start | finishMeasurement | cleanupFinishMeasurement =>
    exact .of_away hidle (by simp [returnedAt]) (by simp [returnedAt])

theorem site_of_acts {site : Site} {call : Call} (hissued : Issued w)
    (hpc : w.pc = .inCall site call) (hacts : call.acts = true) :
    (site = .startMeasurement ∧ call = .startMeasurement) ∨
      (site = .start ∧ call = .acquisitionAsync w.task.spectrumId) ∨
      site = .finishMeasurement ∨ site = .cleanupFinishMeasurement := by
  obtain hcall | ⟨d, _, rfl⟩ := hissued site call hpc
  · cases site
    case startMeasurement | start =>
      obtain rfl := Option.some.inj hcall
      simp
    case finishMeasurement | cleanupFinishMeasurement => simp
    case unsubscribeState | unsubscribeAcquired | cleanupUnsubscribeState |
        cleanupUnsubscribeAcquired =>
      obtain ⟨_, _, _, rfl⟩ := unsubscribeCall_eq_some hcall
      cases hacts
    all_goals
      obtain rfl := Option.some.inj hcall
      cases hacts
  · cases hacts

theorem secured_answered {site : Site} {call : Call} (hw : Secured w) (hissued : Issued w)
    (hpc : w.pc = .inCall site call) : Secured (w.answered site call .ok) := by
  have hplace := hw.place site (Or.inr ⟨call, hpc⟩)
  rw [answered_ok]
  by_cases hstart : site = .startMeasurement
  · subst hstart
    obtain rfl := Option.some.inj (call_of_issued hissued hpc (by simp))
    have hactive : w.server.state = .active := hplace
    have hmeasuring : (w.server.exec .startMeasurement).state = .measuring := by
      simp [Server.exec, hactive]
    refine .of_call (fun hne => ?_) rfl ⟨?_, hw.idle hactive⟩
    · exact absurd (hmeasuring.symm.trans hne) (by decide)
    · change (w.server.exec .startMeasurement).state ≠ .active
      rw [hmeasuring]
      decide
  · cases hacts : call.acts with
    | false =>
      obtain ⟨hstate, _⟩ := w.server.exec_quiet hacts
      refine secured_returnedAt hstart (fun _ => hstate.symm) ?_ ?_
      · exact fun hactive => hw.idle (hstate.symm.trans hactive)
      · exact hplace.of_eq hstate rfl rfl
    | true =>
      obtain ⟨rfl, _⟩ | ⟨rfl, rfl⟩ | rfl | rfl := site_of_acts hissued hpc hacts
      · exact absurd rfl hstart
      · refine secured_returnedAt hstart (fun h => by cases h) (fun hactive => ?_) trivial
        exact hw.idle (w.server.active_of_exec (by simp) hactive)
      · exact secured_returnedAt hstart (fun h => by cases h) (fun _ => hplace) hplace
      · exact secured_returnedAt hstart (fun h => by cases h) (fun _ => hplace) hplace

theorem secured_taskStep (hissued : Issued w) (hw : Secured w) (h : w.taskStep .ok = some w') :
    Secured w' := by
  have hstep := taskStep_cases h
  have hidle := hw.idle
  cases hpc : w.pc <;> simp only [hpc] at hstep
  case entry =>
    obtain ⟨_, rfl⟩ := hstep
    exact secured_loopHead hidle
  case woken =>
    obtain ⟨_, rfl⟩ := hstep
    have hlocked := (weAreAcquiring_locked w).trans (startImage_head _).toLocked
    exact secured_of_begins (startImage_begins rfl) (hidle.of_locked hlocked)
  case call site =>
    have hplace := hw.place site (Or.inl hpc)
    obtain ⟨call, _, rfl⟩ | ⟨hcall, rfl⟩ := hstep
    · refine ⟨hidle, fun site' hpc' => ?_⟩
      obtain hpc' | ⟨call', hpc'⟩ := hpc'
      · cases hpc'
      · obtain ⟨rfl, _⟩ := Pc.inCall.inj hpc'
        exact hplace
    · refine secured_returnedAt ?_ (fun _ => rfl) hidle hplace
      rintro rfl
      cases hcall
  case inCall site call =>
    subst hstep
    exact secured_answered hw hissued hpc
  case exposureLoop =>
    subst hstep
    unfold exposureTest
    split
    · exact .of_away hidle (by simp) (by simp)
    · exact .of_call hidle rfl trivial
  case exposureDone =>
    obtain ⟨_, rfl⟩ := hstep
    unfold exposureFinished
    dsimp only
    split
    · exact .of_call hidle rfl trivial
    · exact .of_away hidle (by simp) (by simp)
  case leaveTry =>
    obtain ⟨_, rfl⟩ := hstep
    exact secured_afterTry hidle
  case callbacks =>
    obtain ⟨_, rfl⟩ := hstep
    exact secured_loopHead (hidle.of_locked (completed_locked w))
  case waitStart | waitStop =>
    obtain ⟨_, rfl⟩ := hstep
    exact .of_away hidle (by simp) (by simp)
  case clearSteps =>
    subst hstep
    exact .of_away hidle (by simp) (by simp)
  case tryWait =>
    subst hstep
    exact .of_call hidle rfl trivial

theorem afresh_of_secured (hw : Secured w) : SubscribesAfresh w := by
  constructor
  · intro call hpc
    exact (hw.place _ (Or.inr ⟨call, hpc⟩)).2.1
  · rintro site call hpc (rfl | rfl)
    · exact (hw.place _ (Or.inr ⟨call, hpc⟩)).2.2
    · exact (hw.place _ (Or.inr ⟨call, hpc⟩)).2

/-- Outside of the task the state of the server changes by the end of an exposure only. -/
theorem secured_of_step {l : Label} (hl : ∀ reply, l ≠ .task reply) (halone : l.alone = true)
    (hlinked : Linked w) (hnotified : Notified w) (hw : Secured w) (h : w.step base l = some w') :
    Secured w' := by
  have hplace := samePlace_of_step hl h
  obtain ⟨n, htask⟩ := hplace.task
  by_cases hend : ∃ how, l = .exposureEnd how
  · obtain ⟨how, rfl⟩ := hend
    obtain ⟨v, hv, rfl⟩ := Option.map_eq_some_iff.mp h
    have hwait := (notified_endExposure hlinked hnotified hv).1
    refine .of_away (fun hactive => ?_) (by simp [hwait]) (by simp [hwait])
    have hstate := (Server.endExposure_ends _ hv).2.1
    exact absurd (hstate.symm.trans hactive) (by cases how <;> simp [Ending.state])
  · have hquiet := quiet_of_step hl halone (fun how hr => hend ⟨how, hr⟩) hlinked hnotified.fresh h
    constructor
    · intro hactive
      rw [htask]
      exact hw.idle (hquiet.state.symm.trans hactive)
    · intro site hpc
      rw [hplace.pc] at hpc
      exact (hw.place site hpc).of_eq hquiet.state (by rw [htask]) (by rw [htask])

/-! ### The exposures of the image in progress -/

/-- The server has accumulated `k` exposures, all of which ended normally. -/
structure Accumulated (w : World) (k : Int) : Prop where
  nonneg : 0 ≤ k
  normal : w.server.accumulated = .replicate k.toNat .normal

/-- The exposure that the task waits for runs, or has ended. -/
inductive Exposing (w : World) : Prop where
  | running (haccumulated : Accumulated w (w.task.numExposuresCounter - 1))
      (hsignals : w.signals = 0)
  | ended (how : Ending) (hexposure : w.server.exposure = none)
      (hcount : 1 ≤ w.task.numExposuresCounter)
      (haccumulated : w.server.accumulated =
        how :: .replicate (w.task.numExposuresCounter - 1).toNat .normal)

/-- The image number is still that of `NDArrayCounter`. -/
def Unnumbered (w : World) : Prop := w.task.imageCounter = w.driver.int .ndArrayCounter

/-- An image that was not aborted has its number and all of its exposures. -/
def Complete (w : World) : Prop :=
  w.task.acquire ≠ 0 →
    w.task.imageCounter = w.driver.int .ndArrayCounter + 1 ∧
      w.task.spectrum = .replicate w.task.numExposures.toNat .normal

/-- What the server has accumulated when a server call is made. -/
def ProgressAt (site : Site) (w : World) : Prop :=
  match site with
  | .start => Unnumbered w ∧ w.task.numExposuresCounter ≤ w.task.numExposures ∧
      Accumulated w (w.task.numExposuresCounter - 1)
  | .getMeasuredSpectrum => Unnumbered w ∧ (w.task.acquire ≠ 0 →
      w.server.accumulated = .replicate w.task.numExposures.toNat .normal)
  | .unsubscribeState | .unsubscribeAcquired | .finishSpectrum | .finishMeasurement => Complete w
  | .cleanupUnsubscribeState | .cleanupUnsubscribeAcquired | .cleanupCurrentState
  | .cleanupFinishSpectrum | .cleanupFinishMeasurement => True
  | _ => Unnumbered w ∧ w.task.numExposuresCounter = 0

/-- What the server has accumulated, by the place of the task. -/
def Progress (w : World) : Prop :=
  match w.pc with
  | .entry | .waitStart | .woken | .callbacks => True
  | .call site | .inCall site _ => ProgressAt site w
  | .exposureLoop => Unnumbered w ∧ w.task.numExposuresCounter ≤ max w.task.numExposures 0 ∧
      Accumulated w w.task.numExposuresCounter
  | .clearSteps | .tryWait => ProgressAt .start w
  | .waitStop => Unnumbered w ∧ w.task.numExposuresCounter ≤ w.task.numExposures ∧ Exposing w
  | .exposureDone => Unnumbered w ∧ w.task.numExposuresCounter ≤ w.task.numExposures ∧
      1 ≤ w.task.numExposuresCounter ∧ ∃ how, w.server.accumulated =
        how :: .replicate (w.task.numExposuresCounter - 1).toNat .normal
  | .leaveTry => w.task.failed = false → Complete w

theorem progress_of_begins {log : List Event} (h : Begins log w) : Progress w := by
  unfold Progress
  obtain ⟨_, hpc, _⟩ | ⟨_, hpc, _⟩ := h.place <;> rw [hpc] <;>
    exact ⟨h.imageCounter, h.numExposuresCounter⟩

theorem progress_loopHead (w : World) : Progress w.loopHead := by
  obtain ⟨_, hparks⟩ | ⟨_, hbegins⟩ := loopHead_cases w
  · unfold Progress
    rw [hparks.pc]
    trivial
  · exact progress_of_begins hbegins

theorem progress_afterTry (w : World) : Progress w.afterTry := by
  unfold afterTry
  split
  · exact progress_loopHead _
  · split
    · exact progress_loopHead _
    · split
      · trivial
      · exact progress_loopHead _

theorem progress_caught (w : World) (what : String) : Progress (w.caught what) := by
  unfold caught cleanupAcquired
  dsimp only
  split
  · trivial
  · split <;> trivial

theorem complete_measured {spectrum : List Ending} (hnumber : Unnumbered w)
    (hspectrum : w.task.acquire ≠ 0 →
      spectrum = .replicate w.task.numExposures.toNat .normal) :
    Complete (w.measured spectrum) := by
  unfold Complete measured
  dsimp only
  split
  · exact fun hacquire => ⟨congrArg (· + 1) hnumber, hspectrum hacquire⟩
  · rename_i hzero
    exact fun hacquire => absurd hacquire hzero

theorem progress_measured {spectrum : List Ending} (hnumber : Unnumbered w)
    (hspectrum : w.task.acquire ≠ 0 →
      spectrum = .replicate w.task.numExposures.toNat .normal) :
    Progress (w.measured spectrum) := by
  have hcomplete := complete_measured hnumber hspectrum
  by_cases hfinishes : (w.measured spectrum).task.finishes = true
  · have hpc : (w.measured spectrum).pc = .call .unsubscribeState := if_pos hfinishes
    unfold Progress
    rw [hpc]
    exact hcomplete
  · have hpc : (w.measured spectrum).pc = .leaveTry := if_neg hfinishes
    unfold Progress
    rw [hpc]
    exact fun _ => hcomplete

/-- The test of line 484 ends the loop with all exposures accumulated. -/
theorem progress_exposureTest (hpc : w.pc = .exposureLoop) (hw : Progress w) :
    Progress w.exposureTest := by
  simp only [Progress, hpc] at hw
  obtain ⟨hnumber, hle, hnonneg, hnormal⟩ := hw
  unfold exposureTest
  split
  · rename_i hless
    refine ⟨hnumber, ?_, ?_, ?_⟩
    · change w.task.numExposuresCounter + 1 ≤ w.task.numExposures
      omega
    · change 0 ≤ w.task.numExposuresCounter + 1 - 1
      omega
    · change w.server.accumulated = .replicate (w.task.numExposuresCounter + 1 - 1).toNat .normal
      rw [hnormal]
      congr 1
      omega
  · rename_i hdone
    refine ⟨hnumber, fun _ => ?_⟩
    change w.server.accumulated = .replicate w.task.numExposures.toNat .normal
    rw [hnormal]
    congr 1
    omega

/-- An exposure that ended normally counts; any other is seen as an abort. -/
theorem progress_exposureFinished (hpc : w.pc = .exposureDone) (hw : Progress w)
    (hseen : w.server.accumulated.head? = some .normal ∨ w.driver.int .adAcquire = 0) :
    Progress w.exposureFinished := by
  simp only [Progress, hpc] at hw
  obtain ⟨hnumber, hle, hone, how, haccumulated⟩ := hw
  unfold exposureFinished
  dsimp only
  split
  · rename_i hzero
    exact ⟨hnumber, fun hacquire => absurd hzero hacquire⟩
  · rename_i hacquire
    obtain rfl : how = .normal := by
      have hhead := hseen.resolve_right hacquire
      rw [haccumulated] at hhead
      exact Option.some.inj hhead
    refine ⟨by simpa [Unnumbered] using hnumber, ?_, ?_, ?_⟩
    · change w.task.numExposuresCounter ≤ max w.task.numExposures 0
      omega
    · change 0 ≤ w.task.numExposuresCounter
      omega
    · change w.server.accumulated = .replicate w.task.numExposuresCounter.toNat .normal
      rw [haccumulated, ← List.replicate_succ]
      congr 1
      omega

theorem Accumulated.of_eq {k : Int} (hw : Accumulated w k)
    (h : w'.server.accumulated = w.server.accumulated) : Accumulated w' k :=
  ⟨hw.nonneg, h.trans hw.normal⟩

/-- Nothing that `ProgressAt` reads has changed; a callback may count a step. -/
theorem ProgressAt.of_eq {site : Site} (hw : ProgressAt site w)
    (hint : w'.driver.int .ndArrayCounter = w.driver.int .ndArrayCounter)
    (htask : ∃ n, w'.task = { w.task with numStepsCounter := n })
    (haccumulated : w'.server.accumulated = w.server.accumulated) : ProgressAt site w' := by
  obtain ⟨n, htask⟩ := htask
  cases site
  case start =>
    obtain ⟨hnumber, hle, hcount⟩ := hw
    simp only [ProgressAt, Unnumbered, hint, htask]
    exact ⟨hnumber, hle, hcount.of_eq haccumulated⟩
  case getMeasuredSpectrum =>
    simp only [ProgressAt, Unnumbered, hint, htask, haccumulated]
    exact hw
  case unsubscribeState | unsubscribeAcquired | finishSpectrum | finishMeasurement =>
    simp only [ProgressAt, Complete, hint, htask]
    exact hw
  case cleanupUnsubscribeState | cleanupUnsubscribeAcquired | cleanupCurrentState |
      cleanupFinishSpectrum | cleanupFinishMeasurement => trivial
  all_goals
    simp only [ProgressAt, Unnumbered, hint, htask]
    exact hw

theorem progress_returnedAt {site : Site} {answer : Server} (hclear : site ≠ .clearSpectrum)
    (hstart : site ≠ .start) (hfailed : w.task.failed = site.inCleanup)
    (hanswer : answer.accumulated = w.server.accumulated) (hw : ProgressAt site w) :
    Progress (w.returnedAt site answer) := by
  cases site
  case clearSpectrum => exact absurd rfl hclear
  case start => exact absurd rfl hstart
  case currentState =>
    unfold returnedAt
    dsimp only
    split
    · exact hw
    · exact progress_caught _ _
  case getMeasuredSpectrum =>
    obtain ⟨hnumber, hspectrum⟩ := hw
    exact progress_measured hnumber fun hacquire => hanswer.trans (hspectrum hacquire)
  case finishMeasurement => exact fun _ => hw
  case cleanupUnsubscribeState =>
    unfold returnedAt cleanupAcquired
    dsimp only
    split <;> trivial
  case cleanupUnsubscribeAcquired | cleanupFinishSpectrum => trivial
  case cleanupCurrentState =>
    unfold returnedAt
    dsimp only
    split
    · split <;> trivial
    · exact fun hok => absurd (hok.symm.trans hfailed) (by decide)
  case cleanupFinishMeasurement => exact fun hok => absurd (hok.symm.trans hfailed) (by decide)
  all_goals exact hw

theorem site_of_clearSpectrum {site : Site} {id : Option Nat} (hissued : Issued w)
    (hpc : w.pc = .inCall site (.clearSpectrum id)) : site = .clearSpectrum := by
  obtain hcall | ⟨d, _, hcall⟩ := hissued _ _ hpc
  · cases site
    case clearSpectrum => rfl
    case unsubscribeState | unsubscribeAcquired | cleanupUnsubscribeState |
        cleanupUnsubscribeAcquired =>
      obtain ⟨_, _, _, hne⟩ := unsubscribeCall_eq_some hcall
      cases hne
    all_goals cases hcall
  · cases hcall

theorem progress_answered {site : Site} {call : Call} (hissued : Issued w) (hplaced : Placed w)
    (hsilent : Silent w) (hpc : w.pc = .inCall site call) (hw : ProgressAt site w) :
    Progress (w.answered site call .ok) := by
  simp only [Placed, hpc] at hplaced
  rw [answered_ok]
  by_cases hclear : site = .clearSpectrum
  · subst hclear
    obtain rfl := Option.some.inj (call_of_issued hissued hpc (by simp))
    obtain ⟨hnumber, hzero⟩ := hw
    refine ⟨hnumber, ?_, ?_, ?_⟩
    · change w.task.numExposuresCounter ≤ max w.task.numExposures 0
      omega
    · exact hzero.ge
    · simp [returnedAt, Server.exec, hzero]
  · have haccumulated : (w.server.exec call).accumulated = w.server.accumulated := by
      refine w.server.accumulated_exec ?_
      rintro id rfl
      exact hclear (site_of_clearSpectrum hissued hpc)
    by_cases hstart : site = .start
    · subst hstart
      obtain rfl := Option.some.inj (call_of_issued hissued hpc (by simp))
      obtain ⟨hnumber, hle, hcount⟩ := hw
      refine ⟨hnumber, hle, .running (hcount.of_eq haccumulated) ?_⟩
      have hlive : (w.server.exec (.acquisitionAsync w.task.spectrumId)).live w.task.guidState =
          w.server.live w.task.guidState := Server.live_exec _ (by simp)
      change (w.server.exec (.acquisitionAsync w.task.spectrumId)).live w.task.guidState +
        w.stopEvent.toNat = 0
      rw [hlive, hsilent.live, hsilent.stopEvent]
      rfl
    · refine progress_returnedAt hclear hstart ?_ haccumulated.symm ?_
      · exact hplaced.1
      · exact hw.of_eq rfl ⟨_, rfl⟩ haccumulated

theorem progress_taskStep (hissued : Issued w) (hplaced : Placed w) (hnotified : Notified w)
    (hw : Progress w)
    (hseen : w.pc = .exposureDone →
      w.server.accumulated.head? = some .normal ∨ w.driver.int .adAcquire = 0)
    (h : w.taskStep .ok = some w') : Progress w' := by
  have hstep := taskStep_cases h
  have hplace := hw
  unfold Progress at hplace
  cases hpc : w.pc <;> simp only [hpc] at hstep hplace
  case entry =>
    obtain ⟨_, rfl⟩ := hstep
    exact progress_loopHead w
  case waitStart =>
    obtain ⟨_, rfl⟩ := hstep
    trivial
  case woken =>
    obtain ⟨_, rfl⟩ := hstep
    exact progress_of_begins (startImage_begins rfl)
  case call site =>
    obtain ⟨call, _, rfl⟩ | ⟨hcall, rfl⟩ := hstep
    · exact hplace.of_eq rfl ⟨_, rfl⟩ rfl
    · simp only [Placed, hpc] at hplaced
      refine progress_returnedAt ?_ ?_ hplaced.1 rfl hplace <;> (rintro rfl; cases hcall)
  case inCall site call =>
    subst hstep
    exact progress_answered hissued hplaced (hnotified.silent (by simp [hpc])) hpc hplace
  case exposureLoop =>
    subst hstep
    exact progress_exposureTest hpc hw
  case waitStop =>
    obtain ⟨hevent, rfl⟩ := hstep
    obtain ⟨hnumber, hle, hexposing⟩ := hplace
    cases hexposing with
    | running haccumulated hsignals =>
      unfold signals at hsignals
      rw [hevent] at hsignals
      simp at hsignals
    | ended how hexposure hcount haccumulated => exact ⟨hnumber, hle, hcount, how, haccumulated⟩
  case exposureDone =>
    obtain ⟨_, rfl⟩ := hstep
    exact progress_exposureFinished hpc hw (hseen hpc)
  case leaveTry =>
    obtain ⟨_, rfl⟩ := hstep
    exact progress_afterTry w
  case callbacks =>
    obtain ⟨_, rfl⟩ := hstep
    exact progress_loopHead _
  case clearSteps | tryWait =>
    subst hstep
    obtain ⟨hnumber, hle, hcount⟩ := hplace
    exact ⟨hnumber, hle, hcount.of_eq rfl⟩

theorem progress_exposureEnd {how : Ending} {v : Server} (hwait : w.pc = .waitStop)
    (hw : Progress w) (h : w.server.endExposure how = some v) :
    Progress { w with server := v } := by
  obtain ⟨hrunning, _, hexposure, haccumulated⟩ := Server.endExposure_ends _ h
  simp only [Progress, hwait] at hw ⊢
  obtain ⟨hnumber, hle, hexposing⟩ := hw
  refine ⟨hnumber, hle, ?_⟩
  cases hexposing with
  | running hcount hsignals =>
    have hnonneg := hcount.nonneg
    refine .ended how hexposure ?_ ?_
    · change 1 ≤ w.task.numExposuresCounter
      omega
    · change v.accumulated = _
      rw [haccumulated, hcount.normal]
  | ended _ hnone => exact absurd hnone hrunning

theorem Progress.of_quiet (hw : Progress w) (hplace : SamePlace w w') (hquiet : Quiet w w')
    (hint : w'.driver.int .ndArrayCounter = w.driver.int .ndArrayCounter) : Progress w' := by
  have hsite : ∀ site, ProgressAt site w → ProgressAt site w' :=
    fun site hw => hw.of_eq hint hplace.task hquiet.accumulated
  obtain ⟨n, htask⟩ := hplace.task
  unfold Progress at hw ⊢
  rw [hplace.pc]
  cases hpc : w.pc <;> simp only [hpc] at hw ⊢
  case call site | inCall site call => exact hsite site hw
  case clearSteps | tryWait => exact hsite .start hw
  case exposureLoop =>
    simp only [Unnumbered, hint, htask]
    exact ⟨hw.1, hw.2.1, hw.2.2.of_eq hquiet.accumulated⟩
  case waitStop =>
    simp only [Unnumbered, hint, htask]
    refine ⟨hw.1, hw.2.1, ?_⟩
    obtain ⟨haccumulated, hsignals⟩ | ⟨how, hexposure, hcount, haccumulated⟩ := hw.2.2
    · refine .running ?_ (Nat.le_zero.mp (hsignals ▸ hquiet.signals))
      rw [htask]
      exact haccumulated.of_eq hquiet.accumulated
    · refine .ended how (hquiet.exposure.mpr hexposure) ?_ ?_
      · rw [htask]
        exact hcount
      · rw [htask, hquiet.accumulated]
        exact haccumulated
  case exposureDone =>
    simp only [Unnumbered, hint, htask, hquiet.accumulated]
    exact hw
  case leaveTry =>
    simp only [Complete, hint, htask]
    exact hw

/-! ### What is published -/

/-- Every published image is complete, and `NDArrayCounter` counts them from `start`. -/
structure Filed (start : Int) (w : World) : Prop where
  images : ∀ image ∈ w.images, image.complete
  counter : w.driver.int .ndArrayCounter = start + w.images.length

theorem Filed.of_eq {start : Int} (hw : Filed start w) (himages : w'.images = w.images)
    (hint : w'.driver.int .ndArrayCounter = w.driver.int .ndArrayCounter) : Filed start w' :=
  ⟨by rw [himages]; exact hw.images, by rw [himages, hint]; exact hw.counter⟩

theorem filed_loopHead {start : Int} (hw : Filed start w) : Filed start w.loopHead :=
  hw.of_eq (loopHead_head w).images ((loopHead_head w).int .ndArrayCounter (by simp))

theorem filed_completed {start : Int} (hw : Filed start w) : Filed start w.completed := by
  refine hw.of_eq ?_ ?_
  · unfold completed
    dsimp only
    split <;> rfl
  · unfold completed
    dsimp only
    split
    · simp
    · rfl

theorem filed_published {start : Int} (hw : Filed start w) (hacquire : w.task.acquire ≠ 0)
    (hcomplete : Complete w) : Filed start w.published := by
  obtain ⟨hnumber, hspectrum⟩ := hcomplete hacquire
  constructor
  · intro image himage
    obtain rfl | himage := List.mem_cons.mp himage
    · exact hspectrum
    · exact hw.images image himage
  · have hcounter := hw.counter
    have hlength : (w.published.images.length : Int) = w.images.length + 1 := by
      simp [published]
    have hint : w.published.driver.int .ndArrayCounter = w.task.imageCounter := by
      simp [published]
    rw [hint, hlength, hnumber]
    omega

/-- A normal leave from the `try` block files the image, and nothing else does. -/
theorem filed_afterTry {start : Int} (hw : Filed start w)
    (hcomplete : w.task.failed = false → Complete w) : Filed start w.afterTry := by
  unfold afterTry
  split
  · exact filed_loopHead (hw.of_eq rfl (by simp [errored]))
  · rename_i hfailed
    split
    · exact filed_loopHead (hw.of_eq rfl (by simp [aborted]))
    · rename_i hacquire
      have hpublished := filed_published hw hacquire (hcomplete (by simpa using hfailed))
      split
      · exact hpublished.of_eq rfl rfl
      · exact filed_loopHead (filed_completed hpublished)

theorem filed_taskStep {start : Int} {reply : Reply} (hprogress : Progress w) (hw : Filed start w)
    (h : w.taskStep reply = some w') : Filed start w' := by
  have hstep := taskStep_cases h
  cases hpc : w.pc <;> simp only [hpc] at hstep
  case entry =>
    obtain ⟨_, rfl⟩ := hstep
    exact filed_loopHead hw
  case woken =>
    obtain ⟨_, rfl⟩ := hstep
    have hhead := startImage_head w.weAreAcquiring
    refine hw.of_eq hhead.images ((hhead.int .ndArrayCounter (by simp)).trans ?_)
    simp [weAreAcquiring]
  case call site =>
    obtain ⟨call, _, rfl⟩ | ⟨_, rfl⟩ := hstep
    · exact hw.of_eq rfl rfl
    · have hsame := returnedAt_taskOnly w site w.server
      exact hw.of_eq hsame.images (by rw [hsame.driver])
  case inCall site call =>
    subst hstep
    have hsame := answered_taskOnly w site call reply
    exact hw.of_eq hsame.images (by rw [hsame.driver])
  case exposureDone =>
    obtain ⟨_, rfl⟩ := hstep
    unfold exposureFinished
    dsimp only
    split
    · exact hw.of_eq rfl rfl
    · exact hw.of_eq rfl (by simp)
  case leaveTry =>
    obtain ⟨_, rfl⟩ := hstep
    simp only [Progress, hpc] at hprogress
    exact filed_afterTry hw hprogress
  case callbacks =>
    obtain ⟨_, rfl⟩ := hstep
    exact filed_loopHead (filed_completed hw)
  case waitStart | waitStop =>
    obtain ⟨_, rfl⟩ := hstep
    exact hw.of_eq rfl rfl
  case exposureLoop | clearSteps | tryWait =>
    subst hstep
    exact hw.of_eq rfl rfl

/-- No client writes the array counter. -/
def keepsArrayCounter : Label → Prop
  | .write .ndArrayCounter _ _ => False
  | _ => True

theorem keepsArrayCounter_write (f : IntParam) (value : Int) (reply : AdjustReply) :
    f ≠ .ndArrayCounter ↔ keepsArrayCounter (.write f value reply) := by
  cases f <;> simp [keepsArrayCounter]

instance (l : Label) : Decidable (keepsArrayCounter l) :=
  match l with
  | .write f value reply => decidable_of_iff _ (keepsArrayCounter_write f value reply)
  | .task _ | .writeFloat _ _ _ | .port _ | .exposureEnd _ | .notify _ _ | .spectrumUpdate _
  | .otherClient _ _ => .isTrue trivial

/-- Every call succeeds, the driver has the analyser to itself, and after an exposure that
did not end normally line 503 reads a stop request. -/
def endSeen (w : World) (l : Label) : Prop :=
  l.succeeds = true ∧ l.alone = true ∧ keepsArrayCounter l ∧
  match l with
  | .task _ => w.pc = .exposureDone →
      w.server.accumulated.head? = some .normal ∨ w.driver.int .adAcquire = 0
  | _ => True

instance (w : World) (l : Label) : Decidable (endSeen w l) :=
  @instDecidableAnd _ _ inferInstance <| @instDecidableAnd _ _ inferInstance <|
    @instDecidableAnd _ _ inferInstance <|
    match l with
    | .task _ => inferInstanceAs (Decidable (w.pc = .exposureDone →
        w.server.accumulated.head? = some .normal ∨ w.driver.int .adAcquire = 0))
    | .write _ _ _ | .writeFloat _ _ _ | .port _ | .exposureEnd _ | .notify _ _ | .spectrumUpdate _
    | .otherClient _ _ => .isTrue trivial

/-- What holds of the image in progress and of those published. -/
structure Filing (start : Int) (w : World) : Prop where
  placed : Placed w
  issued : Issued w
  linked : Linked w
  notified : Notified w
  secured : Secured w
  progress : Progress w
  filed : Filed start w

theorem filing_step {start : Int} {l : Label} (hw : Filing start w) (hok : endSeen w l)
    (h : w.step base l = some w') : Filing start w' := by
  obtain ⟨hsucceeds, halone, hkeeps, hseen⟩ := hok
  have hafresh := afresh_of_secured hw.secured
  by_cases hl : ∃ reply, l = .task reply
  · obtain ⟨reply, rfl⟩ := hl
    obtain rfl : reply = .ok := by simpa [Label.succeeds] using hsucceeds
    exact
      { placed := placed_taskStep hw.placed h
        issued := issued_taskStep h
        linked := linked_taskStep hw.issued hafresh hw.linked rfl h
        notified := by
          refine notified_taskStep hw.issued hw.linked hw.notified ?_ rfl h
          intro call hpc
          exact (hw.secured.idle (hw.secured.place _ (Or.inr ⟨call, hpc⟩))).1
        secured := secured_taskStep hw.issued hw.secured h
        progress := progress_taskStep hw.issued hw.placed hw.notified hw.progress hseen h
        filed := filed_taskStep hw.progress hw.filed h }
  have hl : ∀ reply, l ≠ .task reply := fun reply hr => hl ⟨reply, hr⟩
  have hplace := samePlace_of_step hl h
  have hint : w'.driver.int .ndArrayCounter = w.driver.int .ndArrayCounter := by
    refine control_of_step rfl hl ?_ h
    rintro v reply rfl
    exact hkeeps
  exact
    { placed := hw.placed.of_samePlace hplace
      issued := hw.issued.of_samePlace hplace
      linked := hw.linked.of_same (sameLinks_of_step hl h)
      notified := notified_of_step hl halone hw.linked hw.notified h
      secured := secured_of_step hl halone hw.linked hw.notified hw.secured h
      progress := by
        by_cases hend : ∃ how, l = .exposureEnd how
        · obtain ⟨how, rfl⟩ := hend
          obtain ⟨v, hv, rfl⟩ := Option.map_eq_some_iff.mp h
          exact progress_exposureEnd (notified_endExposure hw.linked hw.notified hv).1
            hw.progress hv
        · exact hw.progress.of_quiet hplace
            (quiet_of_step hl halone (fun how hr => hend ⟨how, hr⟩) hw.linked hw.notified.fresh h)
            hint
      filed := hw.filed.of_eq hplace.images hint }

theorem filing_initial (h : Initial w) : Filing (w.driver.int .ndArrayCounter) w where
  placed := (measures_initial h).placed
  issued := (measures_initial h).issued
  linked := (subscribed_initial h).linked
  notified := notified_initial h
  secured := by
    refine .of_away (fun _ => ⟨h.guidState, h.guidAcquired⟩) ?_ ?_ <;> simp [h.pc]
  progress := by
    unfold Progress
    rw [h.pc]
    trivial
  filed := ⟨by simp [h.images], by simp [h.images]⟩

/-- While a stop request is read after every exposure that did not end normally, an image
that is published, and counted in `NDArrayCounter`, has `numExposures` exposures, and all of
them ended normally. -/
theorem images_complete {w₀ : World} (hinit : Initial w₀) (hrun : Run (step base) endSeen w₀ w) :
    (∀ image ∈ w.images, image.complete) ∧
      w.driver.int .ndArrayCounter = w₀.driver.int .ndArrayCounter + w.images.length := by
  have hw : Filing (w₀.driver.int .ndArrayCounter) w :=
    hrun.invariant (fun _ _ _ ha hok hs => filing_step ha hok hs) (filing_initial hinit)
  exact ⟨hw.filed.images, hw.filed.counter⟩

theorem images_complete_two_exposures :
    ∃ w : World, Run (step (.store 8)) endSeen (.atRest adImageSingle 1 2 0) w ∧
      w.images.length = 1 ∧ (∀ image ∈ w.images, image.complete) ∧
      w.driver.int .ndArrayCounter = 0 + w.images.length := by
  have hreach : reaches (step (.store 8)) endSeen (.atRest adImageSingle 1 2 0)
      (firstExposure ++ [.exposureEnd .normal, .notify 1 false] ++ .replicate 7 (.task .ok) ++
        [.exposureEnd .normal, .notify 2 false] ++ .replicate 14 (.task .ok))
      (fun w => w.images.length = 1) = true := by
    decide +kernel
  obtain ⟨w, hrun, hw⟩ := run_of_reaches hreach
  obtain ⟨hcomplete, hcounter⟩ := images_complete (atRest_initial ..) hrun
  exact ⟨w, hrun, by simpa using hw, hcomplete, hcounter⟩

/-- The only exposure of an image fails: the state Error ends the wait, the task finds
`ADAcquire` still set and publishes. -/
theorem failed_exposure_published :
    Initial (.atRest adImageSingle 1 1 0) ∧
    ¬ ∀ w : World, Run (step (.store 8)) (fun _ l => l.succeeds = true ∧ l.alone = true)
      (.atRest adImageSingle 1 1 0) w → ∀ image ∈ w.images, image.complete := by
  refine ⟨atRest_initial .., fun hclaim => ?_⟩
  have hreach : reaches (step (.store 8)) (fun _ l => l.succeeds = true ∧ l.alone = true)
      (.atRest adImageSingle 1 1 0)
      (firstExposure ++ [.exposureEnd .failed, .notify 1 false] ++ .replicate 14 (.task .ok))
      (fun w => w.images.any fun image => !decide image.complete) = true := by
    decide +kernel
  obtain ⟨w, hrun, hw⟩ := run_of_reaches hreach
  obtain ⟨image, himage, hincomplete⟩ := List.any_eq_true.mp hw
  simp [hclaim w hrun image himage] at hincomplete

end World

end PeakAnalyser

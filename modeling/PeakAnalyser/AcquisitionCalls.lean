import PeakAnalyser.Library.Endings
import PeakAnalyser.LockedSections

/-!
# The calls of an acquisition that nobody disturbs

From the accepted start request to the next wait for one, the task makes a fixed
sequence of calls, as long as no client writes a parameter and every call succeeds.
The number of images and exposures decides how long it is.
-/

namespace PeakAnalyser

set_option autoImplicit false

open Runs

/-- The call that an event issues. Where the task unsubscribes is left out. -/
def Event.issuedCall : Event → Option Call
  | .issued (.unsubscribe _) => none
  | .issued call => some call
  | _ => none

/-- The calls of a trace, the oldest first. -/
def issuedCalls (log : List Event) : List Call := log.reverse.filterMap Event.issuedCall

theorem issuedCalls_cons (event : Event) (log : List Event) :
    issuedCalls (event :: log) = issuedCalls log ++ event.issuedCall.toList := by
  unfold issuedCalls
  rw [List.reverse_cons, List.filterMap_append, List.filterMap_cons, List.filterMap_nil]
  cases event.issuedCall <;> rfl

/-! ### The sequence -/

/-- The set-up of a measurement, for the first image. -/
def openingCalls (definition : SpectrumDefinition) (id : Option Nat) : List Call :=
  [.getState, .defineSpectrum definition, .startMeasurement, .setupSpectrum id, .subscribeToState,
    .subscribeToObservable]

/-- An image up to its exposure number `n`. -/
def exposureCalls (id : Option Nat) (n : Nat) : List Call :=
  .clearSpectrum id :: .replicate n (.acquisitionAsync id)

/-- A number of images of `n` exposures each. -/
def imageCalls (id : Option Nat) (n images : Nat) : List Call :=
  (List.replicate images (exposureCalls id n ++ [.getMeasuredSpectrum id])).flatten

def acquisitionCalls (definition : SpectrumDefinition) (id : Option Nat) (n images : Nat) :
    List Call :=
  openingCalls definition id ++ imageCalls id n images ++ [.finishSpectrum id, .finishMeasurement]

theorem exposureCalls_succ (id : Option Nat) (n : Nat) :
    exposureCalls id (n + 1) = exposureCalls id n ++ [.acquisitionAsync id] := by
  simp only [exposureCalls, List.replicate_succ', List.cons_append]

theorem imageCalls_succ (id : Option Nat) (n images : Nat) : imageCalls id n (images + 1) =
    imageCalls id n images ++ exposureCalls id n ++ [.getMeasuredSpectrum id] := by
  simp only [imageCalls, List.replicate_succ', List.flatten_append, List.flatten_cons,
    List.flatten_nil, List.append_nil, List.append_assoc]

/-- What has been called at a place of the task: `k` images are finished, and the exposure
counter is `c`. -/
def callsAt (definition : SpectrumDefinition) (id : Option Nat) (n k : Nat) (c : Int) :
    Pc → List Call
  | .inCall .currentState _ | .call .defineSpectrum => (openingCalls definition id).take 1
  | .inCall .defineSpectrum _ | .call .startMeasurement => (openingCalls definition id).take 2
  | .inCall .startMeasurement _ | .call .setupSpectrum => (openingCalls definition id).take 3
  | .inCall .setupSpectrum _ | .call .subscribeToState => (openingCalls definition id).take 4
  | .inCall .subscribeToState _ | .call .subscribeToObservable =>
    (openingCalls definition id).take 5
  | .inCall .subscribeToObservable _ | .call .clearSpectrum =>
    openingCalls definition id ++ imageCalls id n k
  | .clearSteps | .tryWait | .call .start =>
    openingCalls definition id ++ imageCalls id n k ++ exposureCalls id (c - 1).toNat
  | .inCall .clearSpectrum _ | .exposureLoop | .inCall .start _ | .waitStop | .exposureDone =>
    openingCalls definition id ++ imageCalls id n k ++ exposureCalls id c.toNat
  | .call .getMeasuredSpectrum =>
    openingCalls definition id ++ imageCalls id n k ++ exposureCalls id n
  | .inCall .getMeasuredSpectrum _ | .call .unsubscribeState | .inCall .unsubscribeState _
  | .call .unsubscribeAcquired | .inCall .unsubscribeAcquired _ | .call .finishSpectrum =>
    openingCalls definition id ++ imageCalls id n (k + 1)
  | .inCall .finishSpectrum _ | .call .finishMeasurement =>
    openingCalls definition id ++ imageCalls id n (k + 1) ++ [.finishSpectrum id]
  | .inCall .finishMeasurement _ => acquisitionCalls definition id n (k + 1)
  | _ => []

namespace World

variable {w w' w₁ : World} {base : ADDriver}

def calls (w : World) : List Call := issuedCalls w.log

/-- How many images the settings ask for. -/
def imagesWanted (w : World) : Nat :=
  if w.driver.int .adImageMode = adImageSingle then 1
  else (max 1 (w.driver.int .adNumImages)).toNat

/-- How many exposures of each image. -/
def exposuresWanted (w : World) : Nat := (w.driver.int .adNumExposures).toNat

/-- A start request has been accepted, and the waiting task will find it. -/
structure Requested (w : World) : Prop where
  pc : w.pc = .waitStart
  startEvent : w.startEvent = true
  port : w.port = .idle
  adAcquire : w.driver.int .adAcquire ≠ 0
  imageMode : w.driver.int .adImageMode = adImageSingle ∨ w.driver.int .adImageMode = adImageMultiple

/-- The task waits for the next start request. -/
def Ended (w : World) : Prop := w.pc = .waitStart ∧ w.startEvent = false

/-- The images that have been published since `w₁`, by their ids. -/
def Adds (w₁ : World) (k : Nat) (w : World) : Prop :=
  ∃ images : List Image, w.images.reverse = w₁.images.reverse ++ images ∧
    images.map Image.uniqueId =
      (List.range k).map fun (i : Nat) => w₁.driver.int .ndArrayCounter + 1 + i

/-- The acquisition requested in `w₁` has been carried out. -/
structure Taken (w₁ w : World) : Prop where
  calls : ∃ definition id, w.calls =
    w₁.calls ++ acquisitionCalls definition id w₁.exposuresWanted w₁.imagesWanted
  images : Adds w₁ w₁.imagesWanted w
  adNumImagesCounter : w.driver.int .adNumImagesCounter = w₁.imagesWanted
  adAcquire : w.driver.int .adAcquire = 0
  adStatus : w.driver.int .adStatus = adStatusIdle

/-- No client writes, every call succeeds, and the analyser answers that it is Active. -/
def untouched (w : World) (l : Label) : Prop :=
  l.succeeds = true ∧
  match l with
  | .write _ _ _ | .writeFloat _ _ _ => False
  | .task _ => ∀ call, w.pc = .inCall .currentState call → w.server.state = .active
  | _ => True

/-- The write that requests a start. -/
theorem requested_of_write {value : Int} {reply : AdjustReply} (hpc : w.pc = .waitStart)
    (hvalue : value ≠ 0)
    (hstatus : w.int .adStatus ≠ adStatusAcquire ∧ w.int .adStatus ≠ adStatusDisconnected)
    (hmode : w.int .adImageMode = adImageSingle ∨ w.int .adImageMode = adImageMultiple)
    (h : w.step base (.write .adAcquire value reply) = some w') : Requested w' := by
  obtain ⟨hport, rfl⟩ := step_write_adAcquire h
  have haction : (w.driver.setIntegerParam .adAcquire value).acquireAction value = .signalStart := by
    unfold Driver.acquireAction
    exact if_pos ⟨hvalue, by simpa using hstatus⟩
  rw [haction]
  exact ⟨hpc, rfl, hport, by simpa [portAction] using hvalue, by simpa [portAction] using hmode⟩

/-! ### The stages of the acquisition -/

/-- What stays as it was when the acquisition was requested. -/
structure Settled (w₁ w : World) : Prop where
  port : w.port = .idle
  imageMode : w.driver.int .adImageMode = w₁.driver.int .adImageMode
  numImages : w.driver.int .adNumImages = w₁.driver.int .adNumImages
  numExposures : w.driver.int .adNumExposures = w₁.driver.int .adNumExposures

/-- `k` images have been published. -/
structure Counts (w₁ : World) (k : Nat) (w : World) : Prop where
  adNumImagesCounter : w.driver.int .adNumImagesCounter = k
  ndArrayCounter : w.driver.int .ndArrayCounter = w₁.driver.int .ndArrayCounter + k
  images : Adds w₁ k w

/-- The task works on an image, and has counted `k` of them. -/
structure Works (w₁ : World) (k : Nat) (w : World) : Prop where
  startEvent : w.startEvent = false
  adAcquire : w.driver.int .adAcquire ≠ 0
  failed : w.task.failed = false
  acquire : w.task.acquire ≠ 0
  imageMode : w.task.imageMode = w₁.driver.int .adImageMode
  numImages : w.task.numImages = w₁.driver.int .adNumImages
  numExposures : w.task.numExposures = w₁.driver.int .adNumExposures
  numImagesCounter : w.task.numImagesCounter = k
  imageCounter : w.task.imageCounter = w₁.driver.int .ndArrayCounter + k

end World

/-- The task knows the id of its spectrum. -/
def Pc.hasSpectrum : Pc → Bool
  | .call .currentState | .inCall .currentState _ | .call .defineSpectrum
  | .inCall .defineSpectrum _ | .call .finishMeasurement | .inCall .finishMeasurement _ => false
  | _ => true

/-- The set-up of a measurement. -/
def Site.inSetup : Site → Bool
  | .currentState | .defineSpectrum | .startMeasurement | .setupSpectrum | .subscribeToState
  | .subscribeToObservable => true
  | _ => false

def Pc.inSetup : Pc → Bool
  | .call site | .inCall site _ => site.inSetup
  | _ => false

/-- The finishing sequence, where the image has been counted. -/
def Pc.inFinish : Pc → Bool
  | .call site | .inCall site _ => site.inFinish
  | _ => false

/-- The value of the exposure counter at a place of the task, for images of `n` exposures. -/
def CounterAt (n : Nat) (c : Int) : Pc → Prop
  | .call site | .inCall site _ =>
    match site with
    | .start => 1 ≤ c ∧ c ≤ n
    | .getMeasuredSpectrum | .unsubscribeState | .unsubscribeAcquired | .finishSpectrum
    | .finishMeasurement => True
    | .cleanupUnsubscribeState | .cleanupUnsubscribeAcquired | .cleanupCurrentState
    | .cleanupFinishSpectrum | .cleanupFinishMeasurement => False
    | _ => c = 0
  | .clearSteps | .tryWait | .waitStop | .exposureDone => 1 ≤ c ∧ c ≤ n
  | .exposureLoop => 0 ≤ c ∧ c ≤ n
  | _ => False

namespace World

variable {w w' w₁ : World} {base : ADDriver} {d : SpectrumDefinition} {id : Option Nat} {k : Nat}
  {pc : Pc}

/-- The task works on image `k + 1`, at the place `pc`. -/
structure Imaging (w₁ : World) (d : SpectrumDefinition) (id : Option Nat) (k : Nat) (pc : Pc)
    (w : World) : Prop where
  more : k < w₁.imagesWanted
  counts : Counts w₁ k w
  works : Works w₁ (if pc.inFinish then k + 1 else k) w
  counter : CounterAt w₁.exposuresWanted w.task.numExposuresCounter pc
  calls : w.calls =
    w₁.calls ++ callsAt d id w₁.exposuresWanted k w.task.numExposuresCounter pc
  spectrumId : pc.hasSpectrum = true → w.task.spectrumId = id
  first : pc.inSetup = true → k = 0
  finishes : pc.inFinish = true → w.task.finishes = true

/-- Image `k + 1` has been measured, and what is to be finished has been. -/
structure Measured (w₁ : World) (d : SpectrumDefinition) (id : Option Nat) (k : Nat) (w : World) :
    Prop where
  more : k < w₁.imagesWanted
  works : Works w₁ (k + 1) w
  calls : w.calls = w₁.calls ++
    if w.task.finishes then acquisitionCalls d id w₁.exposuresWanted (k + 1)
    else openingCalls d id ++ imageCalls id w₁.exposuresWanted (k + 1)
  spectrumId : w.task.finishes = false → w.task.spectrumId = id

/-- The acquisition has not made a call yet. -/
structure Begun (w₁ w : World) : Prop where
  adAcquire : w.driver.int .adAcquire ≠ 0
  ndArrayCounter : w.driver.int .ndArrayCounter = w₁.driver.int .ndArrayCounter
  calls : w.calls = w₁.calls
  images : w.images = w₁.images

/-- How far the acquisition has got, by the place of the task. -/
def Underway (w₁ w : World) : Prop :=
  match w.pc with
  | .entry => False
  | .waitStart => (w.startEvent = true ∧ Begun w₁ w) ∨ (w.startEvent = false ∧ Taken w₁ w)
  | .woken => w.startEvent = false ∧ Begun w₁ w
  | .leaveTry => ∃ d id k, Measured w₁ d id k w ∧ Counts w₁ k w
  | .callbacks => ∃ d id k, Measured w₁ d id k w ∧ Counts w₁ (k + 1) w
  | pc => ∃ d id k, Imaging w₁ d id k pc w

/-- Whether the acquisition is complete with this image. -/
theorem finishes_iff (hmode : w₁.driver.int .adImageMode = adImageSingle ∨
      w₁.driver.int .adImageMode = adImageMultiple)
    (hmore : k < w₁.imagesWanted) (h : Works w₁ (k + 1) w) :
    w.task.finishes = true ↔ k + 1 = w₁.imagesWanted := by
  have hacquire := h.acquire
  have hcount := h.numImagesCounter
  unfold Task.finishes
  unfold imagesWanted at hmore ⊢
  rw [h.imageMode, h.numImages, hcount]
  rcases hmode with hsingle | hmultiple
  · rw [if_pos hsingle] at hmore ⊢
    simp only [hsingle, decide_true, Bool.or_true, Bool.true_or, true_iff]
    omega
  · have hne : ¬ adImageMultiple = adImageSingle := by decide
    rw [hmultiple, if_neg hne] at hmore ⊢
    simp only [hacquire, hne, decide_false, decide_true, Bool.false_or, Bool.true_and,
      decide_eq_true_eq]
    omega

/-! ### The other steps -/

/-- What the steps of the server and of its notifications leave alone. -/
structure Aside (w w' : World) : Prop where
  pc : w'.pc = w.pc
  task : ∃ n, w'.task = { w.task with numStepsCounter := n }
  images : w'.images = w.images
  port : w'.port = w.port
  startEvent : w'.startEvent = w.startEvent
  int : ∀ q : IntParam, q.isControl = true → w'.driver.int q = w.driver.int q
  calls : w'.calls = w.calls

theorem port_of_step {l : Label} (hl : ∀ reply, l ≠ .task reply) (hport : w.port = .idle)
    (hok : untouched w l) (h : w.step base l = some w') : w'.port = w.port := by
  cases l with
  | task reply => exact absurd rfl (hl reply)
  | write f v reply => exact hok.2.elim
  | writeFloat f v reply => exact hok.2.elim
  | port reply =>
    simp only [step, portStep, hport] at h
    cases h
  | exposureEnd how =>
    obtain ⟨_, _, rfl⟩ := Option.map_eq_some_iff.mp h
    rfl
  | notify index keep =>
    obtain ⟨_, _, rfl⟩ := deliver_cases h
    rfl
  | spectrumUpdate settings =>
    simp only [step] at h
    split at h
    · obtain rfl := Option.some.inj h
      rfl
    · cases h
  | otherClient state keepsOwn =>
    obtain rfl := Option.some.inj h
    rfl

theorem aside_of_step {l : Label} (hl : ∀ reply, l ≠ .task reply) (hport : w.port = .idle)
    (hok : untouched w l) (h : w.step base l = some w') : Aside w w' := by
  have hplace := samePlace_of_step hl h
  have hwrite : ∀ f v reply, l ≠ .write f v reply := by
    rintro f v reply rfl
    exact hok.2
  have hlog : w'.log = w.log := by
    rcases log_of_step hl h with hsame | ⟨c, hcalling, _⟩ | ⟨c, _, hcalling, _⟩
    · exact hsame
    · cases hport.symm.trans hcalling
    · cases hport.symm.trans hcalling
  have hevent : w'.startEvent = w.startEvent := by
    rcases startEvent_of_step hl h with hsame | ⟨v, reply, hstart, _⟩
    · exact hsame
    · exact absurd hstart (hwrite _ _ _)
  exact
    { pc := hplace.pc
      task := hplace.task
      images := hplace.images
      port := port_of_step hl hport hok h
      startEvent := hevent
      int := fun q hq => control_of_step hq hl (hwrite q) h
      calls := by rw [World.calls, World.calls, hlog] }

theorem Settled.of_aside (hw : Settled w₁ w) (h : Aside w w') : Settled w₁ w' where
  port := h.port.trans hw.port
  imageMode := (h.int _ rfl).trans hw.imageMode
  numImages := (h.int _ rfl).trans hw.numImages
  numExposures := (h.int _ rfl).trans hw.numExposures

theorem Adds.of_eq (hw : Adds w₁ k w) (h : w'.images = w.images) : Adds w₁ k w' := by
  unfold Adds at hw ⊢
  rw [h]
  exact hw

theorem Counts.of_aside (hw : Counts w₁ k w) (h : Aside w w') : Counts w₁ k w' where
  adNumImagesCounter := (h.int _ rfl).trans hw.adNumImagesCounter
  ndArrayCounter := (h.int _ rfl).trans hw.ndArrayCounter
  images := hw.images.of_eq h.images

theorem Works.of_aside (hw : Works w₁ k w) (h : Aside w w') : Works w₁ k w' := by
  obtain ⟨n, htask⟩ := h.task
  have hacquire := h.int .adAcquire rfl
  constructor
  · exact h.startEvent.trans hw.startEvent
  · rw [hacquire]
    exact hw.adAcquire
  all_goals rw [htask]
  · exact hw.failed
  · exact hw.acquire
  · exact hw.imageMode
  · exact hw.numImages
  · exact hw.numExposures
  · exact hw.numImagesCounter
  · exact hw.imageCounter

theorem Imaging.of_aside (hw : Imaging w₁ d id k pc w) (h : Aside w w') :
    Imaging w₁ d id k pc w' := by
  obtain ⟨n, htask⟩ := h.task
  constructor
  · exact hw.more
  · exact hw.counts.of_aside h
  · exact hw.works.of_aside h
  · rw [htask]
    exact hw.counter
  · rw [h.calls, htask]
    exact hw.calls
  · rw [htask]
    exact hw.spectrumId
  · exact hw.first
  · rw [htask]
    exact hw.finishes

theorem Measured.of_aside (hw : Measured w₁ d id k w) (h : Aside w w') :
    Measured w₁ d id k w' := by
  obtain ⟨n, htask⟩ := h.task
  constructor
  · exact hw.more
  · exact hw.works.of_aside h
  · rw [h.calls, htask]
    exact hw.calls
  · rw [htask]
    exact hw.spectrumId

theorem Begun.of_aside (hw : Begun w₁ w) (h : Aside w w') : Begun w₁ w' where
  adAcquire := by
    rw [h.int .adAcquire rfl]
    exact hw.adAcquire
  ndArrayCounter := (h.int _ rfl).trans hw.ndArrayCounter
  calls := h.calls.trans hw.calls
  images := h.images.trans hw.images

theorem Taken.of_aside (hw : Taken w₁ w) (h : Aside w w') : Taken w₁ w' where
  calls := by
    rw [h.calls]
    exact hw.calls
  images := hw.images.of_eq h.images
  adNumImagesCounter := (h.int .adNumImagesCounter rfl).trans hw.adNumImagesCounter
  adAcquire := (h.int .adAcquire rfl).trans hw.adAcquire
  adStatus := (h.int .adStatus rfl).trans hw.adStatus

theorem Underway.of_aside (hw : Underway w₁ w) (h : Aside w w') : Underway w₁ w' := by
  unfold Underway at hw ⊢
  rw [h.pc, h.startEvent]
  cases hpc : w.pc <;> simp only [hpc] at hw ⊢
  case waitStart =>
    rcases hw with ⟨hevent, hbegun⟩ | ⟨hevent, htaken⟩
    · exact .inl ⟨hevent, hbegun.of_aside h⟩
    · exact .inr ⟨hevent, htaken.of_aside h⟩
  case woken => exact ⟨hw.1, hw.2.of_aside h⟩
  case leaveTry | callbacks =>
    obtain ⟨d, id, k, hmeasured, hcounts⟩ := hw
    exact ⟨d, id, k, hmeasured.of_aside h, hcounts.of_aside h⟩
  all_goals
    obtain ⟨d, id, k, himaging⟩ := hw
    exact ⟨d, id, k, himaging.of_aside h⟩

/-! ### The steps of the task -/

/-- Every call of the sequence is the call of its site. -/
theorem callsAt_issued {site : Site} {call : Call} {n : Nat} {c : Int}
    (hcall : w.callAt site = some call) (hsite : site.inCleanup = false)
    (hcounter : CounterAt n c (.call site))
    (hid : (Pc.call site).hasSpectrum = true → w.task.spectrumId = id)
    (hfirst : (Pc.call site).inSetup = true → k = 0)
    (hdefine : site = .defineSpectrum → w.driver.spectrumDefinition = d) :
    callsAt d id n k c (.inCall site call) =
      callsAt d id n k c (.call site) ++ (Event.issued call).issuedCall.toList := by
  cases site
  case unsubscribeState | unsubscribeAcquired =>
    obtain ⟨_, _, _, rfl⟩ := unsubscribeCall_eq_some hcall
    exact (List.append_nil _).symm
  case cleanupUnsubscribeState | cleanupUnsubscribeAcquired | cleanupCurrentState
      | cleanupFinishSpectrum | cleanupFinishMeasurement => cases hsite
  all_goals obtain rfl := Option.some.inj hcall
  case defineSpectrum =>
    obtain rfl := hdefine rfl
    rfl
  case setupSpectrum =>
    obtain rfl := hid rfl
    rfl
  case subscribeToObservable =>
    obtain rfl := hfirst rfl
    rfl
  case clearSpectrum =>
    obtain rfl := hid rfl
    obtain rfl : c = 0 := hcounter
    rfl
  case start =>
    obtain rfl := hid rfl
    obtain ⟨hpos, _⟩ : 1 ≤ c ∧ c ≤ n := hcounter
    have hsucc : c.toNat = (c - 1).toNat + 1 := by omega
    simp only [callsAt, hsucc, exposureCalls_succ, List.append_assoc]
    rfl
  case getMeasuredSpectrum =>
    obtain rfl := hid rfl
    simp only [callsAt, imageCalls_succ, List.append_assoc]
    rfl
  case finishSpectrum =>
    obtain rfl := hid rfl
    rfl
  case finishMeasurement =>
    simp only [callsAt, acquisitionCalls, List.append_assoc]
    rfl
  all_goals rfl

/-- A call is issued. -/
theorem imaging_issued {site : Site} {call : Call} (hsite : site.inCleanup = false)
    (hw : Imaging w₁ d id k (.call site) w) (hcall : w.callAt site = some call) :
    ∃ d, Imaging w₁ d id k (.inCall site call)
      { w with log := .issued call :: w.log, pc := .inCall site call } := by
  have himaging : ∀ d', (site = .defineSpectrum → w.driver.spectrumDefinition = d') →
      callsAt d' id w₁.exposuresWanted k w.task.numExposuresCounter (.call site) =
        callsAt d id w₁.exposuresWanted k w.task.numExposuresCounter (.call site) →
      Imaging w₁ d' id k (.inCall site call)
        { w with log := .issued call :: w.log, pc := .inCall site call } := by
    intro d' hdefine hsame
    have hcalls := hw.calls
    have hissued :
        callsAt d' id w₁.exposuresWanted k w.task.numExposuresCounter (.inCall site call) =
          callsAt d id w₁.exposuresWanted k w.task.numExposuresCounter (.call site) ++
            (Event.issued call).issuedCall.toList := by
      rw [callsAt_issued hcall hsite hw.counter hw.spectrumId hw.first hdefine, hsame]
    constructor
    · exact hw.more
    · exact { hw.counts with }
    · exact { hw.works with }
    · exact hw.counter
    · change issuedCalls (.issued call :: w.log) = _
      rw [issuedCalls_cons, hissued, ← List.append_assoc, ← hcalls]
      rfl
    · intro hspectrum
      refine hw.spectrumId ?_
      cases site <;> first | rfl | cases hspectrum
    · exact hw.first
    · exact hw.finishes
  by_cases hdefine : site = .defineSpectrum
  · subst hdefine
    exact ⟨w.driver.spectrumDefinition, himaging _ (fun _ => rfl) rfl⟩
  · exact ⟨d, himaging d (fun h => absurd h hdefine) rfl⟩

/-- The image has been measured, and counted. -/
theorem underway_measured {call : Call} (spectrum : List Ending)
    (hw : Imaging w₁ d id k (.inCall .getMeasuredSpectrum call) w) :
    Underway w₁ (w.measured spectrum) := by
  have hworks : Works w₁ k w := hw.works
  have hacquire := hworks.acquire
  have hmeasured : w.measured spectrum =
      { w with
        task := { w.task with
          spectrum := spectrum, imageCounter := w.task.imageCounter + 1
          numImagesCounter := w.task.numImagesCounter + 1 }
        pc := if (w.measured spectrum).task.finishes then .call .unsubscribeState else .leaveTry } := by
    unfold measured
    simp only [ne_eq, hacquire, not_false_eq_true, if_true]
  have hcounted : Works w₁ (k + 1) (w.measured spectrum) := by
    rw [hmeasured]
    exact { hworks with
      numImagesCounter := by
        have hcount := hworks.numImagesCounter
        change w.task.numImagesCounter + 1 = _
        omega
      imageCounter := by
        have hcount := hworks.imageCounter
        change w.task.imageCounter + 1 = _
        omega }
  have htask : (w.measured spectrum).calls = w.calls ∧
      (w.measured spectrum).task.spectrumId = w.task.spectrumId := by
    rw [hmeasured]
    exact ⟨rfl, rfl⟩
  have hcounts : Counts w₁ k (w.measured spectrum) := by
    rw [hmeasured]
    exact { hw.counts with }
  have hcalls : w.calls = w₁.calls ++
      (openingCalls d id ++ imageCalls id w₁.exposuresWanted (k + 1)) := hw.calls
  by_cases hfinishes : (w.measured spectrum).task.finishes = true
  · have hpc : (w.measured spectrum).pc = .call .unsubscribeState := if_pos hfinishes
    unfold Underway
    rw [hpc]
    exact ⟨d, id, k, hw.more, hcounts, hcounted, trivial, htask.1.trans hcalls,
      fun _ => htask.2.trans (hw.spectrumId rfl), (fun h => by cases h), fun _ => hfinishes⟩
  · have hpc : (w.measured spectrum).pc = .leaveTry := if_neg hfinishes
    unfold Underway
    rw [hpc]
    refine ⟨d, id, k, ⟨hw.more, hcounted, ?_, ?_⟩, hcounts⟩
    · rw [if_neg hfinishes, htask.1]
      exact hcalls
    · intro _
      exact htask.2.trans (hw.spectrumId rfl)

/-- An answer has come. -/
theorem underway_returned {site : Site} {call : Call} {answer : Server}
    (hsite : site.inCleanup = false) (hanswer : site = .currentState → answer.state = .active)
    (hw : Imaging w₁ d id k (.inCall site call) w) : Underway w₁ (w.returnedAt site answer) := by
  cases site
  case cleanupUnsubscribeState | cleanupUnsubscribeAcquired | cleanupCurrentState
      | cleanupFinishSpectrum | cleanupFinishMeasurement => cases hsite
  case currentState =>
    unfold returnedAt
    dsimp only
    rw [if_pos (hanswer rfl)]
    exact ⟨d, id, k, hw.more, { hw.counts with }, { hw.works with }, hw.counter, hw.calls,
      (fun h => by cases h), hw.first, (fun h => by cases h)⟩
  case defineSpectrum =>
    exact ⟨d, some answer.nextId, k, hw.more, { hw.counts with }, { hw.works with }, hw.counter,
      hw.calls, fun _ => rfl, hw.first, (fun h => by cases h)⟩
  case startMeasurement | setupSpectrum | subscribeToState =>
    exact ⟨d, id, k, hw.more, { hw.counts with }, { hw.works with }, hw.counter, hw.calls,
      fun _ => hw.spectrumId rfl, hw.first, (fun h => by cases h)⟩
  case subscribeToObservable =>
    exact ⟨d, id, k, hw.more, { hw.counts with }, { hw.works with }, hw.counter, hw.calls,
      fun _ => hw.spectrumId rfl, (fun h => by cases h), (fun h => by cases h)⟩
  case clearSpectrum =>
    have hcounter : w.task.numExposuresCounter = 0 := hw.counter
    refine ⟨d, id, k, hw.more, { hw.counts with }, { hw.works with }, ?_, hw.calls,
      fun _ => hw.spectrumId rfl, (fun h => by cases h), (fun h => by cases h)⟩
    change 0 ≤ w.task.numExposuresCounter ∧ w.task.numExposuresCounter ≤ w₁.exposuresWanted
    omega
  case start =>
    exact ⟨d, id, k, hw.more, { hw.counts with }, { hw.works with }, hw.counter, hw.calls,
      fun _ => hw.spectrumId rfl, (fun h => by cases h), (fun h => by cases h)⟩
  case getMeasuredSpectrum => exact underway_measured _ hw
  case unsubscribeState | unsubscribeAcquired =>
    exact ⟨d, id, k, hw.more, { hw.counts with }, { hw.works with }, hw.counter, hw.calls,
      fun _ => hw.spectrumId rfl, (fun h => by cases h), fun _ => hw.finishes rfl⟩
  case finishSpectrum =>
    exact ⟨d, id, k, hw.more, { hw.counts with }, { hw.works with }, hw.counter, hw.calls,
      (fun h => by cases h), (fun h => by cases h), fun _ => hw.finishes rfl⟩
  case finishMeasurement =>
    have hfinishes : w.task.finishes = true := hw.finishes rfl
    have hmeasured : Measured w₁ d id k (w.returnedAt .finishMeasurement answer) := by
      refine ⟨hw.more, { hw.works with }, ?_, ?_⟩
      · change w.calls = _ ++ if w.task.finishes then _ else _
        rw [if_pos hfinishes]
        exact hw.calls
      · intro h
        cases hfinishes.symm.trans h
    exact ⟨d, id, k, hmeasured, { hw.counts with }⟩

/-- The task is about to begin image `k + 1`. -/
structure Next (w₁ : World) (d : SpectrumDefinition) (id : Option Nat) (k : Nat) (w : World) :
    Prop where
  settled : Settled w₁ w
  more : k < w₁.imagesWanted
  counts : Counts w₁ k w
  startEvent : w.startEvent = false
  adAcquire : w.driver.int .adAcquire ≠ 0
  failed : w.task.failed = false
  calls : w.calls = w₁.calls ++
    if k = 0 then [] else openingCalls d id ++ imageCalls id w₁.exposuresWanted k
  spectrumId : k ≠ 0 → w.task.spectrumId = id

theorem underway_startImage (hw : Next w₁ d id k w) (hacquire : w.task.acquire ≠ 0) :
    Underway w₁ w.startImage := by
  have hworks : ∀ pc log, Works w₁ k
      { w.setIntegerParam .adNumExposuresCounter 0 with
        task := (w.setIntegerParam .adNumExposuresCounter 0).beginTask, pc := pc, log := log } := by
    intro pc log
    exact
      { startEvent := hw.startEvent
        adAcquire := by simpa using hw.adAcquire
        failed := hw.failed
        acquire := hacquire
        imageMode := by simpa [beginTask] using hw.settled.imageMode
        numImages := by simpa [beginTask] using hw.settled.numImages
        numExposures := by simpa [beginTask] using hw.settled.numExposures
        numImagesCounter := by simpa [beginTask] using hw.counts.adNumImagesCounter
        imageCounter := by simpa [beginTask] using hw.counts.ndArrayCounter }
  have hcounts : ∀ pc log, Counts w₁ k
      { w.setIntegerParam .adNumExposuresCounter 0 with
        task := (w.setIntegerParam .adNumExposuresCounter 0).beginTask, pc := pc, log := log } := by
    intro pc log
    exact
      { adNumImagesCounter := by simpa using hw.counts.adNumImagesCounter
        ndArrayCounter := by simpa using hw.counts.ndArrayCounter
        images := hw.counts.images }
  have hcalls := hw.calls
  by_cases hk : k = 0
  · subst hk
    have hzero : (w.setIntegerParam .adNumExposuresCounter 0).beginTask.numImagesCounter = 0 :=
      (hworks .entry []).numImagesCounter
    unfold startImage
    dsimp only
    rw [if_pos hzero]
    refine ⟨d, id, 0, hw.more, hcounts _ _, hworks _ _, ?_, ?_, (fun h => by cases h), fun _ => rfl,
      (fun h => by cases h)⟩
    · simp [CounterAt, beginTask]
    · change issuedCalls (.firstFrame :: w.log) = _
      rw [issuedCalls_cons]
      exact (List.append_nil _).trans hcalls
  · have hcounter : (w.setIntegerParam .adNumExposuresCounter 0).beginTask.numImagesCounter ≠ 0 := by
      rw [(hworks .entry []).numImagesCounter]
      omega
    rw [if_neg hk] at hcalls
    unfold startImage
    dsimp only
    rw [if_neg hcounter]
    refine ⟨d, id, k, hw.more, hcounts _ _, hworks _ _, ?_, hcalls, fun _ => hw.spectrumId hk,
      (fun h => by cases h), (fun h => by cases h)⟩
    simp [CounterAt, beginTask]

theorem underway_loopHead (hw : Next w₁ d id k w) : Underway w₁ w.loopHead := by
  have hloopHead : w.loopHead = ({ w with
      task := { w.task with acquire := w.driver.int .adAcquire } } : World).startImage :=
    if_neg hw.adAcquire
  have hnext : Next w₁ d id k { w with
      task := { w.task with acquire := w.driver.int .adAcquire } } :=
    { hw with
      settled := { hw.settled with }
      counts := { hw.counts with } }
  rw [hloopHead]
  exact underway_startImage hnext hw.adAcquire

theorem underway_woken (hsettled : Settled w₁ w) (hmore : 0 < w₁.imagesWanted)
    (hevent : w.startEvent = false) (hw : Begun w₁ w) :
    Underway w₁ w.weAreAcquiring.startImage := by
  have hnext : Next w₁ w.driver.spectrumDefinition none 0 w.weAreAcquiring :=
    { settled :=
        { port := hsettled.port
          imageMode := by simpa [weAreAcquiring] using hsettled.imageMode
          numImages := by simpa [weAreAcquiring] using hsettled.numImages
          numExposures := by simpa [weAreAcquiring] using hsettled.numExposures }
      more := hmore
      counts :=
        { adNumImagesCounter := by simp [weAreAcquiring]
          ndArrayCounter := by simpa [weAreAcquiring] using hw.ndArrayCounter
          images := by
            refine ⟨[], ?_, rfl⟩
            rw [List.append_nil]
            exact congrArg List.reverse hw.images }
      startEvent := hevent
      adAcquire := by simpa [weAreAcquiring] using hw.adAcquire
      failed := rfl
      calls := by
        rw [if_pos rfl, List.append_nil]
        exact hw.calls
      spectrumId := fun h => absurd rfl h }
  exact underway_startImage hnext hw.adAcquire

/-- The image is filled and counted. -/
theorem counts_published (hworks : Works w₁ (k + 1) w) (hw : Counts w₁ k w) :
    Counts w₁ (k + 1) w.published where
  adNumImagesCounter := by simpa [published] using hworks.numImagesCounter
  ndArrayCounter := by simpa [published] using hworks.imageCounter
  images := by
    obtain ⟨images, himages, hids⟩ := hw.images
    have hid : w.task.imageCounter = w₁.driver.int .ndArrayCounter + 1 + (k : Int) := by
      rw [hworks.imageCounter]
      omega
    obtain ⟨image, himage, hnumber⟩ : ∃ image, w.published.images = image :: w.images ∧
      image.uniqueId = w.task.imageCounter := ⟨_, rfl, rfl⟩
    refine ⟨images ++ [image], ?_, ?_⟩
    · rw [himage, List.reverse_cons, himages, List.append_assoc]
    · rw [List.map_append, hids, List.range_succ, List.map_append]
      simp only [List.map_cons, List.map_nil, hnumber, hid]

theorem measured_published (hw : Measured w₁ d id k w) : Measured w₁ d id k w.published :=
  ⟨hw.more, { hw.works with adAcquire := by simpa [published] using hw.works.adAcquire }, hw.calls,
    hw.spectrumId⟩

theorem settled_published (hw : Settled w₁ w) : Settled w₁ w.published where
  port := hw.port
  imageMode := by simpa [published] using hw.imageMode
  numImages := by simpa [published] using hw.numImages
  numExposures := by simpa [published] using hw.numExposures

/-- The next image is wanted. -/
theorem next_completed (hmode : w₁.driver.int .adImageMode = adImageSingle ∨
      w₁.driver.int .adImageMode = adImageMultiple)
    (hsettled : Settled w₁ w) (hw : Measured w₁ d id k w) (hcounts : Counts w₁ (k + 1) w)
    (hcontinues : w.task.finishes = false) : Next w₁ d id (k + 1) w.completed := by
  have hcalls := hw.calls
  have hmore : k + 1 < w₁.imagesWanted := by
    have hle := hw.more
    have hne : k + 1 ≠ w₁.imagesWanted := by
      intro hall
      cases ((finishes_iff hmode hw.more hw.works).mpr hall).symm.trans hcontinues
    omega
  rw [hcontinues] at hcalls
  rw [completed_of_continues hw.works.acquire hw.works.adAcquire hcontinues]
  exact
    { settled := { hsettled with }
      more := hmore
      counts := { hcounts with }
      startEvent := hw.works.startEvent
      adAcquire := hw.works.adAcquire
      failed := hw.works.failed
      calls := hcalls
      spectrumId := fun _ => hw.spectrumId hcontinues }

/-- The acquisition is complete, and the task goes back to its wait. -/
theorem ended_completed (hw : Measured w₁ d id k w) (hcomplete : w.task.finishes = true) :
    Ended w.completed.loopHead ∧ w.completed.loopHead.calls = w.calls := by
  have hcompleted := completed_of_finishes (.inr ⟨hw.works.acquire, hcomplete⟩)
  have hparks := loopHead_parks (w := w.completed) (by simp [hcompleted])
  have hevent := (loopHead_head w.completed).startEvent.trans (completed_locked w).startEvent
  refine ⟨⟨hparks.pc, hevent.trans hw.works.startEvent⟩, ?_⟩
  rw [World.calls, hparks.log, completed_log]
  rfl

/-- The acquisition ends, or the next image begins. -/
theorem underway_completed (hmode : w₁.driver.int .adImageMode = adImageSingle ∨
      w₁.driver.int .adImageMode = adImageMultiple)
    (hsettled : Settled w₁ w) (hw : Measured w₁ d id k w) (hcounts : Counts w₁ (k + 1) w) :
    Underway w₁ w.completed.loopHead := by
  cases hcomplete : w.task.finishes with
  | false => exact underway_loopHead (next_completed hmode hsettled hw hcounts hcomplete)
  | true =>
    have hcompleted := completed_of_finishes (.inr ⟨hw.works.acquire, hcomplete⟩)
    have hall : k + 1 = w₁.imagesWanted := (finishes_iff hmode hw.more hw.works).mp hcomplete
    have hhead := loopHead_head w.completed
    have hcalls := hw.calls
    obtain ⟨⟨hpc, hevent⟩, hsame⟩ := ended_completed hw hcomplete
    rw [if_pos hcomplete] at hcalls
    unfold Underway
    rw [hpc]
    refine .inr ⟨hevent, ?_⟩
    constructor
    · refine ⟨d, id, ?_⟩
      rw [hsame, ← hall]
      exact hcalls
    · refine Adds.of_eq ?_ hhead.images
      rw [hcompleted, ← hall]
      exact hcounts.images
    · rw [hhead.int .adNumImagesCounter (by simp), hcompleted, ← hall]
      simpa using hcounts.adNumImagesCounter
    · rw [hhead.int .adAcquire (by simp), hcompleted]
      simp
    · rw [hhead.int .adStatus (by simp), hcompleted]
      simp

/-- The task sets neither the image mode nor the wanted numbers. -/
theorem settled_taskStep {reply : Reply} (hw : Settled w₁ w) (h : w.taskStep reply = some w') :
    Settled w₁ w' := by
  have hint : ∀ q : IntParam, q ≠ .adNumExposuresCounter → q ≠ .adNumImagesCounter →
      q ≠ .ndArrayCounter → q ≠ .adAcquire → q ≠ .adStatus → w'.driver.int q = w.driver.int q := by
    intro q hexposures himages harray hacquire hstatus
    have hloopHead : ∀ v : World, v.loopHead.driver.int q = v.driver.int q :=
      fun v => (loopHead_head v).int q hexposures
    have hcompleted : ∀ v : World, v.completed.driver.int q = v.driver.int q := by
      intro v
      unfold completed
      dsimp only
      split
      · simp [hacquire, hstatus]
      · rfl
    have hpublished : w.published.driver.int q = w.driver.int q := by
      simp [published, harray, himages]
    have hstep := taskStep_cases h
    cases hpc : w.pc <;> simp only [hpc] at hstep
    case entry =>
      obtain ⟨_, rfl⟩ := hstep
      exact hloopHead w
    case woken =>
      obtain ⟨_, rfl⟩ := hstep
      rw [(startImage_head _).int q hexposures]
      simp [weAreAcquiring, hexposures, himages, hstatus]
    case call site =>
      rcases hstep with ⟨call, _, rfl⟩ | ⟨_, rfl⟩
      · rfl
      · rw [(returnedAt_taskOnly _ _ _).driver]
    case inCall site call =>
      subst hstep
      rw [(answered_taskOnly _ _ _ _).driver]
    case exposureDone =>
      obtain ⟨_, rfl⟩ := hstep
      unfold exposureFinished
      dsimp only
      split
      · rfl
      · simp [hexposures]
    case leaveTry =>
      obtain ⟨_, rfl⟩ := hstep
      unfold afterTry
      split
      · rw [hloopHead]
        simp [errored, hacquire, hstatus]
      · split
        · rw [hloopHead]
          simp [aborted, hstatus]
        · split
          · exact hpublished
          · rw [hloopHead, hcompleted, hpublished]
    case callbacks =>
      obtain ⟨_, rfl⟩ := hstep
      rw [hloopHead, hcompleted]
    case waitStart | waitStop =>
      obtain ⟨_, rfl⟩ := hstep
      rfl
    case exposureLoop | clearSteps | tryWait =>
      subst hstep
      rfl
  have hset : ∀ q : IntParam, q = .adImageMode ∨ q = .adNumImages ∨ q = .adNumExposures →
      w'.driver.int q = w.driver.int q := by
    rintro q (rfl | rfl | rfl) <;> exact hint _ (by simp) (by simp) (by simp) (by simp) (by simp)
  exact
    { port := (port_of_taskStep h).trans hw.port
      imageMode := (hset _ (.inl rfl)).trans hw.imageMode
      numImages := (hset _ (.inr (.inl rfl))).trans hw.numImages
      numExposures := (hset _ (.inr (.inr rfl))).trans hw.numExposures }

theorem Imaging.not_inCleanup {site : Site} (hw : Imaging w₁ d id k pc w)
    (hpc : pc = .call site ∨ ∃ call, pc = .inCall site call) : site.inCleanup = false := by
  have hcounter := hw.counter
  rcases hpc with rfl | ⟨call, rfl⟩
  all_goals
    cases site
    case cleanupUnsubscribeState | cleanupUnsubscribeAcquired | cleanupCurrentState
      | cleanupFinishSpectrum | cleanupFinishMeasurement => exact hcounter.elim
    all_goals rfl

theorem site_of_skipped {site : Site} (hsite : site.inCleanup = false)
    (hcall : w.callAt site = none) : site = .unsubscribeState ∨ site = .unsubscribeAcquired := by
  cases site <;> first | exact .inl rfl | exact .inr rfl | cases hcall | cases hsite

/-- A call that is not made is answered at once. -/
theorem underway_skipped {site : Site} (hw : Imaging w₁ d id k (.call site) w)
    (hcall : w.callAt site = none) : Underway w₁ (w.returnedAt site w.server) := by
  have hsite := site_of_skipped (hw.not_inCleanup (.inl rfl)) hcall
  have himaging : Imaging w₁ d id k (.inCall site .getState) w := by
    rcases hsite with rfl | rfl
    all_goals
      exact ⟨hw.more, hw.counts, hw.works, trivial, hw.calls, fun _ => hw.spectrumId rfl,
        (fun h => by cases h), fun _ => hw.finishes rfl⟩
  refine underway_returned (hw.not_inCleanup (.inl rfl)) ?_ himaging
  rintro rfl
  cases hcall

theorem underway_answered {site : Site} {call : Call}
    (hactive : site = .currentState → w.server.state = .active)
    (hw : Imaging w₁ d id k (.inCall site call) w) : Underway w₁ (w.answered site call .ok) := by
  have hcalls : issuedCalls (.returned call :: w.log) = w.calls := by
    rw [issuedCalls_cons]
    exact List.append_nil _
  have himaging : Imaging w₁ d id k (.inCall site call)
      { w with server := w.server.exec call, log := .returned call :: w.log } :=
    { more := hw.more
      counts := { hw.counts with }
      works := { hw.works with }
      counter := hw.counter
      calls := hcalls.trans hw.calls
      spectrumId := hw.spectrumId
      first := hw.first
      finishes := hw.finishes }
  rw [answered_ok]
  exact underway_returned (hw.not_inCleanup (.inr ⟨call, rfl⟩)) hactive himaging

theorem underway_exposureTest (hw : Imaging w₁ d id k .exposureLoop w) :
    Underway w₁ w.exposureTest := by
  have hcounter : 0 ≤ w.task.numExposuresCounter ∧
      w.task.numExposuresCounter ≤ w₁.exposuresWanted := hw.counter
  have hwanted := hw.works.numExposures
  have hnumber : (w₁.exposuresWanted : Int) = max (w₁.driver.int .adNumExposures) 0 := by
    unfold exposuresWanted
    omega
  have hcalls : w.calls = w₁.calls ++ (openingCalls d id ++ imageCalls id w₁.exposuresWanted k ++
      exposureCalls id w.task.numExposuresCounter.toNat) := hw.calls
  by_cases hless : w.task.numExposuresCounter < w.task.numExposures
  · have hpc : w.exposureTest.pc = .clearSteps := if_pos hless
    unfold Underway
    rw [hpc]
    refine ⟨d, id, k, hw.more, { hw.counts with }, { hw.works with }, ?_, ?_,
      fun _ => hw.spectrumId rfl, (fun h => by cases h), (fun h => by cases h)⟩
    · change 1 ≤ w.task.numExposuresCounter + 1 ∧
        w.task.numExposuresCounter + 1 ≤ w₁.exposuresWanted
      omega
    · change w.calls = _ ++ (_ ++ exposureCalls id (w.task.numExposuresCounter + 1 - 1).toNat)
      rw [Int.add_sub_cancel]
      exact hcalls
  · have hpc : w.exposureTest.pc = .call .getMeasuredSpectrum := if_neg hless
    have hlast : w.task.numExposuresCounter.toNat = w₁.exposuresWanted := by omega
    unfold Underway
    rw [hpc]
    refine ⟨d, id, k, hw.more, { hw.counts with }, { hw.works with }, trivial, ?_,
      fun _ => hw.spectrumId rfl, (fun h => by cases h), (fun h => by cases h)⟩
    rw [hlast] at hcalls
    exact hcalls

theorem exposureFinished_of_acquire (h : w.driver.int .adAcquire ≠ 0) : w.exposureFinished =
    { w.setIntegerParam .adNumExposuresCounter w.task.numExposuresCounter with
      task := { w.task with acquire := w.driver.int .adAcquire }, pc := .exposureLoop } :=
  if_neg h

theorem underway_afterTry (hmode : w₁.driver.int .adImageMode = adImageSingle ∨
      w₁.driver.int .adImageMode = adImageMultiple)
    (hsettled : Settled w₁ w) (hw : Measured w₁ d id k w) (hcounts : Counts w₁ k w) :
    Underway w₁ w.afterTry := by
  have hpublished := counts_published hw.works hcounts
  unfold afterTry
  split
  · rename_i hfailed
    cases hw.works.failed.symm.trans hfailed
  · split
    · rename_i hacquire
      exact absurd hacquire hw.works.acquire
    · split
      · exact ⟨d, id, k, { measured_published hw with works := { (measured_published hw).works with } },
          { hpublished with }⟩
      · exact underway_completed hmode (settled_published hsettled) (measured_published hw)
          hpublished

theorem imagesWanted_pos (w : World) : 0 < w.imagesWanted := by
  unfold imagesWanted
  split <;> omega

theorem underway_taskStep (hmode : w₁.driver.int .adImageMode = adImageSingle ∨
      w₁.driver.int .adImageMode = adImageMultiple)
    (hsettled : Settled w₁ w) (hw : Underway w₁ w)
    (hactive : ∀ call, w.pc = .inCall .currentState call → w.server.state = .active)
    (h : w.taskStep .ok = some w') : Underway w₁ w' := by
  have hstep := taskStep_cases h
  unfold Underway at hw
  cases hpc : w.pc <;> simp only [hpc] at hstep hw
  case waitStart =>
    obtain ⟨hevent, rfl⟩ := hstep
    rcases hw with ⟨_, hbegun⟩ | ⟨hnone, _⟩
    · exact ⟨rfl, { hbegun with }⟩
    · cases hevent.symm.trans hnone
  case woken =>
    obtain ⟨_, rfl⟩ := hstep
    exact underway_woken hsettled (imagesWanted_pos w₁) hw.1 hw.2
  case leaveTry =>
    obtain ⟨_, rfl⟩ := hstep
    obtain ⟨d, id, k, hmeasured, hcounts⟩ := hw
    exact underway_afterTry hmode hsettled hmeasured hcounts
  case callbacks =>
    obtain ⟨_, rfl⟩ := hstep
    obtain ⟨d, id, k, hmeasured, hcounts⟩ := hw
    exact underway_completed hmode hsettled hmeasured hcounts
  all_goals obtain ⟨d, id, k, himaging⟩ := hw
  case call site =>
    rcases hstep with ⟨call, hcall, rfl⟩ | ⟨hcall, rfl⟩
    · obtain ⟨d, hissued⟩ := imaging_issued (himaging.not_inCleanup (.inl rfl)) himaging hcall
      exact ⟨d, id, k, hissued⟩
    · exact underway_skipped himaging hcall
  case inCall site call =>
    subst hstep
    refine underway_answered ?_ himaging
    rintro rfl
    exact hactive call hpc
  case exposureLoop =>
    subst hstep
    exact underway_exposureTest himaging
  case clearSteps =>
    subst hstep
    exact ⟨d, id, k, himaging.more, { himaging.counts with }, { himaging.works with },
      himaging.counter, himaging.calls, fun _ => himaging.spectrumId rfl, (fun h => by cases h),
      (fun h => by cases h)⟩
  case tryWait =>
    subst hstep
    exact ⟨d, id, k, himaging.more, { himaging.counts with }, { himaging.works with },
      himaging.counter, himaging.calls, fun _ => himaging.spectrumId rfl, (fun h => by cases h),
      (fun h => by cases h)⟩
  case waitStop =>
    obtain ⟨_, rfl⟩ := hstep
    exact ⟨d, id, k, himaging.more, { himaging.counts with }, { himaging.works with },
      himaging.counter, himaging.calls, fun _ => himaging.spectrumId rfl, (fun h => by cases h),
      (fun h => by cases h)⟩
  case exposureDone =>
    obtain ⟨_, rfl⟩ := hstep
    have hacquire := himaging.works.adAcquire
    have hfinished := exposureFinished_of_acquire hacquire
    have hcounter : 1 ≤ w.task.numExposuresCounter ∧
        w.task.numExposuresCounter ≤ w₁.exposuresWanted := himaging.counter
    rw [hfinished]
    refine ⟨d, id, k, himaging.more, ?_, ?_, ?_, himaging.calls, fun _ => himaging.spectrumId rfl,
      (fun h => by cases h), (fun h => by cases h)⟩
    · exact
        { adNumImagesCounter := by simpa using himaging.counts.adNumImagesCounter
          ndArrayCounter := by simpa using himaging.counts.ndArrayCounter
          images := himaging.counts.images }
    · exact { himaging.works with
        adAcquire := by simpa using hacquire
        acquire := hacquire }
    · change 0 ≤ w.task.numExposuresCounter ∧ w.task.numExposuresCounter ≤ w₁.exposuresWanted
      omega

/-- An acquisition that nobody disturbs is on its way, or has been carried out. -/
structure Acquiring (w₁ w : World) : Prop where
  imageMode : w₁.driver.int .adImageMode = adImageSingle ∨
    w₁.driver.int .adImageMode = adImageMultiple
  settled : Settled w₁ w
  underway : Underway w₁ w

theorem acquiring_requested (h : Requested w) : Acquiring w w where
  imageMode := h.imageMode
  settled := ⟨h.port, rfl, rfl, rfl⟩
  underway := by
    unfold Underway
    rw [h.pc]
    exact .inl ⟨h.startEvent, h.adAcquire, rfl, rfl, rfl⟩

theorem acquiring_step {l : Label} (hw : Acquiring w₁ w) (hok : untouched w l)
    (h : w.step base l = some w') : Acquiring w₁ w' := by
  by_cases hl : ∃ reply, l = .task reply
  · obtain ⟨reply, rfl⟩ := hl
    obtain ⟨hsucceeds, hactive⟩ := hok
    obtain rfl : reply = .ok := by simpa [Label.succeeds] using hsucceeds
    exact
      { imageMode := hw.imageMode
        settled := settled_taskStep hw.settled h
        underway := underway_taskStep hw.imageMode hw.settled hw.underway hactive h }
  · have haside := aside_of_step (fun reply hr => hl ⟨reply, hr⟩) hw.settled.port hok h
    exact
      { imageMode := hw.imageMode
        settled := hw.settled.of_aside haside
        underway := hw.underway.of_aside haside }

theorem taken_of_ended (hw : Acquiring w₁ w) (hended : Ended w) : Taken w₁ w := by
  have hunderway := hw.underway
  unfold Underway at hunderway
  rw [hended.1] at hunderway
  rcases hunderway with ⟨hevent, _⟩ | ⟨_, htaken⟩
  · cases hevent.symm.trans hended.2
  · exact htaken

end World

end PeakAnalyser

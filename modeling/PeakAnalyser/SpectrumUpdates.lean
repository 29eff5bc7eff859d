import PeakAnalyser.Acquisition
import PeakAnalyser.Library.Tallies
import PeakAnalyser.LiveSpectrum
import PeakAnalyser.ServerAnswers

/-!
# The `SpectrumUpdate` callback and the port lock

The callback of lines 457 to 478 takes the port lock and gives it back when it has stored the
progress. In between, the first update of an exposure is read, up to the end of `setRegion`. An
exception of these reads leaves the callback while the lock is taken; the dispatcher of the
notifications catches it, and nobody gives the lock back. The thread that has the lock may take it
again, so further updates on that thread go on. All notifications come on one thread here, as they
do over WebSocket.
-/

namespace PeakAnalyser

set_option autoImplicit false

open Conversations Runs

namespace JsonValue

def isNull : JsonValue → Bool
  | .null => true
  | _ => false

/-- `operator[](0)` of a constant value; that of an empty array is not defined. -/
def firstItem : JsonValue → Except ChannelException JsonValue
  | .array (value :: _) => .ok value
  | .array [] => .error .assertion
  | _ => .error .typeError

end JsonValue

/-- What the callback works on: the parameters, the variables of `acquisitionTask` that it has
captured, `m_SpectrumLive`, and how often its thread has the port lock. -/
structure UpdateState where
  params : Params
  numSteps : Int
  numStepsCounter : Int
  numExposures : Int
  numExposuresCounter : Int
  m_SpectrumLive : JsonValue := .null
  spectrumEvent : Bool := false
  locks : Nat := 0

namespace UpdateState

variable (s : UpdateState)

def lock : UpdateState := { s with locks := s.locks + 1 }

def unlock : UpdateState := { s with locks := s.locks - 1 }

def withParams (params : Params) : UpdateState := { s with params }

/-- The local variables that the callback reads. -/
def task : Task :=
  { numSteps := s.numSteps
    numStepsCounter := s.numStepsCounter
    numExposures := s.numExposures
    numExposuresCounter := s.numExposuresCounter }

/-- Lines 469 and 470. -/
def countStep : UpdateState :=
  let s := { s with numStepsCounter := s.numStepsCounter + 1 }
  s.withParams { s.params.setIntegerParam .acqNumStepsCounter s.numStepsCounter with
    acqProgress := World.progress s.task }

end UpdateState

/-- What `SpectrumUpdate` does may end with an exception of the JSON library. -/
abbrev Updating : Type → Type := Conversation Unit Unit UpdateState ChannelException

/-- Lines 465 to 467. -/
def correctRegion (spectrum : JsonValue) : Updating Unit := do
  let channels ← take (spectrum.item "SpectrumChannels")
  let spectrumChannel ← take channels.front
  let channelSettings ← take (spectrumChannel.item "SpectrumChannelSettings")
  within UpdateState.params UpdateState.withParams id (setRegion channelSettings)

/-- Lines 464 to 468. -/
def correctFirst (spectrum : JsonValue) : Updating Unit := do
  let s ← current
  if s.numStepsCounter = 0 then correctRegion spectrum else pure ()

/-- Lines 474 to 476. -/
def refreshLive (spectrum : JsonValue) : Updating Unit := do
  let channels ← take (spectrum.item "SpectrumChannels")
  let spectrumLive ← take channels.front
  update fun s => { s with m_SpectrumLive := spectrumLive }
  let s ← current
  let isLast := JsonValue.boolean (s.numSteps = s.numStepsCounter)
  let spectrumLive ← take ((spectrumLive.assign "IsLast" isLast).mapError fun _ => .typeError)
  update fun s => { s with m_SpectrumLive := spectrumLive, spectrumEvent := true }

/-- Lines 462 to 476, for a value that is not null. -/
def receiveSpectrum (spectrum : JsonValue) : Updating Unit := do
  update UpdateState.lock
  correctFirst spectrum
  update UpdateState.countStep
  update UpdateState.unlock
  refreshLive spectrum

/-- The callback of lines 457 to 478. -/
def spectrumUpdate (params : JsonValue) : Updating Unit := do
  let notification ← take params.firstItem
  let spectrum ← take (notification.item "Value")
  if spectrum.isNull then pure () else receiveSpectrum spectrum

/-- What happens around the callback: it is called, `acquisitionTask` begins an exposure, which
it does without the lock, or another thread changes the parameters, which needs the lock. -/
inductive UpdateLabel where
  | update (params : JsonValue)
  | beginExposure (numExposuresCounter : Int)
  | otherThread (change : Params → Params)

namespace UpdateState

/-- How the callback ends, and what it leaves. -/
def updated (s : UpdateState) (params : JsonValue) : Except ChannelException Unit × UpdateState :=
  let ended := (spectrumUpdate params).on (fun _ _ => ()) { state := s }
  (ended.1, ended.2.state)

def step (s : UpdateState) : UpdateLabel → Option UpdateState
  | .update params =>
    match s.updated params with
    | (.ok (), t) => some t
    | (.error e, t) => if e.caught then some t else none
  | .beginExposure numExposuresCounter => some { s with numStepsCounter := 0, numExposuresCounter }
  | .otherThread change => if s.locks = 0 then some (s.withParams (change s.params)) else none

end UpdateState

/-! ### Reading alone -/

/-- The settings of the first channel of a spectrum. -/
def readRegion (acquisitionMode : Int) (spectrum : JsonValue) :
    Except ChannelException ChannelSettings := do
  let channels ← spectrum.item "SpectrumChannels"
  let spectrumChannel ← channels.front
  let channelSettings ← spectrumChannel.item "SpectrumChannelSettings"
  ChannelSettings.ofJson acquisitionMode channelSettings

/-- The value of a notification, if it is not null. -/
def readSpectrum (params : JsonValue) : Except ChannelException (Option JsonValue) := do
  let notification ← params.firstItem
  let spectrum ← notification.item "Value"
  return if spectrum.isNull then none else some spectrum

namespace UpdateState

/-- An exception leaves the callback between `lock` and `unlock`, in the reads of lines 465 and 466
or in `setRegion`, and the dispatcher catches it. -/
def interrupted (s : UpdateState) (params : JsonValue) : Bool :=
  match readSpectrum params with
  | .ok (some spectrum) =>
    s.numStepsCounter = 0 &&
      match readRegion (s.params.int .analyserAcquisitionMode) spectrum with
      | .ok _ => false
      | .error e => e.caught
  | _ => false

/-- The updates so far that were interrupted. -/
def countInterrupted (s : UpdateState) (l : UpdateLabel) (_ : UpdateState) (n : Nat) : Nat :=
  match l with
  | .update params => if s.interrupted params then n + 1 else n
  | _ => n

end UpdateState

/-! ### The lock after an update -/

section Endings

variable (server : Counterpart Unit Unit) (s : Dialogue Unit Unit UpdateState)

theorem on_correctRegion (spectrum : JsonValue) :
    match readRegion (s.state.params.int .analyserAcquisitionMode) spectrum with
    | .ok channel => (correctRegion spectrum).on server s =
        (.ok (), { s with state := s.state.withParams (s.state.params.setRegion channel) })
    | .error e => ∃ p, (correctRegion spectrum).on server s =
        (.error e, { s with state := s.state.withParams p }) ∧ s.state.params.SameButAxes p := by
  unfold correctRegion readRegion
  rw [on_bind, on_take]
  cases spectrum.item "SpectrumChannels" with
  | error e => exact ⟨_, rfl, .refl _⟩
  | ok channels =>
    dsimp only
    rw [except_ok_bind, on_bind, on_take]
    cases channels.front with
    | error e => exact ⟨_, rfl, .refl _⟩
    | ok spectrumChannel =>
      dsimp only
      rw [except_ok_bind, on_bind, on_take]
      cases spectrumChannel.item "SpectrumChannelSettings" with
      | error e => exact ⟨_, rfl, .refl _⟩
      | ok channelSettings =>
        dsimp only
        rw [except_ok_bind, on_within]
        have hregion := setRegion_on channelSettings server { s with state := s.state.params }
        cases hread : ChannelSettings.ofJson (s.state.params.int .analyserAcquisitionMode)
            channelSettings with
        | ok channel =>
          rw [hread] at hregion
          dsimp only at hregion ⊢
          rw [hregion]
          rfl
        | error e =>
          rw [hread] at hregion
          obtain ⟨p, hend, hsame⟩ := hregion
          refine ⟨p, ?_, hsame⟩
          rw [hend]
          rfl

/-- The live spectrum is renewed without the lock and without the parameters. -/
theorem keeps_refreshLive {Value : Type} (observe : UpdateState → Value)
    (hlive : ∀ s live event, observe { s with m_SpectrumLive := live, spectrumEvent := event } = observe s)
    (value : Value) (spectrum : JsonValue) :
    Keeps server (fun t => observe t.state = value) (refreshLive spectrum) := by
  unfold refreshLive
  refine keeps_take.bind fun channels => keeps_take.bind fun spectrumLive => ?_
  refine (keeps_update fun s hs => ?_).bind fun _ => keeps_current.bind fun s => ?_
  · exact (hlive s.state spectrumLive s.state.spectrumEvent).trans hs
  · refine keeps_take.bind fun live => keeps_update fun t ht => ?_
    exact (hlive t.state live true).trans ht

theorem on_correctFirst (spectrum : JsonValue) : (correctFirst spectrum).on server s =
    if s.state.numStepsCounter = 0 then (correctRegion spectrum).on server s else (.ok (), s) := by
  unfold correctFirst
  rw [on_bind, on_current]
  dsimp only
  split <;> rfl

/-- An update whose region cannot be read is left with the lock taken, and only what shows the
axes may have changed. -/
theorem receiveSpectrum_interrupted {spectrum : JsonValue} {e : ChannelException}
    (hfirst : s.state.numStepsCounter = 0)
    (hread : readRegion (s.state.params.int .analyserAcquisitionMode) spectrum = .error e) :
    ∃ p, (receiveSpectrum spectrum).on server s =
        (.error e, { s with state := s.state.lock.withParams p }) ∧
      s.state.params.SameButAxes p := by
  have hregion := on_correctRegion server { s with state := s.state.lock } spectrum
  have hlocked : readRegion (s.state.lock.params.int .analyserAcquisitionMode) spectrum = .error e :=
    hread
  have hfirst' : s.state.lock.numStepsCounter = 0 := hfirst
  dsimp only at hregion
  rw [hlocked] at hregion
  obtain ⟨p, hend, hsame⟩ := hregion
  refine ⟨p, ?_, hsame⟩
  unfold receiveSpectrum
  rw [on_bind, on_update]
  dsimp only
  rw [on_bind, on_correctFirst, if_pos hfirst', hend]

/-- Every other update gives the lock back: the first of an exposure after its region has been
stored. -/
theorem receiveSpectrum_corrected {spectrum : JsonValue} {channel : ChannelSettings}
    (hread : s.state.numStepsCounter = 0 →
      readRegion (s.state.params.int .analyserAcquisitionMode) spectrum = .ok channel) :
    (receiveSpectrum spectrum).on server s = (refreshLive spectrum).on server
      { s with state := (if s.state.numStepsCounter = 0 then
          s.state.withParams (s.state.params.setRegion channel) else s.state).countStep } := by
  unfold receiveSpectrum
  rw [on_bind, on_update]
  dsimp only
  rw [on_bind, on_correctFirst]
  by_cases hfirst : s.state.numStepsCounter = 0
  · have hregion := on_correctRegion server { s with state := s.state.lock } spectrum
    have hlocked : readRegion (s.state.lock.params.int .analyserAcquisitionMode) spectrum =
      .ok channel := hread hfirst
    have hfirst' : s.state.lock.numStepsCounter = 0 := hfirst
    dsimp only at hregion
    rw [hlocked] at hregion
    rw [if_pos hfirst', if_pos hfirst, hregion]
    rfl
  · have hfirst' : ¬ s.state.lock.numStepsCounter = 0 := hfirst
    rw [if_neg hfirst', if_neg hfirst]
    rfl

end Endings

namespace UpdateState

variable {s t : UpdateState}

/-- How `receiveSpectrum` ends, and what it leaves. -/
def received (s : UpdateState) (spectrum : JsonValue) : Except ChannelException Unit × UpdateState :=
  let ended := (receiveSpectrum spectrum).on (fun _ _ => ()) { state := s }
  (ended.1, ended.2.state)

theorem updated_eq (s : UpdateState) (params : JsonValue) : s.updated params =
    match readSpectrum params with
    | .ok (some spectrum) => s.received spectrum
    | .ok none => (.ok (), s)
    | .error e => (.error e, s) := by
  unfold updated spectrumUpdate readSpectrum
  rw [on_bind, on_take]
  cases params.firstItem with
  | error e => rfl
  | ok notification =>
    dsimp only
    rw [except_ok_bind, on_bind, on_take]
    cases notification.item "Value" with
    | error e => rfl
    | ok spectrum =>
      dsimp only
      rw [except_ok_bind]
      cases hnull : spectrum.isNull with
      | true => rfl
      | false => rfl

theorem received_interrupted {spectrum : JsonValue} {e : ChannelException}
    (hfirst : s.numStepsCounter = 0)
    (hread : readRegion (s.params.int .analyserAcquisitionMode) spectrum = .error e) :
    ∃ p, s.received spectrum = (.error e, s.lock.withParams p) ∧ s.params.SameButAxes p := by
  obtain ⟨p, hend, hsame⟩ := receiveSpectrum_interrupted (fun _ _ => ()) { state := s } hfirst hread
  refine ⟨p, ?_, hsame⟩
  unfold received
  rw [hend]

/-- The state when the lock has been given back. -/
def progressed (s : UpdateState) (channel : ChannelSettings) : UpdateState :=
  (if s.numStepsCounter = 0 then s.withParams (s.params.setRegion channel) else s).countStep

theorem received_corrected {Value : Type} {spectrum : JsonValue} {channel : ChannelSettings}
    (observe : UpdateState → Value)
    (hlive : ∀ s live event, observe { s with m_SpectrumLive := live, spectrumEvent := event } = observe s)
    (hread : s.numStepsCounter = 0 →
      readRegion (s.params.int .analyserAcquisitionMode) spectrum = .ok channel) :
    observe (s.received spectrum).2 = observe (s.progressed channel) := by
  have hkeeps := keeps_refreshLive (fun _ _ => ()) observe hlive (observe (s.progressed channel))
    spectrum
  have hend := receiveSpectrum_corrected (fun _ _ => ()) { state := s } hread
  unfold received
  rw [hend]
  exact hkeeps.on rfl

theorem locks_progressed (s : UpdateState) (channel : ChannelSettings) :
    (s.progressed channel).locks = s.locks := by
  unfold progressed
  split <;> rfl

theorem step_update {params : JsonValue} (h : s.step (.update params) = some t) :
    t = (s.updated params).2 ∧ ∀ e, (s.updated params).1 = .error e → e.caught = true := by
  simp only [step] at h
  cases hupdated : s.updated params with
  | mk result u =>
    rw [hupdated] at h
    cases result with
    | ok a =>
      obtain rfl := Option.some.inj h
      exact ⟨rfl, fun e he => by cases he⟩
    | error e =>
      dsimp only at h
      split at h
      · rename_i hcaught
        obtain rfl := Option.some.inj h
        exact ⟨rfl, fun e' he' => by cases he'; exact hcaught⟩
      · cases h

/-- An update that does not end the program leaves the lock taken once more if it was
interrupted, and as often as before if it was not. -/
theorem locks_update {params : JsonValue} (h : s.step (.update params) = some t) :
    t.locks = if s.interrupted params then s.locks + 1 else s.locks := by
  obtain ⟨rfl, hcaught⟩ := step_update h
  rw [updated_eq] at hcaught ⊢
  cases hspectrum : readSpectrum params with
  | error e => simp [interrupted, hspectrum]
  | ok value =>
    cases value with
    | none => simp [interrupted, hspectrum]
    | some spectrum =>
      rw [hspectrum] at hcaught
      dsimp only at hcaught ⊢
      by_cases hfirst : s.numStepsCounter = 0
      · cases hread : readRegion (s.params.int .analyserAcquisitionMode) spectrum with
        | error e =>
          obtain ⟨p, hend, -⟩ := received_interrupted hfirst hread
          rw [hend] at hcaught ⊢
          have hinterrupted : s.interrupted params = true := by
            simp [interrupted, hspectrum, hfirst, hread, hcaught e rfl]
          rw [hinterrupted]
          rfl
        | ok channel =>
          have hinterrupted : s.interrupted params = false := by
            simp [interrupted, hspectrum, hread]
          rw [hinterrupted]
          exact (received_corrected locks (fun _ _ _ => rfl) fun _ => hread).trans
            (locks_progressed s channel)
      · have hinterrupted : s.interrupted params = false := by
          simp [interrupted, hspectrum, hfirst]
        let channel : ChannelSettings := { requestedX := ⟨0, 0, 0, 0, 0⟩, requestedY := ⟨0, 0, 0, 0, 0⟩ }
        have hsame : locks (s.received spectrum).2 = locks (s.progressed channel) :=
          received_corrected locks (fun _ _ _ => rfl) fun h => absurd h hfirst
        rw [hinterrupted]
        exact hsame.trans (locks_progressed s _)

theorem locks_step {l : UpdateLabel} (h : s.step l = some t) :
    t.locks = s.countInterrupted l t s.locks := by
  cases l with
  | update params => exact locks_update h
  | beginExposure k =>
    obtain rfl := Option.some.inj h
    rfl
  | otherThread change =>
    simp only [step] at h
    split at h
    · obtain rfl := Option.some.inj h
      rfl
    · cases h

/-- The callback's thread has the port lock as often as an update has been interrupted, so the
other threads get it if and only if none has been. -/
theorem lock_free_iff {s : UpdateState} {t : UpdateState × Nat} (hfree : s.locks = 0)
    (hrun : Run (tallied step countInterrupted) always (s, 0) t) (change : Params → Params) :
    (step t.1 (.otherThread change)).isSome ↔ t.2 = 0 := by
  have hlocks : t.1.locks = t.2 := by
    refine hrun.invariant (P := fun u => u.1.locks = u.2) (fun u l v hu _ h => ?_) hfree
    obtain ⟨hstep, hcount⟩ := tallied_eq_some.mp h
    rw [hcount, locks_step hstep, hu]
  simp only [step]
  rw [← hlocks]
  split <;> simp_all

/-- An acquisition of one exposure of two steps. -/
def atExposure : UpdateState :=
  { params := {}, numSteps := 2, numStepsCounter := 0, numExposures := 1, numExposuresCounter := 1 }

/-- A notification whose channel has a number for its settings. -/
def unreadable : JsonValue :=
  .array [.object [("Value", .object [("SpectrumChannels",
    .array [.object [("SpectrumChannelSettings", .integer 0)]])])]]

theorem lock_kept_after_unreadable : ∃ t : UpdateState × Nat, t.2 = 1 ∧
    ((step t.1 (.otherThread id)).isSome ↔ t.2 = 0) := by
  have hreached : reaches (tallied step countInterrupted) always (atExposure, 0)
      [.update unreadable, .beginExposure 2] (fun t => t.2 = 1) = true := by decide +kernel
  obtain ⟨t, hrun, htest⟩ := run_of_reaches hreached
  exact ⟨t, of_decide_eq_true htest, lock_free_iff (s := atExposure) rfl hrun id⟩

/-! ### The callback among the other steps of an acquisition -/

/-- What the callback works on in a state of the whole system. -/
def ofWorld (w : World) : UpdateState where
  params := w.driver.toParams
  numSteps := w.task.numSteps
  numStepsCounter := w.task.numStepsCounter
  numExposures := w.task.numExposures
  numExposuresCounter := w.task.numExposuresCounter

/-- Where the settings can be read, the callback does to the parameters and to the counter what it
does in the whole system. -/
theorem received_ofWorld {w : World} {spectrum : JsonValue} {channel : ChannelSettings}
    (hread : readRegion (w.int .analyserAcquisitionMode) spectrum = .ok channel) :
    ((ofWorld w).received spectrum).2.params = (w.spectrumCallback channel).driver.toParams ∧
      ((ofWorld w).received spectrum).2.numStepsCounter =
        (w.spectrumCallback channel).task.numStepsCounter := by
  have hcorrected : (ofWorld w).numStepsCounter = 0 →
      readRegion ((ofWorld w).params.int .analyserAcquisitionMode) spectrum = .ok channel :=
    fun _ => hread
  constructor
  · rw [received_corrected params (fun _ _ _ => rfl) hcorrected]
    unfold progressed World.spectrumCallback
    by_cases hfirst : w.task.numStepsCounter = 0
    · have hfirst' : (ofWorld w).numStepsCounter = 0 := hfirst
      rw [if_pos hfirst, if_pos hfirst']
      rfl
    · have hfirst' : ¬ (ofWorld w).numStepsCounter = 0 := hfirst
      rw [if_neg hfirst, if_neg hfirst']
      rfl
  · rw [received_corrected numStepsCounter (fun _ _ _ => rfl) hcorrected]
    unfold progressed
    split <;> rfl

end UpdateState

end PeakAnalyser

import PeakAnalyser.Library.Conversations
import PeakAnalyser.PeakSpectrum
import PeakAnalyser.SpectrumDefinition

/-!
# Channel settings as they come from the server

`setRegion` takes the channel settings as JSON and stores each value as soon as it has read it, so
an exception leaves behind what has been stored up to there. `ChannelSettings.ofJson` reads the
same members in the same order and stores nothing; where it comes to an end, `setRegion` does what
`Params.setRegion` does with its result, and where it raises an exception, `setRegion` raises the
same one and has touched nothing but readbacks.
-/

namespace PeakAnalyser

set_option autoImplicit false

open Conversations

/-- `catch (std::exception& e)` catches it; the others end the program. -/
def ChannelException.caught : ChannelException → Bool
  | .typeError | .std _ => true
  | .assertion | .conversion => false

namespace JsonValue

/-- `operator[]` of a value that is not constant: a member that is missing is inserted as null,
and null becomes an object. -/
def member (value : JsonValue) (key : String) : Except ChannelException JsonValue :=
  match value with
  | .object members => .ok ((members.lookup key).getD .null)
  | .null => .ok .null
  | _ => .error .typeError

/-- What a range-based `for` runs over. -/
def elements : JsonValue → List JsonValue
  | .array values => values
  | .object members => members.map Prod.snd
  | .null => []
  | value => [value]

/-- `front()`; that of an empty array is not defined. -/
def front : JsonValue → Except ChannelException JsonValue
  | .array (value :: _) => .ok value
  | .object ((_, value) :: _) => .ok value
  | .array [] | .object [] => .error .assertion
  | .null => .error .typeError
  | value => .ok value

/-- `is_boolean() && get<bool>()` -/
def isTrue : JsonValue → Bool
  | .boolean b => b
  | _ => false

/-- `get<std::vector<double>>()` -/
def getDoubles : JsonValue → Except ChannelException (List ℚ)
  | .array values => values.mapM getDouble
  | _ => .error .typeError

/-- `get<std::map<std::string, double>>()` -/
def getAreas : JsonValue → Except ChannelException (List (String × ℚ))
  | .object members => members.mapM fun (key, value) => value.getDouble.map (key, ·)
  | _ => .error .typeError

/-- `get<std::string>()` of a member -/
def memberText (value : JsonValue) (key : String) : Except ChannelException Bytes := do
  (← value.member key).getString

end JsonValue

/-- `axes[axis][member].get<double>()` -/
def readDouble (axes : JsonValue) (axis member : String) : Except ChannelException ℚ := do
  (← (← axes.item axis).item member).getDouble

/-- `axes[axis]["Count"].get<int>()` -/
def readCount (axes : JsonValue) (axis : String) : Except ChannelException Int := do
  (← (← axes.item axis).item "Count").getInt

/-- Lines 1561 to 1564: the factor of an axis in the number of steps. -/
def readSteps (swept : Bool) (axes : JsonValue) (axis : String) :
    Except ChannelException (Option Int) :=
  if swept && axes.contains axis then (readCount axes axis).map some else .ok none

section Storing

variable {Question Answer : Type}

/-- What stores into the parameters and may end with an exception. -/
abbrev Storing (Question Answer : Type) : Type → Type :=
  Conversation Question Answer Params ChannelException

def storeDouble (function : FloatParam) (value : Except ChannelException ℚ) :
    Storing Question Answer Unit := do
  let value ← take value
  update fun p => p.setDoubleParam function value

def storeInt (function : IntParam) (value : Except ChannelException Int) :
    Storing Question Answer Unit := do
  let value ← take value
  update fun p => p.setIntegerParam function value

/-- Lines 1517 to 1533: the ends and the center of the energy axis are shifted before the first
of them is stored. -/
def storeEnergyAxis (axes : JsonValue) : Storing Question Answer Unit := do
  let p ← current
  let low ← take (readDouble axes "X" "Offset")
  let step ← take (readDouble axes "X" "Delta")
  let high ← take (readDouble axes "X" "LastOffset")
  let center ← take (readDouble axes "X" "Center")
  let axis : Axis := ⟨low, step, high, center, 0⟩
  let axis :=
    if p.int .energyMode = 1 then
      Params.shiftedAxis axis (p.float .workFunction - p.float .excitationEnergy)
    else axis
  update fun p => p.setAxis .analyserLowEnergy .analyserEnergyStep .analyserHighEnergy
    .analyserCenterEnergy axis
  storeInt .analyserEnergyCount (readCount axes "X")

/-- Lines 1535 to 1539, and 1542 to 1546. -/
def storeAxis (axes : JsonValue) (axis : String) (low step high center : FloatParam)
    (count : IntParam) : Storing Question Answer Unit := do
  storeDouble low (readDouble axes axis "Offset")
  storeDouble step (readDouble axes axis "Delta")
  storeDouble high (readDouble axes axis "LastOffset")
  storeDouble center (readDouble axes axis "Center")
  storeInt count (readCount axes axis)

def storeAngleYAxis (axes : JsonValue) : Storing Question Answer Unit :=
  if axes.contains "Z" then
    storeAxis axes "Z" .analyserLowAngleY .analyserAngleYStep .analyserHighAngleY
      .analyserCenterAngleY .analyserAngleYCount
  else
    update fun p => (p.setAxis .analyserLowAngleY .analyserAngleYStep .analyserHighAngleY
      .analyserCenterAngleY ⟨0, 0, 0, 0, 0⟩).setIntegerParam .analyserAngleYCount 0

/-- `setRegion` -/
def setRegion (channelSettings : JsonValue) : Storing Question Answer Unit := do
  let axes ← take (channelSettings.item "RequestedAxes")
  storeEnergyAxis axes
  storeAxis axes "Y" .analyserLowSlice .analyserSliceStep .analyserHighSlice .analyserCenterSlice
    .analyserSliceCount
  storeAngleYAxis axes
  let acquisitionMode := (← current).int .analyserAcquisitionMode
  let acquired ← take (channelSettings.item "AcquiredAxes")
  let stepsX ← take (readSteps (sweepsEnergy acquisitionMode) acquired "X")
  let stepsZ ← take (readSteps (sweepsAngleY acquisitionMode) acquired "Z")
  update fun p => (p.setIntegerParam .acqNumSteps (stepsX.getD 1 * stepsZ.getD 1)).setIntegerParam
    .acqNumStepsCounter 0

/-- Lines 1719 to 1725, after the answer to `AdjustSpectrumDefinition`. -/
def storeAdjusted (reply : JsonValue) : Conversation Question Answer Driver ChannelException Unit := do
  let spectrumInfo ← take (reply.member "SpectrumInfo")
  let channels ← take (spectrumInfo.item "AnalyserSpectrumChannelSettings")
  let channelSettings ← take channels.front
  within Driver.toParams Driver.withParams id (setRegion channelSettings)
  let wallClock ← take (spectrumInfo.item "WallClockTime")
  let wallClockTime ← take wallClock.getDouble
  update fun d =>
    d.withParams (d.toParams.setETA (.finite (wallClockTime * d.int .adNumExposures)))

end Storing

/-! ### Reading alone -/

def Axis.ofJson (axes : JsonValue) (axis : String) : Except ChannelException Axis := do
  let offset ← readDouble axes axis "Offset"
  let delta ← readDouble axes axis "Delta"
  let lastOffset ← readDouble axes axis "LastOffset"
  let center ← readDouble axes axis "Center"
  let count ← readCount axes axis
  return { offset, delta, lastOffset, center, count }

/-- An axis that may be missing. -/
def Axis.ofMember (axes : JsonValue) (axis : String) : Except ChannelException (Option Axis) :=
  if axes.contains axis then (Axis.ofJson axes axis).map some else .ok none

/-- The settings of a channel; which of the acquired axes count depends on the acquisition mode. -/
def ChannelSettings.ofJson (acquisitionMode : Int) (channelSettings : JsonValue) :
    Except ChannelException ChannelSettings := do
  let axes ← channelSettings.item "RequestedAxes"
  let requestedX ← Axis.ofJson axes "X"
  let requestedY ← Axis.ofJson axes "Y"
  let requestedZ ← Axis.ofMember axes "Z"
  let acquired ← channelSettings.item "AcquiredAxes"
  let acquiredX ← readSteps (sweepsEnergy acquisitionMode) acquired "X"
  let acquiredZ ← readSteps (sweepsAngleY acquisitionMode) acquired "Z"
  return { requestedX, requestedY, requestedZ, acquiredX, acquiredZ }

/-! ### What an answer leaves behind -/

/-- The counts of the axes that are shown. -/
def IntParam.showsAxis : IntParam → Bool
  | .analyserEnergyCount | .analyserSliceCount | .analyserAngleYCount => true
  | _ => false

def FloatParam.showsAxis : FloatParam → Bool
  | .analyserHighEnergy | .analyserLowEnergy | .analyserCenterEnergy | .analyserEnergyStep
  | .analyserHighSlice | .analyserLowSlice | .analyserCenterSlice | .analyserSliceStep
  | .analyserHighAngleY | .analyserLowAngleY | .analyserCenterAngleY | .analyserAngleYStep => true
  | _ => false

namespace Params

variable {p p' p'' : Params}

/-- The two differ at most in how the axes are shown. -/
structure SameButAxes (p p' : Params) : Prop where
  int : ∀ f, f.showsAxis = false → p'.int f = p.int f
  float : ∀ f, f.showsAxis = false → p'.float f = p.float f
  string : p'.string = p.string
  acqETA : p'.acqETA = p.acqETA
  acqProgress : p'.acqProgress = p.acqProgress

theorem SameButAxes.refl (p : Params) : SameButAxes p p :=
  ⟨fun _ _ => rfl, fun _ _ => rfl, rfl, rfl, rfl⟩

theorem SameButAxes.trans (h : SameButAxes p p') (h' : SameButAxes p' p'') : SameButAxes p p'' where
  int f hf := (h'.int f hf).trans (h.int f hf)
  float f hf := (h'.float f hf).trans (h.float f hf)
  string := h'.string.trans h.string
  acqETA := h'.acqETA.trans h.acqETA
  acqProgress := h'.acqProgress.trans h.acqProgress

theorem sameButAxes_setIntegerParam {f : IntParam} (hf : f.showsAxis = true) (value : Int) :
    SameButAxes p (p.setIntegerParam f value) where
  int q hq := by
    have hne : q ≠ f := by
      rintro rfl
      rw [hf] at hq
      cases hq
    rw [int_setIntegerParam, if_neg hne]
  float _ _ := rfl
  string := rfl
  acqETA := rfl
  acqProgress := rfl

theorem sameButAxes_setDoubleParam {f : FloatParam} (hf : f.showsAxis = true) (value : ℚ) :
    SameButAxes p (p.setDoubleParam f value) where
  int _ _ := rfl
  float q hq := by
    have hne : q ≠ f := by
      rintro rfl
      rw [hf] at hq
      cases hq
    rw [float_setDoubleParam, if_neg hne]
  string := rfl
  acqETA := rfl
  acqProgress := rfl

theorem sameButAxes_setAxis {low step high center : FloatParam} (hlow : low.showsAxis = true)
    (hstep : step.showsAxis = true) (hhigh : high.showsAxis = true)
    (hcenter : center.showsAxis = true) (axis : Axis) :
    SameButAxes p (p.setAxis low step high center axis) :=
  (((sameButAxes_setDoubleParam hlow _).trans (sameButAxes_setDoubleParam hstep _)).trans
    (sameButAxes_setDoubleParam hhigh _)).trans (sameButAxes_setDoubleParam hcenter _)

end Params

/-- The energy axis is shown in kinetic or in binding energies. -/
def Params.shownEnergies (p : Params) (axis : Axis) : Axis :=
  if p.int .energyMode = 1 then shiftedAxis axis (p.float .workFunction - p.float .excitationEnergy)
  else axis

section Stores

variable {Question Answer T : Type}

/-- `m` stores what is read, as `f` does, and changes only what shows the axes; if an exception
ends the reading, it ends `m` too. -/
structure Stores (m : Storing Question Answer Unit) (read : Except ChannelException T)
    (f : T → Params → Params) : Prop where
  same : ∀ a (p : Params), p.SameButAxes (f a p)
  on : ∀ server s,
    match read with
    | .ok a => m.on server s = (.ok (), { s with state := f a s.state })
    | .error e => ∃ p, m.on server s = (.error e, { s with state := p }) ∧ s.state.SameButAxes p

open Params in
theorem stores_storeAxis (axes : JsonValue) (axis : String) {low step high center : FloatParam}
    {count : IntParam} (hlow : low.showsAxis = true) (hstep : step.showsAxis = true)
    (hhigh : high.showsAxis = true) (hcenter : center.showsAxis = true)
    (hcount : count.showsAxis = true) :
    Stores (storeAxis axes axis low step high center count : Storing Question Answer Unit)
      (Axis.ofJson axes axis)
      fun a p => (p.setAxis low step high center a).setIntegerParam count a.count := by
  refine ⟨fun a p => (sameButAxes_setAxis hlow hstep hhigh hcenter a).trans
    (sameButAxes_setIntegerParam hcount a.count), fun server s => ?_⟩
  unfold storeAxis storeDouble storeInt Axis.ofJson
  simp only [on_bind, on_take, on_update]
  cases readDouble axes axis "Offset" with
  | error e => exact ⟨_, rfl, .refl _⟩
  | ok offset =>
    have hsame := sameButAxes_setDoubleParam (p := s.state) hlow offset
    cases readDouble axes axis "Delta" with
    | error e => exact ⟨_, rfl, hsame⟩
    | ok delta =>
      have hsame := hsame.trans (sameButAxes_setDoubleParam hstep delta)
      cases readDouble axes axis "LastOffset" with
      | error e => exact ⟨_, rfl, hsame⟩
      | ok lastOffset =>
        have hsame := hsame.trans (sameButAxes_setDoubleParam hhigh lastOffset)
        cases readDouble axes axis "Center" with
        | error e => exact ⟨_, rfl, hsame⟩
        | ok centre =>
          have hsame := hsame.trans (sameButAxes_setDoubleParam hcenter centre)
          cases readCount axes axis with
          | error e => exact ⟨_, rfl, hsame⟩
          | ok count => rfl

open Params in
theorem stores_storeEnergyAxis (axes : JsonValue) :
    Stores (storeEnergyAxis axes : Storing Question Answer Unit) (Axis.ofJson axes "X")
      fun a p => (p.setAxis .analyserLowEnergy .analyserEnergyStep .analyserHighEnergy
        .analyserCenterEnergy (p.shownEnergies a)).setIntegerParam .analyserEnergyCount a.count := by
  refine ⟨fun a p => (sameButAxes_setAxis rfl rfl rfl rfl (p.shownEnergies a)).trans
    (sameButAxes_setIntegerParam rfl a.count), fun server s => ?_⟩
  unfold storeEnergyAxis storeInt Axis.ofJson
  simp only [on_bind, on_take, on_update, on_current]
  cases readDouble axes "X" "Offset" with
  | error e => exact ⟨_, rfl, .refl _⟩
  | ok offset =>
    cases readDouble axes "X" "Delta" with
    | error e => exact ⟨_, rfl, .refl _⟩
    | ok delta =>
      cases readDouble axes "X" "LastOffset" with
      | error e => exact ⟨_, rfl, .refl _⟩
      | ok lastOffset =>
        cases readDouble axes "X" "Center" with
        | error e => exact ⟨_, rfl, .refl _⟩
        | ok center =>
          cases readCount axes "X" with
          | error e => exact ⟨_, rfl, sameButAxes_setAxis rfl rfl rfl rfl _⟩
          | ok count =>
            dsimp only [Bind.bind, Except.bind, Pure.pure, Except.pure, shownEnergies]
            split <;> rfl

open Params in
theorem stores_storeAngleYAxis (axes : JsonValue) :
    Stores (storeAngleYAxis axes : Storing Question Answer Unit) (Axis.ofMember axes "Z")
      fun a p => (p.setAxis .analyserLowAngleY .analyserAngleYStep .analyserHighAngleY
        .analyserCenterAngleY (a.getD ⟨0, 0, 0, 0, 0⟩)).setIntegerParam .analyserAngleYCount
        (a.getD ⟨0, 0, 0, 0, 0⟩).count := by
  refine ⟨fun a p => (sameButAxes_setAxis rfl rfl rfl rfl _).trans
    (sameButAxes_setIntegerParam rfl _), fun server s => ?_⟩
  unfold storeAngleYAxis Axis.ofMember
  cases axes.contains "Z" with
  | false => rfl
  | true =>
    have hstores : Stores (storeAxis axes "Z" .analyserLowAngleY .analyserAngleYStep
        .analyserHighAngleY .analyserCenterAngleY .analyserAngleYCount :
          Storing Question Answer Unit) _ _ := stores_storeAxis axes "Z" rfl rfl rfl rfl rfl
    have hon := hstores.on server s
    cases hread : Axis.ofJson axes "Z" with
    | error e =>
      rw [hread] at hon
      exact hon
    | ok axis =>
      rw [hread] at hon
      exact hon

section Sequences

variable {m k : Storing Question Answer Unit} {read : Except ChannelException T}
  {f : T → Params → Params} (server : Counterpart Question Answer) (s : Dialogue Question Answer Params)

/-- What follows goes on from what has been stored. -/
theorem Stores.on_bind_ok (h : Stores m read f) {a : T} (hread : read = .ok a) :
    (m >>= fun _ => k).on server s = k.on server { s with state := f a s.state } := by
  have hon := h.on server s
  rw [hread] at hon
  rw [on_bind, hon]

theorem Stores.on_bind_error (h : Stores m read f) {e : ChannelException}
    (hread : read = .error e) {p₀ : Params} (hbefore : p₀.SameButAxes s.state) :
    ∃ p, (m >>= fun _ => k).on server s = (.error e, { s with state := p }) ∧ p₀.SameButAxes p := by
  have hon := h.on server s
  rw [hread] at hon
  obtain ⟨p, hend, hsame⟩ := hon
  refine ⟨p, ?_, hbefore.trans hsame⟩
  rw [on_bind, hend]

end Sequences

/-- An axis that is not swept counts as one step. -/
theorem readSteps_getD {swept : Bool} {axes : JsonValue} {axis : String} {steps : Option Int}
    (h : readSteps swept axes axis = .ok steps) :
    steps.getD 1 = if swept then steps.getD 1 else 1 := by
  cases swept with
  | true => rfl
  | false =>
    have hnone : Except.ok none = Except.ok steps := h
    cases hnone
    rfl

theorem except_ok_bind {E α β : Type} (a : α) (f : α → Except E β) :
    (Except.ok a >>= f) = f a := rfl

theorem except_bind_eq_ok {E α β : Type} {x : Except E α} {f : α → Except E β} {b : β}
    (h : (x >>= f) = .ok b) : ∃ a, x = .ok a ∧ f a = .ok b := by
  cases x with
  | ok a => exact ⟨a, rfl, h⟩
  | error e => cases h

/-- `setRegion` does what `Params.setRegion` does with the settings that can be read. Where they
cannot be read, it raises the exception of the first member that cannot, and of the parameters only
those that show the axes may have changed. -/
theorem setRegion_on (settings : JsonValue) (server : Counterpart Question Answer)
    (s : Dialogue Question Answer Params) :
    match ChannelSettings.ofJson (s.state.int .analyserAcquisitionMode) settings with
    | .ok channel =>
      (setRegion settings).on server s = (.ok (), { s with state := s.state.setRegion channel })
    | .error e => ∃ p, (setRegion settings).on server s = (.error e, { s with state := p }) ∧
        s.state.SameButAxes p := by
  unfold setRegion ChannelSettings.ofJson
  rw [on_bind, on_take]
  cases settings.item "RequestedAxes" with
  | error e => exact ⟨s.state, rfl, .refl _⟩
  | ok axes =>
    have hstoresX : Stores (storeEnergyAxis axes : Storing Question Answer Unit) _ _ :=
      stores_storeEnergyAxis axes
    have hstoresY : Stores (storeAxis axes "Y" .analyserLowSlice .analyserSliceStep
        .analyserHighSlice .analyserCenterSlice .analyserSliceCount :
          Storing Question Answer Unit) _ _ := stores_storeAxis axes "Y" rfl rfl rfl rfl rfl
    have hstoresZ : Stores (storeAngleYAxis axes : Storing Question Answer Unit) _ _ :=
      stores_storeAngleYAxis axes
    dsimp only
    rw [except_ok_bind]
    cases hX : Axis.ofJson axes "X" with
    | error e => exact hstoresX.on_bind_error server s hX (.refl _)
    | ok x =>
      rw [hstoresX.on_bind_ok server s hX, except_ok_bind]
      have hsame := hstoresX.same x s.state
      cases hY : Axis.ofJson axes "Y" with
      | error e => exact hstoresY.on_bind_error server _ hY hsame
      | ok y =>
        rw [hstoresY.on_bind_ok server _ hY, except_ok_bind]
        have hsame := hsame.trans (hstoresY.same y _)
        cases hZ : Axis.ofMember axes "Z" with
        | error e => exact hstoresZ.on_bind_error server _ hZ hsame
        | ok z =>
          rw [hstoresZ.on_bind_ok server _ hZ, except_ok_bind]
          have hsame := hsame.trans (hstoresZ.same z _)
          have hmode := hsame.int .analyserAcquisitionMode rfl
          rw [on_bind, on_current]
          dsimp only
          rw [hmode, on_bind, on_take]
          cases settings.item "AcquiredAxes" with
          | error e => exact ⟨_, rfl, hsame⟩
          | ok acquired =>
            dsimp only
            rw [except_ok_bind, on_bind, on_take]
            cases hstepsX : readSteps (sweepsEnergy (s.state.int .analyserAcquisitionMode))
                acquired "X" with
            | error e => exact ⟨_, rfl, hsame⟩
            | ok stepsX =>
              dsimp only
              rw [except_ok_bind, on_bind, on_take]
              cases hstepsZ : readSteps (sweepsAngleY (s.state.int .analyserAcquisitionMode))
                  acquired "Z" with
              | error e => exact ⟨_, rfl, hsame⟩
              | ok stepsZ =>
                have hsteps : stepsX.getD 1 * stepsZ.getD 1 = Params.numSteps
                    (s.state.int .analyserAcquisitionMode) ⟨x, y, z, stepsX, stepsZ⟩ := by
                  rw [readSteps_getD hstepsX, readSteps_getD hstepsZ]
                  rfl
                dsimp only
                rw [on_update, hsteps, ← hmode]
                rfl

end Stores

end PeakAnalyser

import Mathlib.Algebra.Order.Floor.Ring
import Mathlib.Data.Int.Bitwise
import Mathlib.Data.Rat.Floor
import PeakAnalyser.Params

/-!
# From the parameters to the spectrum definition

`setupSpectrumDefinition` rebuilds `m_SpectrumDefinition` from the parameters and
the requested axes, then lets the server adjust it; `setRegion` stores the axes
the server answers with. An out-of-range list access, undefined in the source,
is `none`.
-/

namespace PeakAnalyser

set_option autoImplicit false

structure LensModeSetting where
  name : String
  hasXDeflection : Bool
  hasYDeflection : Bool
  xDeflectionRange : ℚ × ℚ := (0, 0)
  yDeflectionRange : ℚ × ℚ := (0, 0)
  passEnergyRange : ℚ × ℚ
  deriving DecidableEq

/-- One entry of `RequestedAxes` in the channel settings of the server. -/
structure Axis where
  offset : ℚ
  delta : ℚ
  lastOffset : ℚ
  center : ℚ
  count : Int
  deriving DecidableEq

/-- `AnalyserSpectrumChannelSettings`, or `SpectrumChannelSettings` of an update:
the requested axes, and the counts of the acquired axes that are present. -/
structure ChannelSettings where
  requestedX : Axis
  requestedY : Axis
  requestedZ : Option Axis := none
  acquiredX : Option Int := none
  acquiredZ : Option Int := none
  deriving DecidableEq

/-- The outcome of `AdjustSpectrumDefinition`. -/
inductive AdjustReply where
  | raised
  | adjusted (settings : ChannelSettings) (wallClockTime : ℚ)

structure FixedAxis where
  center : Option ℚ := none
  binning : Option Number := none
  deriving DecidableEq

structure SweepAxis where
  offset : ℚ
  delta : ℚ
  count : Number
  deriving DecidableEq

structure DetectorArea where
  lowX : Number
  lowY : Number
  highX : Number
  highY : Number
  deriving DecidableEq

structure ConstantParameters where
  positionX : ℚ
  positionY : ℚ
  workingDistance : ℚ
  deriving DecidableEq

/-- The members of `m_SpectrumDefinition` that are ever changed; absent members
are `none`. -/
structure SpectrumDefinition where
  elementSetName : String
  lensModeName : String
  passEnergy : ℚ
  dwellTime : ℚ
  acquisitionMode : Option String := none
  constantParameters : Option ConstantParameters := none
  detectorAreas : Option DetectorArea := none
  fixedX : Option FixedAxis := none
  fixedY : Option FixedAxis := none
  fixedZ : Option FixedAxis := none
  sweepX : Option SweepAxis := none
  sweepZ : Option SweepAxis := none
  deriving DecidableEq

structure Driver extends Params where
  spectrumDefinition : SpectrumDefinition
  elementsets : List String := []
  lensModes : List LensModeSetting := []
  passEnergies : List ℚ := []
  detectorModes : List String := []
  slits : List String := []
  /-- A `std::map` read through `operator[]`: a missing entry is zero. -/
  requestedAxes : FloatParam → ℚ := fun _ => 0
  pixelDensity : ℚ
  channelCenterX : ℚ
  channelCenterY : ℚ

/-- `list[index]`, where an index outside the list has no defined result. -/
def at? {α : Type} (list : List α) (index : Int) : Option α :=
  if 0 ≤ index then list[index.toNat]? else none

/-- `std::find`: the position of the first element equal to the argument. -/
def position {α : Type} [DecidableEq α] (list : List α) (a : α) : Option Int :=
  (list.idxOf? a).map Int.ofNat

def clamp (value : ℚ) (range : ℚ × ℚ) : ℚ :=
  if value < range.1 then range.1
  else if value > range.2 then range.2
  else value

/-- Conversion of a finite `double` to `int`. -/
def truncate (q : ℚ) : Int := Int.tdiv q.num q.den

def twoDigits (n : Int) : String :=
  if 0 ≤ n ∧ n < 10 then "0" ++ toString n else toString n

/-- `epicsSnprintf` into `digits[4]` keeps three characters. -/
def digits (text : String) : String := String.ofList (text.toList.take 3)

def strftime (seconds : Int) : String :=
  let days := seconds.tdiv 86400
  let seconds := seconds.tmod 86400
  let hours := seconds.tdiv 3600
  let seconds := seconds.tmod 3500
  let minutes := seconds.tdiv 60
  let seconds := seconds.tmod 60
  let time := if days ≠ 0 then toString days ++ " days " else ""
  let time := if hours ≠ 0 ∨ time ≠ "" then time ++ digits (twoDigits hours ++ ":") else time
  let time := if minutes ≠ 0 ∨ time ≠ "" then time ++ digits (twoDigits minutes ++ ":") else time
  time ++ digits (twoDigits seconds)

/-- `acquisitionMode & 0x01`. -/
def sweepsEnergy (acquisitionMode : Int) : Bool := acquisitionMode.testBit 0

/-- `acquisitionMode & 0x02`. -/
def sweepsAngleY (acquisitionMode : Int) : Bool := acquisitionMode.testBit 1

/-- `std::ceil(std::abs(high-low-epsilon)/step)+1`. -/
def sweepCount (epsilon low high step : ℚ) : Number :=
  (Number.fdiv |high - low - epsilon| step).map fun q => ⌈q⌉ + 1

/-- `std::numeric_limits<double>::epsilon()`. -/
def doubleEpsilon : ℚ := 1 / 2 ^ 52

/-- The local `low`, `center`, `high` and `step` of one axis. -/
structure AxisRequest where
  low : ℚ
  center : ℚ
  high : ℚ
  step : ℚ

namespace Params

/-- Stores the estimated time; a value that is not finite has no `int` to print. -/
def setETA (p : Params) (eta : Number) : Params :=
  match eta with
  | .finite q => { p.setStringParam .acqETAStr (strftime (truncate q)) with acqETA := eta }
  | .notFinite => { p with acqETA := eta }

def setAxis (p : Params) (low step high center : FloatParam) (axis : Axis) : Params :=
  (((p.setDoubleParam low axis.offset).setDoubleParam step axis.delta).setDoubleParam high
    axis.lastOffset).setDoubleParam center axis.center

/-- Shifts the ends and the center of an axis, as the binding energy mode does. -/
def shiftedAxis (axis : Axis) (shift : ℚ) : Axis :=
  { axis with
    offset := axis.offset + shift
    lastOffset := axis.lastOffset + shift
    center := axis.center + shift }

/-- The product is that of integers; beyond the range of `int`, that of the source overflows. -/
def numSteps (acquisitionMode : Int) (settings : ChannelSettings) : Int :=
  (if sweepsEnergy acquisitionMode then settings.acquiredX.getD 1 else 1) *
    (if sweepsAngleY acquisitionMode then settings.acquiredZ.getD 1 else 1)

def setRegion (p : Params) (settings : ChannelSettings) : Params :=
  let axisX :=
    if p.int .energyMode = 1 then
      shiftedAxis settings.requestedX (p.float .workFunction - p.float .excitationEnergy)
    else settings.requestedX
  let p := p.setAxis .analyserLowEnergy .analyserEnergyStep .analyserHighEnergy
    .analyserCenterEnergy axisX
  let p := p.setIntegerParam .analyserEnergyCount settings.requestedX.count
  let p := p.setAxis .analyserLowSlice .analyserSliceStep .analyserHighSlice
    .analyserCenterSlice settings.requestedY
  let p := p.setIntegerParam .analyserSliceCount settings.requestedY.count
  let axisZ := settings.requestedZ.getD ⟨0, 0, 0, 0, 0⟩
  let p := p.setAxis .analyserLowAngleY .analyserAngleYStep .analyserHighAngleY
    .analyserCenterAngleY axisZ
  let p := p.setIntegerParam .analyserAngleYCount axisZ.count
  let p := p.setIntegerParam .acqNumSteps
    (numSteps (p.int .analyserAcquisitionMode) settings)
  p.setIntegerParam .acqNumStepsCounter 0

def setROI (p : Params) : Params :=
  let p :=
    if p.int .adMinX + p.int .adSizeX > p.int .adMaxSizeX then
      p.setIntegerParam .adSizeX (p.int .adMaxSizeX - p.int .adMinX)
    else p
  if p.int .adMinY + p.int .adSizeY > p.int .adMaxSizeY then
    p.setIntegerParam .adSizeY (p.int .adMaxSizeY - p.int .adMinY)
  else p

end Params

namespace Driver

variable (d : Driver)

/-- Changes the parameter library and nothing else of the driver. -/
def withParams (p : Params) : Driver := { d with toParams := p }

def setIntegerParam (function : IntParam) (value : Int) : Driver :=
  d.withParams (d.toParams.setIntegerParam function value)

def setDoubleParam (function : FloatParam) (value : ℚ) : Driver :=
  d.withParams (d.toParams.setDoubleParam function value)

def setStringParam (function : StringParam) (value : String) : Driver :=
  d.withParams (d.toParams.setStringParam function value)

def setPassEnergy (passEnergy : ℚ) : Driver :=
  match position d.passEnergies passEnergy with
  | some index => (d.setIntegerParam .passEnergy index).setDoubleParam .passEnergyValue passEnergy
  | none => d

/-- Lines 1608 to 1612: an index beyond its list. -/
def enumOutOfRange : Bool :=
  d.int .elementSet ≥ d.elementsets.length ||
    d.int .lensMode ≥ d.lensModes.length ||
    d.int .passEnergy ≥ d.passEnergies.length ||
    d.int .detectorMode ≥ d.detectorModes.length

/-- The requested energies, as kinetic energies. -/
def energyRequest : AxisRequest :=
  let shift :=
    if d.int .energyMode = 1 then d.float .excitationEnergy - d.float .workFunction else 0
  { low := shift + d.requestedAxes .analyserLowEnergy
    center := shift + d.requestedAxes .analyserCenterEnergy
    high := shift + d.requestedAxes .analyserHighEnergy
    step := d.requestedAxes .analyserEnergyStep }

/-- Lines 1638 to 1641: a sweep of the energy over a kinetic energy that is not positive. -/
def energyRefused : Bool :=
  sweepsEnergy (d.int .analyserAcquisitionMode) &&
    (d.energyRequest.center ≤ 0 || d.energyRequest.low ≤ 0 || d.energyRequest.high ≤ 0)

/-- The requested ThetaY angles, held inside the range of the lens mode. -/
def angleYRequest (lens : LensModeSetting) : AxisRequest :=
  let hold := fun value => if lens.hasYDeflection then clamp value lens.yDeflectionRange else value
  { low := hold (d.requestedAxes .analyserLowAngleY)
    center := hold (d.requestedAxes .analyserCenterAngleY)
    high := hold (d.requestedAxes .analyserHighAngleY)
    step := d.requestedAxes .analyserAngleYStep }

def detectorArea : DetectorArea :=
  let place := fun (pixel : ℚ) => Number.fdiv pixel d.pixelDensity
  { lowX := place (d.int .adMinX - d.channelCenterX - 1)
    lowY := place (d.int .adMinY - d.channelCenterY)
    highX := place (d.int .adMinX + d.int .adSizeX - d.channelCenterX - 1)
    highY := place (d.int .adMinY + d.int .adSizeY - d.channelCenterY) }

/-- Lines 1664 to 1715: the definition written from the current parameters. -/
def filledDefinition (elementSet : String) (lens : LensModeSetting) (passEnergy : ℚ)
    (detectorMode : String) : SpectrumDefinition :=
  let mode := d.int .analyserAcquisitionMode
  let energy := d.energyRequest
  let angleY := d.angleYRequest lens
  { elementSetName := elementSet
    lensModeName := lens.name
    passEnergy := passEnergy
    acquisitionMode := some detectorMode
    dwellTime := d.float .adAcquireTime
    constantParameters := some
      ⟨d.float .focalPositionX, d.float .focalPositionY, d.float .focalPositionZ⟩
    detectorAreas := some d.detectorArea
    sweepX :=
      if sweepsEnergy mode then
        some ⟨energy.low, energy.step, sweepCount doubleEpsilon energy.low energy.high energy.step⟩
      else none
    fixedX :=
      if sweepsEnergy mode then none
      else some ⟨some energy.center, some (.fdiv (d.int .adSizeX) (d.int .detectorChannels))⟩
    fixedY := some ⟨some (d.requestedAxes .analyserCenterSlice),
      some (.fdiv (d.int .adSizeY) (d.int .detectorSlices))⟩
    sweepZ :=
      if sweepsAngleY mode then
        some ⟨angleY.low, angleY.step, sweepCount doubleEpsilon angleY.low angleY.high angleY.step⟩
      else none
    fixedZ := if sweepsAngleY mode then none else some ⟨some angleY.center, none⟩ }

/-- Lines 1718 to 1731: the reply of the server is stored, an exception is dropped. -/
def adjusted : AdjustReply → Driver
  | .raised => d
  | .adjusted settings wallClockTime =>
    let eta := Number.finite (wallClockTime * d.int .adNumExposures)
    d.withParams ((d.toParams.setRegion settings).setETA eta)

def setupSpectrumDefinition (reply : AdjustReply) : Option Driver :=
  if d.enumOutOfRange then some d
  else do
    let requested ← at? d.passEnergies (d.int .passEnergy)
    let lens ← at? d.lensModes (d.int .lensMode)
    let d := d.setPassEnergy (clamp requested lens.passEnergyRange)
    let elementSet ← at? d.elementsets (d.int .elementSet)
    let detectorMode ← at? d.detectorModes (d.int .detectorMode)
    let passEnergy ← at? d.passEnergies (d.int .passEnergy)
    let d := (((d.setStringParam .elementSetStr elementSet).setStringParam .lensModeStr
      lens.name).setStringParam .detectorModeStr detectorMode).setDoubleParam .passEnergyValue
      passEnergy
    if d.energyRefused then some d
    else
      let d := { d with
        spectrumDefinition := d.filledDefinition elementSet lens passEnergy detectorMode }
      some (d.adjusted reply)

end Driver

end PeakAnalyser

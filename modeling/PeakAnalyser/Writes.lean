import Mathlib.Data.List.Sort
import PeakAnalyser.SpectrumDefinition

/-!
# Connecting, and the writes of clients

`connectAnalyser` initialises the driver from the answers of the servers.
`writeInt32` and `writeFloat64` are the two asyn entry points; each takes the
outcome of the one `AdjustSpectrumDefinition` call it may make.
-/

namespace PeakAnalyser

set_option autoImplicit false

structure LensModeInfo where
  name : String
  enabled : Bool
  passEnergy : ℚ × ℚ
  xDeflection : Option (ℚ × ℚ) := none
  yDeflection : Option (ℚ × ℚ) := none

/-- What the Manager, Analyser and Camera servers answer while connecting. -/
structure ServerInfo where
  configurations : List String
  configurationName : String
  opticsLensModes : List LensModeInfo
  calibratedPassEnergies : List ℚ
  acquisitionModes : List String
  dwellTime : ℚ
  kineticEnergy : ℚ
  passEnergy : ℚ
  lensModeName : String
  acquisitionMode : String
  channelWidth : Int
  channelHeight : Int
  channelCenterX : ℚ
  channelCenterY : ℚ
  detectorWidth : ℚ
  slits : List String
  currentSlit : String
  roiOffsetX : Int
  roiOffsetY : Int
  roiWidth : Int
  roiHeight : Int

def LensModeInfo.setting (info : LensModeInfo) : LensModeSetting where
  name := info.name
  hasXDeflection := info.xDeflection.isSome
  hasYDeflection := info.yDeflection.isSome
  xDeflectionRange := info.xDeflection.getD (0, 0)
  yDeflectionRange := info.yDeflection.getD (0, 0)
  passEnergyRange := info.passEnergy

/-- The remote operation that a write of an `asynInt32` leaves to be done, with
the port lock still held. -/
inductive PortAction where
  | none
  | signalStart
  | abort
  | zeroAllSupplies
  deriving DecidableEq

namespace Driver

variable (d : Driver)

/-- Selects a listed name; a name that is not listed changes nothing. -/
def selectListed (names : List String) (name : String) (function : IntParam)
    (text : Option StringParam) : Driver :=
  match position names name with
  | some index =>
    let d := d.setIntegerParam function index
    match text with
    | some string => d.setStringParam string name
    | none => d
  | none => d

def setElementSet (elementSet : String) : Driver :=
  d.selectListed d.elementsets elementSet .elementSet (some .elementSetStr)

def setLensMode (lensMode : String) : Driver :=
  d.selectListed (d.lensModes.map (·.name)) lensMode .lensMode (some .lensModeStr)

def setDetectorMode (detectorMode : String) : Driver :=
  d.selectListed d.detectorModes detectorMode .detectorMode (some .detectorModeStr)

def setSlit (slit : String) : Driver :=
  d.selectListed d.slits slit .slit none

/-- Lines 1238 to 1391, all calls of which succeed but perhaps the last one. -/
def connectAnalyser (info : ServerInfo) (reply : AdjustReply) : Option Driver :=
  let d := { d with
    elementsets := info.configurations
    passEnergies := info.calibratedPassEnergies
    lensModes := ((info.opticsLensModes.filter LensModeInfo.enabled).map
      LensModeInfo.setting).insertionSort fun a b => a.name ≤ b.name
    detectorModes := info.acquisitionModes }
  let d := d.setElementSet info.configurationName
  let d := d.setDoubleParam .adAcquireTime info.dwellTime
  let d := d.setDoubleParam .analyserCenterEnergy info.kineticEnergy
  let d := d.setPassEnergy info.passEnergy
  let d := d.setLensMode info.lensModeName
  let d := d.setDetectorMode info.acquisitionMode
  let d := { d with
    spectrumDefinition :=
      { elementSetName := info.configurationName
        lensModeName := info.lensModeName
        passEnergy := info.passEnergy
        dwellTime := info.dwellTime
        fixedX := some {} } }
  let d := d.setIntegerParam .adMaxSizeX info.channelWidth
  let d := d.setIntegerParam .adMaxSizeY info.channelHeight
  let d := { d with
    pixelDensity := info.channelWidth / info.detectorWidth
    channelCenterX := info.channelCenterX
    channelCenterY := info.channelCenterY
    slits := info.slits.insertionSort (· ≤ ·) }
  let d := d.setSlit info.currentSlit
  let d := d.setIntegerParam .adMinX info.roiOffsetX
  let d := d.setIntegerParam .adMinY info.roiOffsetY
  let d := d.setIntegerParam .adSizeX info.roiWidth
  let d := d.setIntegerParam .adSizeY info.roiHeight
  let d := d.setIntegerParam .detectorChannels info.roiWidth
  let d := d.setIntegerParam .detectorSlices info.roiHeight
  d.setupSpectrumDefinition reply

/-- `epicsSnprintf` into `message[256]`, then `ADStatusMessage`. -/
def report (text : String) : Driver :=
  d.setStringParam .adStatusMessage (String.ofList (text.toList.take 255))

def reportNoThetaY (lens : LensModeSetting) : Driver :=
  d.report ("LensMode '" ++ lens.name ++ "' does not support ThetaY")

def reportIndex (record : String) (size : Nat) : Driver :=
  d.report ("Set '" ++ record ++ "' failed, index must be between 0 and " ++ toString size)

/-- The `ADAcquire` branch: which of the two events or calls the write causes. -/
def acquireAction (value : Int) : PortAction :=
  let adStatus := d.int .adStatus
  if value ≠ 0 ∧ adStatus ≠ adStatusAcquire ∧ adStatus ≠ adStatusDisconnected then .signalStart
  else if value = 0 ∧ adStatus = adStatusAcquire then .abort
  else .none

def rescaleETA (oldValue value : Int) : Driver :=
  let eta := (d.acqETA.bind fun eta => .fdiv eta oldValue).map (· * value)
  d.withParams (d.toParams.setETA eta)

def writeAcquisitionMode (oldValue value : Int) (reply : AdjustReply) : Option Driver :=
  if sweepsAngleY value then do
    let lens ← at? d.lensModes (d.int .lensMode)
    if lens.hasYDeflection then d.setupSpectrumDefinition reply
    else some ((d.reportNoThetaY lens).setIntegerParam .analyserAcquisitionMode oldValue)
  else d.setupSpectrumDefinition reply

/-- A channel count outside `1..size` is pulled back to the nearer end. -/
def limitChannels (function size : IntParam) (value : Int) : Driver :=
  if value > d.int size then d.setIntegerParam function (d.int size)
  else if value ≤ 0 then d.setIntegerParam function 1
  else d

def writeDetectorChannels (value : Int) (reply : AdjustReply) : Option Driver :=
  let d := d.limitChannels .detectorChannels .adSizeX value
  let mode := d.int .analyserAcquisitionMode
  if sweepsEnergy mode && sweepsAngleY mode then some d else d.setupSpectrumDefinition reply

def writeDetectorSlices (value : Int) (reply : AdjustReply) : Option Driver :=
  (d.limitChannels .detectorSlices .adSizeY value).setupSpectrumDefinition reply

def writeLensMode (oldValue value : Int) (reply : AdjustReply) : Option Driver :=
  if value < d.lensModes.length then do
    let lens ← at? d.lensModes value
    if sweepsAngleY (d.int .analyserAcquisitionMode) && !lens.hasYDeflection then
      some ((d.reportNoThetaY lens).setIntegerParam .lensMode oldValue)
    else
      let d := d.setIntegerParam .analyserWithSlice (if lens.hasXDeflection then 1 else 0)
      let d := d.setIntegerParam .analyserWithAngleY (if lens.hasYDeflection then 1 else 0)
      d.setupSpectrumDefinition reply
  else
    some ((d.reportIndex "Lens_Mode" d.lensModes.length).setIntegerParam .lensMode oldValue)

def writePassEnergy (oldValue value : Int) (reply : AdjustReply) : Option Driver :=
  if value < d.passEnergies.length then d.setupSpectrumDefinition reply
  else
    some ((d.reportIndex "Pass_Energy" d.passEnergies.length).setIntegerParam .passEnergy oldValue)

def zeroAction (value : Int) : PortAction :=
  if value = 1 ∧ d.int .adAcquire ≠ adStatusAcquire then .zeroAllSupplies else .none

variable (base : ADDriver)

def writeInt32 (function : IntParam) (value : Int) (reply : AdjustReply) :
    Option (Driver × PortAction) :=
  let oldValue := d.int function
  let d := d.setIntegerParam function value
  match function with
  | .adAcquire => some (d, d.acquireAction value)
  | .ndDataType => some (d.setIntegerParam .ndDataType base.ndFloat32, .none)
  | .ndColorMode => some (d.setIntegerParam .ndColorMode ndColorModeMono, .none)
  | .adNumExposures => some (d.rescaleETA oldValue value, .none)
  | .analyserAcquisitionMode => (d.writeAcquisitionMode oldValue value reply).map (·, .none)
  | .energyMode =>
    (d.setupSpectrumDefinition reply).map fun d =>
      (d.setStringParam .energyModeStr (if value ≠ 0 then "Binding" else "Kinetic"), .none)
  | .detectorChannels => (d.writeDetectorChannels value reply).map (·, .none)
  | .detectorSlices => (d.writeDetectorSlices value reply).map (·, .none)
  | .lensMode => (d.writeLensMode oldValue value reply).map (·, .none)
  | .passEnergy => (d.writePassEnergy oldValue value reply).map (·, .none)
  | .adMinX | .adMinY | .adSizeX | .adSizeY =>
    ((d.withParams d.toParams.setROI).setupSpectrumDefinition reply).map (·, .none)
  | .zeroSupplies => some (d, d.zeroAction value)
  | other =>
    if other.isBase then some (d.withParams (base.writeInt32 d.toParams other value), .none)
    else some (d, .none)

def request (function : FloatParam) (value : ℚ) : Driver :=
  { d with requestedAxes := Function.update d.requestedAxes function value }

/-- A write of the low end, the high end or the step of an axis: kept as a
request, and shown only while the axis is swept. -/
def writeRange (function : FloatParam) (value oldValue : ℚ) (swept : Bool)
    (reply : AdjustReply) : Option Driver :=
  let d := d.request function value
  if swept then d.setupSpectrumDefinition reply else some (d.setDoubleParam function oldValue)

/-- A write of the center of an axis: while the axis is swept, the requested range
moves with it. -/
def writeCenter (center low high : FloatParam) (value : ℚ) (swept : Bool)
    (reply : AdjustReply) : Option Driver :=
  let d := d.request center value
  let d :=
    if swept then
      let width := |d.requestedAxes high - d.requestedAxes low|
      (d.request low (value - width / 2)).request high (value + width / 2)
    else d
  d.setupSpectrumDefinition reply

def writeFloat64 (function : FloatParam) (value : ℚ) (reply : AdjustReply) : Option Driver :=
  let oldValue := d.float function
  let d := d.setDoubleParam function value
  let acquisitionMode := d.int .analyserAcquisitionMode
  match function with
  | .excitationEnergy | .workFunction =>
    if d.int .energyMode = 1 then d.setupSpectrumDefinition reply else some d
  | .focalPositionX | .focalPositionY | .focalPositionZ => d.setupSpectrumDefinition reply
  | .adAcquireTime => d.setupSpectrumDefinition reply
  | .analyserCenterSlice => (d.request function value).setupSpectrumDefinition reply
  | .analyserHighEnergy | .analyserLowEnergy | .analyserEnergyStep =>
    d.writeRange function value oldValue (sweepsEnergy acquisitionMode) reply
  | .analyserCenterEnergy =>
    d.writeCenter .analyserCenterEnergy .analyserLowEnergy .analyserHighEnergy value
      (sweepsEnergy acquisitionMode) reply
  | .analyserHighAngleY | .analyserLowAngleY | .analyserAngleYStep =>
    d.writeRange function value oldValue (sweepsAngleY acquisitionMode) reply
  | .analyserCenterAngleY =>
    d.writeCenter .analyserCenterAngleY .analyserLowAngleY .analyserHighAngleY value
      (sweepsAngleY acquisitionMode) reply
  | other =>
    if other.isBase then some (d.withParams (base.writeFloat64 d.toParams other value)) else some d

end Driver

end PeakAnalyser

import Mathlib.Data.List.Sort
import PeakAnalyser.Addresses
import PeakAnalyser.JsonRPC
import PeakAnalyser.LiveSpectrum
import PeakAnalyser.ServerAnswers
import PeakAnalyser.Writes

/-!
# Connecting to the servers

`connectAnalyser` of `peakAnalyser.cpp`, call by call, with the functions of `peakApi.cpp` that it
uses, and the part of the constructor that runs it. Each answer is stored as soon as it has been
read, so an exception leaves the driver half connected. A bad subscript of a list, which is not
defined, ends it as an exception that nobody catches.
-/

namespace PeakAnalyser

set_option autoImplicit false

open Conversations Searching

/-! ### Texts and definitions in JSON -/

/-- A text with one character for each byte. -/
def characters (s : Bytes) : String := String.ofList (s.map fun b => Char.ofNat b.toNat)

/-- The bytes of a text that `characters` has made. -/
def octets (s : String) : Bytes := s.toList.map fun c => UInt8.ofNat c.toNat

namespace JsonValue

def ofText (s : String) : JsonValue := .string (bytes s)

/-- A number that is not finite is written as null. -/
def ofNumber : Number → JsonValue
  | .finite q => .float q
  | .notFinite => .null

/-- The members that are there. -/
def ofMembers (members : List (String × Option JsonValue)) : JsonValue :=
  .object (members.filterMap fun (key, value) => value.map (key, ·))

/-- `{{key, {}}, ...}`, which asks for these members. -/
def asking (keys : List String) : JsonValue := .object (keys.map (·, .object []))

end JsonValue

def FixedAxis.json (axis : FixedAxis) : JsonValue :=
  .ofMembers [("Binning", axis.binning.map .ofNumber), ("Center", axis.center.map .float)]

def SweepAxis.json (axis : SweepAxis) : JsonValue :=
  .object [("Count", .ofNumber axis.count), ("Delta", .float axis.delta),
    ("Offset", .float axis.offset)]

def DetectorArea.json (area : DetectorArea) : JsonValue :=
  .object [("ROI", .object [("HighX", .ofNumber area.highX), ("HighY", .ofNumber area.highY),
    ("LowX", .ofNumber area.lowX), ("LowY", .ofNumber area.lowY)])]

def ConstantParameters.json (parameters : ConstantParameters) : JsonValue :=
  .object [("PositionX", .float parameters.positionX), ("PositionY", .float parameters.positionY),
    ("WorkingDistance", .float parameters.workingDistance)]

/-- `m_SpectrumDefinition` as it is sent. -/
def SpectrumDefinition.json (s : SpectrumDefinition) : JsonValue := .ofMembers [
  ("AcquisitionMode", s.acquisitionMode.map fun mode => .string (octets mode)),
  ("ConstantParameters", s.constantParameters.map (·.json)),
  ("DetectorAreas", s.detectorAreas.map (·.json)),
  ("Detectors", some (.array [.ofText "Camera"])),
  ("DwellTime", some (.float s.dwellTime)),
  ("ElementSetName", some (.string (octets s.elementSetName))),
  ("FixedAxes", some (.ofMembers [("X", s.fixedX.map (·.json)), ("Y", s.fixedY.map (·.json)),
    ("Z", s.fixedZ.map (·.json))])),
  ("LensModeName", some (.string (octets s.lensModeName))),
  ("Name", some (.ofText "Acquisition")),
  ("PassEnergy", some (.float s.passEnergy)),
  ("StoreAcquisitionData", some (.boolean false)),
  ("StoreSpectrum", some (.boolean false)),
  ("SweepAxes", some (.ofMembers [("X", s.sweepX.map (·.json)), ("Z", s.sweepZ.map (·.json))])),
  ("UseRegionDelay", some (.boolean false))]

/-! ### The servers -/

/-- A call of the client with the address `uri`. -/
structure ServerCall where
  uri : Bytes
  method : String
  params : List JsonValue

/-- The result of a call, or the exception that it raises. -/
abbrev ServerAnswer : Type := Except (JsonRPCException ⊕ StdException) JsonValue

/-- Why `connectAnalyser` is left. `undefined` is a subscript outside its list. -/
inductive ConnectException where
  | json (exception : ChannelException)
  | call (exception : JsonRPCException ⊕ StdException)
  | std (exception : StdException)
  | notRunning
  | undefined

/-- `catch (std::exception& e)` catches it. -/
def ConnectException.caught : ConnectException → Bool
  | .json exception => exception.caught
  | .call _ | .std _ | .notRunning => true
  | .undefined => false

/-- The driver with its clients, which have the addresses `electronics` and `analyser`, and what
else `connectAnalyser` stores. The constructor initialises neither `m_PeakRelease` nor
`m_UseProxy`. -/
structure PeakDriver extends Driver where
  m_ManagerHost : Bytes
  /-- The address of the process-wide `NotificationServer`. -/
  notificationServer : Bytes
  electronics : Option Bytes := none
  analyser : Option Bytes := none
  m_PeakRelease : Option Int := none
  m_UseProxy : Option Bool := none
  adSDKVersion : Bytes := []
  adFirmwareVersion : Bytes := []
  adModel : Bytes := []
  adSerialNumber : Bytes := []
  m_DetectorArea : List (String × ℚ) := []

abbrev Connecting : Type → Type := Conversation ServerCall ServerAnswer PeakDriver ConnectException

def read {α : Type} (result : Except ChannelException α) : Connecting α :=
  take (result.mapError .json)

def onDriver (f : Driver → Driver) : Connecting Unit :=
  update fun d => { d with toDriver := f d.toDriver }

section PeakAPI

variable (uri : Bytes)

/-- `m_rpcClient` speaks HTTP. -/
def speaksHTTP : Bool := find uri (bytes "http://") = some 0

/-- The constructor of `PeakAPI`; a client over HTTP takes its address apart at once. -/
def openClient (address : Bytes) : Except ConnectException Bytes :=
  let uri := m_uri address
  if speaksHTTP uri then
    match URL.ofText uri with
    | .ok _ => .ok uri
    | .error e => .error (.std e)
  else .ok uri

def scheme : Bytes := if speaksHTTP uri then bytes "http://" else bytes "ws://"

def call (method : String) (params : List JsonValue) : Connecting JsonValue := do
  let answer ← ask ⟨uri, method, params⟩
  take (answer.mapError .call)

/-- `PeakAPI::query` -/
def query (property : String) (filter : JsonValue) : Connecting JsonValue := do
  let answer ← call uri "Query" [.object [(property, filter)]]
  read (answer.member property)

/-- `PeakAPI::unsubscribeAll` of a client without subscriptions -/
def unsubscribeAll : Connecting Unit :=
  if speaksHTTP uri then do
    let d ← current
    let _ ← call uri "UnsubscribeAllForObserver" [.string d.notificationServer]
    pure ()
  else pure ()

/-- `PeakAPI::configurations` -/
def configurations : Connecting (List String) := do
  let value ← query uri "AvailableConfigurations" (.object [("\x7b\x7d", .asking ["Name"])])
  read (value.elements.mapM fun it => (it.memberText "Name").map characters)

/-- One turn of the loop of `runningServers`. -/
def rescheme (it : JsonValue) : Except ChannelException JsonValue := do
  let address ← it.memberText "Address"
  (it.assign "Address" (.string (scheme uri ++ address.drop 7))).mapError fun _ => .typeError

/-- `PeakManagerClient::runningServers` -/
def runningServers : Connecting (List JsonValue) := do
  let value ← query uri "Servers" (.object [("\x7b\x7d", .asking ["Address", "Name"])])
  read (value.elements.mapM (rescheme uri))

/-- `PeakCameraClient::geometry` -/
def geometry : Connecting JsonValue := do
  let configuration ← query uri "Configuration" (.asking ["CameraCalibration"])
  let calibration ← read (configuration.member "CameraCalibration")
  read (calibration.member "SpatialCalibration")

end PeakAPI

/-! ### The addresses -/

structure ServerAddresses where
  analyser : Bytes := []
  electronics : Bytes := []
  camera : Bytes := []

/-- `%d` of `sscanf`: the number, and the text behind it. -/
def scanNumber (s : Bytes) : Option (Int × Bytes) :=
  let (negative, digits) := takeSign (s.dropWhile isSpace)
  (leadingNumber 10 digits).map fun n =>
    ((if negative then -n else n), digits.dropWhile (isDigit 10))

/-- Lines 1190 and 1191; `%d` that finds no number leaves a 0. -/
def scanRelease (release : Bytes) : Int × Int :=
  if (bytes "PEAK-").isPrefixOf release then
    match scanNumber (release.drop 5) with
    | some (major, 46 :: rest) => (major, ((scanNumber rest).map Prod.fst).getD 0)
    | some (major, _) => (major, 0)
    | none => (0, 0)
  else (0, 0)

/-- `PEAK_RELEASE` -/
def peakRelease (version : Int × Int) : Int := version.1 * 10000 + version.2

def fitsInt (n : Int) : Bool := -0x80000000 ≤ n && n ≤ 0x7fffffff

/-- `sscanf` and `PEAK_RELEASE` have a result: an `int` holds the numbers, the product and the sum. -/
def checkRelease (version : Int × Int) : Except ConnectException Unit :=
  if fitsInt version.1 && fitsInt version.2 && fitsInt (version.1 * 10000) &&
      fitsInt (peakRelease version) then .ok ()
  else .error .undefined

/-- Lines 1201 to 1203. -/
def PeakDriver.proxied (d : PeakDriver) : Bool :=
  find d.m_ManagerHost (bytes "127.0.0.1") = none &&
    find d.m_ManagerHost (bytes "localhost") = none &&
    peakRelease (1, 3) ≤ d.m_PeakRelease.getD 0

/-- One turn of the loop of lines 1210 to 1217. -/
def ServerAddresses.enter (addresses : ServerAddresses) (el : JsonValue) :
    Except ChannelException ServerAddresses := do
  let name ← el.member "Name"
  if name.isText "Analyser" then return { addresses with analyser := ← el.memberText "Address" }
  else if name.isText "Electronics" then
    return { addresses with electronics := ← el.memberText "Address" }
  else if name.isText "Camera" then return { addresses with camera := ← el.memberText "Address" }
  else return addresses

/-- Lines 1183 to 1194; the address of the Manager is left for the calls that follow. -/
def askRelease : Connecting Bytes := do
  let d ← current
  let manager ← take (openClient d.m_ManagerHost)
  let serverInfo ← query manager "ServerInfo" (.asking ["ReleaseVersion", "Version"])
  let release ← read (serverInfo.memberText "ReleaseVersion")
  take (checkRelease (scanRelease release))
  update fun d => { d with
    m_PeakRelease := some (peakRelease (scanRelease release))
    adSDKVersion := release }
  let version ← read (serverInfo.memberText "Version")
  update fun d => { d with adFirmwareVersion := version }
  return manager

def proxyAddresses : Connecting ServerAddresses := do
  update fun d => { d with m_UseProxy := some true }
  let d ← current
  return {
    analyser := d.m_ManagerHost ++ bytes "/proxy/Analyser"
    electronics := d.m_ManagerHost ++ bytes "/proxy/Electronics"
    camera := d.m_ManagerHost ++ bytes "/proxy/Camera" }

def listedAddresses (manager : Bytes) : Connecting ServerAddresses := do
  let servers ← runningServers manager
  read (servers.foldlM ServerAddresses.enter {})

/-- Lines 1197 to 1218. -/
def findAddresses (manager : Bytes) : Connecting ServerAddresses := do
  let d ← current
  if d.proxied then proxyAddresses else listedAddresses manager

/-- Lines 1219 to 1222. -/
def ServerAddresses.check (addresses : ServerAddresses) : Except ConnectException Unit :=
  if addresses.electronics = [] ∨ addresses.analyser = [] ∨ addresses.camera = [] then
    .error .notRunning
  else .ok ()

/-- Lines 1228 to 1235. -/
def openServers (addresses : ServerAddresses) : Connecting Bytes := do
  let electronics ← take (openClient addresses.electronics)
  update fun d => { d with electronics := some electronics }
  let analyser ← take (openClient addresses.analyser)
  update fun d => { d with analyser := some analyser }
  tryCatch (unsubscribeAll analyser) fun _ => pure ()
  return analyser

/-! ### Configuration and settings -/

section Analyser

variable (analyser : Bytes)

/-- `m_Elementsets` and `m_PassEnergies`; the configuration is left for what follows. -/
def askConfiguration : Connecting JsonValue := do
  let elementsets ← configurations analyser
  onDriver fun d => { d with elementsets }
  let configuration ← query analyser "Configuration" (.object [
    ("Calibration", .asking ["CalibratedPassEnergies"]), ("Model", .object []),
    ("Name", .object []),
    ("OpticsLensModes", .object [("\x7b\x7d", .asking ["Enabled", "Name"])]),
    ("SerialNumber", .object [])])
  let calibration ← read (configuration.member "Calibration")
  let energies ← read (calibration.member "CalibratedPassEnergies")
  let passEnergies ← read energies.getDoubles
  onDriver fun d => { d with passEnergies }
  return configuration

/-- `limits["MinimumValue"]` and `limits["MaximumValue"]`. -/
def readRange (limits : JsonValue) : Except ChannelException (ℚ × ℚ) := do
  let minimum ← (← limits.item "MinimumValue").getDouble
  let maximum ← (← limits.item "MaximumValue").getDouble
  return (minimum, maximum)

/-- A deflection that the lens mode may have. -/
def readDeflection (limits : JsonValue) : Except ChannelException (Option (ℚ × ℚ)) :=
  if limits.isObject then (readRange limits).map some else .ok none

/-- Lines 1271 to 1288. -/
def LensModeInfo.ofLimits (name : String) (limits : JsonValue) :
    Except ChannelException LensModeInfo := do
  let parameters ← limits.member "AllDomainParameters"
  let passEnergy ← readRange (← parameters.member "PassEnergy")
  let xDeflection ← readDeflection (← parameters.member "LensThetaX")
  let yDeflection ← readDeflection (← parameters.member "LensThetaY")
  return { name, enabled := true, passEnergy, xDeflection, yDeflection }

/-- Lines 1265 to 1289. -/
def askLimits (lensMode : JsonValue) : Connecting Unit := do
  let name ← read (lensMode.memberText "Name")
  let limits ← call analyser "GetLensModeLimits" [.string name, .integer 1]
  let info ← read (LensModeInfo.ofLimits (characters name) limits)
  onDriver fun d => { d with lensModes := d.lensModes ++ [info.setting] }

/-- One turn of the loop of lines 1259 to 1290: lens modes that are not enabled are skipped. -/
def askLensMode (lensMode : JsonValue) : Connecting Unit := do
  let enabled ← read (lensMode.member "Enabled")
  if enabled.isTrue then askLimits analyser lensMode else pure ()

/-- Lines 1258 to 1296. -/
def askLensModes (configuration : JsonValue) : Connecting Unit := do
  onDriver fun d => { d with lensModes := [] }
  let lensModes ← read (configuration.member "OpticsLensModes")
  lensModes.elements.forM (askLensMode analyser)
  onDriver fun d => { d with lensModes := d.lensModes.insertionSort fun a b => a.name ≤ b.name }

/-- The first type of the name `AcquisitionMode`. -/
def findAcquisitionMode : List JsonValue → Except ChannelException (Option JsonValue)
  | [] => .ok none
  | type :: types => do
    let name ← type.member "name"
    if name.isText "AcquisitionMode" then return some type else findAcquisitionMode types

def addDetectorMode (mode : JsonValue) : Connecting Unit := do
  let name ← read (mode.memberText "name")
  onDriver fun d => { d with detectorModes := d.detectorModes ++ [characters name] }

def addDetectorModes (type : JsonValue) : Connecting Unit := do
  let values ← read (type.member "enum_values")
  values.elements.forM addDetectorMode

/-- Lines 1299 to 1308. -/
def askDetectorModes : Connecting Unit := do
  let answer ← call analyser "ApiTypes" []
  let types ← read (answer.member "types")
  onDriver fun d => { d with detectorModes := [] }
  match ← read (findAcquisitionMode types.elements) with
  | some type => addDetectorModes type
  | none => pure ()

/-- Lines 1311 to 1313. -/
def storeConfiguration (configuration : JsonValue) : Connecting Unit := do
  let model ← read (configuration.memberText "Model")
  update fun d => { d with adModel := model }
  let serialNumber ← read (configuration.memberText "SerialNumber")
  update fun d => { d with adSerialNumber := serialNumber }
  let name ← read (configuration.memberText "Name")
  onDriver fun d => d.setElementSet (characters name)

/-- Lines 1315 to 1320; the settings are left for the definition. -/
def askSettings : Connecting JsonValue := do
  let settings ← query analyser "AnalyserSettings" (.object [])
  let dwellTime ← read ((settings.member "DwellTime").bind JsonValue.getDouble)
  onDriver fun d => d.setDoubleParam .adAcquireTime dwellTime
  let kineticEnergy ← read ((settings.member "KineticEnergy").bind JsonValue.getDouble)
  onDriver fun d => d.setDoubleParam .analyserCenterEnergy kineticEnergy
  let passEnergy ← read ((settings.member "PassEnergy").bind JsonValue.getDouble)
  onDriver fun d => d.setPassEnergy passEnergy
  let lensModeName ← read (settings.memberText "LensModeName")
  onDriver fun d => d.setLensMode (characters lensModeName)
  let acquisitionMode ← read (settings.memberText "AcquisitionMode")
  onDriver fun d => d.setDetectorMode (characters acquisitionMode)
  return settings

/-- Lines 1323 to 1335: the definition as it is sent, and as the driver keeps it. -/
def firstDefinition (configuration settings : JsonValue) :
    Except ChannelException (JsonValue × SpectrumDefinition) := do
  let elementSetName ← configuration.member "Name"
  let lensModeName ← settings.member "LensModeName"
  let passEnergy ← settings.member "PassEnergy"
  let dwellTime ← settings.member "DwellTime"
  let sent := JsonValue.object [
    ("Detectors", .array [.ofText "Camera"]), ("DwellTime", dwellTime),
    ("ElementSetName", elementSetName), ("FixedAxes", .asking ["X"]),
    ("LensModeName", lensModeName), ("Name", .ofText "Acquisition"), ("PassEnergy", passEnergy),
    ("StoreAcquisitionData", .boolean false), ("StoreSpectrum", .boolean false),
    ("SweepAxes", .object []), ("UseRegionDelay", .boolean false)]
  return (sent, {
    elementSetName := characters (← elementSetName.getString)
    lensModeName := characters (← lensModeName.getString)
    passEnergy := ← passEnergy.getDouble
    dwellTime := ← dwellTime.getDouble
    fixedX := some {} })

/-- One turn of the loop of lines 1341 to 1350. A detector of width 0, whose density is not
finite, is left out. -/
def storeChannel (el : JsonValue) : Connecting Unit := do
  let channelArea ← read (el.member "ChannelArea")
  let sizeX ← read ((channelArea.member "Width").bind JsonValue.getInt)
  let sizeY ← read ((channelArea.member "Height").bind JsonValue.getInt)
  let detectorArea ← read (el.member "DetectorArea")
  let physicalSizeX ← read ((detectorArea.member "Width").bind JsonValue.getDouble)
  onDriver fun d =>
    { (d.setIntegerParam .adMaxSizeX sizeX).setIntegerParam .adMaxSizeY sizeY with
      pixelDensity := sizeX / physicalSizeX }
  let areas ← read channelArea.getAreas
  onDriver fun d => { d with
    channelCenterX := (areas.lookup "CenterX").getD 0
    channelCenterY := (areas.lookup "CenterY").getD 0 }
  let areas ← read detectorArea.getAreas
  update fun d => { d with m_DetectorArea := areas }

/-- Lines 1323 to 1350. -/
def askSpectrumInfo (configuration settings : JsonValue) : Connecting Unit := do
  let (sent, definition) ← read (firstDefinition configuration settings)
  onDriver fun d => { d with spectrumDefinition := definition }
  let spectrumInfo ← call analyser "CalculateSpectrumInfo" [sent]
  let channels ← read (spectrumInfo.member "AnalyserSpectrumChannelSettings")
  channels.elements.forM storeChannel

def addSlit (slit : JsonValue) : Connecting Unit := do
  let name ← read (slit.memberText "Name")
  onDriver fun d => { d with slits := d.slits ++ [characters name] }

/-- Lines 1353 to 1371. -/
def askSlits : Connecting Unit := do
  let serverSettings ← query analyser "SharedConfiguration" (.object [
    ("SlitConfigurationPresets", .object [("\x7b\x7d", .asking ["Name"])])])
  onDriver fun d => { d with slits := [] }
  let presets ← read (serverSettings.member "SlitConfigurationPresets")
  presets.elements.forM addSlit
  onDriver fun d => { d with slits := d.slits.insertionSort (· ≤ ·) }
  let currentSlit ← query analyser "CurrentSlit" (.asking ["Name"])
  let name ← read (currentSlit.memberText "Name")
  onDriver fun d => d.setSlit (characters name)

/-- Lines 1374 to 1388. -/
def askGeometry (camera : Bytes) : Connecting Unit := do
  let camera ← take (openClient camera)
  let calibration ← geometry camera
  let minX ← read ((calibration.member "RoiOffsetX").bind JsonValue.getInt)
  let minY ← read ((calibration.member "RoiOffsetY").bind JsonValue.getInt)
  let sizeX ← read ((calibration.member "RoiWidth").bind JsonValue.getInt)
  let sizeY ← read ((calibration.member "RoiHeight").bind JsonValue.getInt)
  onDriver fun d => (((((d.setIntegerParam .adMinX minX).setIntegerParam .adMinY
    minY).setIntegerParam .adSizeX sizeX).setIntegerParam .adSizeY sizeY).setIntegerParam
    .detectorChannels sizeX).setIntegerParam .detectorSlices sizeY

/-- `setupSpectrumDefinition` comes to its call. -/
def Driver.adjusts (d : Driver) : Bool := !d.enumOutOfRange && !d.energyRefused

/-- Lines 1718 to 1731. -/
def adjustDefinition : Connecting Unit :=
  tryCatch (do
    let d ← current
    let reply ← call analyser "AdjustSpectrumDefinition" [d.spectrumDefinition.json]
    within PeakDriver.toDriver (fun d driver => { d with toDriver := driver }) .json
      (storeAdjusted reply))
    fun e => if e.caught then pure () else throw e

/-- `setupSpectrumDefinition`; its lines up to the call are those of the model of the writes. -/
def setupDefinition : Connecting Unit := do
  let d ← current
  match d.toDriver.setupSpectrumDefinition .raised with
  | none => throw .undefined
  | some prepared =>
    onDriver fun _ => prepared
    if d.adjusts then adjustDefinition analyser else pure ()

/-- Lines 1238 to 1391. -/
def askAnalyser (camera : Bytes) : Connecting Unit := do
  let configuration ← askConfiguration analyser
  askLensModes analyser configuration
  askDetectorModes analyser
  storeConfiguration configuration
  let settings ← askSettings analyser
  askSpectrumInfo analyser configuration settings
  askSlits analyser
  askGeometry camera
  setupDefinition analyser

end Analyser

/-- `connectAnalyser` -/
def connectAnalyser : Connecting Unit := do
  let manager ← askRelease
  let addresses ← findAddresses manager
  take addresses.check
  let analyser ← openServers addresses
  askAnalyser analyser addresses.camera

/-! ### The constructor -/

/-- The driver before `connectAnalyser` (lines 272 to 276). -/
def PeakDriver.initial (base : ADDriver) (hostAddress notificationServer : Bytes) : PeakDriver where
  toParams := (({} : Params).setIntegerParam .ndDataType base.ndFloat32).setIntegerParam
    .ndColorMode ndColorModeMono
  spectrumDefinition := { elementSetName := "", lensModeName := "", passEnergy := 0, dwellTime := 0 }
  pixelDensity := 0
  channelCenterX := 0
  channelCenterY := 0
  m_ManagerHost := hostAddress
  notificationServer := notificationServer

/-- Lines 286 to 288. -/
def Driver.disconnected (d : Driver) : Driver :=
  (d.setIntegerParam .adStatus adStatusDisconnected).setStringParam .adStatusMessage
    "No connection to PEAK server"

/-- Lines 278 to 289: a driver that is not connected says so. -/
def construct : Connecting Unit :=
  tryCatch connectAnalyser fun e =>
    if e.caught then onDriver Driver.disconnected else throw e

end PeakAnalyser

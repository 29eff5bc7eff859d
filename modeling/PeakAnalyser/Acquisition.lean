import PeakAnalyser.AnalyserServer
import PeakAnalyser.Writes

/-!
# acquisitionTask, the port thread and the server as one system

`step` interleaves the acquisition task, writes of clients, the two callbacks of
the task and the server. The sections of the task that hold the port lock are
one step each; they need the port thread to be out of `writeInt32`, which keeps
the lock while it waits for a call of its own. Every server call is two steps, its
issue and its answer.
-/

namespace PeakAnalyser

set_option autoImplicit false

/-- The server calls of `acquisitionTask`, in the order of the source. -/
inductive Site where
  | currentState | defineSpectrum | startMeasurement | setupSpectrum
  | subscribeToState | subscribeToObservable
  | clearSpectrum | start | getMeasuredSpectrum
  | unsubscribeState | unsubscribeAcquired | finishSpectrum | finishMeasurement
  | cleanupUnsubscribeState | cleanupUnsubscribeAcquired | cleanupCurrentState
  | cleanupFinishSpectrum | cleanupFinishMeasurement
  deriving DecidableEq

/-- Inside the second `try`, lines 553 to 573. -/
def Site.inCleanup : Site → Bool
  | .cleanupUnsubscribeState | .cleanupUnsubscribeAcquired | .cleanupCurrentState
  | .cleanupFinishSpectrum | .cleanupFinishMeasurement => true
  | _ => false

/-- The finishing sequence of lines 538 to 544. -/
def Site.inFinish : Site → Bool
  | .unsubscribeState | .unsubscribeAcquired | .finishSpectrum | .finishMeasurement => true
  | _ => false

/-- Where the task is. `call` is about to make a server call and `inCall` awaits its
answer; `leaveTry` is about to take the lock of line 576, `callbacks` is inside
`doCallbacksGenericPointer`. -/
inductive Pc where
  | entry | waitStart | woken
  | call (site : Site)
  | inCall (site : Site) (call : Call)
  | exposureLoop | clearSteps | tryWait | waitStop | exposureDone
  | leaveTry | callbacks
  deriving DecidableEq

/-- The local variables of `acquisitionTask`. `failed` is `status`; the empty string of
the ids is `none`. The two step counters are uninitialised until first assigned. -/
structure Task where
  failed : Bool := false
  statusMessage : String := ""
  acquire : Int := 0
  imageMode : Int := 0
  imageCounter : Int := 0
  numExposures : Int := 0
  numExposuresCounter : Int := 0
  numImages : Int := 0
  numImagesCounter : Int := 0
  numSteps : Int := 0
  numStepsCounter : Int := 0
  spectrumId : Option Nat := none
  guidState : Option Nat := none
  guidAcquired : Option Nat := none
  /-- The exposures accumulated in the `PeakSpectrum`, newest first. -/
  spectrum : List Ending := []

/-- Lines 531 to 533 and 626 to 628. -/
def Task.finishes (t : Task) : Bool :=
  t.acquire = 0 || t.imageMode = adImageSingle ||
    (t.imageMode = adImageMultiple && t.numImagesCounter ≥ t.numImages)

inductive Callback where
  | stateChanged | spectrumUpdated
  deriving DecidableEq

/-- The server calls that `writeInt32` makes while it keeps the port lock. -/
inductive PortCall where
  | abort | zeroAllSupplies
  deriving DecidableEq

/-- `PeakAnalyserClient::abort` and `PeakElectronicsClient::zeroAllSupplies`. -/
def PortCall.call : PortCall → Call
  | .abort => .cancelAcquisition
  | .zeroAllSupplies => .zeroAllSupplies

/-- The port thread: outside `writeInt32`, or in it with a server call still to be
issued or answered. -/
inductive Port where
  | idle
  | calling (call : PortCall) (sent : Bool)
  deriving DecidableEq

/-- An NDArray filled at lines 595 to 606: what was accumulated in it, for which
number of exposures, and whether it went to the plugins. -/
structure Image where
  uniqueId : Int
  exposures : List Ending
  numExposures : Int
  callbacks : Bool
  deriving DecidableEq

/-- `m_SpectrumLive` with its `IsLast` member. -/
structure LiveSpectrum where
  settings : ChannelSettings
  isLast : Bool

structure World where
  driver : Driver
  server : Server
  /-- `electronics` is not null. -/
  electronics : Bool := true
  pc : Pc := .entry
  task : Task := {}
  port : Port := .idle
  startEvent : Bool := false
  stopEvent : Bool := false
  spectrumEvent : Bool := false
  subscribers : List (Nat × Callback) := []
  spectrumLive : Option LiveSpectrum := none
  images : List Image := []
  log : List Event := []

/-- The answer to a server call; an exception carries `what()`, and `executed` says
whether the server carried the call out all the same. -/
inductive Reply where
  | ok
  | raised (what : String) (executed : Bool)
  deriving DecidableEq

/-- How the answer to a call enters the trace. -/
def Reply.event (call : Call) : Reply → Event
  | .ok => .returned call
  | .raised _ executed => .raised call executed

/-- An exception says that the server did not carry the call out. -/
def Reply.truthful : Reply → Bool
  | .ok => true
  | .raised _ executed => !executed

/-- One step of the system. `exposureEnd`, `notify` and `otherClient` are the server's;
`notify` delivers a pending notification and `keep` delivers a duplicate of it. -/
inductive Label where
  | task (reply : Reply)
  | write (function : IntParam) (value : Int) (reply : AdjustReply)
  | writeFloat (function : FloatParam) (value : ℚ) (reply : AdjustReply)
  | port (reply : Reply)
  | exposureEnd (how : Ending)
  | notify (index : Nat) (keep : Bool)
  | spectrumUpdate (settings : ChannelSettings)
  | otherClient (state : AnalyserState) (keepsOwn : Bool)

/-- No server call fails at this step. -/
def Label.succeeds : Label → Bool
  | .task reply | .port reply => reply = .ok
  | _ => true

/-- The driver has the analyser to itself, and the server notifies a change of state once. -/
def Label.alone : Label → Bool
  | .notify _ keep => !keep
  | .otherClient _ _ => false
  | _ => true

/-- A write that asks for a start. -/
def Label.isStart : Label → Bool
  | .write .adAcquire value _ => value ≠ 0
  | _ => false

namespace World

variable (w : World)

def int (function : IntParam) : Int := w.driver.int function

def setIntegerParam (function : IntParam) (value : Int) : World :=
  { w with driver := w.driver.setIntegerParam function value }

def setStringParam (function : StringParam) (value : String) : World :=
  { w with driver := w.driver.setStringParam function value }

def record (event : Event) : World := { w with log := event :: w.log }

/-- Lines 407 to 420, and the `PeakSpectrum` of line 423. -/
def beginTask : Task :=
  { w.task with
    numExposures := w.int .adNumExposures
    numImages := w.int .adNumImages
    imageMode := w.int .adImageMode
    imageCounter := w.int .ndArrayCounter
    numImagesCounter := w.int .adNumImagesCounter
    numExposuresCounter := w.int .adNumExposuresCounter
    numSteps := w.int .acqNumSteps
    spectrum := [] }

/-- Lines 403 to 423, and the test of line 426. -/
def startImage : World :=
  let w := w.setIntegerParam .adNumExposuresCounter 0
  let w := { w with task := w.beginTask }
  if w.task.numImagesCounter = 0 then
    { w.record .firstFrame with pc := .call .currentState }
  else { w with pc := .call .clearSpectrum }

/-- The head of the loop, lines 367 to 384; the lock is held. -/
def loopHead : World :=
  let w := { w with task := { w.task with acquire := w.int .adAcquire } }
  if w.task.acquire = 0 then
    let w :=
      if w.int .adStatus = adStatusIdle then
        w.setStringParam .adStatusMessage "Waiting for the acquire command"
      else w
    { w with pc := .waitStart }
  else w.startImage

/-- Lines 389 to 402, after the wait for `startEventId`. -/
def weAreAcquiring : World :=
  let w := { w with task := { w.task with failed := false, acquire := w.int .adAcquire } }
  let w := w.setIntegerParam .adNumExposuresCounter 0
  let w := w.setIntegerParam .adNumImagesCounter 0
  let w := { w with driver := { w.driver with acqProgress := .finite 0 } }
  let w := w.setIntegerParam .adStatus adStatusAcquire
  w.setStringParam .adStatusMessage "Acquiring...."

/-- The call that `PeakAPI::unsubscribe` makes: none for a guid it does not know. -/
def unsubscribeCall (guid : Option Nat) : Option Call :=
  match guid with
  | some g => if g ∈ w.subscribers.map Prod.fst then some (.unsubscribe g) else none
  | none => none

/-- `m_rpcClient->unsubscribe` and `m_subscribers.erase`. -/
def forget (guid : Option Nat) : World :=
  { w with subscribers := w.subscribers.filter fun s => some s.1 ≠ guid }

/-- The server call made at a site; `none` when the source makes no call there. -/
def callAt : Site → Option Call
  | .currentState | .cleanupCurrentState => some .getState
  | .defineSpectrum => some (.defineSpectrum w.driver.spectrumDefinition)
  | .startMeasurement => some .startMeasurement
  | .setupSpectrum => some (.setupSpectrum w.task.spectrumId)
  | .subscribeToState => some .subscribeToState
  | .subscribeToObservable => some .subscribeToObservable
  | .clearSpectrum => some (.clearSpectrum w.task.spectrumId)
  | .start => some (.acquisitionAsync w.task.spectrumId)
  | .getMeasuredSpectrum => some (.getMeasuredSpectrum w.task.spectrumId)
  | .unsubscribeState | .cleanupUnsubscribeState => w.unsubscribeCall w.task.guidState
  | .unsubscribeAcquired | .cleanupUnsubscribeAcquired => w.unsubscribeCall w.task.guidAcquired
  | .finishSpectrum | .cleanupFinishSpectrum => some (.finishSpectrum w.task.spectrumId)
  | .finishMeasurement | .cleanupFinishMeasurement => some .finishMeasurement

/-- Lines 558 to 562. -/
def cleanupAcquired : World :=
  if w.task.guidAcquired.isSome then { w with pc := .call .cleanupUnsubscribeAcquired }
  else { w with pc := .call .cleanupCurrentState }

/-- The handler of line 546, up to the first call of the clean-up. -/
def caught (what : String) : World :=
  let w := { w with task := { w.task with failed := true, statusMessage := what } }
  if w.task.guidState.isSome then { w with pc := .call .cleanupUnsubscribeState }
  else w.cleanupAcquired

/-- An exception at a site: the clean-up begins, or is given up. -/
def raisedAt (site : Site) (what : String) : World :=
  if site.inCleanup then { w with pc := .leaveTry } else w.caught what

/-- Lines 525 to 533, after `getMeasuredSpectrum`. -/
def measured (spectrum : List Ending) : World :=
  let t := { w.task with spectrum := spectrum }
  let t :=
    if t.acquire ≠ 0 then
      { t with imageCounter := t.imageCounter + 1, numImagesCounter := t.numImagesCounter + 1 }
    else t
  { w with task := t, pc := if t.finishes then .call .unsubscribeState else .leaveTry }

/-- What follows a call that returned; `answer` is the server as it was asked. -/
def returnedAt (site : Site) (answer : Server) : World :=
  match site with
  | .currentState =>
    if answer.state = .active then { w with pc := .call .defineSpectrum }
    else w.caught ("Analyser not active: " ++ answer.state.name)
  | .defineSpectrum =>
    { w with
      task := { w.task with spectrumId := some answer.nextId }, pc := .call .startMeasurement }
  | .startMeasurement => { w with pc := .call .setupSpectrum }
  | .setupSpectrum => { w with pc := .call .subscribeToState }
  | .subscribeToState =>
    { w with
      task := { w.task with guidState := some answer.nextId }
      subscribers := (answer.nextId, .stateChanged) :: w.subscribers
      pc := .call .subscribeToObservable }
  | .subscribeToObservable =>
    { w with
      task := { w.task with guidAcquired := some answer.nextId }
      subscribers := (answer.nextId, .spectrumUpdated) :: w.subscribers
      pc := .call .clearSpectrum }
  | .clearSpectrum => { w with pc := .exposureLoop }
  | .start => { w with pc := .waitStop }
  | .getMeasuredSpectrum => w.measured answer.accumulated
  | .unsubscribeState =>
    { w.forget w.task.guidState with
      task := { w.task with guidState := none }, pc := .call .unsubscribeAcquired }
  | .unsubscribeAcquired =>
    { w.forget w.task.guidAcquired with
      task := { w.task with guidAcquired := none }, pc := .call .finishSpectrum }
  | .finishSpectrum =>
    { w with task := { w.task with spectrumId := none }, pc := .call .finishMeasurement }
  | .finishMeasurement => { w with pc := .leaveTry }
  | .cleanupUnsubscribeState =>
    { w.forget w.task.guidState with task := { w.task with guidState := none } }.cleanupAcquired
  | .cleanupUnsubscribeAcquired =>
    { w.forget w.task.guidAcquired with
      task := { w.task with guidAcquired := none }, pc := .call .cleanupCurrentState }
  | .cleanupCurrentState =>
    if answer.state = .measuring then
      if w.task.spectrumId.isSome then { w with pc := .call .cleanupFinishSpectrum }
      else { w with pc := .call .cleanupFinishMeasurement }
    else { w with pc := .leaveTry }
  | .cleanupFinishSpectrum =>
    { w with task := { w.task with spectrumId := none }, pc := .call .cleanupFinishMeasurement }
  | .cleanupFinishMeasurement => { w with pc := .leaveTry }

/-- The answer to an issued call arrives. -/
def answered (site : Site) (call : Call) (reply : Reply) : World :=
  let carriedOut := (reply.event call).carriedOut call
  let answer := w.server
  let w := { w with server := if carriedOut then w.server.exec call else w.server }
  let w := w.record (reply.event call)
  match reply with
  | .ok => w.returnedAt site answer
  | .raised what _ => w.raisedAt site what

/-- Lines 579 to 584. -/
def errored : World :=
  let w := w.setIntegerParam .adAcquire 0
  let w := w.setIntegerParam .adStatus adStatusError
  w.setStringParam .adStatusMessage w.task.statusMessage

/-- Lines 588 to 592. -/
def aborted : World :=
  let w := w.setIntegerParam .adStatus adStatusAborted
  w.setStringParam .adStatusMessage "User aborted"

/-- Lines 595 to 608: the image is filled and counted. -/
def published : World :=
  let w := w.setIntegerParam .ndArrayCounter w.task.imageCounter
  let w := w.setIntegerParam .adNumImagesCounter w.task.numImagesCounter
  { w with
    images := ⟨w.task.imageCounter, w.task.spectrum, w.task.numExposures,
      w.int .ndArrayCallbacks ≠ 0⟩ :: w.images }

/-- Lines 624 to 637; the lock is held. -/
def completed : World :=
  let w := { w with task := { w.task with acquire := w.int .adAcquire } }
  if w.task.finishes then
    (w.setIntegerParam .adAcquire 0).setIntegerParam .adStatus adStatusIdle
  else w

/-- Lines 576 to 638, up to the unlock of line 613 if there are array callbacks. -/
def afterTry : World :=
  if w.task.failed then w.errored.loopHead
  else if w.task.acquire = 0 then w.aborted.loopHead
  else if w.int .ndArrayCallbacks ≠ 0 then { w.published with pc := .callbacks }
  else w.published.completed.loopHead

/-- Lines 502 to 519. -/
def exposureFinished : World :=
  let acquire := w.int .adAcquire
  let w := { w with task := { w.task with acquire := acquire } }
  if acquire = 0 then { w with pc := .call .getMeasuredSpectrum }
  else
    { w.setIntegerParam .adNumExposuresCounter w.task.numExposuresCounter with
      pc := .exposureLoop }

/-- Line 484, with its increment. -/
def exposureTest : World :=
  { w with
    task := { w.task with numExposuresCounter := w.task.numExposuresCounter + 1 }
    pc :=
      if w.task.numExposuresCounter < w.task.numExposures then .clearSteps
      else .call .getMeasuredSpectrum }

/-- Steps that take the port lock wait for the port thread to give it back. -/
def locked (next : World) : Option World := if w.port = .idle then some next else none

def taskStep (reply : Reply) : Option World :=
  match w.pc with
  | .entry => w.locked w.loopHead
  | .waitStart =>
    if w.startEvent then some { w with startEvent := false, pc := .woken } else none
  | .woken => w.locked w.weAreAcquiring.startImage
  | .call site =>
    match w.callAt site with
    | some call => some { w.record (.issued call) with pc := .inCall site call }
    | none => some (w.returnedAt site w.server)
  | .inCall site call => some (w.answered site call reply)
  | .exposureLoop => some w.exposureTest
  | .clearSteps => some { w with task := { w.task with numStepsCounter := 0 }, pc := .tryWait }
  | .tryWait => some { w with stopEvent := false, pc := .call .start }
  | .waitStop =>
    if w.stopEvent then some { w with stopEvent := false, pc := .exposureDone } else none
  | .exposureDone => w.locked w.exposureFinished
  | .leaveTry => w.locked w.afterTry
  | .callbacks => w.locked w.completed.loopHead

/-- What is left of `writeInt32` after the parameter library was updated. -/
def portAction (action : PortAction) : World :=
  match action with
  | .none => w
  | .signalStart => { w with startEvent := true }
  | .abort => { w with port := .calling .abort false }
  | .zeroAllSupplies => { w with port := .calling .zeroAllSupplies false }

/-- The action has a client to call. A connected driver has one for the electronics; one that is not
may have none, and then the call has no defined result. -/
def hasClient : PortAction → Bool
  | .zeroAllSupplies => w.electronics
  | _ => true

def portStep (reply : Reply) : Option World :=
  match w.port with
  | .idle => none
  | .calling c false => some { w.record (.issued c.call) with port := .calling c true }
  | .calling c true =>
    let carriedOut := (reply.event c.call).carriedOut c.call
    let w := { w.record (reply.event c.call) with
      port := .idle
      server := if carriedOut then w.server.exec c.call else w.server }
    if c = .zeroAllSupplies ∧ reply = .ok then
      some (w.setStringParam .adStatusMessage "Power supplies reset")
    else some w

/-- The state callback of lines 443 to 453, for a notification to `guid`. -/
def stateCallback (guid : Nat) (state : AnalyserState) : World :=
  if (guid, Callback.stateChanged) ∈ w.subscribers ∧ state.endsExposure then
    { w with stopEvent := true }
  else w

def deliver (index : Nat) (keep : Bool) : Option World :=
  match w.server.pending[index]? with
  | some (guid, state) =>
    let pending := if keep then w.server.pending else w.server.pending.eraseIdx index
    some ({ w with server := { w.server with pending := pending } }.stateCallback guid state)
  | none => none

/-- `100.0 * numStepsCounter / numSteps * numExposuresCounter / numExposures`. -/
def progress (t : Task) : Number :=
  (Number.fdiv (100 * t.numStepsCounter) t.numSteps).bind fun q =>
    .fdiv (q * t.numExposuresCounter) t.numExposures

/-- The `SpectrumUpdate` callback of lines 458 to 477. -/
def spectrumCallback (settings : ChannelSettings) : World :=
  let driver :=
    if w.task.numStepsCounter = 0 then w.driver.withParams (w.driver.toParams.setRegion settings)
    else w.driver
  let task := { w.task with numStepsCounter := w.task.numStepsCounter + 1 }
  let driver := driver.setIntegerParam .acqNumStepsCounter task.numStepsCounter
  { w with
    task := task
    driver := { driver with acqProgress := progress task }
    spectrumLive := some ⟨settings, task.numSteps = task.numStepsCounter⟩
    spectrumEvent := true }

end World

def World.step (base : ADDriver) (w : World) : Label → Option World
  | .task reply => w.taskStep reply
  | .write function value reply =>
    if w.port = .idle then
      (w.driver.writeInt32 base function value reply).bind fun (driver, action) =>
        if w.hasClient action then some ({ w with driver := driver }.portAction action) else none
    else none
  | .writeFloat function value reply =>
    if w.port = .idle then
      (w.driver.writeFloat64 base function value reply).map fun driver => { w with driver := driver }
    else none
  | .port reply => w.portStep reply
  | .exposureEnd how => (w.server.endExposure how).map fun server => { w with server := server }
  | .notify index keep => w.deliver index keep
  | .spectrumUpdate settings =>
    if w.port = .idle ∧ Callback.spectrumUpdated ∈ w.subscribers.map Prod.snd then
      some (w.spectrumCallback settings)
    else none
  | .otherClient state keepsOwn => some { w with server := w.server.disturb state keepsOwn }

/-- A connected driver when its threads start: no event is signalled, nothing is
subscribed, and the server has no measurement, spectrum or subscription of it. -/
structure World.Initial (w : World) : Prop where
  pc : w.pc = .entry
  port : w.port = .idle
  startEvent : w.startEvent = false
  stopEvent : w.stopEvent = false
  subscribers : w.subscribers = []
  images : w.images = []
  log : w.log = []
  failed : w.task.failed = false
  spectrumId : w.task.spectrumId = none
  guidState : w.task.guidState = none
  guidAcquired : w.task.guidAcquired = none
  adAcquire : w.int .adAcquire = 0
  adStatus : w.int .adStatus = adStatusIdle
  adNumImagesCounter : w.int .adNumImagesCounter = 0
  own : w.server.own = false
  started : w.server.started = 0
  finished : w.server.finished = 0
  spectra : w.server.spectra = []
  observers : w.server.observers = []
  updates : w.server.updates = []
  exposure : w.server.exposure = none
  pending : w.server.pending = []

/-- A connected driver at rest, for runs on given settings. -/
def World.atRest (imageMode numImages numExposures arrayCallbacks : Int) : World where
  driver :=
    { int := fun
        | .adImageMode => imageMode
        | .adNumImages => numImages
        | .adNumExposures => numExposures
        | .ndArrayCallbacks => arrayCallbacks
        | _ => 0
      spectrumDefinition := { elementSetName := "", lensModeName := "", passEnergy := 1, dwellTime := 1 }
      pixelDensity := 1
      channelCenterX := 0
      channelCenterY := 0 }
  server := { state := .active }

theorem World.atRest_initial (imageMode numImages numExposures arrayCallbacks : Int) :
    World.Initial (.atRest imageMode numImages numExposures arrayCallbacks) := by
  constructor <;> rfl

/-- A first acquisition up to its first wait for `stopEventId`. -/
def World.firstExposure : List Label :=
  .task .ok :: .write .adAcquire 1 .raised :: .replicate 21 (.task .ok)

/-- A stop request, its `CancelAcquisition`, and the end of the exposure. -/
def World.stopExposure : List Label :=
  [.write .adAcquire 0 .raised, .port .ok, .port .ok, .exposureEnd .cancelled, .notify 1 false]

end PeakAnalyser

import Mathlib.Data.List.Count
import PeakAnalyser.SpectrumDefinition

/-!
# The analyser server, as the driver depends on it

The server is outside the repository. What is modelled is what the driver relies
on: `StartMeasurement` leads from Active to Measuring and `FinishMeasurement`
back, an exposure leaves Measuring and returns to it (or to Error), every change
of state is notified to the subscribed observers, and the ids it hands out are
new each time. Other clients of the same server may change its state.
-/

namespace PeakAnalyser

set_option autoImplicit false

/-- The states the driver distinguishes; `idle` stands for all the others. -/
inductive AnalyserState where
  | idle | active | measuring | acquiring | error
  deriving DecidableEq

def AnalyserState.name : AnalyserState → String
  | .idle => "Idle"
  | .active => "Active"
  | .measuring => "Measuring"
  | .acquiring => "Acquiring"
  | .error => "Error"

/-- The new states on which the state callback signals `stopEventId`. -/
def AnalyserState.endsExposure : AnalyserState → Bool
  | .measuring | .error => true
  | _ => false

/-- How an exposure ended. -/
inductive Ending where
  | normal | cancelled | failed
  deriving DecidableEq

def Ending.state : Ending → AnalyserState
  | .failed => .error
  | _ => .measuring

/-- The JSON-RPC calls that `acquisitionTask` and `writeInt32` make. Spectrum ids and
subscription guids are numbers; the empty string of the source is `none`. -/
inductive Call where
  | getState
  | defineSpectrum (definition : SpectrumDefinition)
  | startMeasurement
  | setupSpectrum (id : Option Nat)
  | subscribeToState
  | subscribeToObservable
  | clearSpectrum (id : Option Nat)
  | acquisitionAsync (id : Option Nat)
  | getMeasuredSpectrum (id : Option Nat)
  | unsubscribe (guid : Nat)
  | finishSpectrum (id : Option Nat)
  | finishMeasurement
  | cancelAcquisition
  | zeroAllSupplies
  deriving DecidableEq

/-- `own` records that the measurement now open was started by this driver;
`started` and `finished` count its `StartMeasurement` and `FinishMeasurement`
calls that took effect. `exposure` is the exposure now running, if any, with
whether its cancellation has been requested. `accumulated` lists how the
exposures since the last `ClearSpectrum` ended, newest first. -/
structure Server where
  state : AnalyserState
  own : Bool := false
  started : Nat := 0
  finished : Nat := 0
  nextId : Nat := 0
  spectra : List Nat := []
  observers : List Nat := []
  updates : List Nat := []
  exposure : Option Bool := none
  accumulated : List Ending := []
  pending : List (Nat × AnalyserState) := []

namespace Server

variable (v : Server)

/-- A change of state, notified to every observer. -/
def enter (state : AnalyserState) : Server :=
  { v with state := state, pending := v.pending ++ v.observers.map fun guid => (guid, state) }

/-- The effect of a call that the server carries out. -/
def exec : Call → Server
  | .defineSpectrum _ => { v with nextId := v.nextId + 1, spectra := v.nextId :: v.spectra }
  | .startMeasurement =>
    if v.state = .active then { v.enter .measuring with own := true, started := v.started + 1 }
    else v
  | .subscribeToState =>
    { v with nextId := v.nextId + 1, observers := v.nextId :: v.observers }
  | .subscribeToObservable => { v with nextId := v.nextId + 1, updates := v.nextId :: v.updates }
  | .clearSpectrum _ => { v with accumulated := [] }
  | .acquisitionAsync _ =>
    if v.state = .measuring then { v.enter .acquiring with exposure := some false } else v
  | .unsubscribe guid =>
    { v with observers := v.observers.erase guid, updates := v.updates.erase guid }
  | .finishSpectrum id => { v with spectra := v.spectra.filter fun s => some s ≠ id }
  | .finishMeasurement =>
    if v.state = .measuring then { v.enter .active with own := false, finished := v.finished + 1 }
    else v
  | .cancelAcquisition => { v with exposure := v.exposure.map fun _ => true }
  | .getState | .setupSpectrum _ | .getMeasuredSpectrum _ | .zeroAllSupplies => v

/-- The running exposure ends; only one whose cancellation was requested ends cancelled. -/
def endExposure (how : Ending) : Option Server :=
  match v.exposure with
  | some cancelled =>
    if how = .cancelled ∧ cancelled = false then none
    else some { v.enter how.state with exposure := none, accumulated := how :: v.accumulated }
  | none => none

/-- Another client brings the server into `state`; `keepsOwn` says that a measurement of
this driver stays open. -/
def disturb (state : AnalyserState) (keepsOwn : Bool) : Server :=
  { v.enter state with own := v.own && keepsOwn }

section Fields
variable (state : AnalyserState)

@[simp] theorem enter_state : (v.enter state).state = state := rfl
@[simp] theorem enter_own : (v.enter state).own = v.own := rfl
@[simp] theorem enter_started : (v.enter state).started = v.started := rfl
@[simp] theorem enter_finished : (v.enter state).finished = v.finished := rfl
@[simp] theorem enter_nextId : (v.enter state).nextId = v.nextId := rfl
@[simp] theorem enter_spectra : (v.enter state).spectra = v.spectra := rfl
@[simp] theorem enter_observers : (v.enter state).observers = v.observers := rfl
@[simp] theorem enter_updates : (v.enter state).updates = v.updates := rfl
@[simp] theorem enter_exposure : (v.enter state).exposure = v.exposure := rfl
@[simp] theorem enter_accumulated : (v.enter state).accumulated = v.accumulated := rfl
@[simp] theorem enter_pending : (v.enter state).pending =
    v.pending ++ v.observers.map fun guid => (guid, state) := rfl

end Fields

end Server

/-- The trace of the driver's calls. `firstFrame` marks the beginning of a first
frame; `raised call executed` is a call that raised an exception, and
`executed` says whether the server nevertheless carried it out. -/
inductive Event where
  | firstFrame
  | issued (call : Call)
  | returned (call : Call)
  | raised (call : Call) (executed : Bool)
  deriving DecidableEq

/-- The server carried the call out. -/
def Event.carriedOut (call : Call) (event : Event) : Bool :=
  event = .returned call || event = .raised call true

/-- Measurements that a trace, newest event first, leaves open. -/
def openMeasurements : List Event → Nat
  | [] => 0
  | event :: events =>
    if event.carriedOut .startMeasurement then openMeasurements events + 1
    else if event.carriedOut .finishMeasurement then openMeasurements events - 1
    else openMeasurements events

/-- `StartMeasurement` and `AcquisitionAsync` calls. -/
def Call.starts : Call → Bool
  | .startMeasurement | .acquisitionAsync _ => true
  | _ => false

/-- The calls of a trace that start a measurement or an exposure. -/
def startsIssued (events : List Event) : Nat :=
  events.countP fun event =>
    match event with
    | .issued call => call.starts
    | _ => false

/-- Successful calls of one kind since the last first frame began. -/
def succeeded (kind : Call → Bool) : List Event → Nat
  | [] => 0
  | .firstFrame :: _ => 0
  | .returned call :: events => succeeded kind events + (if kind call then 1 else 0)
  | _ :: events => succeeded kind events

end PeakAnalyser

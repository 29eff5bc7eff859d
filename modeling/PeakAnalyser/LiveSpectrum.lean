import PeakAnalyser.Dispatch
import PeakAnalyser.Library.Runs

/-!
# `m_SpectrumLive` between two threads

The SpectrumUpdate callback replaces `m_SpectrumLive` and then its member `IsLast`;
`spectrumTask` looks at that member and reads a spectrum out of the rest. No lock is held
meanwhile, and a step of the system is one statement of either thread.
`fromSpectrumChannel` takes its channel by reference, and `axes` and `attachment` refer into
it: a new assignment of `m_SpectrumLive` destroys what they refer to.
-/

namespace PeakAnalyser

set_option autoImplicit false

namespace JsonValue

def assignMember (key : String) (member : JsonValue) :
    List (String × JsonValue) → List (String × JsonValue)
  | [] => [(key, member)]
  | (k, value) :: rest =>
    if k = key then (k, member) :: rest else (k, value) :: assignMember key member rest

/-- `value[key] = member` -/
def assign (value : JsonValue) (key : String) (member : JsonValue) :
    Except NotificationException JsonValue :=
  match value with
  | .null => .ok (.object [(key, member)])
  | .object members => .ok (.object (assignMember key member members))
  | _ => .error .typeError

def isObject : JsonValue → Bool
  | .object _ => true
  | _ => false

end JsonValue

/-- A reference into `m_SpectrumLive`: what it refers to, and how often `m_SpectrumLive` had been
assigned when the reference was bound. -/
structure JsonReference where
  version : Nat
  value : JsonValue

inductive AxisName where
  | x | y | z
  deriving DecidableEq

def AxisName.key : AxisName → String
  | .x => "X"
  | .y => "Y"
  | .z => "Z"

namespace PeakSpectrum

variable (s : PeakSpectrum)

def axis : AxisName → List ℚ
  | .x => s.xaxis
  | .y => s.yaxis
  | .z => s.zaxis

def setAxis (points : List ℚ) : AxisName → PeakSpectrum
  | .x => { s with xaxis := points }
  | .y => { s with yaxis := points }
  | .z => { s with zaxis := points }

/-- `dims[rank++] = axis.size()` -/
def countAxis (name : AxisName) : PeakSpectrum := { s with dims := s.dims ++ [(s.axis name).length] }

/-- The spectrum after `written` has been stored from `data.data()` on. -/
def stored (written : Bytes) : PeakSpectrum := { s with data := store s.data written }

end PeakSpectrum

/-- The next statement of `fromSpectrumChannel`; once it has returned, what it has stored and the
surroundings in which that was fetched. -/
inductive ChannelPlace where
  | axes
  | contains (name : AxisName) (axes : JsonReference)
  | create (name : AxisName) (axes : JsonReference)
  | dims (name : AxisName) (axes : JsonReference)
  | attachment
  | hasValue (attachment : JsonReference)
  | length (attachment : JsonReference)
  | resize (attachment : JsonReference) (byteSize : Nat)
  | ifInline (attachment : JsonReference) (byteSize : Nat)
  | inlineValue (attachment : JsonReference)
  | ifFile (attachment : JsonReference) (byteSize : Nat)
  | fname (attachment : JsonReference) (byteSize : Nat)
  | file (fname : Bytes) (byteSize : Nat)
  | ifHttp (attachment : JsonReference)
  | uri (attachment : JsonReference)
  | http (uri : Bytes)
  | returned (written : Bytes) (surroundings : Environment)

namespace ChannelPlace

/-- The reference through which the statement reads. -/
def reference? : ChannelPlace → Option JsonReference
  | .contains _ reference | .create _ reference | .hasValue reference | .length reference
  | .ifInline reference _ | .inlineValue reference | .ifFile reference _ | .fname reference _
  | .ifHttp reference | .uri reference => some reference
  | _ => none

/-- The statement lies between the first and the last that read `m_SpectrumLive`. -/
def inside : ChannelPlace → Bool
  | .axes | .file _ _ | .http _ | .returned _ _ => false
  | _ => true

/-- Where `fromSpectrumChannel` goes on after an axis. -/
def afterAxis (reference : JsonReference) : AxisName → ChannelPlace
  | .x => .contains .y reference
  | .y => .contains .z reference
  | .z => .attachment

end ChannelPlace

/-- Lines 49 to 60: what is stored after the URI has been read. -/
def Environment.download (env : Environment) (serverUri uri : Bytes) : Except ChannelException Bytes :=
  match findText uri (bytes "/attachments") with
  | none => .ok []
  | some pos =>
    match env.get (if serverUri = [] then uri.take pos else serverUri) (uri.drop pos) with
    | .error exception => .error (.std exception)
    | .ok none => .ok []
    | .ok (some value) => .ok value

section Statements

variable (env : Environment) (serverUri : Bytes) (version : Nat) (live : JsonValue)

/-- One statement of `fromSpectrumChannel`, and the one after it. -/
def advance (s : PeakSpectrum) : ChannelPlace → Except ChannelException (ChannelPlace × PeakSpectrum)
  | .axes => do
    let axes ← (← live.item "SpectrumChannelSettings").item "RequestedAxes"
    return (.contains .x ⟨version, axes⟩, s)
  | .contains name axes =>
    .ok (if axes.value.contains name.key then .create name axes else ChannelPlace.afterAxis axes name, s)
  | .create name axes => do
    let points ← PeakSpectrum.createAxis env.memory (← axes.value.item name.key)
    return (.dims name axes, s.setAxis points name)
  | .dims name axes => .ok (ChannelPlace.afterAxis axes name, s.countAxis name)
  | .attachment => do
    let attachment ← live.item "CountByteData"
    return (.hasValue ⟨version, attachment⟩, s)
  | .hasValue attachment => do
    let value ← (← attachment.value.item "HasValue").getBool
    return (if value then .length attachment else .returned [] env, s)
  | .length attachment => do
    let byteSize ← (← attachment.value.item "Length").getSize
    return (.resize attachment byteSize, s)
  | .resize attachment byteSize =>
    if env.memory < 4 * (byteSize / 4) then .error (.std .allocation)
    else .ok (.ifInline attachment byteSize, { s with data := .replicate (4 * (byteSize / 4)) 0 })
  | .ifInline attachment byteSize => do
    let mode ← attachment.value.item "Mode"
    return (if mode.isText "Inline" then .inlineValue attachment else .ifFile attachment byteSize, s)
  | .inlineValue attachment => do
    let text ← (← attachment.value.item "InlineValue").getString
    return (.returned (base64_decode text) env, s.stored (base64_decode text))
  | .ifFile attachment byteSize => do
    let mode ← attachment.value.item "Mode"
    return (if mode.isText "File" then .fname attachment byteSize else .ifHttp attachment, s)
  | .fname attachment byteSize => do
    let name ← (← attachment.value.item "Address").getString
    return (.file name byteSize, s)
  | .file name byteSize =>
    let written := ((env.file name).getD []).take byteSize
    .ok (.returned written env, s.stored written)
  | .ifHttp attachment => do
    let mode ← attachment.value.item "Mode"
    return (if mode.isText "Http" then .uri attachment else .returned [] env, s)
  | .uri attachment => do
    let address ← (← attachment.value.item "Address").getString
    return (.http address, s)
  | .http address => do
    let written ← env.download serverUri address
    return (.returned written env, s.stored written)
  | .returned written surroundings => .ok (.returned written surroundings, s)

end Statements

/-- The next statement of the callback, from line 474 on. -/
inductive UpdatePlace where
  | idle
  | assign (channel : JsonValue)
  | isLast
  | trigger

/-- Where `spectrumTask` is. An exception that leaves it ends the process, as does a failed
assertion; what a dangling reference leads to is not defined. -/
inductive SpectrumTaskPlace where
  | wait
  | check
  | reading (place : ChannelPlace) (spectrum : PeakSpectrum)
  | terminated
  | aborted
  | dangling

/-- An image as it is published: the bytes stored into it, and the surroundings in which the file
or the server was asked for them. -/
structure LiveImage where
  spectrum : PeakSpectrum
  written : Bytes
  surroundings : Environment

/-- What the two threads share, with the channels that have been assigned to `m_SpectrumLive` and
the images that have been published. -/
structure SpectrumFeed where
  m_SpectrumLive : JsonValue := .null
  spectrumEvent : Bool := false
  callback : UpdatePlace := .idle
  task : SpectrumTaskPlace := .wait
  notified : List JsonValue := []
  published : List LiveImage := []

/-- An update comes in; the callback takes a step, with the value of
`numSteps == numStepsCounter`; or `spectrumTask` does, when more than a second has elapsed or
not, in surroundings that may have changed. -/
inductive LiveLabel where
  | update (channel : JsonValue)
  | callback (isLast : Bool)
  | spectrumTask (elapsed : Bool) (env : Environment)

namespace SpectrumFeed

section Callback

variable (w : SpectrumFeed)

/-- How often `m_SpectrumLive` has been assigned. -/
def version : Nat := w.notified.length

/-- Lines 474 to 476. An exception ends the callback; the transport catches it. -/
def spectrumUpdate (isLast : Bool) : Option SpectrumFeed :=
  match w.callback with
  | .idle => none
  | .assign channel => some { w with
      m_SpectrumLive := channel
      notified := w.notified ++ [channel]
      callback := .isLast }
  | .isLast =>
    match w.m_SpectrumLive.assign "IsLast" (.boolean isLast) with
    | .error _ => some { w with callback := .idle }
    | .ok value => some { w with m_SpectrumLive := value, callback := .trigger }
  | .trigger => some { w with spectrumEvent := true, callback := .idle }

/-- The second operand of line 662. -/
def checkIsLast : SpectrumFeed :=
  match w.m_SpectrumLive.itemOrNull "IsLast" with
  | .error _ => { w with task := .terminated }
  | .ok (member, live) =>
    match member.getBool with
    | .error _ => { w with m_SpectrumLive := live, task := .terminated }
    | .ok isLast => { w with
        m_SpectrumLive := live
        task := if isLast then .reading .axes {} else .wait }

/-- An exception in the `try` block. -/
def caughtBy (exception : ChannelException) : SpectrumFeed :=
  match exception with
  | .typeError | .std _ => { w with task := .wait }
  | .assertion | .conversion => { w with task := .aborted }

end Callback

section Task

variable (memory : Nat) (serverUri : Bytes) (w : SpectrumFeed)

/-- A statement of `spectrumTask` or of the `fromSpectrumChannel` call. -/
def spectrumTask (elapsed : Bool) (env : Environment) : Option SpectrumFeed :=
  match w.task with
  | .wait => if w.spectrumEvent then some { w with spectrumEvent := false, task := .check } else none
  | .check => some (if elapsed then { w with task := .reading .axes {} } else w.checkIsLast)
  | .reading (.returned written surroundings) s =>
    some { w with published := w.published ++ [⟨s, written, surroundings⟩], task := .wait }
  | .reading place s =>
    if place.reference?.all fun reference => reference.version = w.version then
      match advance { env with memory } serverUri w.version w.m_SpectrumLive s place with
      | .error exception => some (w.caughtBy exception)
      | .ok (place, s) => some { w with task := .reading place s }
    else some { w with task := .dangling }
  | .terminated | .aborted | .dangling => none

def step : LiveLabel → Option SpectrumFeed
  | .update channel =>
    match w.callback with
    | .idle => some { w with callback := .assign channel }
    | _ => none
  | .callback isLast => w.spectrumUpdate isLast
  | .spectrumTask elapsed env => w.spectrumTask memory serverUri elapsed env

end Task

end SpectrumFeed

end PeakAnalyser

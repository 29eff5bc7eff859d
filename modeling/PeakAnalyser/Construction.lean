import PeakAnalyser.Acquisition
import PeakAnalyser.ConnectedDriver
import PeakAnalyser.WriteFrames

/-!
# From the constructor to the first step of the tasks

Whatever the servers answer, the constructor leaves a driver that is idle or says that it is
disconnected. Up to there it has asked the servers for what they know, and has changed nothing but
that they forget the subscriptions of an earlier process.
-/

namespace PeakAnalyser

set_option autoImplicit false

open Conversations

abbrev ConnectDialogue : Type := Dialogue ServerCall ServerAnswer PeakDriver

/-- Calls that ask for something. -/
def asking : List String :=
  ["Query", "GetLensModeLimits", "ApiTypes", "CalculateSpectrumInfo", "AdjustSpectrumDefinition"]

/-- A call that asks for something, or that ends what `own` had subscribed to. -/
def ServerCall.Asks (own : Bytes) (c : ServerCall) : Prop :=
  c.method ∈ asking ∨ c.method = "UnsubscribeAllForObserver" ∧ c.params = [.string own]

/-- The driver is still as it was. -/
structure Unattached (d : PeakDriver) (s : ConnectDialogue) : Prop where
  driver : s.state.toDriver = d.toDriver
  own : s.state.notificationServer = d.notificationServer
  calls : ∀ entry ∈ s.transcript, entry.1.Asks d.notificationServer

/-- There are the two clients, and what controls an acquisition is as it was. -/
structure Attached (d : PeakDriver) (s : ConnectDialogue) : Prop where
  clients : s.state.electronics.isSome = true ∧ s.state.analyser.isSome = true
  control : ∀ q, q.isControl = true → s.state.int q = d.int q
  own : s.state.notificationServer = d.notificationServer
  calls : ∀ entry ∈ s.transcript, entry.1.Asks d.notificationServer

/-! ### Calls and stores -/

section Keeping

variable {server : Counterpart ServerCall ServerAnswer} {P : ConnectDialogue → Prop} {own : Bytes}

/-- `P` is kept by the calls that ask. -/
def Unasked (own : Bytes) (P : ConnectDialogue → Prop) : Prop :=
  ∀ s entry, entry.1.Asks own → P s → P { s with transcript := s.transcript ++ [entry] }

theorem calls_append {transcript : List (ServerCall × ServerAnswer)}
    {entry : ServerCall × ServerAnswer} (hentry : entry.1.Asks own)
    (h : ∀ entry ∈ transcript, entry.1.Asks own) :
    ∀ e ∈ transcript ++ [entry], e.1.Asks own := by
  intro e he
  rcases List.mem_append.mp he with hin | hin
  · exact h e hin
  · rw [List.mem_singleton.mp hin]
    exact hentry

theorem unasked_unattached (d : PeakDriver) : Unasked d.notificationServer (Unattached d) :=
  fun _ _ hentry hs => ⟨hs.driver, hs.own, calls_append hentry hs.calls⟩

theorem unasked_attached (d : PeakDriver) : Unasked d.notificationServer (Attached d) :=
  fun _ _ hentry hs => ⟨hs.clients, hs.control, hs.own, calls_append hentry hs.calls⟩

theorem keeps_read {α : Type} {result : Except ChannelException α} : Keeps server P (read result) :=
  keeps_take

theorem keeps_call (h : Unasked own P) {uri : Bytes} {method : String} {params : List JsonValue}
    (hcall : ServerCall.Asks own ⟨uri, method, params⟩) : Keeps server P (call uri method params) :=
  Keeps.bind (triple_ask fun s hs => h s _ hcall hs) fun _ => keeps_take

theorem keeps_query (h : Unasked own P) (uri : Bytes) (property : String) (filter : JsonValue) :
    Keeps server P (query uri property filter) :=
  (keeps_call h (Or.inl (by simp [asking]))).bind fun _ => keeps_read

theorem keeps_onDriver {d : PeakDriver} {g : Driver → Driver}
    (hg : ∀ d' q, q.isControl = true → (g d').int q = d'.int q) :
    Keeps server (Attached d) (onDriver g) :=
  keeps_update fun s hs =>
    ⟨hs.clients, fun q hq => (hg s.state.toDriver q hq).trans (hs.control q hq), hs.own, hs.calls⟩

theorem int_selectListed (d : Driver) (names : List String) (name : String) {f : IntParam}
    (text : Option StringParam) (hf : f.isControl = false) {q : IntParam} (hq : q.isControl = true) :
    (d.selectListed names name f text).int q = d.int q := by
  have hne := IntParam.ne_of_isControl hq hf
  unfold Driver.selectListed
  split
  · cases text <;> simp [hne]
  · rfl

end Keeping

/-! ### Before there is a client for the analyser -/

section Stages

variable {server : Counterpart ServerCall ServerAnswer} {d : PeakDriver}

theorem unattached_update {g : PeakDriver → PeakDriver}
    (hdriver : ∀ whole, (g whole).toDriver = whole.toDriver)
    (hown : ∀ whole, (g whole).notificationServer = whole.notificationServer) :
    Keeps server (Unattached d) (update g : Connecting Unit) :=
  keeps_update fun s hs =>
    ⟨(hdriver s.state).trans hs.driver, (hown s.state).trans hs.own, hs.calls⟩

theorem unattached_askRelease : Keeps server (Unattached d) askRelease := by
  unfold askRelease
  refine keeps_current.bind fun whole => keeps_take.bind fun manager => ?_
  refine (keeps_query (unasked_unattached d) _ _ _).bind fun serverInfo => keeps_read.bind fun release => ?_
  refine keeps_take.bind fun _ => ?_
  refine Keeps.bind (unattached_update (fun _ => rfl) fun _ => rfl) fun _ => keeps_read.bind fun version => ?_
  exact Keeps.bind (unattached_update (fun _ => rfl) fun _ => rfl) fun _ => keeps_pure

theorem unattached_findAddresses (manager : Bytes) : Keeps server (Unattached d) (findAddresses manager) := by
  unfold findAddresses
  refine keeps_current.bind fun whole => ?_
  split
  · exact Keeps.bind (unattached_update (fun _ => rfl) fun _ => rfl) fun _ => keeps_current.bind fun _ => keeps_pure
  · exact Keeps.bind ((keeps_query (unasked_unattached d) _ _ _).bind fun _ => keeps_read) fun _ => keeps_read

theorem attached_cleanUp (analyser : Bytes) :
    Keeps server (Attached d) (tryCatch (unsubscribeAll analyser) fun _ => pure ()) := by
  refine Keeps.tryCatch ?_ fun _ => keeps_pure
  unfold unsubscribeAll
  split
  · refine Triple.bind (Q := fun whole s =>
      whole.notificationServer = d.notificationServer ∧ Attached d s)
      (triple_current fun s hs => ⟨hs.own, hs⟩) fun whole => triple_fact fun hown => ?_
    exact (keeps_call (unasked_attached d) (Or.inr ⟨rfl, by rw [hown]⟩)).bind fun _ => keeps_pure
  · exact keeps_pure

/-- With the second client, the driver is linked to the analyser. -/
theorem attached_openServers (addresses : ServerAddresses) :
    Triple server (Unattached d) (openServers addresses) (fun _ => Attached d)
      fun _ s => Unattached d s ∨ Attached d s := by
  unfold openServers
  refine Triple.bind (Q := fun _ => Unattached d) (triple_take (fun _ _ hs _ => hs)
    fun _ _ hs _ => Or.inl hs) fun electronics => ?_
  refine Triple.bind (Q := fun _ s => Unattached d s ∧ s.state.electronics.isSome = true)
    (triple_update fun s hs => ⟨⟨hs.driver, hs.own, hs.calls⟩, rfl⟩) fun _ => ?_
  refine Triple.bind (Q := fun _ s => Unattached d s ∧ s.state.electronics.isSome = true)
    (triple_take (fun _ _ hs _ => hs) fun _ _ hs _ => Or.inl hs.1) fun analyser => ?_
  refine Triple.bind (Q := fun _ => Attached d) (triple_update fun s hs =>
    ⟨⟨hs.2, rfl⟩, fun q _ => congrFun (congrArg (fun d : Driver => d.int) hs.1.driver) q, hs.1.own,
      hs.1.calls⟩) fun _ => ?_
  exact ((attached_cleanUp analyser).bind fun _ => keeps_pure).weaken (fun _ hs => hs)
    (fun _ _ hs => hs) fun _ _ hs => Or.inr hs

/-! ### With the client -/

variable (analyser : Bytes)

theorem attached_askConfiguration : Keeps server (Attached d) (askConfiguration analyser) := by
  unfold askConfiguration configurations
  refine Keeps.bind ((keeps_query (unasked_attached d) _ _ _).bind fun _ => keeps_read)
    fun elementsets => ?_
  refine Keeps.bind (keeps_onDriver fun _ _ _ => rfl) fun _ => ?_
  refine (keeps_query (unasked_attached d) _ _ _).bind fun configuration => ?_
  refine keeps_read.bind fun calibration => keeps_read.bind fun energies => ?_
  refine keeps_read.bind fun passEnergies => ?_
  exact Keeps.bind (keeps_onDriver fun _ _ _ => rfl) fun _ => keeps_pure

theorem attached_askLensMode (lensMode : JsonValue) :
    Keeps server (Attached d) (askLensMode analyser lensMode) := by
  unfold askLensMode
  refine keeps_read.bind fun enabled => ?_
  split
  · unfold askLimits
    refine keeps_read.bind fun name => ?_
    refine (keeps_call (unasked_attached d) (Or.inl (by simp [asking]))).bind fun limits => ?_
    exact keeps_read.bind fun info => keeps_onDriver fun _ _ _ => rfl
  · exact keeps_pure

theorem attached_askLensModes (configuration : JsonValue) :
    Keeps server (Attached d) (askLensModes analyser configuration) := by
  unfold askLensModes
  refine Keeps.bind (keeps_onDriver fun _ _ _ => rfl) fun _ => keeps_read.bind fun lensModes => ?_
  refine (keeps_forM fun lensMode _ => attached_askLensMode analyser lensMode).bind fun _ => ?_
  exact keeps_onDriver fun _ _ _ => rfl

theorem attached_askDetectorModes : Keeps server (Attached d) (askDetectorModes analyser) := by
  unfold askDetectorModes
  refine (keeps_call (unasked_attached d) (Or.inl (by simp [asking]))).bind fun answer => ?_
  refine keeps_read.bind fun types => Keeps.bind (keeps_onDriver fun _ _ _ => rfl) fun _ => ?_
  refine keeps_read.bind fun found => ?_
  cases found with
  | none => exact keeps_pure
  | some type =>
    unfold addDetectorModes
    refine keeps_read.bind fun values => keeps_forM fun mode _ => ?_
    exact keeps_read.bind fun name => keeps_onDriver fun _ _ _ => rfl

theorem attached_storeConfiguration (configuration : JsonValue) :
    Keeps server (Attached d) (storeConfiguration configuration) := by
  have hupdate : ∀ g : PeakDriver → PeakDriver, (∀ whole, (g whole).toDriver = whole.toDriver) →
      (∀ whole, (g whole).electronics = whole.electronics) →
      (∀ whole, (g whole).analyser = whole.analyser) →
      (∀ whole, (g whole).notificationServer = whole.notificationServer) →
      Keeps server (Attached d) (update g : Connecting Unit) := fun g hdriver helectronics hanalyser hown =>
    keeps_update fun s hs => ⟨by rw [helectronics, hanalyser]; exact hs.clients,
      by rw [hdriver]; exact hs.control, by rw [hown]; exact hs.own, hs.calls⟩
  unfold storeConfiguration
  refine keeps_read.bind fun model => ?_
  refine Keeps.bind (hupdate _ (fun _ => rfl) (fun _ => rfl) (fun _ => rfl) fun _ => rfl) fun _ => ?_
  refine keeps_read.bind fun serialNumber => ?_
  refine Keeps.bind (hupdate _ (fun _ => rfl) (fun _ => rfl) (fun _ => rfl) fun _ => rfl) fun _ => ?_
  exact keeps_read.bind fun name => keeps_onDriver fun d' q hq => int_selectListed d' _ _ _ rfl hq

theorem attached_askSettings : Keeps server (Attached d) (askSettings analyser) := by
  unfold askSettings
  refine (keeps_query (unasked_attached d) _ _ _).bind fun settings => keeps_read.bind fun _ => ?_
  refine Keeps.bind (keeps_onDriver fun _ _ _ => rfl) fun _ => keeps_read.bind fun _ => ?_
  refine Keeps.bind (keeps_onDriver fun _ _ _ => rfl) fun _ => keeps_read.bind fun passEnergy => ?_
  refine Keeps.bind (keeps_onDriver fun _ q hq => Driver.int_setPassEnergy passEnergy hq) fun _ => ?_
  refine keeps_read.bind fun _ => Keeps.bind (keeps_onDriver fun d' q hq => ?_) fun _ => ?_
  · exact int_selectListed d' _ _ _ rfl hq
  · refine keeps_read.bind fun _ => Keeps.bind (keeps_onDriver fun d' q hq => ?_) fun _ => keeps_pure
    exact int_selectListed d' _ _ _ rfl hq

theorem attached_storeChannel (el : JsonValue) : Keeps server (Attached d) (storeChannel el) := by
  unfold storeChannel
  refine keeps_read.bind fun channelArea => keeps_read.bind fun width => ?_
  refine keeps_read.bind fun height => keeps_read.bind fun detectorArea => ?_
  refine keeps_read.bind fun detectorWidth => Keeps.bind (keeps_onDriver fun d' q hq => ?_) fun _ => ?_
  · have hne := fun r => IntParam.ne_of_isControl (p := r) hq
    simp [hne .adMaxSizeX rfl, hne .adMaxSizeY rfl]
  · refine keeps_read.bind fun areas => Keeps.bind (keeps_onDriver fun _ _ _ => rfl) fun _ => ?_
    exact keeps_read.bind fun areas => keeps_update fun s hs =>
      ⟨hs.clients, hs.control, hs.own, hs.calls⟩

theorem attached_askSpectrumInfo (configuration settings : JsonValue) :
    Keeps server (Attached d) (askSpectrumInfo analyser configuration settings) := by
  unfold askSpectrumInfo
  refine keeps_read.bind fun first => Keeps.bind (keeps_onDriver fun _ _ _ => rfl) fun _ => ?_
  refine (keeps_call (unasked_attached d) (Or.inl (by simp [asking]))).bind fun spectrumInfo => ?_
  exact keeps_read.bind fun channels => keeps_forM fun el _ => attached_storeChannel el

theorem attached_askSlits : Keeps server (Attached d) (askSlits analyser) := by
  unfold askSlits
  refine (keeps_query (unasked_attached d) _ _ _).bind fun serverSettings => ?_
  refine Keeps.bind (keeps_onDriver fun _ _ _ => rfl) fun _ => keeps_read.bind fun presets => ?_
  refine (keeps_forM fun slit _ => ?_).bind fun _ => ?_
  · exact keeps_read.bind fun name => keeps_onDriver fun _ _ _ => rfl
  · refine Keeps.bind (keeps_onDriver fun _ _ _ => rfl) fun _ => ?_
    refine (keeps_query (unasked_attached d) _ _ _).bind fun currentSlit => ?_
    exact keeps_read.bind fun name => keeps_onDriver fun d' q hq => int_selectListed d' _ _ _ rfl hq

theorem attached_askGeometry (camera : Bytes) : Keeps server (Attached d) (askGeometry camera) := by
  unfold askGeometry geometry
  refine keeps_take.bind fun uri => Keeps.bind ?_ fun calibration => ?_
  · exact (keeps_query (unasked_attached d) _ _ _).bind fun _ => keeps_read.bind fun _ => keeps_read
  · refine keeps_read.bind fun minX => keeps_read.bind fun minY => ?_
    refine keeps_read.bind fun sizeX => keeps_read.bind fun sizeY => keeps_onDriver fun d' q hq => ?_
    have hne := fun r => IntParam.ne_of_isControl (p := r) hq
    simp [hne .adMinX rfl, hne .adMinY rfl, hne .adSizeX rfl, hne .adSizeY rfl,
      hne .detectorChannels rfl, hne .detectorSlices rfl]

theorem attached_adjustDefinition : Keeps server (Attached d) (adjustDefinition analyser) := by
  unfold adjustDefinition
  refine Keeps.tryCatch ?_ fun e => ?_
  · refine keeps_current.bind fun whole => ?_
    refine (keeps_call (unasked_attached d) (Or.inl (by simp [asking]))).bind fun reply s hs => ?_
    rw [on_within]
    have hstored := storeAdjusted_on reply server { s with state := s.state.toDriver }
    dsimp only at hstored
    cases hread : AdjustReply.ofJson (s.state.int .analyserAcquisitionMode) reply with
    | ok adjusted =>
      rw [hread] at hstored
      dsimp only at hstored
      rw [hstored]
      exact ⟨hs.clients, fun q hq => (Driver.int_adjusted adjusted hq).trans (hs.control q hq),
        hs.own, hs.calls⟩
    | error e =>
      rw [hread] at hstored
      obtain ⟨p, hend, hsame⟩ := hstored
      rw [hend]
      refine ⟨hs.clients, fun q hq => ?_, hs.own, hs.calls⟩
      exact (hsame.int q (by cases q <;> first | rfl | cases hq)).trans (hs.control q hq)
  · split
    · exact keeps_pure
    · exact keeps_throw

theorem attached_setupDefinition : Keeps server (Attached d) (setupDefinition analyser) := by
  unfold setupDefinition
  refine Triple.bind (Q := fun whole s => s.state = whole ∧ Attached d s)
    (triple_current fun s hs => ⟨rfl, hs⟩) fun whole => ?_
  cases hprepared : whole.toDriver.setupSpectrumDefinition .raised with
  | none => exact triple_throw fun _ hs => hs.2
  | some prepared =>
    refine Triple.bind (Q := fun _ => Attached d) (triple_update fun s hs => ?_) fun _ => ?_
    · obtain ⟨rfl, hs⟩ := hs
      exact ⟨hs.clients, fun q hq =>
        (Driver.int_setupSpectrumDefinition hq hprepared).trans (hs.control q hq), hs.own, hs.calls⟩
    · split
      · exact attached_adjustDefinition analyser
      · exact keeps_pure

theorem attached_askAnalyser (camera : Bytes) : Keeps server (Attached d) (askAnalyser analyser camera) := by
  unfold askAnalyser
  refine (attached_askConfiguration analyser).bind fun configuration => ?_
  refine (attached_askLensModes analyser configuration).bind fun _ => ?_
  refine (attached_askDetectorModes analyser).bind fun _ => ?_
  refine (attached_storeConfiguration configuration).bind fun _ => ?_
  refine (attached_askSettings analyser).bind fun settings => ?_
  refine (attached_askSpectrumInfo analyser configuration settings).bind fun _ => ?_
  refine (attached_askSlits analyser).bind fun _ => (attached_askGeometry camera).bind fun _ => ?_
  exact attached_setupDefinition analyser

/-- After a normal end there is a client for the analyser, after an exception perhaps none; then
the driver is as it was. -/
theorem attached_connectAnalyser :
    Triple server (Unattached d) connectAnalyser (fun _ => Attached d) fun _ s => Unattached d s ∨ Attached d s := by
  unfold connectAnalyser
  refine Triple.bind (Q := fun _ => Unattached d) (unattached_askRelease.weaken (fun _ hs => hs)
    (fun _ _ hs => hs) fun _ _ hs => Or.inl hs) fun manager => ?_
  refine Triple.bind (Q := fun _ => Unattached d) ((unattached_findAddresses manager).weaken (fun _ hs => hs)
    (fun _ _ hs => hs) fun _ _ hs => Or.inl hs) fun addresses => ?_
  refine Triple.bind (Q := fun _ => Unattached d) (triple_take (fun _ _ hs _ => hs)
    fun _ _ hs _ => Or.inl hs) fun _ => ?_
  refine (attached_openServers addresses).bind fun analyser => ?_
  exact (attached_askAnalyser analyser addresses.camera).weaken (fun _ hs => hs) (fun _ _ hs => hs)
    fun _ _ hs => Or.inr hs

end Stages

/-! ### What the constructor leaves -/

/-- The driver and a server, as the tasks find them. -/
def PeakDriver.world (d : PeakDriver) (server : Server) : World :=
  { driver := d.toDriver, server, electronics := d.electronics.isSome }

/-- A server that has nothing from this driver. -/
structure Server.Blank (v : Server) : Prop where
  own : v.own = false
  started : v.started = 0
  finished : v.finished = 0
  spectra : v.spectra = []
  observers : v.observers = []
  updates : v.updates = []
  exposure : v.exposure = none
  pending : v.pending = []

/-- There are the two clients, and the tasks begin as an acquisition requires it. -/
structure PeakDriver.Connected (d : PeakDriver) : Prop where
  electronics : d.electronics.isSome = true
  analyser : d.analyser.isSome = true
  initial : ∀ v : Server, v.Blank → World.Initial (d.world v)

/-- The driver says that it is not connected. Without a client for the analyser, it has no lists. -/
structure PeakDriver.Disconnected (d : PeakDriver) : Prop where
  adStatus : d.int .adStatus = adStatusDisconnected
  adStatusMessage : d.string .adStatusMessage = "No connection to PEAK server"
  adAcquire : d.int .adAcquire = 0
  unlinked : d.analyser = none → d.lensModes = [] ∧ 0 ≤ d.int .lensMode

theorem unattached_initial (base : ADDriver) (hostAddress own : Bytes) :
    Unattached (.initial base hostAddress own) { state := .initial base hostAddress own } :=
  ⟨rfl, rfl, fun _ h => absurd h List.not_mem_nil⟩

theorem connected_of_attached {base : ADDriver} {hostAddress own : Bytes} {s : ConnectDialogue}
    (h : Attached (.initial base hostAddress own) s) : s.state.Connected where
  electronics := h.clients.1
  analyser := h.clients.2
  initial v hv := by
    have hcontrol : ∀ q, q.isControl = true → s.state.int q = 0 := by
      intro q hq
      have hne := fun r => IntParam.ne_of_isControl (p := r) hq
      rw [h.control q hq]
      simp [PeakDriver.initial, hne .ndDataType rfl, hne .ndColorMode rfl]
    exact {
      pc := rfl
      port := rfl
      startEvent := rfl
      stopEvent := rfl
      subscribers := rfl
      images := rfl
      log := rfl
      failed := rfl
      spectrumId := rfl
      guidState := rfl
      guidAcquired := rfl
      adAcquire := hcontrol .adAcquire rfl
      adStatus := hcontrol .adStatus rfl
      adNumImagesCounter := hcontrol .adNumImagesCounter rfl
      own := hv.own
      started := hv.started
      finished := hv.finished
      spectra := hv.spectra
      observers := hv.observers
      updates := hv.updates
      exposure := hv.exposure
      pending := hv.pending }

theorem disconnected_of_unattached {base : ADDriver} {hostAddress own : Bytes} {s : ConnectDialogue}
    (h : Unattached (.initial base hostAddress own) s ∨ Attached (.initial base hostAddress own) s) :
    PeakDriver.Disconnected { s.state with toDriver := s.state.toDriver.disconnected } where
  adStatus := by simp [Driver.disconnected]
  adStatusMessage := by
    simp [Driver.disconnected, Driver.setStringParam, Driver.withParams, Params.setStringParam]
  adAcquire := by
    have hacquire : s.state.int .adAcquire = 0 := by
      rcases h with hunattached | hattached
      · rw [hunattached.driver]
        simp [PeakDriver.initial]
      · rw [hattached.control .adAcquire rfl]
        simp [PeakDriver.initial]
    simp [Driver.disconnected, hacquire]
  unlinked hnone := by
    rcases h with hunattached | hattached
    · have hdriver : s.state.toDriver.disconnected =
          (PeakDriver.initial base hostAddress own).toDriver.disconnected := by rw [hunattached.driver]
      dsimp only
      rw [hdriver]
      refine ⟨rfl, ?_⟩
      simp [Driver.disconnected, PeakDriver.initial]
    · have hsome := hattached.clients.2
      rw [show s.state.analyser = none from hnone] at hsome
      cases hsome

/-- The constructor, whatever the servers answer: it asks, and unless an exception escapes that
nobody catches, its driver is connected and idle or says that it is disconnected. -/
theorem construct_outcome (base : ADDriver) (hostAddress own : Bytes)
    (server : Counterpart ServerCall ServerAnswer) :
    (∀ entry ∈ (construct.on server { state := .initial base hostAddress own }).2.transcript,
      entry.1.Asks own) ∧
    match construct.on server { state := .initial base hostAddress own } with
    | (.ok (), t) => t.state.Connected ∨ t.state.Disconnected
    | (.error e, _) => e.caught = false := by
  have htriple : Triple server (Unattached (.initial base hostAddress own)) connectAnalyser _ _ :=
    attached_connectAnalyser
  have hattached := htriple _ (unattached_initial base hostAddress own)
  unfold construct
  rw [on_tryCatch]
  cases hend : connectAnalyser.on server { state := .initial base hostAddress own } with
  | mk result t =>
    rw [hend] at hattached
    cases result with
    | ok a => exact ⟨Attached.calls hattached, Or.inl (connected_of_attached hattached)⟩
    | error e =>
      have hcalls : ∀ entry ∈ t.transcript, entry.1.Asks own := by
        rcases hattached with hunattached | hattached
        · exact hunattached.calls
        · exact hattached.calls
      dsimp only
      cases hcaught : e.caught with
      | true => exact ⟨hcalls, Or.inr (disconnected_of_unattached hattached)⟩
      | false => exact ⟨hcalls, hcaught⟩

end PeakAnalyser

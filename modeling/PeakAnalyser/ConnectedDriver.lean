import PeakAnalyser.Connecting
import PeakAnalyser.DefinitionAgreement
import PeakAnalyser.Selections

/-!
# What connecting leaves behind

A call of `connectAnalyser` that comes to its end leaves the driver that `Driver.connectAnalyser`
makes of what the servers have answered, so what holds of the latter holds of every driver that the
constructor has connected.
-/

namespace PeakAnalyser

set_option autoImplicit false

open Conversations

/-! ### Replies that cannot be read to their end -/

namespace Params

variable {p p' p'' : Params}

/-- The two differ at most in what `setRegion` stores. -/
structure SameButReadbacks (p p' : Params) : Prop where
  int : ∀ f, f.isReadback = false → p'.int f = p.int f
  float : ∀ f, f.showsAxis = false → p'.float f = p.float f
  string : p'.string = p.string
  acqETA : p'.acqETA = p.acqETA
  acqProgress : p'.acqProgress = p.acqProgress

theorem SameButReadbacks.refl (p : Params) : SameButReadbacks p p :=
  ⟨fun _ _ => rfl, fun _ _ => rfl, rfl, rfl, rfl⟩

theorem SameButAxes.readbacks (h : SameButAxes p p') : SameButReadbacks p p' where
  int f hf := h.int f (by cases f <;> first | rfl | cases hf)
  float := h.float
  string := h.string
  acqETA := h.acqETA
  acqProgress := h.acqProgress

theorem sameButReadbacks_setRegion (p : Params) (settings : ChannelSettings) :
    SameButReadbacks p (p.setRegion settings) where
  int f hf := Driver.int_setRegion_readback p settings hf
  float f hf := by
    have hne : ∀ g : FloatParam, g.showsAxis = true → f ≠ g := by
      rintro g hg rfl
      rw [hf] at hg
      cases hg
    simp [setRegion, setAxis, hne .analyserLowEnergy rfl, hne .analyserEnergyStep rfl,
      hne .analyserHighEnergy rfl, hne .analyserCenterEnergy rfl, hne .analyserLowSlice rfl,
      hne .analyserSliceStep rfl, hne .analyserHighSlice rfl, hne .analyserCenterSlice rfl,
      hne .analyserLowAngleY rfl, hne .analyserAngleYStep rfl, hne .analyserHighAngleY rfl,
      hne .analyserCenterAngleY rfl]
  string := rfl
  acqETA := rfl
  acqProgress := rfl

end Params

/-- What the answer to `AdjustSpectrumDefinition` says. -/
def AdjustReply.ofJson (acquisitionMode : Int) (reply : JsonValue) :
    Except ChannelException AdjustReply := do
  let spectrumInfo ← reply.member "SpectrumInfo"
  let channels ← spectrumInfo.item "AnalyserSpectrumChannelSettings"
  let channelSettings ← channels.front
  let settings ← ChannelSettings.ofJson acquisitionMode channelSettings
  let wallClock ← spectrumInfo.item "WallClockTime"
  let wallClockTime ← wallClock.getDouble
  return .adjusted settings wallClockTime

theorem storeAdjusted_on {Question Answer : Type} (reply : JsonValue)
    (server : Counterpart Question Answer) (s : Dialogue Question Answer Driver) :
    match AdjustReply.ofJson (s.state.int .analyserAcquisitionMode) reply with
    | .ok adjusted =>
      (storeAdjusted reply).on server s = (.ok (), { s with state := s.state.adjusted adjusted })
    | .error e => ∃ p, (storeAdjusted reply).on server s =
        (.error e, { s with state := s.state.withParams p }) ∧
        s.state.toParams.SameButReadbacks p := by
  unfold storeAdjusted AdjustReply.ofJson
  rw [on_bind, on_take]
  cases reply.member "SpectrumInfo" with
  | error e => exact ⟨s.state.toParams, rfl, .refl _⟩
  | ok spectrumInfo =>
    dsimp only
    rw [except_ok_bind, on_bind, on_take]
    cases spectrumInfo.item "AnalyserSpectrumChannelSettings" with
    | error e => exact ⟨s.state.toParams, rfl, .refl _⟩
    | ok channels =>
      dsimp only
      rw [except_ok_bind, on_bind, on_take]
      cases channels.front with
      | error e => exact ⟨s.state.toParams, rfl, .refl _⟩
      | ok channelSettings =>
        dsimp only
        rw [except_ok_bind, on_bind, on_within]
        have hregion := setRegion_on channelSettings server { s with state := s.state.toParams }
        cases hread : ChannelSettings.ofJson (s.state.int .analyserAcquisitionMode)
            channelSettings with
        | error e =>
          rw [hread] at hregion
          obtain ⟨p, hend, hsame⟩ := hregion
          refine ⟨p, ?_, hsame.readbacks⟩
          rw [hend]
          rfl
        | ok settings =>
          rw [hread] at hregion
          dsimp only at hregion ⊢
          rw [hregion]
          have hsame := Params.sameButReadbacks_setRegion s.state.toParams settings
          have hexposures := hsame.int .adNumExposures rfl
          rw [except_ok_bind]
          simp only [Except.mapError, on_bind, on_take]
          cases spectrumInfo.item "WallClockTime" with
          | error e => exact ⟨_, rfl, hsame⟩
          | ok wallClock =>
            dsimp only
            rw [except_ok_bind]
            cases wallClock.getDouble with
            | error e => exact ⟨_, rfl, hsame⟩
            | ok wallClockTime =>
              dsimp only
              rw [except_ok_bind, on_update]
              dsimp only [Driver.adjusted, Driver.withParams, Pure.pure, Except.pure]
              rw [hexposures]

/-! ### What a part of `connectAnalyser` leaves of the driver -/

/-- If `m` comes to its end, its result and the driver that it leaves are as `Q` says. -/
def Leaves {α : Type} (server : Counterpart ServerCall ServerAnswer) (d : Driver)
    (m : Connecting α) (Q : α → Driver → Prop) : Prop :=
  Triple server (fun s => s.state.toDriver = d) m (fun a s => Q a s.state.toDriver) fun _ _ => True

section Rules

variable {α β : Type} {server : Counterpart ServerCall ServerAnswer} {d : Driver}
  {m : Connecting α} {f : α → Connecting β} {Q Q' : α → Driver → Prop} {T : β → Driver → Prop}

/-- What follows may end with more than the driver: with the questions asked and their answers. -/
theorem Leaves.followed {R : β → Dialogue ServerCall ServerAnswer PeakDriver → Prop}
    (h : Leaves server d m Q)
    (hf : ∀ a d', Q a d' → Triple server (fun s => s.state.toDriver = d') (f a) R fun _ _ => True) :
    Triple server (fun s => s.state.toDriver = d) (m >>= f) R fun _ _ => True :=
  Triple.bind h fun a s hs => hf a s.state.toDriver hs s rfl

theorem Leaves.bind (h : Leaves server d m Q) (hf : ∀ a d', Q a d' → Leaves server d' (f a) T) :
    Leaves server d (m >>= f) T :=
  h.followed hf

theorem Leaves.weaken (h : Leaves server d m Q) (hQ : ∀ a d', Q a d' → Q' a d') :
    Leaves server d m Q' :=
  Triple.weaken h (fun _ hs => hs) (fun a s hs => hQ a s.state.toDriver hs) fun _ _ hs => hs

theorem leaves_pure {a : α} (h : Q a d) : Leaves server d (pure a) Q :=
  triple_pure fun _ hs => hs ▸ h

theorem leaves_take {result : Except ConnectException α} (h : ∀ a, result = .ok a → Q a d) :
    Leaves server d (take result) Q :=
  triple_take (fun _ a hs hresult => hs ▸ h a hresult) fun _ _ _ _ => trivial

theorem leaves_read {result : Except ChannelException α} (h : ∀ a, result = .ok a → Q a d) :
    Leaves server d (read result) Q := by
  refine leaves_take fun a hresult => h a ?_
  cases result with
  | ok b =>
    cases hresult
    rfl
  | error e => cases hresult

theorem leaves_current {T : PeakDriver → Driver → Prop}
    (h : ∀ whole : PeakDriver, whole.toDriver = d → T whole d) : Leaves server d current T :=
  triple_current fun s hs => by
    rw [hs]
    exact h s.state hs

theorem leaves_onDriver {g : Driver → Driver} {T : Unit → Driver → Prop} (h : T () (g d)) :
    Leaves server d (onDriver g) T := by
  refine triple_update fun s hs => ?_
  dsimp only
  rw [hs]
  exact h

/-- What `connectAnalyser` stores beside the driver. -/
theorem leaves_update {g : PeakDriver → PeakDriver} {T : Unit → Driver → Prop}
    (hg : ∀ whole, (g whole).toDriver = whole.toDriver) (h : T () d) :
    Leaves server d (update g) T := by
  refine triple_update fun s hs => ?_
  dsimp only
  rw [hg, hs]
  exact h

theorem leaves_call {uri : Bytes} {method : String} {params : List JsonValue}
    {T : JsonValue → Driver → Prop}
    (h : ∀ transcript r, server transcript ⟨uri, method, params⟩ = .ok r → T r d) :
    Leaves server d (call uri method params) T := by
  intro s hs
  unfold call
  rw [on_bind, on_ask]
  dsimp only
  rw [on_take]
  cases hanswer : server s.transcript ⟨uri, method, params⟩ with
  | ok r =>
    dsimp only [Except.mapError, Ends]
    rw [hs]
    exact h s.transcript r hanswer
  | error e => trivial

theorem leaves_query {uri : Bytes} {property : String} {filter : JsonValue}
    {T : JsonValue → Driver → Prop} (h : ∀ r, T r d) :
    Leaves server d (query uri property filter) T := by
  refine (leaves_call (T := fun _ d' => d' = d) fun _ _ _ => rfl).bind fun answer d' hd => ?_
  subst hd
  exact leaves_read fun r _ => h r

theorem leaves_forM {xs : List β} {body : β → Connecting PUnit} {I : List β → Driver → Prop}
    (hbody : ∀ done x d', I done d' → Leaves server d' (body x) fun _ => I (done ++ [x]))
    (h : I [] d) : Leaves server d (xs.forM body) fun _ => I xs :=
  (triple_forM (I := fun done s => I done s.state.toDriver) fun done x _ _ s hs =>
    hbody done x s.state.toDriver hs s rfl).weaken (fun _ hs => hs ▸ h) (fun _ _ hs => hs)
    fun _ _ _ => trivial

theorem leaves_tryCatch {handler : ConnectException → Connecting α}
    (h : Triple server (fun s => s.state.toDriver = d) m (fun a s => Q a s.state.toDriver)
      fun e s => Leaves server s.state.toDriver (handler e) Q) :
    Leaves server d (tryCatch m handler) Q :=
  Triple.tryCatch h fun _ s hs => hs s rfl

/-! What comes next, after each kind of statement. -/

theorem leaves_take_bind {result : Except ConnectException α}
    (h : ∀ a, result = .ok a → Leaves server d (f a) T) : Leaves server d (take result >>= f) T :=
  (leaves_take (Q := fun a d' => result = .ok a ∧ d' = d) fun _ ha => ⟨ha, rfl⟩).bind fun a _ ha =>
    ha.2 ▸ h a ha.1

theorem leaves_read_bind {result : Except ChannelException α}
    (h : ∀ a, result = .ok a → Leaves server d (f a) T) : Leaves server d (read result >>= f) T :=
  (leaves_read (Q := fun a d' => result = .ok a ∧ d' = d) fun _ ha => ⟨ha, rfl⟩).bind fun a _ ha =>
    ha.2 ▸ h a ha.1

theorem leaves_current_bind {f : PeakDriver → Connecting β}
    (h : ∀ whole : PeakDriver, whole.toDriver = d → Leaves server d (f whole) T) :
    Leaves server d (current >>= f) T :=
  (leaves_current (T := fun whole d' => whole.toDriver = d ∧ d' = d) fun _ hw => ⟨hw, rfl⟩).bind
    fun whole _ hw => hw.2 ▸ h whole hw.1

theorem leaves_onDriver_bind {g : Driver → Driver} {f : Unit → Connecting β}
    (h : Leaves server (g d) (f ()) T) : Leaves server d (onDriver g >>= f) T :=
  (leaves_onDriver (T := fun _ d' => d' = g d) rfl).bind fun _ _ hd => hd ▸ h

theorem leaves_update_bind {g : PeakDriver → PeakDriver} {f : Unit → Connecting β}
    (hg : ∀ whole, (g whole).toDriver = whole.toDriver) (h : Leaves server d (f ()) T) :
    Leaves server d (update g >>= f) T :=
  (leaves_update (T := fun _ d' => d' = d) hg rfl).bind fun _ _ hd => hd ▸ h

theorem leaves_call_bind {uri : Bytes} {method : String} {params : List JsonValue}
    {f : JsonValue → Connecting β}
    (h : ∀ transcript r, server transcript ⟨uri, method, params⟩ = .ok r →
      Leaves server d (f r) T) : Leaves server d (call uri method params >>= f) T :=
  (leaves_call (T := fun r d' =>
    (∃ transcript, server transcript ⟨uri, method, params⟩ = .ok r) ∧ d' = d)
      fun transcript _ hr => ⟨⟨transcript, hr⟩, rfl⟩).bind fun r _ hr =>
    hr.2 ▸ hr.1.elim fun transcript hanswer => h transcript r hanswer

theorem leaves_query_bind {uri : Bytes} {property : String} {filter : JsonValue}
    {f : JsonValue → Connecting β} (h : ∀ r, Leaves server d (f r) T) :
    Leaves server d (query uri property filter >>= f) T :=
  (leaves_query (T := fun _ d' => d' = d) fun _ => rfl).bind fun r _ hd => hd ▸ h r

end Rules

/-! ### Stage by stage -/

section Stages

variable {server : Counterpart ServerCall ServerAnswer} {d : Driver}

theorem leaves_askRelease : Leaves server d askRelease fun _ d' => d' = d := by
  unfold askRelease
  refine leaves_current_bind fun whole _ => leaves_take_bind fun manager _ => ?_
  refine leaves_query_bind fun serverInfo => leaves_read_bind fun release _ => ?_
  refine leaves_take_bind fun _ _ => ?_
  refine leaves_update_bind (fun _ => rfl) (leaves_read_bind fun version _ => ?_)
  exact leaves_update_bind (fun _ => rfl) (leaves_pure rfl)

theorem leaves_runningServers (uri : Bytes) :
    Leaves server d (runningServers uri) fun _ d' => d' = d := by
  unfold runningServers
  exact leaves_query_bind fun value => leaves_read fun servers _ => rfl

theorem leaves_findAddresses (manager : Bytes) :
    Leaves server d (findAddresses manager) fun _ d' => d' = d := by
  unfold findAddresses
  refine leaves_current_bind fun whole _ => ?_
  split
  · unfold proxyAddresses
    exact leaves_update_bind (fun _ => rfl) (leaves_current_bind fun _ _ => leaves_pure rfl)
  · unfold listedAddresses
    exact (leaves_runningServers manager).bind fun servers d' hd => leaves_read fun _ _ => hd

/-- The clean-up of old subscriptions, which may raise any exception. -/
theorem leaves_cleanUp (analyser : Bytes) :
    Leaves server d (tryCatch (unsubscribeAll analyser) fun _ => pure ()) fun _ d' => d' = d := by
  have hkeeps : Keeps server (fun s => s.state.toDriver = d) (unsubscribeAll analyser) := by
    unfold unsubscribeAll
    split
    · refine keeps_current.bind fun whole => Keeps.bind ?_ fun _ => keeps_pure
      exact Keeps.bind (triple_ask fun _ hs => hs) fun _ => keeps_take
    · exact keeps_pure
  exact leaves_tryCatch (hkeeps.weaken (fun _ hs => hs) (fun _ _ hs => hs)
    fun _ _ hs => leaves_pure hs)

theorem leaves_openServers (addresses : ServerAddresses) :
    Leaves server d (openServers addresses) fun _ d' => d' = d := by
  unfold openServers
  refine leaves_take_bind fun electronics _ => leaves_update_bind (fun _ => rfl) ?_
  refine leaves_take_bind fun analyser _ => leaves_update_bind (fun _ => rfl) ?_
  exact (leaves_cleanUp analyser).bind fun _ d' hd => leaves_pure hd

variable (analyser : Bytes)

theorem leaves_configurations :
    Leaves server d (configurations analyser) fun _ d' => d' = d := by
  unfold configurations
  exact leaves_query_bind fun value => leaves_read fun names _ => rfl

theorem leaves_askConfiguration : Leaves server d (askConfiguration analyser) fun _ d' =>
    ∃ elementsets passEnergies, d' = { d with elementsets, passEnergies } := by
  unfold askConfiguration
  refine (leaves_configurations analyser).bind fun elementsets d' hd => ?_
  subst hd
  refine leaves_onDriver_bind (leaves_query_bind fun configuration => ?_)
  refine leaves_read_bind fun calibration _ => leaves_read_bind fun energies _ => ?_
  refine leaves_read_bind fun passEnergies _ => leaves_onDriver_bind (leaves_pure ?_)
  exact ⟨elementsets, passEnergies, rfl⟩

theorem enabled_ofLimits {name : String} {limits : JsonValue} {info : LensModeInfo}
    (h : LensModeInfo.ofLimits name limits = .ok info) : info.enabled = true := by
  unfold LensModeInfo.ofLimits at h
  obtain ⟨parameters, -, h⟩ := except_bind_eq_ok h
  obtain ⟨passEnergyLimits, -, h⟩ := except_bind_eq_ok h
  obtain ⟨passEnergy, -, h⟩ := except_bind_eq_ok h
  obtain ⟨xLimits, -, h⟩ := except_bind_eq_ok h
  obtain ⟨xDeflection, -, h⟩ := except_bind_eq_ok h
  obtain ⟨yLimits, -, h⟩ := except_bind_eq_ok h
  obtain ⟨yDeflection, -, h⟩ := except_bind_eq_ok h
  cases h
  rfl

theorem leaves_askLensMode (lensMode : JsonValue) :
    Leaves server d (askLensMode analyser lensMode) fun _ d' =>
      ∃ infos : List LensModeInfo, (∀ info ∈ infos, info.enabled = true) ∧
        d' = { d with lensModes := d.lensModes ++ infos.map LensModeInfo.setting } := by
  unfold askLensMode
  refine leaves_read_bind fun enabled _ => ?_
  split
  · unfold askLimits
    refine leaves_read_bind fun name _ => leaves_call_bind fun _ limits _ => ?_
    refine leaves_read_bind fun info hinfo => leaves_onDriver ⟨[info], ?_, rfl⟩
    simpa using enabled_ofLimits hinfo
  · exact leaves_pure ⟨[], by simp, by simp⟩

theorem leaves_askLensModes (configuration : JsonValue) :
    Leaves server d (askLensModes analyser configuration) fun _ d' =>
      ∃ infos : List LensModeInfo, (∀ info ∈ infos, info.enabled = true) ∧
        d' = { d with
          lensModes := (infos.map LensModeInfo.setting).insertionSort fun a b => a.name ≤ b.name } := by
  unfold askLensModes
  refine leaves_onDriver_bind (leaves_read_bind fun lensModes _ => ?_)
  refine Leaves.bind (leaves_forM (I := fun _ d' => ∃ infos : List LensModeInfo,
    (∀ info ∈ infos, info.enabled = true) ∧
      d' = { d with lensModes := infos.map LensModeInfo.setting }) ?_ ?_) fun _ d' hinfos => ?_
  · intro done lensMode d' hinfos
    obtain ⟨infos, henabled, rfl⟩ := hinfos
    refine (leaves_askLensMode analyser lensMode).weaken fun _ d'' hmore => ?_
    obtain ⟨more, hmore, rfl⟩ := hmore
    refine ⟨infos ++ more, fun info hinfo => ?_, by simp⟩
    rcases List.mem_append.mp hinfo with hin | hin
    · exact henabled info hin
    · exact hmore info hin
  · exact ⟨[], by simp, rfl⟩
  · obtain ⟨infos, henabled, rfl⟩ := hinfos
    exact leaves_onDriver ⟨infos, henabled, rfl⟩

theorem leaves_addDetectorModes (type : JsonValue) :
    Leaves server d (addDetectorModes type) fun _ d' =>
      ∃ modes : List String, d' = { d with detectorModes := d.detectorModes ++ modes } := by
  unfold addDetectorModes
  refine leaves_read_bind fun values _ => Leaves.weaken (leaves_forM (I := fun _ d' =>
    ∃ modes, d' = { d with detectorModes := d.detectorModes ++ modes }) ?_ ?_) fun _ _ hmodes => hmodes
  · intro done mode d' hmodes
    obtain ⟨modes, rfl⟩ := hmodes
    unfold addDetectorMode
    exact leaves_read_bind fun name _ => leaves_onDriver ⟨modes ++ [characters name], by simp⟩
  · exact ⟨[], by simp⟩

theorem leaves_askDetectorModes : Leaves server d (askDetectorModes analyser) fun _ d' =>
    ∃ detectorModes, d' = { d with detectorModes } := by
  unfold askDetectorModes
  refine leaves_call_bind fun _ answer _ => leaves_read_bind fun types _ => ?_
  refine leaves_onDriver_bind (leaves_read_bind fun found _ => ?_)
  cases found with
  | none => exact leaves_pure ⟨[], rfl⟩
  | some type =>
    refine (leaves_addDetectorModes type).weaken fun _ d' hmodes => ?_
    obtain ⟨modes, rfl⟩ := hmodes
    exact ⟨modes, by simp⟩

theorem leaves_storeConfiguration (configuration : JsonValue) :
    Leaves server d (storeConfiguration configuration) fun _ d' =>
      ∃ name, configuration.memberText "Name" = .ok name ∧ d' = d.setElementSet (characters name) := by
  unfold storeConfiguration
  refine leaves_read_bind fun model _ => leaves_update_bind (fun _ => rfl) ?_
  refine leaves_read_bind fun serialNumber _ => leaves_update_bind (fun _ => rfl) ?_
  exact leaves_read_bind fun name hname => leaves_onDriver ⟨name, hname, rfl⟩

/-- The settings that are read both as parameters and for the definition. -/
structure Settings where
  dwellTime : ℚ
  kineticEnergy : ℚ
  passEnergy : ℚ
  lensModeName : Bytes
  acquisitionMode : Bytes

/-- What `Driver.connectAnalyser` does with the settings. -/
def Driver.enter (d : Driver) (values : Settings) : Driver :=
  let d := d.setDoubleParam .adAcquireTime values.dwellTime
  let d := d.setDoubleParam .analyserCenterEnergy values.kineticEnergy
  let d := d.setPassEnergy values.passEnergy
  let d := d.setLensMode (characters values.lensModeName)
  d.setDetectorMode (characters values.acquisitionMode)

/-- The members that `firstDefinition` reads once more. -/
structure Settings.Of (values : Settings) (settings : JsonValue) : Prop where
  dwellTime : (settings.member "DwellTime").bind JsonValue.getDouble = .ok values.dwellTime
  passEnergy : (settings.member "PassEnergy").bind JsonValue.getDouble = .ok values.passEnergy
  lensModeName : settings.memberText "LensModeName" = .ok values.lensModeName

theorem leaves_askSettings : Leaves server d (askSettings analyser) fun settings d' =>
    ∃ values : Settings, values.Of settings ∧ d' = d.enter values := by
  unfold askSettings
  refine leaves_query_bind fun settings => leaves_read_bind fun dwellTime hdwell => ?_
  refine leaves_onDriver_bind (leaves_read_bind fun kineticEnergy _ => ?_)
  refine leaves_onDriver_bind (leaves_read_bind fun passEnergy hpass => ?_)
  refine leaves_onDriver_bind (leaves_read_bind fun lensModeName hlens => ?_)
  refine leaves_onDriver_bind (leaves_read_bind fun acquisitionMode _ => ?_)
  refine leaves_onDriver_bind (leaves_pure ?_)
  exact ⟨⟨dwellTime, kineticEnergy, passEnergy, lensModeName, acquisitionMode⟩,
    ⟨hdwell, hpass, hlens⟩, rfl⟩

theorem firstDefinition_eq {configuration settings sent : JsonValue} {definition : SpectrumDefinition}
    {name : Bytes} {values : Settings} (hname : configuration.memberText "Name" = .ok name)
    (hvalues : values.Of settings)
    (h : firstDefinition configuration settings = .ok (sent, definition)) :
    definition =
      { elementSetName := characters name
        lensModeName := characters values.lensModeName
        passEnergy := values.passEnergy
        dwellTime := values.dwellTime
        fixedX := some {} } := by
  unfold firstDefinition at h
  obtain ⟨nameValue, hn, h⟩ := except_bind_eq_ok h
  obtain ⟨lensValue, hl, h⟩ := except_bind_eq_ok h
  obtain ⟨passValue, hp, h⟩ := except_bind_eq_ok h
  obtain ⟨dwellValue, hd, h⟩ := except_bind_eq_ok h
  obtain ⟨elementSetName, hn', h⟩ := except_bind_eq_ok h
  obtain ⟨lensModeName, hl', h⟩ := except_bind_eq_ok h
  obtain ⟨passEnergy, hp', h⟩ := except_bind_eq_ok h
  obtain ⟨dwellTime, hd', h⟩ := except_bind_eq_ok h
  have hname' : configuration.memberText "Name" = .ok elementSetName := by
    unfold JsonValue.memberText
    rw [hn]
    exact hn'
  have hlens' : settings.memberText "LensModeName" = .ok lensModeName := by
    unfold JsonValue.memberText
    rw [hl]
    exact hl'
  have hpass' : (settings.member "PassEnergy").bind JsonValue.getDouble = .ok passEnergy := by
    rw [hp]
    exact hp'
  have hdwell' : (settings.member "DwellTime").bind JsonValue.getDouble = .ok dwellTime := by
    rw [hd]
    exact hd'
  obtain rfl := Except.ok.inj (hname.symm.trans hname')
  obtain rfl := Except.ok.inj (hvalues.lensModeName.symm.trans hlens')
  obtain rfl := Except.ok.inj (hvalues.passEnergy.symm.trans hpass')
  obtain rfl := Except.ok.inj (hvalues.dwellTime.symm.trans hdwell')
  cases h
  rfl

/-- The size of the detector that a channel gives. -/
structure ChannelSize where
  width : Int
  height : Int
  centerX : ℚ
  centerY : ℚ
  detectorWidth : ℚ

/-- What `Driver.connectAnalyser` does with it. -/
def Driver.enterSize (d : Driver) (size : ChannelSize) : Driver :=
  { (d.setIntegerParam .adMaxSizeX size.width).setIntegerParam .adMaxSizeY size.height with
    pixelDensity := size.width / size.detectorWidth
    channelCenterX := size.centerX
    channelCenterY := size.centerY }

theorem enterSize_enterSize (d : Driver) (size size' : ChannelSize) :
    (d.enterSize size).enterSize size' = d.enterSize size' := by
  have hint : Function.update (Function.update (Function.update (Function.update d.int
      .adMaxSizeX size.width) .adMaxSizeY size.height) .adMaxSizeX size'.width) .adMaxSizeY
      size'.height = Function.update (Function.update d.int .adMaxSizeX size'.width) .adMaxSizeY
      size'.height := by
    funext q
    simp only [Function.update_apply]
    split_ifs <;> rfl
  unfold Driver.enterSize Driver.setIntegerParam Driver.withParams Params.setIntegerParam
  dsimp only
  rw [hint]

theorem leaves_storeChannel (el : JsonValue) :
    Leaves server d (storeChannel el) fun _ d' => ∃ size, d' = d.enterSize size := by
  unfold storeChannel
  refine leaves_read_bind fun channelArea _ => leaves_read_bind fun width _ => ?_
  refine leaves_read_bind fun height _ => leaves_read_bind fun detectorArea _ => ?_
  refine leaves_read_bind fun detectorWidth _ => leaves_onDriver_bind ?_
  refine leaves_read_bind fun areas _ => leaves_onDriver_bind (leaves_read_bind fun _ _ => ?_)
  refine leaves_update (fun _ => rfl) ?_
  exact ⟨⟨width, height, (areas.lookup "CenterX").getD 0, (areas.lookup "CenterY").getD 0,
    detectorWidth⟩, rfl⟩

/-- Of several channels the last one counts. -/
theorem leaves_storeChannels (channels : List JsonValue) :
    Leaves server d (channels.forM storeChannel) fun _ d' =>
      channels ≠ [] → ∃ size, d' = d.enterSize size := by
  refine (leaves_forM (I := fun done d' =>
    d' = d ∧ done = [] ∨ ∃ size, d' = d.enterSize size) ?_ (Or.inl ⟨rfl, rfl⟩)).weaken
    fun _ d' hsize hne => ?_
  · intro done el d' hbefore
    refine (leaves_storeChannel el).weaken fun _ d'' hsize => Or.inr ?_
    obtain ⟨size, rfl⟩ := hsize
    rcases hbefore with ⟨rfl, -⟩ | ⟨size', rfl⟩
    · exact ⟨size, rfl⟩
    · exact ⟨size, enterSize_enterSize d size' size⟩
  · rcases hsize with ⟨-, hnil⟩ | hsize
    · exact absurd hnil hne
    · exact hsize

/-- Every answer to `CalculateSpectrumInfo` lists a channel. -/
def ListsChannels (server : Counterpart ServerCall ServerAnswer) : Prop :=
  ∀ transcript uri params reply channels,
    server transcript ⟨uri, "CalculateSpectrumInfo", params⟩ = .ok reply →
    reply.member "AnalyserSpectrumChannelSettings" = .ok channels → channels.elements ≠ []

theorem leaves_askSpectrumInfo (hchannels : ListsChannels server)
    {configuration settings : JsonValue} {name : Bytes} {values : Settings}
    (hname : configuration.memberText "Name" = .ok name) (hvalues : values.Of settings) :
    Leaves server d (askSpectrumInfo analyser configuration settings) fun _ d' =>
      ∃ size, d' = Driver.enterSize { d with
        spectrumDefinition :=
          { elementSetName := characters name
            lensModeName := characters values.lensModeName
            passEnergy := values.passEnergy
            dwellTime := values.dwellTime
            fixedX := some {} } } size := by
  unfold askSpectrumInfo
  refine leaves_read_bind fun first hfirst => ?_
  obtain ⟨sent, definition⟩ := first
  have hdefinition := firstDefinition_eq hname hvalues hfirst
  refine leaves_onDriver_bind (leaves_call_bind fun transcript reply hreply => ?_)
  refine leaves_read_bind fun channels hlist => (leaves_storeChannels _).weaken fun _ d' hsize => ?_
  obtain ⟨size, rfl⟩ := hsize (hchannels transcript analyser [sent] reply channels hreply hlist)
  exact ⟨size, by rw [hdefinition]⟩

theorem leaves_askSlits : Leaves server d (askSlits analyser) fun _ d' =>
    ∃ (slits : List String) (name : String),
      d' = Driver.setSlit { d with slits := slits.insertionSort (· ≤ ·) } name := by
  unfold askSlits
  refine leaves_query_bind fun serverSettings => leaves_onDriver_bind ?_
  refine leaves_read_bind fun presets _ => Leaves.bind (leaves_forM (I := fun _ d' =>
    ∃ slits, d' = { d with slits }) ?_ ⟨[], rfl⟩) fun _ d' hslits => ?_
  · intro done slit d' hslits
    obtain ⟨slits, rfl⟩ := hslits
    unfold addSlit
    exact leaves_read_bind fun name _ => leaves_onDriver ⟨slits ++ [characters name], rfl⟩
  · obtain ⟨slits, rfl⟩ := hslits
    refine leaves_onDriver_bind (leaves_query_bind fun currentSlit => ?_)
    exact leaves_read_bind fun name _ => leaves_onDriver ⟨slits, characters name, rfl⟩

/-- The region of the detector that the camera server gives. -/
def Driver.enterRegion (d : Driver) (minX minY sizeX sizeY : Int) : Driver :=
  (((((d.setIntegerParam .adMinX minX).setIntegerParam .adMinY minY).setIntegerParam .adSizeX
    sizeX).setIntegerParam .adSizeY sizeY).setIntegerParam .detectorChannels
    sizeX).setIntegerParam .detectorSlices sizeY

theorem leaves_askGeometry (camera : Bytes) : Leaves server d (askGeometry camera) fun _ d' =>
    ∃ minX minY sizeX sizeY, d' = d.enterRegion minX minY sizeX sizeY := by
  have hgeometry : ∀ uri, Leaves server d (geometry uri) fun _ d' => d' = d := by
    intro uri
    unfold geometry
    exact leaves_query_bind fun configuration => leaves_read_bind fun calibration _ =>
      leaves_read fun _ _ => rfl
  unfold askGeometry
  refine leaves_take_bind fun uri _ => (hgeometry uri).bind fun calibration d' hd => ?_
  subst hd
  refine leaves_read_bind fun minX _ => leaves_read_bind fun minY _ => ?_
  refine leaves_read_bind fun sizeX _ => leaves_read_bind fun sizeY _ => leaves_onDriver ?_
  exact ⟨minX, minY, sizeX, sizeY, rfl⟩

/-- The reply only matters behind the lines up to the call. -/
theorem setup_prepared {prepared : Driver} (h : d.setupSpectrumDefinition .raised = some prepared)
    (reply : AdjustReply) : d.setupSpectrumDefinition reply =
      some (if d.adjusts then prepared.adjusted reply else prepared) := by
  unfold Driver.adjusts
  unfold Driver.setupSpectrumDefinition at h ⊢
  cases hout : d.enumOutOfRange with
  | true =>
    rw [hout, if_pos rfl] at h
    rw [if_pos rfl]
    exact h
  | false =>
    rw [hout, if_neg (by decide)] at h
    rw [if_neg (by decide)]
    obtain ⟨requested, hrequested, h⟩ := Option.bind_eq_some_iff.mp h
    obtain ⟨lens, hlens, h⟩ := Option.bind_eq_some_iff.mp h
    obtain ⟨elementSet, helementSet, h⟩ := Option.bind_eq_some_iff.mp h
    obtain ⟨detectorMode, hdetectorMode, h⟩ := Option.bind_eq_some_iff.mp h
    obtain ⟨passEnergy, hpassEnergy, h⟩ := Option.bind_eq_some_iff.mp h
    have hlabels := (Driver.labelled_cases (d.setPassEnergy (clamp requested lens.passEnergyRange))
      elementSet lens.name detectorMode passEnergy).1
    have hrefused := ((Driver.setPassEnergy_cases d _).1.trans hlabels).refused
    simp only [hrequested, hlens, helementSet, hdetectorMode, hpassEnergy, Option.bind_eq_bind,
      Option.bind_some]
    dsimp only at h ⊢
    rw [hrefused] at h ⊢
    cases hcase : d.energyRefused with
    | true =>
      rw [hcase, if_pos rfl] at h
      rw [if_pos rfl]
      exact h
    | false =>
      rw [hcase, if_neg (by decide)] at h
      rw [if_neg (by decide)]
      obtain rfl := Option.some.inj h
      rfl

/-- The last question was `AdjustSpectrumDefinition`, and its answer cannot be read to its end. -/
def EndsUnreadable (acquisitionMode : Int) (transcript : List (ServerCall × ServerAnswer)) : Prop :=
  ∃ (question : ServerCall) (answer : JsonValue) (exception : ChannelException),
    transcript.getLast? = some (question, .ok answer) ∧
      question.method = "AdjustSpectrumDefinition" ∧
      AdjustReply.ofJson acquisitionMode answer = .error exception

/-- A dialogue that has ended with this driver, or with one in which `setRegion` has stored a part
of an answer that cannot be read to its end. -/
def EndsWith (s : Dialogue ServerCall ServerAnswer PeakDriver) (d : Driver) : Prop :=
  s.state.toDriver = d ∨
    EndsUnreadable (d.int .analyserAcquisitionMode) s.transcript ∧
      s.state.toDriver = d.withParams s.state.toParams ∧
      d.toParams.SameButReadbacks s.state.toParams

/-- A reply that can be read is stored as `Driver.adjusted` stores it. Of any other, what
`setRegion` stores may be there. -/
theorem adjustDefinition_ends : Triple server (fun s => s.state.toDriver = d)
    (adjustDefinition analyser) (fun _ s => ∃ reply, EndsWith s (d.adjusted reply))
    fun _ _ => True := by
  have hhandler : ∀ e : ConnectException, Triple server (fun s => EndsWith s d)
      (if e.caught then pure () else throw e : Connecting Unit)
      (fun _ s => ∃ reply, EndsWith s (d.adjusted reply)) fun _ _ => True := by
    intro e
    split
    · exact triple_pure fun s hs => ⟨.raised, hs⟩
    · exact triple_throw fun _ _ => trivial
  unfold adjustDefinition
  refine Triple.tryCatch (fun s hs => ?_) hhandler
  subst hs
  unfold call
  rw [on_bind, on_current]
  dsimp only
  rw [on_bind, on_bind, on_ask]
  dsimp only
  rw [on_take]
  cases server s.transcript _ with
  | error e => exact Or.inl rfl
  | ok reply =>
    dsimp only [Except.mapError]
    rw [on_within]
    have hstored := storeAdjusted_on reply server { s with
      state := s.state.toDriver
      transcript := s.transcript ++ [(⟨analyser, "AdjustSpectrumDefinition",
        [s.state.spectrumDefinition.json]⟩, .ok reply)] }
    cases hread : AdjustReply.ofJson (s.state.int .analyserAcquisitionMode) reply with
    | ok adjusted =>
      rw [hread] at hstored
      dsimp only at hstored ⊢
      rw [hstored]
      exact ⟨adjusted, Or.inl rfl⟩
    | error e =>
      rw [hread] at hstored
      obtain ⟨p, hend, hsame⟩ := hstored
      dsimp only at hend ⊢
      rw [hend]
      refine Or.inr ⟨⟨_, reply, e, List.getLast?_concat, rfl, hread⟩, rfl, hsame⟩

/-- `setupDefinition` is `Driver.setupSpectrumDefinition`, but for what it may have stored of a
reply that cannot be read to its end. -/
theorem setupDefinition_ends : Triple server (fun s => s.state.toDriver = d)
    (setupDefinition analyser)
    (fun _ s => ∃ reply built, d.setupSpectrumDefinition reply = some built ∧ EndsWith s built)
    fun _ _ => True := by
  unfold setupDefinition
  refine (leaves_current (T := fun whole d' => whole.toDriver = d ∧ d' = d)
    fun _ hwhole => ⟨hwhole, rfl⟩).followed fun whole d' hwhole => ?_
  obtain ⟨rfl, rfl⟩ := hwhole
  cases hprepared : whole.toDriver.setupSpectrumDefinition .raised with
  | none => exact triple_throw fun _ _ => trivial
  | some prepared =>
    refine (leaves_onDriver (T := fun _ d' => d' = prepared) rfl).followed fun _ d' hd => ?_
    subst hd
    split
    · rename_i hadjusts
      refine (adjustDefinition_ends analyser).weaken (fun _ hs => hs) (fun _ s hadjusted => ?_)
        fun _ _ _ => trivial
      obtain ⟨reply, hends⟩ := hadjusted
      refine ⟨reply, d'.adjusted reply, ?_, hends⟩
      rw [setup_prepared hprepared reply, if_pos hadjusts]
    · exact triple_pure fun s hs => ⟨.raised, d', hprepared, Or.inl hs⟩

/-- The driver that `connectAnalyser` leaves is the one that `Driver.connectAnalyser` makes of some
answers of the servers. -/
theorem connectAnalyser_ends (hchannels : ListsChannels server) :
    Triple server (fun s => s.state.toDriver = d) connectAnalyser
      (fun _ s => ∃ info reply connected,
        d.connectAnalyser info reply = some connected ∧ EndsWith s connected)
      fun _ _ => True := by
  unfold connectAnalyser
  refine leaves_askRelease.followed fun manager d₁ hd => ?_
  subst hd
  refine (leaves_findAddresses manager).followed fun addresses d₁ hd => ?_
  subst hd
  refine (leaves_take (Q := fun _ d' => d' = d₁) fun _ _ => rfl).followed fun _ d₁ hd => ?_
  subst hd
  refine (leaves_openServers addresses).followed fun analyser d₁ hd => ?_
  subst hd
  unfold askAnalyser
  refine (leaves_askConfiguration analyser).followed fun configuration d₂ hconfiguration => ?_
  obtain ⟨elementsets, passEnergies, rfl⟩ := hconfiguration
  refine (leaves_askLensModes analyser configuration).followed fun _ d₃ hlens => ?_
  obtain ⟨infos, henabled, rfl⟩ := hlens
  refine (leaves_askDetectorModes analyser).followed fun _ d₄ hmodes => ?_
  obtain ⟨detectorModes, rfl⟩ := hmodes
  refine (leaves_storeConfiguration configuration).followed fun _ d₅ hname => ?_
  obtain ⟨name, hname, rfl⟩ := hname
  refine (leaves_askSettings analyser).followed fun settings d₆ hsettings => ?_
  obtain ⟨values, hvalues, rfl⟩ := hsettings
  refine (leaves_askSpectrumInfo analyser hchannels hname hvalues).followed fun _ d₇ hsize => ?_
  obtain ⟨size, rfl⟩ := hsize
  refine (leaves_askSlits analyser).followed fun _ d₈ hslits => ?_
  obtain ⟨slits, currentSlit, rfl⟩ := hslits
  refine (leaves_askGeometry addresses.camera).followed fun _ d₉ hregion => ?_
  obtain ⟨minX, minY, sizeX, sizeY, rfl⟩ := hregion
  refine (setupDefinition_ends analyser).weaken (fun _ hs => hs) (fun _ s hsetup => ?_)
    fun _ _ _ => trivial
  obtain ⟨reply, built, hbuilt, hends⟩ := hsetup
  have hfilter : infos.filter LensModeInfo.enabled = infos := List.filter_eq_self.mpr henabled
  refine ⟨{
    configurations := elementsets
    configurationName := characters name
    opticsLensModes := infos
    calibratedPassEnergies := passEnergies
    acquisitionModes := detectorModes
    dwellTime := values.dwellTime
    kineticEnergy := values.kineticEnergy
    passEnergy := values.passEnergy
    lensModeName := characters values.lensModeName
    acquisitionMode := characters values.acquisitionMode
    channelWidth := size.width
    channelHeight := size.height
    channelCenterX := size.centerX
    channelCenterY := size.centerY
    detectorWidth := size.detectorWidth
    slits := slits
    currentSlit := currentSlit
    roiOffsetX := minX
    roiOffsetY := minY
    roiWidth := sizeX
    roiHeight := sizeY }, reply, built, ?_, hends⟩
  unfold Driver.connectAnalyser
  dsimp only
  rw [hfilter]
  exact hbuilt

end Stages

/-- A connect that comes to its end, with a server that lists a channel, leaves the driver that
`Driver.connectAnalyser` makes of what the servers answer; only where the last answer cannot be read
to its end may what `setRegion` stores differ. -/
theorem connectAnalyser_connects {server : Counterpart ServerCall ServerAnswer}
    (hchannels : ListsChannels server) {s t : Dialogue ServerCall ServerAnswer PeakDriver}
    (hend : connectAnalyser.on server s = (.ok (), t)) :
    ∃ (info : ServerInfo) (reply : AdjustReply) (connected : Driver),
      s.state.toDriver.connectAnalyser info reply = some connected ∧ EndsWith t connected :=
  Triple.ends (connectAnalyser_ends hchannels) rfl hend

section Bench

/-- The members that the queries of `connectAnalyser` ask for. -/
def benchMembers : List (String × JsonValue) := [
  ("ServerInfo", .object [("ReleaseVersion", .ofText "PEAK-1.2.0"), ("Version", .ofText "7")]),
  ("Servers", .array [
    .object [("Address", .ofText "http://127.0.0.1:2"), ("Name", .ofText "Analyser")],
    .object [("Address", .ofText "http://127.0.0.1:3"), ("Name", .ofText "Electronics")],
    .object [("Address", .ofText "http://127.0.0.1:4"), ("Name", .ofText "Camera")]]),
  ("AvailableConfigurations", .array [.object [("Name", .ofText "Standard")]]),
  ("Configuration", .object [
    ("Calibration", .object [("CalibratedPassEnergies", .array [.integer 5, .integer 10])]),
    ("CameraCalibration", .object [("SpatialCalibration", .object [
      ("RoiHeight", .integer 8), ("RoiOffsetX", .integer 0), ("RoiOffsetY", .integer 0),
      ("RoiWidth", .integer 16)])]),
    ("Model", .ofText "A"), ("Name", .ofText "Standard"),
    ("OpticsLensModes", .array [
      .object [("Enabled", .boolean true), ("Name", .ofText "L2")],
      .object [("Enabled", .boolean false), ("Name", .ofText "L3")],
      .object [("Enabled", .boolean true), ("Name", .ofText "L1")]]),
    ("SerialNumber", .ofText "1")]),
  ("AnalyserSettings", .object [
    ("AcquisitionMode", .ofText "Image"), ("DwellTime", .float (1 / 2)),
    ("KineticEnergy", .integer 100), ("LensModeName", .ofText "L2"), ("PassEnergy", .integer 10)]),
  ("SharedConfiguration", .object [("SlitConfigurationPresets", .array [
    .object [("Name", .ofText "0.8")], .object [("Name", .ofText "0.2")]])]),
  ("CurrentSlit", .object [("Name", .ofText "0.8")])]

def benchResult : String → JsonValue
  | "GetLensModeLimits" => .object [("AllDomainParameters", .object [("PassEnergy", .object [
      ("MaximumValue", .integer 10), ("MinimumValue", .integer 1)])])]
  | "ApiTypes" => .object [("types", .array [.object [("enum_values", .array [
      .object [("name", .ofText "Image")]]), ("name", .ofText "AcquisitionMode")]])]
  | "CalculateSpectrumInfo" => .object [("AnalyserSpectrumChannelSettings", .array [.object [
      ("ChannelArea", .object [("CenterX", .integer 8), ("CenterY", .integer 4),
        ("Height", .integer 8), ("Width", .integer 16)]),
      ("DetectorArea", .object [("Width", .integer 32)])]])]
  | "AdjustSpectrumDefinition" => .null
  | _ => .object benchMembers

/-- Servers whose answers depend on the method alone. -/
def bench : Counterpart ServerCall ServerAnswer := fun _ c => .ok (benchResult c.method)

theorem listsChannels_bench : ListsChannels bench := by
  intro transcript uri params reply channels hreply hchannels
  obtain rfl := Except.ok.inj hreply
  obtain rfl := Except.ok.inj hchannels
  exact List.cons_ne_nil _ _

/-- A driver before it connects to them. -/
def benchDriver : PeakDriver := .initial (.store 8) (bytes "ws://127.0.0.1:1") []

theorem connectAnalyser_connects_bench :
    ∃ t : Dialogue ServerCall ServerAnswer PeakDriver,
      ∃ (info : ServerInfo) (reply : AdjustReply) (connected : Driver),
        benchDriver.toDriver.connectAnalyser info reply = some connected ∧ EndsWith t connected := by
  have hends : (connectAnalyser.on bench { state := benchDriver }).1.isOk = true := by
    decide +kernel
  generalize hstart : ({ state := benchDriver } : Dialogue ServerCall ServerAnswer PeakDriver) = s
    at hends
  have hstate : s.state = benchDriver := by rw [← hstart]
  rw [← hstate]
  generalize hend : connectAnalyser.on bench s = outcome at hends
  obtain ⟨result, t⟩ := outcome
  cases result with
  | ok a => exact ⟨t, connectAnalyser_connects listsChannels_bench hend⟩
  | error e => cases hends

end Bench

end PeakAnalyser

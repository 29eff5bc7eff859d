import PeakAnalyser.AcquisitionSteps
import PeakAnalyser.Construction
import PeakAnalyser.Library.Tallies

/-!
# A driver that is not connected

After a connect that failed, the status is `ADStatusDisconnected`, with which a write of `ADAcquire`
signals no start, so `acquisitionTask` waits for good. Nothing resets `ADAcquire` either. If the
connect failed before there was a client for the analyser, the lists of the driver are empty: no
write comes to a call of the analyser, and those that take an element of the list of the lens modes
have no defined result. Neither has the one that zeroes the supplies, if there is no client for the
electronics.
-/

namespace PeakAnalyser

set_option autoImplicit false

open Runs

/-! ### Writes without lens modes -/

/-- The list of the lens modes is empty, and the index in it is not negative. -/
structure Driver.Unlinked (d : Driver) : Prop where
  lensModes : d.lensModes = []
  lensMode : 0 ≤ d.int .lensMode

/-- Neither the integers nor the lens modes have changed. -/
structure Driver.Unmoved (d' d : Driver) : Prop where
  int : d'.int = d.int
  lensModes : d'.lensModes = d.lensModes

theorem Driver.Unmoved.unlinked {d d' : Driver} (h : d'.Unmoved d) (hd : d.Unlinked) : d'.Unlinked :=
  ⟨h.lensModes.trans hd.lensModes, by rw [h.int]; exact hd.lensMode⟩

/-- The writes that take an element of the list of the lens modes. -/
def IntParam.takesLensMode (f : IntParam) (value : Int) : Prop :=
  f = .analyserAcquisitionMode ∧ sweepsAngleY value = true ∨ f = .lensMode ∧ value < 0

namespace Driver

variable {d : Driver} (base : ADDriver)

theorem Unlinked.withParams {p : Params} (h : Unlinked d) (hp : 0 ≤ p.int .lensMode) :
    Unlinked (d.withParams p) :=
  ⟨h.lensModes, hp⟩

theorem Unlinked.setIntegerParam {f : IntParam} (h : Unlinked d) (hf : f ≠ .lensMode) (value : Int) :
    Unlinked (d.setIntegerParam f value) :=
  h.withParams (by simpa [hf.symm] using h.lensMode)

/-- `setupSpectrumDefinition` returns at once. -/
theorem setup_unlinked (h : Unlinked d) (reply : AdjustReply) :
    d.setupSpectrumDefinition reply = some d := by
  have hout : d.enumOutOfRange = true := by
    have hlens : d.int .lensMode ≥ d.lensModes.length := by simpa [h.lensModes] using h.lensMode
    simp [enumOutOfRange, hlens]
  unfold setupSpectrumDefinition
  rw [hout]
  rfl

theorem at?_nil {α : Type} (index : Int) : at? ([] : List α) index = none := by
  unfold at?
  split <;> simp

theorem unlinked_limitChannels {f size : IntParam} (h : Unlinked d) (hf : f ≠ .lensMode) (value : Int) :
    Unlinked (d.limitChannels f size value) := by
  unfold limitChannels
  split
  · exact h.setIntegerParam hf _
  · split
    · exact h.setIntegerParam hf _
    · exact h

theorem lensMode_setROI (p : Params) : p.setROI.int .lensMode = p.int .lensMode := by
  unfold Params.setROI
  dsimp only
  split <;> split <;> simp

/-- A write has the same result whatever the server would answer, and none if it takes an element
of the list of the lens modes. -/
theorem writeInt32_unlinked (h : Unlinked d) (f : IntParam) (value : Int) :
    (f.takesLensMode value ∧ ∀ reply, d.writeInt32 base f value reply = none) ∨
    ¬ f.takesLensMode value ∧ ∃ d' action, Unlinked d' ∧
      ∀ reply, d.writeInt32 base f value reply = some (d', action) := by
  have hset : f ≠ .lensMode → Unlinked (d.setIntegerParam f value) :=
    fun hf => h.setIntegerParam hf value
  have hbase : ∀ d' : Driver, Unlinked d' → f ≠ .lensMode →
      Unlinked (d'.withParams (base.writeInt32 d'.toParams f value)) := fun d' h' hf =>
    h'.withParams (by
      rw [base.writeInt32_int _ f value .lensMode hf.symm fun i => by simp]
      exact h'.lensMode)
  have hsetup : ∀ d' : Driver, Unlinked d' → ∃ d'' action, Unlinked d'' ∧
      ∀ reply, (d'.setupSpectrumDefinition reply).map (·, PortAction.none) = some (d'', action) :=
    fun d' h' => ⟨d', .none, h', fun reply => by rw [setup_unlinked h' reply]; rfl⟩
  cases f
  case analyserAcquisitionMode =>
    cases hsweeps : sweepsAngleY value with
    | true =>
      refine Or.inl ⟨Or.inl ⟨rfl, hsweeps⟩, fun reply => ?_⟩
      have hlist : (d.setIntegerParam .analyserAcquisitionMode value).lensModes = [] := h.lensModes
      simp [writeInt32, writeAcquisitionMode, hsweeps, hlist, at?_nil]
    | false =>
      refine Or.inr ⟨by simp [IntParam.takesLensMode, hsweeps], ?_⟩
      obtain ⟨d', action, h', hall⟩ := hsetup _ (hset (by simp))
      refine ⟨d', action, h', fun reply => ?_⟩
      simpa [writeInt32, writeAcquisitionMode, hsweeps] using hall reply
  case lensMode =>
    have hlist : (d.setIntegerParam .lensMode value).lensModes = [] := h.lensModes
    by_cases hvalue : value < 0
    · refine Or.inl ⟨Or.inr ⟨rfl, hvalue⟩, fun reply => ?_⟩
      simp [writeInt32, writeLensMode, hlist, hvalue, at?_nil]
    · refine Or.inr ⟨by simpa [IntParam.takesLensMode] using hvalue, ?_⟩
      refine ⟨((d.setIntegerParam .lensMode value).reportIndex "Lens_Mode" 0).setIntegerParam .lensMode
        (d.int .lensMode), .none, ⟨h.lensModes, by simpa using h.lensMode⟩, fun reply => ?_⟩
      simp [writeInt32, writeLensMode, hlist, hvalue]
  case passEnergy =>
    refine Or.inr ⟨by simp [IntParam.takesLensMode], ?_⟩
    by_cases hvalue : value < d.passEnergies.length
    · obtain ⟨d', action, h', hall⟩ := hsetup _ (hset (by simp))
      refine ⟨d', action, h', fun reply => ?_⟩
      have hlist : value < (d.setIntegerParam .passEnergy value).passEnergies.length := hvalue
      simpa [writeInt32, writePassEnergy, hlist] using hall reply
    · have hlist : ¬ value < (d.setIntegerParam .passEnergy value).passEnergies.length := hvalue
      refine ⟨((d.setIntegerParam .passEnergy value).reportIndex "Pass_Energy"
        d.passEnergies.length).setIntegerParam .passEnergy (d.int .passEnergy), .none,
        ⟨h.lensModes, by simpa using h.lensMode⟩, fun reply => ?_⟩
      simp only [writeInt32, writePassEnergy, if_neg hlist, Option.map_some]
      rfl
  case detectorChannels =>
    refine Or.inr ⟨by simp [IntParam.takesLensMode], ?_⟩
    have hlimited : Unlinked (Driver.limitChannels _ .detectorChannels .adSizeX value) :=
      unlinked_limitChannels (hset (by simp)) (by simp) value
    refine ⟨_, .none, hlimited, fun reply => ?_⟩
    simp only [writeInt32, writeDetectorChannels, setup_unlinked hlimited reply]
    split <;> rfl
  case detectorSlices =>
    refine Or.inr ⟨by simp [IntParam.takesLensMode], ?_⟩
    have hlimited : Unlinked (Driver.limitChannels _ .detectorSlices .adSizeY value) :=
      unlinked_limitChannels (hset (by simp)) (by simp) value
    refine ⟨_, .none, hlimited, fun reply => ?_⟩
    simp only [writeInt32, writeDetectorSlices, setup_unlinked hlimited reply]
    rfl
  case adMinX | adMinY | adSizeX | adSizeY =>
    refine Or.inr ⟨by simp [IntParam.takesLensMode], ?_⟩
    refine hsetup _ ((hset (by simp)).withParams ?_)
    rw [lensMode_setROI]
    exact (hset (by simp)).lensMode
  case energyMode =>
    refine Or.inr ⟨by simp [IntParam.takesLensMode], ?_⟩
    have hmode := hset (by simp)
    refine ⟨(d.setIntegerParam .energyMode value).setStringParam .energyModeStr
      (if value ≠ 0 then "Binding" else "Kinetic"), .none, ⟨hmode.lensModes, hmode.lensMode⟩,
      fun reply => ?_⟩
    simp only [writeInt32, setup_unlinked hmode reply]
    rfl
  case adNumExposures =>
    refine Or.inr ⟨by simp [IntParam.takesLensMode], _, .none, ?_, fun reply => rfl⟩
    refine (hset (by simp)).withParams ?_
    simpa using h.lensMode
  case ndDataType | ndColorMode =>
    refine Or.inr ⟨by simp [IntParam.takesLensMode], _, .none, ?_, fun reply => rfl⟩
    exact (hset (by simp)).setIntegerParam (by simp) _
  case adAcquire | zeroSupplies =>
    exact Or.inr ⟨by simp [IntParam.takesLensMode], _, _, hset (by simp), fun reply => rfl⟩
  all_goals
    refine Or.inr ⟨by simp [IntParam.takesLensMode], _, .none, ?_, fun reply => rfl⟩
    first
      | exact hbase _ (hset (by simp)) (by simp)
      | exact hset (by simp)

theorem writeFloat64_unlinked (h : Unlinked d) (f : FloatParam) (value : ℚ) :
    ∃ d', Unlinked d' ∧ ∀ reply, d.writeFloat64 base f value reply = some d' := by
  have hset : Unlinked (d.setDoubleParam f value) := ⟨h.lensModes, h.lensMode⟩
  have hrequest : ∀ g x, Unlinked ((d.setDoubleParam f value).request g x) :=
    fun _ _ => ⟨h.lensModes, h.lensMode⟩
  have hbase : Unlinked ((d.setDoubleParam f value).withParams
      (base.writeFloat64 (d.setDoubleParam f value).toParams f value)) :=
    hset.withParams (by
      rw [base.writeFloat64_int _ f value .lensMode fun i => by simp]
      exact h.lensMode)
  have hrange : ∀ swept, ∃ d', Unlinked d' ∧ ∀ reply,
      (d.setDoubleParam f value).writeRange f value (d.float f) swept reply = some d' := by
    intro swept
    cases swept with
    | true => exact ⟨_, hrequest f value, fun reply => setup_unlinked (hrequest f value) reply⟩
    | false => exact ⟨((d.setDoubleParam f value).request f value).setDoubleParam f (d.float f),
        ⟨h.lensModes, h.lensMode⟩, fun reply => rfl⟩
  have hcenter : ∀ center low high swept, ∃ d', Unlinked d' ∧ ∀ reply,
      (d.setDoubleParam f value).writeCenter center low high value swept reply = some d' := by
    intro center low high swept
    cases swept with
    | true =>
      refine ⟨_, ?_, fun reply => setup_unlinked ?_ reply⟩ <;>
        exact ⟨h.lensModes, h.lensMode⟩
    | false => exact ⟨_, hrequest center value, fun reply => setup_unlinked (hrequest center value) reply⟩
  cases f
  case excitationEnergy | workFunction =>
    refine ⟨_, hset, fun reply => ?_⟩
    simp only [writeFloat64, setup_unlinked hset reply]
    split <;> rfl
  case focalPositionX | focalPositionY | focalPositionZ | adAcquireTime =>
    exact ⟨_, hset, fun reply => setup_unlinked hset reply⟩
  case analyserCenterSlice =>
    exact ⟨_, hrequest .analyserCenterSlice value, fun reply =>
      setup_unlinked (hrequest .analyserCenterSlice value) reply⟩
  case analyserHighEnergy | analyserLowEnergy | analyserEnergyStep | analyserHighAngleY |
      analyserLowAngleY | analyserAngleYStep =>
    exact hrange _
  case analyserCenterEnergy | analyserCenterAngleY => exact hcenter _ _ _ _
  all_goals
    first
      | exact ⟨_, hbase, fun reply => rfl⟩
      | exact ⟨_, hset, fun reply => rfl⟩

end Driver

/-! ### Runs of a disconnected driver -/

/-- An event of the one call that a write of `ZeroSupplies` makes. -/
def Event.zeroes : Event → Bool
  | .firstFrame => false
  | .issued call | .returned call | .raised call _ => call = .zeroAllSupplies

def Pc.isEntry : Pc → Bool
  | .entry => true
  | _ => false

namespace World

/-- The task waits, or is about to wait, for a start that is not signalled, and without a client for
the electronics nothing has been called. -/
structure Waits (client : Bool) (w : World) : Prop where
  electronics : w.electronics = client
  pc : w.pc = .entry ∧ w.int .adAcquire = 0 ∨ w.pc = .waitStart
  startEvent : w.startEvent = false
  adStatus : w.int .adStatus = adStatusDisconnected
  port : w.port = .idle ∨ ∃ sent, w.port = .calling .zeroAllSupplies sent
  subscribers : w.subscribers = []
  images : w.images = []
  log : ∀ e ∈ w.log, e.zeroes = true
  uncalled : client = false → w.port = .idle ∧ w.log = []

/-- Nobody writes the status, nor a start before the task has come to its first wait. -/
def unforced (w : World) : Label → Bool
  | .write .adStatus _ _ => false
  | .write .adAcquire value _ => !w.pc.isEntry || value = 0
  | _ => true

/-- The value of `ADAcquire` that was written last. -/
def lastAcquire (_ : World) (l : Label) (_ : World) (value : Int) : Int :=
  match l with
  | .write .adAcquire written _ => written
  | _ => value

/-- The write calls the electronics. -/
def callsElectronics (w : World) (f : IntParam) (value : Int) : Prop :=
  f = .zeroSupplies ∧ value = 1 ∧ w.int .adAcquire ≠ adStatusAcquire

variable {w w' : World} {base : ADDriver} {client : Bool}

theorem hasClient_iff {f : IntParam} {value : Int} {reply : AdjustReply} {driver : Driver}
    {action : PortAction} (h : w.driver.writeInt32 base f value reply = some (driver, action)) :
    w.hasClient action = true ↔ (w.callsElectronics f value → w.electronics = true) := by
  unfold callsElectronics World.int
  rw [← Driver.writeInt32_zeroes base h]
  cases action <;> simp [hasClient]

/-- The driver and its port may change, but the task has no reason to go on. -/
theorem Waits.of_driver (h : Waits client w) {driver : Driver} {port : Port}
    (hpc : w.pc = .entry → driver.int .adAcquire = 0)
    (hstatus : driver.int .adStatus = adStatusDisconnected)
    (hport : port = .idle ∨ ∃ sent, port = .calling .zeroAllSupplies sent)
    (hidle : client = false → port = .idle) : Waits client { w with driver, port } where
  electronics := h.electronics
  pc := h.pc.imp (fun hentry => ⟨hentry.1, hpc hentry.1⟩) id
  startEvent := h.startEvent
  adStatus := hstatus
  port := hport
  subscribers := h.subscribers
  images := h.images
  log := h.log
  uncalled := fun hnone => ⟨hidle hnone, (h.uncalled hnone).2⟩

theorem waits_world {d : PeakDriver} (hd : d.Disconnected) (v : Server) :
    Waits d.electronics.isSome (d.world v) where
  electronics := rfl
  pc := Or.inl ⟨rfl, hd.adAcquire⟩
  startEvent := rfl
  adStatus := hd.adStatus
  port := Or.inl rfl
  subscribers := rfl
  images := rfl
  log := fun _ he => absurd he List.not_mem_nil
  uncalled := fun _ => ⟨rfl, rfl⟩

/-- A write leaves at most the call of `ZeroAllSupplies` to be done. -/
theorem disconnected_action {d d' : Driver} {f : IntParam} {value : Int} {reply : AdjustReply}
    {action : PortAction} (hstatus : d.int .adStatus = adStatusDisconnected)
    (h : d.writeInt32 base f value reply = some (d', action)) :
    action = .none ∨ action = .zeroAllSupplies := by
  by_cases hacquire : f = .adAcquire
  · subst hacquire
    rw [Driver.writeInt32_adAcquire] at h
    obtain ⟨-, rfl⟩ := Prod.mk.inj (Option.some.inj h)
    left
    simp [Driver.acquireAction, hstatus, adStatusAcquire, adStatusDisconnected]
  · by_cases hzero : f = .zeroSupplies
    · subst hzero
      rw [Driver.writeInt32_zeroSupplies] at h
      obtain ⟨-, rfl⟩ := Prod.mk.inj (Option.some.inj h)
      unfold Driver.zeroAction
      split
      · exact Or.inr rfl
      · exact Or.inl rfl
    · exact Or.inl (Driver.writeInt32_action base h hacquire hzero)

theorem waits_write {f : IntParam} {value : Int} {reply : AdjustReply} (h : Waits client w)
    (hok : w.unforced (.write f value reply) = true) (hstep : w.step base (.write f value reply) = some w') :
    Waits client w' ∧
      w'.int .adAcquire = lastAcquire w (.write f value reply) w' (w.int .adAcquire) := by
  have hf : f ≠ .adStatus := by
    rintro rfl
    cases hok
  obtain ⟨hidle, driver, action, hwrite, rfl⟩ := step_write hstep
  have hstatus : driver.int .adStatus = adStatusDisconnected :=
    (Driver.writeInt32_int base hwrite rfl hf.symm).trans h.adStatus
  have hacquire : driver.int .adAcquire =
      lastAcquire w (.write f value reply) w (w.int .adAcquire) := by
    by_cases hfa : f = .adAcquire
    · subst hfa
      rw [Driver.writeInt32_adAcquire] at hwrite
      obtain ⟨rfl, -⟩ := Prod.mk.inj (Option.some.inj hwrite)
      simp [lastAcquire]
    · have hsame := Driver.writeInt32_int base hwrite (q := .adAcquire) rfl (Ne.symm hfa)
      cases f <;> first | exact hsame | exact absurd rfl hfa
  have hentry : w.pc = .entry → driver.int .adAcquire = 0 := by
    intro hpc
    rw [hacquire]
    have hbefore : w.int .adAcquire = 0 := by
      rcases h.pc with hentry | hwait
      · exact hentry.2
      · rw [hpc] at hwait
        cases hwait
    cases f <;> first | exact hbefore | simpa [unforced, hpc, Pc.isEntry, lastAcquire] using hok
  refine ⟨?_, ?_⟩
  · rcases disconnected_action h.adStatus hwrite with rfl | rfl
    · exact h.of_driver hentry hstatus h.port fun hnone => (h.uncalled hnone).1
    · refine h.of_driver hentry hstatus (Or.inr ⟨false, rfl⟩) fun hnone => ?_
      -- without a client, the call is not defined
      rw [step_of_writeInt32 hidle hwrite] at hstep
      simp [hasClient, h.electronics, hnone] at hstep
  · cases action <;> exact hacquire

/-- The task comes to its wait and stays there. -/
theorem waits_task {reply : Reply} (h : Waits client w) (hstep : w.taskStep reply = some w') :
    Waits client w' ∧ w'.driver.Unmoved w.driver := by
  rcases h.pc with ⟨hpc, hacquire⟩ | hpc
  · have hidle : ¬ w.int .adStatus = adStatusIdle := by
      rw [h.adStatus]
      decide
    simp only [taskStep, hpc, locked] at hstep
    split at hstep
    · obtain rfl := Option.some.inj hstep
      have hhead : w.loopHead = { w with task := { w.task with acquire := 0 }, pc := .waitStart } := by
        have hacquire : w.driver.int .adAcquire = 0 := hacquire
        have hidle : ¬ w.driver.int .adStatus = adStatusIdle := hidle
        unfold loopHead World.int
        dsimp only
        rw [if_pos hacquire, if_neg hidle, hacquire]
      rw [hhead]
      exact ⟨⟨h.electronics, Or.inr rfl, h.startEvent, h.adStatus, h.port, h.subscribers, h.images,
        h.log, h.uncalled⟩, rfl, rfl⟩
    · cases hstep
  · simp [taskStep, hpc, h.startEvent] at hstep

theorem waits_port {reply : Reply} (h : Waits client w) (hstep : w.portStep reply = some w') :
    Waits client w' ∧ w'.driver.Unmoved w.driver := by
  rcases h.port with hport | ⟨sent, hport⟩
  · simp [portStep, hport] at hstep
  · have hlog : ∀ e : Event, e.zeroes = true → ∀ e' ∈ e :: w.log, e'.zeroes = true := by
      intro e he e' he'
      rcases List.mem_cons.mp he' with rfl | hin
      · exact he
      · exact h.log e' hin
    have hclient : ∀ {p : Prop}, client = false → p := by
      intro p hnone
      have hidle := (h.uncalled hnone).1
      rw [hport] at hidle
      cases hidle
    cases sent with
    | false =>
      simp only [portStep, hport] at hstep
      obtain rfl := Option.some.inj hstep
      exact ⟨⟨h.electronics, h.pc, h.startEvent, h.adStatus, Or.inr ⟨true, rfl⟩, h.subscribers,
        h.images, hlog _ rfl, hclient⟩, rfl, rfl⟩
    | true =>
      have hzeroes : (reply.event PortCall.zeroAllSupplies.call).zeroes = true := by
        cases reply <;> rfl
      simp only [portStep, hport] at hstep
      split at hstep
      · obtain rfl := Option.some.inj hstep
        exact ⟨⟨h.electronics, h.pc, h.startEvent, h.adStatus, Or.inl rfl, h.subscribers, h.images,
          hlog _ hzeroes, hclient⟩, rfl, rfl⟩
      · obtain rfl := Option.some.inj hstep
        exact ⟨⟨h.electronics, h.pc, h.startEvent, h.adStatus, Or.inl rfl, h.subscribers, h.images,
          hlog _ hzeroes, hclient⟩, rfl, rfl⟩

/-- What a step leaves: the task still waits, `ADAcquire` is what was last written, and a driver
without lens modes remains one. -/
theorem waits_step {l : Label} (h : Waits client w) (hok : w.unforced l = true)
    (hstep : w.step base l = some w') :
    Waits client w' ∧ w'.int .adAcquire = lastAcquire w l w' (w.int .adAcquire) ∧
      (w.driver.Unlinked → w'.driver.Unlinked) := by
  cases l with
  | write f value reply =>
    obtain ⟨hwaits, hacquire⟩ := waits_write h hok hstep
    refine ⟨hwaits, hacquire, fun hunlinked => ?_⟩
    obtain ⟨-, driver, action, hwrite, rfl⟩ := step_write hstep
    rcases Driver.writeInt32_unlinked base hunlinked f value with ⟨-, hnone⟩ | ⟨-, d', action', h', hall⟩
    · rw [hnone reply] at hwrite
      cases hwrite
    · obtain ⟨rfl, rfl⟩ := Prod.mk.inj (Option.some.inj ((hall reply).symm.trans hwrite))
      cases action' <;> exact h'
  | writeFloat f value reply =>
    simp only [World.step] at hstep
    split at hstep
    · obtain ⟨driver, hwrite, rfl⟩ := Option.map_eq_some_iff.mp hstep
      have hint : ∀ q, q.isControl = true → driver.int q = w.int q :=
        fun q hq => Driver.writeFloat64_int base hwrite hq
      refine ⟨h.of_driver (fun hpc => ?_) ((hint .adStatus rfl).trans h.adStatus) h.port
        fun hnone => (h.uncalled hnone).1, hint .adAcquire rfl, fun hunlinked => ?_⟩
      · rw [hint .adAcquire rfl]
        rcases h.pc with hentry | hwait
        · exact hentry.2
        · rw [hpc] at hwait
          cases hwait
      · obtain ⟨d', h', hall⟩ := Driver.writeFloat64_unlinked base hunlinked f value
        obtain rfl := Option.some.inj ((hall reply).symm.trans hwrite)
        exact h'
    · cases hstep
  | task reply =>
    obtain ⟨hwaits, hunmoved⟩ := waits_task h hstep
    exact ⟨hwaits, congrFun hunmoved.int .adAcquire, hunmoved.unlinked⟩
  | port reply =>
    obtain ⟨hwaits, hunmoved⟩ := waits_port h hstep
    exact ⟨hwaits, congrFun hunmoved.int .adAcquire, hunmoved.unlinked⟩
  | exposureEnd how =>
    obtain ⟨server, -, rfl⟩ := Option.map_eq_some_iff.mp hstep
    exact ⟨⟨h.electronics, h.pc, h.startEvent, h.adStatus, h.port, h.subscribers, h.images, h.log,
      h.uncalled⟩, rfl, id⟩
  | notify index keep =>
    simp only [World.step, deliver] at hstep
    split at hstep
    · obtain rfl := Option.some.inj hstep
      rw [stateCallback, if_neg (by simp [h.subscribers])]
      exact ⟨⟨h.electronics, h.pc, h.startEvent, h.adStatus, h.port, h.subscribers, h.images, h.log,
        h.uncalled⟩, rfl, id⟩
    · cases hstep
  | spectrumUpdate settings => simp [World.step, h.subscribers] at hstep
  | otherClient state keepsOwn =>
    obtain rfl := Option.some.inj hstep
    exact ⟨⟨h.electronics, h.pc, h.startEvent, h.adStatus, h.port, h.subscribers, h.images, h.log,
      h.uncalled⟩, rfl, id⟩

/-- In every run of a driver that the constructor has left disconnected, the task never gets past
its first wait: no call but `ZeroAllSupplies` is made, and that only if there is a client for the
electronics, there are no images, and `ADAcquire` keeps what was last written. -/
theorem disconnected_run {d : PeakDriver} {v : Server} {t : World × Int} (hd : d.Disconnected)
    (hrun : Run (tallied (World.step base) lastAcquire) (fun s l => s.1.unforced l = true)
      (d.world v, 0) t) : t.1.Waits d.electronics.isSome ∧ t.1.int .adAcquire = t.2 := by
  refine hrun.invariant (P := fun s => s.1.Waits d.electronics.isSome ∧ s.1.int .adAcquire = s.2)
    (fun s l s' hs hok hstep => ?_) ⟨waits_world hd v, hd.adAcquire⟩
  obtain ⟨hnext, hcount⟩ := tallied_eq_some.mp hstep
  obtain ⟨hwaits, hacquire, -⟩ := waits_step hs.1 hok hnext
  refine ⟨hwaits, ?_⟩
  rw [hcount, hacquire, hs.2]

/-- The driver of the bench, after a connect that failed before there was a client. -/
def benchOff : PeakDriver := { benchDriver with toDriver := benchDriver.toDriver.disconnected }

theorem disconnected_benchOff : benchOff.Disconnected where
  adStatus := rfl
  adStatusMessage := rfl
  adAcquire := rfl
  unlinked _ := ⟨rfl, le_refl 0⟩

theorem disconnected_run_benchOff : ∃ t : World × Int, t.2 = 1 ∧ t.1.Waits false ∧
    t.1.int .adAcquire = t.2 := by
  have hreached : reaches (tallied (World.step (.store 8)) lastAcquire)
      (fun s l => s.1.unforced l = true) (benchOff.world { state := .active }, 0)
      [.task .ok, .write .adAcquire 1 .raised] (fun t => t.2 = 1) = true := by decide +kernel
  obtain ⟨t, hrun, htest⟩ := run_of_reaches hreached
  exact ⟨t, of_decide_eq_true htest, disconnected_run disconnected_benchOff hrun⟩

end World

end PeakAnalyser

import PeakAnalyser.Writes

/-!
# What a write leaves alone

The parameters by which clients and `acquisitionTask` control an acquisition are
changed by a write of that very parameter only: neither the reply of the server
nor the base class touches them.
-/

namespace PeakAnalyser

set_option autoImplicit false

/-- The parameters that control an acquisition. -/
def IntParam.isControl : IntParam → Bool
  | .ndArrayCounter | .ndArrayCallbacks | .adAcquire | .adStatus | .adImageMode
  | .adNumExposures | .adNumExposuresCounter | .adNumImages | .adNumImagesCounter => true
  | _ => false

theorem IntParam.ne_of_isControl {q p : IntParam} (hq : q.isControl = true)
    (hp : p.isControl = false) : q ≠ p := by
  rintro rfl
  simp [hq] at hp

namespace Params

variable {p : Params} {q : IntParam}

@[simp] theorem int_setETA (eta : Number) : (p.setETA eta).int = p.int := by
  cases eta <;> rfl

@[simp] theorem int_setAxis (low step high center : FloatParam) (axis : Axis) :
    (p.setAxis low step high center axis).int = p.int := rfl

theorem int_setRegion (settings : ChannelSettings) (hq : q.isControl = true) :
    (p.setRegion settings).int q = p.int q := by
  have hne := fun r => IntParam.ne_of_isControl (p := r) hq
  simp [setRegion, hne .analyserEnergyCount rfl, hne .analyserSliceCount rfl,
    hne .analyserAngleYCount rfl, hne .acqNumSteps rfl, hne .acqNumStepsCounter rfl]

theorem int_setROI (hq : q.isControl = true) : p.setROI.int q = p.int q := by
  have hX := IntParam.ne_of_isControl (p := .adSizeX) hq rfl
  have hY := IntParam.ne_of_isControl (p := .adSizeY) hq rfl
  unfold setROI
  dsimp only
  split <;> split <;> simp [hX, hY]

end Params

namespace Driver

variable {d d' : Driver} {q : IntParam}

@[simp] theorem int_withParams (p : Params) : (d.withParams p).int = p.int := rfl

@[simp] theorem int_setIntegerParam (f : IntParam) (v : Int) :
    (d.setIntegerParam f v).int q = if q = f then v else d.int q :=
  Params.int_setIntegerParam ..

@[simp] theorem int_setDoubleParam (f : FloatParam) (x : ℚ) :
    (d.setDoubleParam f x).int = d.int := rfl

@[simp] theorem int_setStringParam (f : StringParam) (t : String) :
    (d.setStringParam f t).int = d.int := rfl

@[simp] theorem int_report (text : String) : (d.report text).int = d.int := rfl

@[simp] theorem int_reportNoThetaY (lens : LensModeSetting) :
    (d.reportNoThetaY lens).int = d.int := rfl

@[simp] theorem int_reportIndex (record : String) (size : Nat) :
    (d.reportIndex record size).int = d.int := rfl

@[simp] theorem int_request (f : FloatParam) (x : ℚ) : (d.request f x).int = d.int := rfl

@[simp] theorem int_rescaleETA (oldValue value : Int) : (d.rescaleETA oldValue value).int = d.int :=
  Params.int_setETA _

theorem int_setPassEnergy (passEnergy : ℚ) (hq : q.isControl = true) :
    (d.setPassEnergy passEnergy).int q = d.int q := by
  have hne := IntParam.ne_of_isControl (p := .passEnergy) hq rfl
  unfold setPassEnergy
  split <;> simp [hne]

theorem int_adjusted (reply : AdjustReply) (hq : q.isControl = true) :
    (d.adjusted reply).int q = d.int q := by
  cases reply with
  | raised => rfl
  | adjusted settings wallClockTime => simp [adjusted, Params.int_setRegion settings hq]

theorem int_setupSpectrumDefinition {reply : AdjustReply} (hq : q.isControl = true)
    (h : d.setupSpectrumDefinition reply = some d') : d'.int q = d.int q := by
  unfold setupSpectrumDefinition at h
  split at h
  · obtain rfl := Option.some.inj h
    rfl
  · simp only [Option.bind_eq_bind, Option.bind_eq_some_iff] at h
    obtain ⟨requested, _, lens, _, elementSet, _, detectorMode, _, passEnergy, _, h⟩ := h
    split at h
    · obtain rfl := Option.some.inj h
      simp [int_setPassEnergy _ hq]
    · obtain rfl := Option.some.inj h
      rw [int_adjusted reply hq]
      simp [int_setPassEnergy _ hq]

theorem int_limitChannels (f size : IntParam) (v : Int) (hq : q.isControl = true)
    (hf : f.isControl = false) : (d.limitChannels f size v).int q = d.int q := by
  have hne := IntParam.ne_of_isControl hq hf
  unfold limitChannels
  split
  · simp [hne]
  · split <;> simp [hne]

theorem int_writeAcquisitionMode {oldValue value : Int} {reply : AdjustReply}
    (hq : q.isControl = true) (h : d.writeAcquisitionMode oldValue value reply = some d') :
    d'.int q = d.int q := by
  unfold writeAcquisitionMode at h
  split at h
  · simp only [Option.bind_eq_bind, Option.bind_eq_some_iff] at h
    obtain ⟨lens, _, h⟩ := h
    split at h
    · exact int_setupSpectrumDefinition hq h
    · obtain rfl := Option.some.inj h
      simp [IntParam.ne_of_isControl (p := .analyserAcquisitionMode) hq rfl]
  · exact int_setupSpectrumDefinition hq h

theorem int_writeLensMode {oldValue value : Int} {reply : AdjustReply}
    (hq : q.isControl = true) (h : d.writeLensMode oldValue value reply = some d') :
    d'.int q = d.int q := by
  have hne := fun r => IntParam.ne_of_isControl (p := r) hq
  unfold writeLensMode at h
  split at h
  · simp only [Option.bind_eq_bind, Option.bind_eq_some_iff] at h
    obtain ⟨lens, _, h⟩ := h
    split at h
    · obtain rfl := Option.some.inj h
      simp [hne .lensMode rfl]
    · rw [int_setupSpectrumDefinition hq h]
      simp [hne .analyserWithSlice rfl, hne .analyserWithAngleY rfl]
  · obtain rfl := Option.some.inj h
    simp [hne .lensMode rfl]

theorem int_writePassEnergy {oldValue value : Int} {reply : AdjustReply}
    (hq : q.isControl = true) (h : d.writePassEnergy oldValue value reply = some d') :
    d'.int q = d.int q := by
  unfold writePassEnergy at h
  split at h
  · exact int_setupSpectrumDefinition hq h
  · obtain rfl := Option.some.inj h
    simp [IntParam.ne_of_isControl (p := .passEnergy) hq rfl]

theorem int_writeDetectorChannels {value : Int} {reply : AdjustReply}
    (hq : q.isControl = true) (h : d.writeDetectorChannels value reply = some d') :
    d'.int q = d.int q := by
  unfold writeDetectorChannels at h
  dsimp only at h
  split at h
  · obtain rfl := Option.some.inj h
    exact int_limitChannels _ _ _ hq rfl
  · rw [int_setupSpectrumDefinition hq h, int_limitChannels _ _ _ hq rfl]

theorem int_writeDetectorSlices {value : Int} {reply : AdjustReply}
    (hq : q.isControl = true) (h : d.writeDetectorSlices value reply = some d') :
    d'.int q = d.int q := by
  rw [int_setupSpectrumDefinition hq h, int_limitChannels _ _ _ hq rfl]

theorem int_writeROI {reply : AdjustReply} (hq : q.isControl = true)
    (h : (d.withParams d.toParams.setROI).setupSpectrumDefinition reply = some d') :
    d'.int q = d.int q := by
  rw [int_setupSpectrumDefinition hq h, int_withParams, Params.int_setROI hq]

variable (base : ADDriver)

theorem writeInt32_adAcquire (d : Driver) (value : Int) (reply : AdjustReply) :
    d.writeInt32 base .adAcquire value reply =
      some (d.setIntegerParam .adAcquire value,
        (d.setIntegerParam .adAcquire value).acquireAction value) := rfl

theorem writeInt32_zeroSupplies (d : Driver) (value : Int) (reply : AdjustReply) :
    d.writeInt32 base .zeroSupplies value reply =
      some (d.setIntegerParam .zeroSupplies value,
        (d.setIntegerParam .zeroSupplies value).zeroAction value) := rfl

/-- A write that is not for the port. -/
theorem map_fst_none (o : Option Driver) :
    (o.map (·, PortAction.none)).map Prod.fst = o := by
  cases o <;> rfl

theorem of_map_none {o : Option Driver} {action : PortAction}
    (h : o.map (·, PortAction.none) = some (d', action)) : o = some d' ∧ action = .none := by
  obtain ⟨_, ho, hd⟩ := Option.map_eq_some_iff.mp h
  obtain ⟨rfl, rfl⟩ := Prod.mk.inj hd
  exact ⟨ho, rfl⟩

/-- Only writes of `ADAcquire` and `ZeroSupplies` leave something to do. -/
theorem writeInt32_action {f : IntParam} {v : Int} {reply : AdjustReply} {action : PortAction}
    (h : d.writeInt32 base f v reply = some (d', action)) (hA : f ≠ .adAcquire)
    (hZ : f ≠ .zeroSupplies) : action = .none := by
  cases f
  case adAcquire => exact absurd rfl hA
  case zeroSupplies => exact absurd rfl hZ
  case energyMode =>
    obtain ⟨_, _, hd⟩ := Option.map_eq_some_iff.mp h
    exact (Prod.mk.inj hd).2.symm
  case analyserAcquisitionMode | detectorChannels | detectorSlices | lensMode | passEnergy |
      adMinX | adMinY | adSizeX | adSizeY =>
    exact (of_map_none h).2
  all_goals exact (Prod.mk.inj (Option.some.inj h)).2.symm

/-- Which writes call the electronics. -/
theorem writeInt32_zeroes {f : IntParam} {v : Int} {reply : AdjustReply} {action : PortAction}
    (h : d.writeInt32 base f v reply = some (d', action)) : action = .zeroAllSupplies ↔
      f = .zeroSupplies ∧ v = 1 ∧ d.int .adAcquire ≠ adStatusAcquire := by
  by_cases hacquire : f = .adAcquire
  · subst hacquire
    rw [writeInt32_adAcquire] at h
    obtain ⟨-, rfl⟩ := Prod.mk.inj (Option.some.inj h)
    unfold acquireAction
    dsimp only
    split
    · simp
    · split <;> simp
  · by_cases hzero : f = .zeroSupplies
    · subst hzero
      rw [writeInt32_zeroSupplies] at h
      obtain ⟨-, rfl⟩ := Prod.mk.inj (Option.some.inj h)
      unfold zeroAction
      simp
    · simp [writeInt32_action base h hacquire hzero, hzero]

/-- A write changes no control parameter other than the one written. -/
theorem writeInt32_int {f : IntParam} {v : Int} {reply : AdjustReply} {action : PortAction}
    (h : d.writeInt32 base f v reply = some (d', action)) (hq : q.isControl = true)
    (hne : q ≠ f) : d'.int q = d.int q := by
  have hset : (d.setIntegerParam f v).int q = d.int q := by simp [hne]
  have hbase : ∀ p, (base.writeInt32 p f v).int q = p.int q :=
    fun p => base.writeInt32_int p f v q hne fun i => IntParam.ne_of_isControl hq rfl
  cases f
  case analyserAcquisitionMode =>
    exact (int_writeAcquisitionMode hq (of_map_none h).1).trans hset
  case detectorChannels => exact (int_writeDetectorChannels hq (of_map_none h).1).trans hset
  case detectorSlices => exact (int_writeDetectorSlices hq (of_map_none h).1).trans hset
  case lensMode => exact (int_writeLensMode hq (of_map_none h).1).trans hset
  case passEnergy => exact (int_writePassEnergy hq (of_map_none h).1).trans hset
  case adMinX | adMinY | adSizeX | adSizeY =>
    exact (int_writeROI hq (of_map_none h).1).trans hset
  case energyMode =>
    obtain ⟨_, hw, hd⟩ := Option.map_eq_some_iff.mp h
    obtain ⟨rfl, rfl⟩ := Prod.mk.inj hd
    rw [int_setStringParam, int_setupSpectrumDefinition hq hw, hset]
  case ndDataType | ndColorMode =>
    obtain ⟨rfl, -⟩ := Prod.mk.inj (Option.some.inj h)
    simp [hne]
  case adNumExposures =>
    obtain ⟨rfl, -⟩ := Prod.mk.inj (Option.some.inj h)
    rw [int_rescaleETA, hset]
  all_goals
    obtain ⟨rfl, -⟩ := Prod.mk.inj (Option.some.inj h)
    first
      | exact hset
      | rw [int_withParams, hbase]; exact hset

theorem int_writeRange {f : FloatParam} {v old : ℚ} {swept : Bool} {reply : AdjustReply}
    (hq : q.isControl = true) (h : d.writeRange f v old swept reply = some d') :
    d'.int q = d.int q := by
  unfold writeRange at h
  dsimp only at h
  split at h
  · rw [int_setupSpectrumDefinition hq h, int_request]
  · obtain rfl := Option.some.inj h
    rfl

theorem int_writeCenter {center low high : FloatParam} {v : ℚ} {swept : Bool}
    {reply : AdjustReply} (hq : q.isControl = true)
    (h : d.writeCenter center low high v swept reply = some d') : d'.int q = d.int q := by
  unfold writeCenter at h
  dsimp only at h
  rw [int_setupSpectrumDefinition hq h]
  split <;> rfl

theorem writeFloat64_int {f : FloatParam} {v : ℚ} {reply : AdjustReply}
    (h : d.writeFloat64 base f v reply = some d') (hq : q.isControl = true) :
    d'.int q = d.int q := by
  have hbase : ∀ p, (base.writeFloat64 p f v).int q = p.int q :=
    fun p => base.writeFloat64_int p f v q fun i => IntParam.ne_of_isControl hq rfl
  cases f
  case excitationEnergy | workFunction =>
    simp only [writeFloat64] at h
    split at h
    · rw [int_setupSpectrumDefinition hq h, int_setDoubleParam]
    · obtain rfl := Option.some.inj h
      rfl
  case focalPositionX | focalPositionY | focalPositionZ | adAcquireTime | analyserCenterSlice =>
    rw [int_setupSpectrumDefinition hq h]
    rfl
  case analyserHighEnergy | analyserLowEnergy | analyserEnergyStep | analyserHighAngleY |
      analyserLowAngleY | analyserAngleYStep =>
    rw [int_writeRange hq h, int_setDoubleParam]
  case analyserCenterEnergy | analyserCenterAngleY =>
    rw [int_writeCenter hq h, int_setDoubleParam]
  all_goals
    obtain rfl := Option.some.inj h
    first
      | rfl
      | rw [int_withParams, hbase]; rfl

end Driver

end PeakAnalyser

import PeakAnalyser.Library.Lockstep
import PeakAnalyser.Selections

/-!
# Requests and readbacks

`setRegion` stores what the server answers in the parameters that clients write.
The definition is built from the requests of the clients, never from what a reply
has left in these parameters.
-/

namespace PeakAnalyser

set_option autoImplicit false

open Runs Lockstep

/-- The base class stores what is written to the two maximum sizes, as it does for every
parameter of its own. -/
def ADDriver.StoresMaxSizes (base : ADDriver) : Prop :=
  ∀ p value, (base.writeInt32 p .adMaxSizeX value).int .adMaxSizeX = value ∧
    (base.writeInt32 p .adMaxSizeY value).int .adMaxSizeY = value

/-- The integers that decide over a definition, now or at a later write. -/
def IntParam.isRequest (q : IntParam) : Bool :=
  q.selects || q == .passEnergy || q == .adMaxSizeX || q == .adMaxSizeY

theorem IntParam.isRequest_cases {q : IntParam} (hq : q.isRequest = true) :
    q.selects = true ∨ q = .passEnergy ∨ q = .adMaxSizeX ∨ q = .adMaxSizeY := by
  simpa [IntParam.isRequest, or_assoc] using hq

theorem IntParam.not_readback_of_isRequest {q : IntParam} (hq : q.isRequest = true) :
    q.isReadback = false := by
  cases q <;> first | rfl | cases hq

/-- A write of a client, without the reply that it meets with. -/
inductive ClientWrite where
  | int (function : IntParam) (value : Int)
  | float (function : FloatParam) (value : ℚ)

/-- What comes from the server between the last write and the end of this one: the settings of
the spectrum updates, and the reply of `AdjustSpectrumDefinition`. -/
structure Answers where
  updates : List ChannelSettings
  reply : AdjustReply

namespace Driver

variable {a b c : Driver}

def ClientWrite.write (reply : AdjustReply) : ClientWrite → Write
  | .int function value => .int function value reply
  | .float function value => .float function value reply

/-- `setRegion` as the SpectrumUpdate callback runs it. -/
def spectrumUpdated (d : Driver) (settings : ChannelSettings) : Driver :=
  d.withParams (d.toParams.setRegion settings)

def answeredWrite (base : ADDriver) (d : Driver) (label : ClientWrite × Answers) : Option Driver :=
  (label.2.updates.foldl spectrumUpdated d).write base (ClientWrite.write label.2.reply label.1)

/-- The two drivers differ at most in readbacks. -/
structure SameRequests (a b : Driver) : Prop extends Alike a b where
  definition : b.spectrumDefinition = a.spectrumDefinition
  request : ∀ q, q.isRequest = true → b.int q = a.int q

theorem SameRequests.refl (a : Driver) : SameRequests a a := ⟨.refl a, rfl, fun _ _ => rfl⟩

theorem SameRequests.trans (h : SameRequests a b) (h' : SameRequests b c) : SameRequests a c :=
  ⟨h.toAlike.trans h'.toAlike, h'.definition.trans h.definition,
    fun q hq => (h'.request q hq).trans (h.request q hq)⟩

theorem SameRequests.symm (h : SameRequests a b) : SameRequests b a where
  elementsets := h.elementsets.symm
  lensModes := h.lensModes.symm
  passEnergies := h.passEnergies.symm
  detectorModes := h.detectorModes.symm
  requestedAxes := h.requestedAxes.symm
  pixelDensity := h.pixelDensity.symm
  channelCenterX := h.channelCenterX.symm
  channelCenterY := h.channelCenterY.symm
  int q hq := (h.int q hq).symm
  float r hr := (h.float r hr).symm
  definition := h.definition.symm
  request q hq := (h.request q hq).symm

/-- The parameters of both sides change, and those that matter remain the same. -/
theorem SameRequests.withParams {p p' : Params} (h : SameRequests a b)
    (hint : ∀ q, q.isRequest = true → p'.int q = p.int q)
    (hfloat : ∀ r, r.selects = true → p'.float r = p.float r) :
    SameRequests (a.withParams p) (b.withParams p') where
  elementsets := h.elementsets
  lensModes := h.lensModes
  passEnergies := h.passEnergies
  detectorModes := h.detectorModes
  requestedAxes := h.requestedAxes
  pixelDensity := h.pixelDensity
  channelCenterX := h.channelCenterX
  channelCenterY := h.channelCenterY
  int q hq := hint q (by simp [IntParam.isRequest, hq])
  float := hfloat
  definition := h.definition
  request := hint

theorem sameRequests_withParams {p : Params} (hint : ∀ q, q.isRequest = true → p.int q = a.int q)
    (hfloat : ∀ r, r.selects = true → p.float r = a.float r) :
    SameRequests a (a.withParams p) :=
  (SameRequests.refl a).withParams hint hfloat

theorem SameRequests.setIntegerParam (h : SameRequests a b) (f : IntParam) (value : Int) :
    SameRequests (a.setIntegerParam f value) (b.setIntegerParam f value) := by
  refine h.withParams (fun q hq => ?_) h.float
  simp only [Params.int_setIntegerParam]
  split
  · rfl
  · exact h.request q hq

theorem SameRequests.setDoubleParam (h : SameRequests a b) (f : FloatParam) (value : ℚ) :
    SameRequests (a.setDoubleParam f value) (b.setDoubleParam f value) := by
  refine h.withParams h.request fun r hr => ?_
  simp only [Params.float_setDoubleParam]
  split
  · rfl
  · exact h.float r hr

theorem SameRequests.setStringParam (h : SameRequests a b) (f : StringParam) (text : String) :
    SameRequests (a.setStringParam f text) (b.setStringParam f text) :=
  h.withParams h.request h.float

theorem SameRequests.request_axis (h : SameRequests a b) (f : FloatParam) (value : ℚ) :
    SameRequests (a.request f value) (b.request f value) where
  elementsets := h.elementsets
  lensModes := h.lensModes
  passEnergies := h.passEnergies
  detectorModes := h.detectorModes
  requestedAxes := by
    change Function.update b.requestedAxes f value = Function.update a.requestedAxes f value
    rw [h.requestedAxes]
  pixelDensity := h.pixelDensity
  channelCenterX := h.channelCenterX
  channelCenterY := h.channelCenterY
  int := h.int
  float := h.float
  definition := h.definition
  request := h.request

/-! ### What the server answers -/

theorem sameRequests_setRegion (a : Driver) (settings : ChannelSettings) :
    SameRequests a (a.spectrumUpdated settings) :=
  sameRequests_withParams
    (fun _ hq => int_setRegion_readback a.toParams settings (IntParam.not_readback_of_isRequest hq))
    (setRegion_spares a.toParams settings).2

theorem sameRequests_updates (a : Driver) (updates : List ChannelSettings) :
    SameRequests a (updates.foldl spectrumUpdated a) := by
  induction updates generalizing a with
  | nil => exact .refl a
  | cons settings rest ih => exact (sameRequests_setRegion a settings).trans (ih _)

theorem sameRequests_adjusted (a : Driver) (reply : AdjustReply) :
    SameRequests a (a.adjusted reply) := by
  cases reply with
  | raised => exact .refl a
  | adjusted settings wallClockTime =>
    apply (sameRequests_setRegion a settings).trans
    obtain ⟨hint, hfloat⟩ := setETA_spares (a.toParams.setRegion settings)
      (.finite (wallClockTime * a.int .adNumExposures))
    exact sameRequests_withParams (fun q _ => congrFun hint q) (fun r _ => congrFun hfloat r)

/-! ### The same request on both sides -/

/-- Both sides have a defined outcome, or neither, and the outcomes differ in readbacks at most. -/
def SameOutcome (o o' : Option Driver) : Prop := Option.Rel SameRequests o o'

theorem SameRequests.setPassEnergy (h : SameRequests a b) (passEnergy : ℚ) :
    SameRequests (a.setPassEnergy passEnergy) (b.setPassEnergy passEnergy) := by
  unfold Driver.setPassEnergy
  rw [h.passEnergies]
  split
  · exact (h.setIntegerParam _ _).setDoubleParam _ _
  · exact h

theorem SameRequests.outOfRange (h : SameRequests a b) : b.enumOutOfRange = a.enumOutOfRange := by
  unfold enumOutOfRange
  rw [h.elementsets, h.lensModes, h.passEnergies, h.detectorModes, h.request .elementSet rfl,
    h.request .lensMode rfl, h.request .passEnergy rfl, h.request .detectorMode rfl]

theorem SameRequests.of_definition (h : SameRequests a b) {definition definition' : SpectrumDefinition}
    (heq : definition' = definition) :
    SameRequests { a with spectrumDefinition := definition }
      { b with spectrumDefinition := definition' } :=
  ⟨⟨h.elementsets, h.lensModes, h.passEnergies, h.detectorModes, h.requestedAxes, h.pixelDensity,
    h.channelCenterX, h.channelCenterY, h.int, h.float⟩, heq, h.request⟩

theorem SameRequests.adjusted (h : SameRequests a b) (reply reply' : AdjustReply) :
    SameRequests (a.adjusted reply) (b.adjusted reply') :=
  ((sameRequests_adjusted a reply).symm.trans h).trans (sameRequests_adjusted b reply')

/-- Whatever the two replies are, the two rebuilds store the same definition. -/
theorem same_setup (h : SameRequests a b) (reply reply' : AdjustReply) :
    SameOutcome (a.setupSpectrumDefinition reply) (b.setupSpectrumDefinition reply') := by
  unfold setupSpectrumDefinition
  rw [h.outOfRange]
  split
  · exact .some h
  · simp only [h.passEnergies, h.request .passEnergy rfl, h.lensModes, h.request .lensMode rfl]
    refine rel_bind_same _ fun requested => rel_bind_same _ fun lens => ?_
    have hpass := h.setPassEnergy (clamp requested lens.passEnergyRange)
    simp only [hpass.elementsets, hpass.request .elementSet rfl, hpass.detectorModes,
      hpass.request .detectorMode rfl, hpass.passEnergies, hpass.request .passEnergy rfl]
    refine rel_bind_same _ fun elementSet => rel_bind_same _ fun detectorMode =>
      rel_bind_same _ fun passEnergy => ?_
    have hlabelled := (((hpass.setStringParam .elementSetStr elementSet).setStringParam .lensModeStr
      lens.name).setStringParam .detectorModeStr detectorMode).setDoubleParam .passEnergyValue
      passEnergy
    rw [hlabelled.refused]
    split
    · exact .some hlabelled
    · refine .some ((hlabelled.of_definition ?_).adjusted reply reply')
      rw [hlabelled.filled]

/-! ### The writes of integers -/

theorem SameRequests.report (h : SameRequests a b) (text : String) :
    SameRequests (a.report text) (b.report text) :=
  h.setStringParam _ _

theorem SameRequests.limitChannels (h : SameRequests a b) (f size : IntParam) (value : Int)
    (hsize : size.isRequest = true) :
    SameRequests (a.limitChannels f size value) (b.limitChannels f size value) := by
  unfold Driver.limitChannels
  rw [h.request size hsize]
  split
  · exact h.setIntegerParam _ _
  · split
    · exact h.setIntegerParam _ _
    · exact h

theorem SameRequests.setROI (h : SameRequests a b) :
    SameRequests (a.withParams a.toParams.setROI) (b.withParams b.toParams.setROI) := by
  have hint : ∀ q, q.isRequest = true →
      b.toParams.setROI.int q = a.toParams.setROI.int q := by
    intro q hq
    unfold Params.setROI
    rw [h.request .adMinX rfl, h.request .adSizeX rfl, h.request .adMaxSizeX rfl]
    split
    · simp only [Params.int_setIntegerParam, reduceCtorEq, if_false, h.request .adMinY rfl,
        h.request .adSizeY rfl, h.request .adMaxSizeY rfl]
      split <;> simp only [Params.int_setIntegerParam, h.request q hq]
    · simp only [h.request .adMinY rfl, h.request .adSizeY rfl, h.request .adMaxSizeY rfl]
      split <;> simp only [Params.int_setIntegerParam, h.request q hq]
  have hfloat : ∀ d : Driver, d.toParams.setROI.float = d.float := by
    intro d
    unfold Params.setROI
    dsimp only
    split <;> split <;> rfl
  refine h.withParams hint fun r hr => ?_
  rw [hfloat, hfloat]
  exact h.float r hr

theorem SameRequests.baseWrite {base : ADDriver} (hbase : base.StoresMaxSizes) (h : SameRequests a b)
    (f : IntParam) (value : Int) (hf : f.selects = false) (hpass : f ≠ .passEnergy) :
    SameRequests (a.withParams (base.writeInt32 a.toParams f value))
      (b.withParams (base.writeInt32 b.toParams f value)) := by
  have hother : ∀ q : IntParam, q.isRequest = true → ∀ i, q ≠ .otherBase i := by
    rintro q hq i rfl
    cases hq
  refine h.withParams (fun q hq => ?_) fun r hr => ?_
  · by_cases hqf : q = f
    · subst hqf
      obtain hselects | rfl | rfl | rfl := IntParam.isRequest_cases hq
      · rw [hf] at hselects
        cases hselects
      · exact absurd rfl hpass
      · rw [(hbase _ value).1, (hbase _ value).1]
      · rw [(hbase _ value).2, (hbase _ value).2]
    · rw [base.writeInt32_int _ f value q hqf (hother q hq),
        base.writeInt32_int _ f value q hqf (hother q hq)]
      exact h.request q hq
  · have hfloat : ∀ i, r ≠ .otherBase i := by
      rintro i rfl
      cases hr
    rw [base.writeInt32_float _ f value r hfloat, base.writeInt32_float _ f value r hfloat]
    exact h.float r hr

theorem same_writeLensMode {value : Int} (h : SameRequests a b) (reply reply' : AdjustReply) :
    SameOutcome ((a.setIntegerParam .lensMode value).writeLensMode (a.int .lensMode) value reply)
      ((b.setIntegerParam .lensMode value).writeLensMode (b.int .lensMode) value reply') := by
  have hset := h.setIntegerParam .lensMode value
  unfold writeLensMode
  rw [hset.lensModes, h.request .lensMode rfl, hset.request .analyserAcquisitionMode rfl]
  split
  · refine rel_bind_same _ fun lens => ?_
    split
    · exact .some ((hset.report _).setIntegerParam _ _)
    · exact same_setup ((hset.setIntegerParam _ _).setIntegerParam _ _) reply reply'
  · exact .some ((hset.report _).setIntegerParam _ _)

theorem same_writeAcquisitionMode {value : Int} (h : SameRequests a b)
    (reply reply' : AdjustReply) :
    SameOutcome
      ((a.setIntegerParam .analyserAcquisitionMode value).writeAcquisitionMode
        (a.int .analyserAcquisitionMode) value reply)
      ((b.setIntegerParam .analyserAcquisitionMode value).writeAcquisitionMode
        (b.int .analyserAcquisitionMode) value reply') := by
  have hset := h.setIntegerParam .analyserAcquisitionMode value
  unfold writeAcquisitionMode
  rw [hset.lensModes, h.request .analyserAcquisitionMode rfl, hset.request .lensMode rfl]
  split
  · refine rel_bind_same _ fun lens => ?_
    split
    · exact same_setup hset reply reply'
    · exact .some ((hset.report _).setIntegerParam _ _)
  · exact same_setup hset reply reply'

theorem same_writePassEnergy {value : Int} (h : SameRequests a b) (reply reply' : AdjustReply) :
    SameOutcome
      ((a.setIntegerParam .passEnergy value).writePassEnergy (a.int .passEnergy) value reply)
      ((b.setIntegerParam .passEnergy value).writePassEnergy (b.int .passEnergy) value reply') := by
  have hset := h.setIntegerParam .passEnergy value
  unfold writePassEnergy
  rw [hset.passEnergies, h.request .passEnergy rfl]
  split
  · exact same_setup hset reply reply'
  · exact .some ((hset.report _).setIntegerParam _ _)

theorem same_writeDetectorChannels {value : Int} (h : SameRequests a b)
    (reply reply' : AdjustReply) :
    SameOutcome (a.writeDetectorChannels value reply) (b.writeDetectorChannels value reply') := by
  have hlimited := h.limitChannels .detectorChannels .adSizeX value rfl
  unfold writeDetectorChannels
  dsimp only
  rw [hlimited.request .analyserAcquisitionMode rfl]
  split
  · exact .some hlimited
  · exact same_setup hlimited reply reply'

theorem same_writeInt32 {base : ADDriver} (hbase : base.StoresMaxSizes) (h : SameRequests a b)
    (f : IntParam) (value : Int) (reply reply' : AdjustReply) :
    SameOutcome ((a.writeInt32 base f value reply).map Prod.fst)
      ((b.writeInt32 base f value reply').map Prod.fst) := by
  have hset := h.setIntegerParam f value
  cases f
  case lensMode =>
    simp only [writeInt32, map_fst_none]
    exact same_writeLensMode h reply reply'
  case analyserAcquisitionMode =>
    simp only [writeInt32, map_fst_none]
    exact same_writeAcquisitionMode h reply reply'
  case passEnergy =>
    simp only [writeInt32, map_fst_none]
    exact same_writePassEnergy h reply reply'
  case detectorChannels =>
    simp only [writeInt32, map_fst_none]
    exact same_writeDetectorChannels hset reply reply'
  case detectorSlices =>
    simp only [writeInt32, map_fst_none]
    exact same_setup (hset.limitChannels .detectorSlices .adSizeY value rfl) reply reply'
  case adMinX | adMinY | adSizeX | adSizeY =>
    simp only [writeInt32, map_fst_none]
    exact same_setup hset.setROI reply reply'
  case energyMode =>
    simp only [writeInt32, Option.map_map]
    exact rel_map (same_setup hset reply reply') fun _ _ hab => hab.setStringParam _ _
  case adNumExposures =>
    refine .some (hset.withParams (fun q hq => ?_) fun r hr => ?_)
    · rw [(setETA_spares _ _).1, (setETA_spares _ _).1]
      exact hset.request q hq
    · rw [(setETA_spares _ _).2, (setETA_spares _ _).2]
      exact hset.float r hr
  case ndDataType | ndColorMode => exact .some (hset.setIntegerParam _ _)
  all_goals
    first
      | exact .some (hset.baseWrite hbase _ value rfl (by simp))
      | exact .some hset

/-! ### The writes of reals -/

theorem same_writeRange {f : FloatParam} {value : ℚ} {swept : Bool} (h : SameRequests a b)
    (hf : f.selects = false) (old old' : ℚ) (reply reply' : AdjustReply) :
    SameOutcome (a.writeRange f value old swept reply) (b.writeRange f value old' swept reply') := by
  have hrequest := h.request_axis f value
  unfold writeRange
  dsimp only
  split
  · exact same_setup hrequest reply reply'
  · refine .some (hrequest.withParams hrequest.request fun r hr => ?_)
    have hne : r ≠ f := by
      rintro rfl
      rw [hf] at hr
      cases hr
    simp only [Params.float_setDoubleParam, hne, if_false]
    exact hrequest.float r hr

theorem same_writeCenter {center low high : FloatParam} {value : ℚ} {swept : Bool}
    (h : SameRequests a b) (reply reply' : AdjustReply) :
    SameOutcome (a.writeCenter center low high value swept reply)
      (b.writeCenter center low high value swept reply') := by
  have hrequest := h.request_axis center value
  unfold writeCenter
  dsimp only
  rw [hrequest.requestedAxes]
  refine same_setup ?_ reply reply'
  split
  · exact (hrequest.request_axis _ _).request_axis _ _
  · exact hrequest

theorem same_writeFloat64 {base : ADDriver} (h : SameRequests a b) (f : FloatParam) (value : ℚ)
    (reply reply' : AdjustReply) :
    SameOutcome (a.writeFloat64 base f value reply) (b.writeFloat64 base f value reply') := by
  have hset := h.setDoubleParam f value
  have hmode := hset.request .analyserAcquisitionMode rfl
  cases f
  case excitationEnergy | workFunction =>
    simp only [writeFloat64]
    rw [hset.request .energyMode rfl]
    split
    · exact same_setup hset reply reply'
    · exact .some hset
  case focalPositionX | focalPositionY | focalPositionZ | adAcquireTime =>
    exact same_setup hset reply reply'
  case analyserCenterSlice => exact same_setup (hset.request_axis _ _) reply reply'
  case analyserHighEnergy | analyserLowEnergy | analyserEnergyStep | analyserHighAngleY |
      analyserLowAngleY | analyserAngleYStep =>
    simp only [writeFloat64]
    rw [hmode]
    exact same_writeRange hset rfl _ _ reply reply'
  case analyserCenterEnergy | analyserCenterAngleY =>
    simp only [writeFloat64]
    rw [hmode]
    exact same_writeCenter hset reply reply'
  case otherBase i =>
    refine .some (hset.withParams (fun q hq => ?_) fun r hr => ?_)
    · have hother : ∀ j, q ≠ .otherBase j := by
        rintro j rfl
        cases hq
      rw [base.writeFloat64_int _ _ value q hother, base.writeFloat64_int _ _ value q hother]
      exact hset.request q hq
    · have hother : ∀ j, r ≠ .otherBase j := by
        rintro j rfl
        cases hr
      rw [base.writeFloat64_float _ _ value r (hother i) hother,
        base.writeFloat64_float _ _ value r (hother i) hother]
      exact hset.float r hr
  all_goals exact .some hset

/-! ### Runs -/

/-- One write of the client, met by any answers of the server on either side. -/
theorem same_answeredWrite {base : ADDriver} (hbase : base.StoresMaxSizes) (h : SameRequests a b)
    (request : ClientWrite) (answers answers' : Answers) :
    SameOutcome (a.answeredWrite base (request, answers)) (b.answeredWrite base (request, answers')) := by
  have hupdated : SameRequests (answers.updates.foldl spectrumUpdated a)
      (answers'.updates.foldl spectrumUpdated b) :=
    ((sameRequests_updates a _).symm.trans h).trans (sameRequests_updates b _)
  cases request with
  | int f value => exact same_writeInt32 hbase hupdated f value _ _
  | float f value => exact same_writeFloat64 hupdated f value _ _

/-- Two clients that write the same, one after the other or each on a driver of its own, end with
the same definition, whatever the server answers and reports in between. -/
theorem definition_independent_of_answers {base : ADDriver} (hbase : base.StoresMaxSizes)
    (d : Driver) (writes : List (ClientWrite × Answers × Answers)) :
    (exec (answeredWrite base) always d (writes.map fun w => (w.1, w.2.1))).map
        (·.spectrumDefinition) =
      (exec (answeredWrite base) always d (writes.map fun w => (w.1, w.2.2))).map
        (·.spectrumDefinition) := by
  let pairs := writes.map fun w => ((w.1, w.2.1), (w.1, w.2.2))
  have hkeep : ∀ a b, ∀ p ∈ pairs, SameRequests a b →
      Option.Rel SameRequests (a.answeredWrite base p.1) (b.answeredWrite base p.2) := by
    intro a b p hp hab
    obtain ⟨w, -, rfl⟩ := List.mem_map.mp hp
    exact same_answeredWrite hbase hab w.1 w.2.1 w.2.2
  have hruns := rel_exec hkeep (.refl d)
  rw [List.map_map, List.map_map] at hruns
  exact map_eq_of_rel hruns fun _ _ hab => hab.definition.symm

theorem store_storesMaxSizes (ndFloat32 : Int) : (ADDriver.store ndFloat32).StoresMaxSizes := by
  intro p value
  simp [ADDriver.store]

/-- Settings in which the server has moved the energies that were asked for. -/
def movedSettings : ChannelSettings where
  requestedX := ⟨91, 2, 111, 101, 11⟩
  requestedY := ⟨-10, 1, 10, 0, 21⟩

/-- The first client meets with exceptions, the second one with other energies than it has asked
for, and a spectrum update in between. -/
def sweptWrites : List (ClientWrite × Answers × Answers) :=
  [(.float .analyserLowEnergy 90, ⟨[], .raised⟩, ⟨[movedSettings], .raised⟩),
   (.float .analyserHighEnergy 110, ⟨[], .raised⟩, ⟨[], .raised⟩),
   (.float .analyserEnergyStep 1, ⟨[], .raised⟩, ⟨[], .raised⟩),
   (.float .analyserCenterEnergy 100, ⟨[], .raised⟩, ⟨[], .adjusted movedSettings 60⟩),
   (.int .analyserAcquisitionMode 1, ⟨[], .raised⟩, ⟨[movedSettings], .adjusted movedSettings 60⟩),
   (.float .analyserCenterEnergy 120, ⟨[], .raised⟩, ⟨[movedSettings], .adjusted movedSettings 60⟩)]

theorem definition_independent_of_moved_energies :
    ∃ d₀ : Driver, unconnected.connectAnalyser smallAnalyser .raised = some d₀ ∧
      (exec (answeredWrite (.store 8)) always d₀ (sweptWrites.map fun w => (w.1, w.2.2))).map
          (·.float .analyserLowEnergy) = some 91 ∧
      (exec (answeredWrite (.store 8)) always d₀ (sweptWrites.map fun w => (w.1, w.2.1))).map
          (·.spectrumDefinition) =
        (exec (answeredWrite (.store 8)) always d₀ (sweptWrites.map fun w => (w.1, w.2.2))).map
          (·.spectrumDefinition) := by
  have hreach : (unconnected.connectAnalyser smallAnalyser .raised).any fun d₀ =>
      (exec (answeredWrite (.store 8)) always d₀ (sweptWrites.map fun w => (w.1, w.2.2))).map
        (·.float .analyserLowEnergy) = some 91 := by
    decide +kernel
  obtain ⟨d₀, hconnect, hmoved⟩ := (Option.any_eq_true _ _).mp hreach
  exact ⟨d₀, hconnect, of_decide_eq_true hmoved,
    definition_independent_of_answers (store_storesMaxSizes 8) d₀ sweptWrites⟩

end Driver

end PeakAnalyser

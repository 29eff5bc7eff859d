import PeakAnalyser.DefinitionAgreement

/-!
# The selected indices

`LensMode`, `PassEnergy`, `DetectorMode` and `ElementSet` are indices of lists that
the analyser has answered with. A value is stored before it is checked; the checks
of the first two leave out the negative values, and the last two have none.
-/

namespace PeakAnalyser

set_option autoImplicit false

open Runs

/-- The index lies inside the list. -/
def ValidIndex {α : Type} (list : List α) (index : Int) : Prop := 0 ≤ index ∧ index < list.length

instance {α : Type} (list : List α) (index : Int) : Decidable (ValidIndex list index) :=
  inferInstanceAs (Decidable (0 ≤ index ∧ index < list.length))

theorem at?_of_valid {α : Type} {list : List α} {index : Int} (h : ValidIndex list index) :
    ∃ a, at? list index = some a := by
  obtain ⟨hlow, hhigh⟩ := h
  have hlt : index.toNat < list.length := by omega
  exact ⟨list[index.toNat], by rw [at?, if_pos hlow, List.getElem?_eq_getElem hlt]⟩

theorem valid_of_at? {α : Type} {list : List α} {index : Int} {a : α}
    (h : at? list index = some a) : ValidIndex list index := by
  unfold at? at h
  split at h
  · rename_i hlow
    have hlt := (List.getElem?_eq_some_iff.mp h).1
    exact ⟨hlow, by omega⟩
  · cases h

theorem at?_of_not_valid {α : Type} {list : List α} {index : Int} (h : ¬ ValidIndex list index) :
    at? list index = none := by
  cases hat : at? list index with
  | none => rfl
  | some a => exact absurd (valid_of_at? hat) h

theorem valid_of_position {α : Type} [DecidableEq α] {list : List α} {a : α} {index : Int}
    (h : position list a = some index) : ValidIndex list index :=
  valid_of_at? (at?_position h)

theorem position_of_mem {α : Type} [DecidableEq α] {list : List α} {a : α} (h : a ∈ list) :
    ∃ index, position list a = some index := by
  have hsome : (list.idxOf? a).isSome = true := List.isSome_idxOf?.mpr h
  obtain ⟨n, hn⟩ := Option.isSome_iff_exists.mp hsome
  exact ⟨n, by rw [position, hn]; rfl⟩

theorem position_of_not_mem {α : Type} [DecidableEq α] {list : List α} {a : α} (h : a ∉ list) :
    position list a = none := by
  rw [position, List.idxOf?_eq_none_iff.mpr h]
  rfl

/-- The indices, the acquisition mode that the lens mode has to support, and the flags that
show what the lens mode supports. -/
def IntParam.isSelection : IntParam → Bool
  | .elementSet | .lensMode | .detectorMode | .passEnergy
  | .analyserAcquisitionMode | .analyserWithSlice | .analyserWithAngleY => true
  | _ => false

/-- The counts that `setRegion` reads from a reply of the server. -/
def IntParam.isReadback : IntParam → Bool
  | .analyserEnergyCount | .analyserSliceCount | .analyserAngleYCount
  | .acqNumSteps | .acqNumStepsCounter => true
  | _ => false

theorem IntParam.ne_of_isSelection {q f : IntParam} (hq : q.isSelection = true)
    (hf : f.isSelection = false) : q ≠ f := by
  rintro rfl
  rw [hf] at hq
  cases hq

namespace Driver

variable {d d' : Driver}

/-- The lists, the selections and the definition are left as they are. -/
structure Spares (d d' : Driver) : Prop where
  elementsets : d'.elementsets = d.elementsets
  lensModes : d'.lensModes = d.lensModes
  passEnergies : d'.passEnergies = d.passEnergies
  detectorModes : d'.detectorModes = d.detectorModes
  definition : d'.spectrumDefinition = d.spectrumDefinition
  int : ∀ q, q.isSelection = true → d'.int q = d.int q

theorem Spares.refl (d : Driver) : Spares d d := ⟨rfl, rfl, rfl, rfl, rfl, fun _ _ => rfl⟩

theorem Spares.trans {d₁ d₂ d₃ : Driver} (h : Spares d₁ d₂) (h' : Spares d₂ d₃) :
    Spares d₁ d₃ where
  elementsets := h'.elementsets.trans h.elementsets
  lensModes := h'.lensModes.trans h.lensModes
  passEnergies := h'.passEnergies.trans h.passEnergies
  detectorModes := h'.detectorModes.trans h.detectorModes
  definition := h'.definition.trans h.definition
  int q hq := (h'.int q hq).trans (h.int q hq)

theorem spares_withParams {p : Params} (hint : ∀ q, q.isSelection = true → p.int q = d.int q) :
    Spares d (d.withParams p) :=
  ⟨rfl, rfl, rfl, rfl, rfl, hint⟩

theorem spares_setIntegerParam {f : IntParam} (value : Int) (hf : f.isSelection = false) :
    Spares d (d.setIntegerParam f value) := by
  apply spares_withParams
  intro q hq
  simp [IntParam.ne_of_isSelection hq hf]

theorem spares_setDoubleParam (f : FloatParam) (value : ℚ) : Spares d (d.setDoubleParam f value) :=
  spares_withParams fun _ _ => rfl

theorem spares_setStringParam (f : StringParam) (text : String) :
    Spares d (d.setStringParam f text) :=
  spares_withParams fun _ _ => rfl

theorem spares_request (f : FloatParam) (value : ℚ) : Spares d (d.request f value) :=
  ⟨rfl, rfl, rfl, rfl, rfl, fun _ _ => rfl⟩

/-! ### What a rebuild leaves of the selections -/

theorem int_setRegion_readback (p : Params) (settings : ChannelSettings) {q : IntParam}
    (hq : q.isReadback = false) : (p.setRegion settings).int q = p.int q := by
  have hne : ∀ f : IntParam, f.isReadback = true → q ≠ f := by
    rintro f hf rfl
    rw [hq] at hf
    cases hf
  simp [Params.setRegion, hne .analyserEnergyCount rfl, hne .analyserSliceCount rfl,
    hne .analyserAngleYCount rfl, hne .acqNumSteps rfl, hne .acqNumStepsCounter rfl]

theorem int_adjusted_readback (d : Driver) (reply : AdjustReply) {q : IntParam}
    (hq : q.isReadback = false) : (d.adjusted reply).int q = d.int q := by
  cases reply with
  | raised => rfl
  | adjusted settings wallClockTime =>
    simp [adjusted, int_setRegion_readback d.toParams settings hq]

theorem int_setPassEnergy_other (d : Driver) (passEnergy : ℚ) {q : IntParam}
    (hq : q ≠ .passEnergy) : (d.setPassEnergy passEnergy).int q = d.int q := by
  unfold setPassEnergy
  split <;> simp [hq]

/-- A rebuild changes the pass energy, the readbacks, and no other integer. -/
theorem int_setup {reply : AdjustReply} {q : IntParam} (hq : q.isReadback = false)
    (hp : q ≠ .passEnergy) (h : d.setupSpectrumDefinition reply = some d') :
    d'.int q = d.int q := by
  unfold setupSpectrumDefinition at h
  split at h
  · obtain rfl := Option.some.inj h
    rfl
  · obtain ⟨requested, _, h⟩ := Option.bind_eq_some_iff.mp h
    obtain ⟨lens, _, h⟩ := Option.bind_eq_some_iff.mp h
    obtain ⟨elementSet, _, h⟩ := Option.bind_eq_some_iff.mp h
    obtain ⟨detectorMode, _, h⟩ := Option.bind_eq_some_iff.mp h
    obtain ⟨passEnergy, _, h⟩ := Option.bind_eq_some_iff.mp h
    dsimp only at h
    split at h
    · obtain rfl := Option.some.inj h
      exact int_setPassEnergy_other d _ hp
    · obtain rfl := Option.some.inj h
      rw [int_adjusted_readback _ reply hq]
      exact int_setPassEnergy_other d _ hp

/-- The four indices lie inside their lists. -/
structure IndicesValid (d : Driver) : Prop where
  elementSet : ValidIndex d.elementsets (d.int .elementSet)
  lensMode : ValidIndex d.lensModes (d.int .lensMode)
  passEnergy : ValidIndex d.passEnergies (d.int .passEnergy)
  detectorMode : ValidIndex d.detectorModes (d.int .detectorMode)

theorem IndicesValid.spared (hv : IndicesValid d) (h : Spares d d') : IndicesValid d' where
  elementSet := by
    rw [h.elementsets, h.int _ rfl]
    exact hv.elementSet
  lensMode := by
    rw [h.lensModes, h.int _ rfl]
    exact hv.lensMode
  passEnergy := by
    rw [h.passEnergies, h.int _ rfl]
    exact hv.passEnergy
  detectorMode := by
    rw [h.detectorModes, h.int _ rfl]
    exact hv.detectorMode

theorem IndicesValid.inRange (hv : IndicesValid d) : d.enumOutOfRange = false := by
  have helementSet := hv.elementSet.2
  have hlensMode := hv.lensMode.2
  have hpassEnergy := hv.passEnergy.2
  have hdetectorMode := hv.detectorMode.2
  simp only [enumOutOfRange, ge_iff_le, Bool.or_eq_false_iff, decide_eq_false_iff_not, not_le]
  exact ⟨⟨⟨helementSet, hlensMode⟩, hpassEnergy⟩, hdetectorMode⟩

theorem valid_passEnergyIndex (hv : IndicesValid d) (passEnergy : ℚ) :
    ValidIndex d.passEnergies (d.passEnergyIndex passEnergy) := by
  unfold passEnergyIndex
  cases hposition : position d.passEnergies passEnergy with
  | none => exact hv.passEnergy
  | some index => exact valid_of_position hposition

/-- A rebuild leaves valid indices, unless it returns early from an index beyond its list. -/
theorem indicesValid_setup {reply : AdjustReply} (hv : IndicesValid d)
    (h : d.setupSpectrumDefinition reply = some d') : IndicesValid d' := by
  obtain ⟨_, rfl⟩ | ⟨lens, _, _, requested, _, _, halike, hindex, _⟩ := setup_cases h
  · exact hv
  · refine ⟨?_, ?_, ?_, ?_⟩
    · rw [halike.elementsets, halike.int .elementSet rfl]
      exact hv.elementSet
    · rw [halike.lensModes, halike.int .lensMode rfl]
      exact hv.lensMode
    · rw [halike.passEnergies, hindex]
      exact valid_passEnergyIndex hv _
    · rw [halike.detectorModes, halike.int .detectorMode rfl]
      exact hv.detectorMode

/-- With valid indices every list access of a rebuild is inside its list. -/
theorem setup_defined (hv : IndicesValid d) (reply : AdjustReply) :
    ∃ d', d.setupSpectrumDefinition reply = some d' := by
  obtain ⟨requested, hrequested⟩ := at?_of_valid hv.passEnergy
  obtain ⟨lens, hlens⟩ := at?_of_valid hv.lensMode
  obtain ⟨halike, hindex, _⟩ := setPassEnergy_cases d (clamp requested lens.passEnergyRange)
  obtain ⟨elementSet, helementSet⟩ := at?_of_valid hv.elementSet
  obtain ⟨detectorMode, hdetectorMode⟩ := at?_of_valid hv.detectorMode
  obtain ⟨passEnergy, hpassEnergy⟩ :=
    at?_of_valid (valid_passEnergyIndex hv (clamp requested lens.passEnergyRange))
  rw [← halike.elementsets, ← halike.int .elementSet rfl] at helementSet
  rw [← halike.detectorModes, ← halike.int .detectorMode rfl] at hdetectorMode
  rw [← halike.passEnergies, ← hindex] at hpassEnergy
  unfold setupSpectrumDefinition
  rw [hv.inRange]
  simp only [Bool.false_eq_true, if_false, hrequested, hlens, helementSet, hdetectorMode,
    hpassEnergy, Option.bind_eq_bind, Option.bind_some]
  split
  · exact ⟨_, rfl⟩
  · exact ⟨_, rfl⟩

/-! ### Writes of other parameters -/

/-- The outcome of a write that touches no selection before it leaves the rest to
`setupSpectrumDefinition`, if it does. -/
def Settles (d : Driver) (outcome : Option Driver) : Prop :=
  ∃ prepared, Spares d prepared ∧ (outcome = some prepared ∨
    ∃ reply, ∃ finish : Driver → Driver, (∀ e, Spares e (finish e)) ∧
      outcome = (prepared.setupSpectrumDefinition reply).map finish)

theorem settles_some (h : Spares d d') : Settles d (some d') := ⟨d', h, Or.inl rfl⟩

theorem settles_setup (h : Spares d d') (reply : AdjustReply) :
    Settles d (d'.setupSpectrumDefinition reply) := by
  refine ⟨d', h, Or.inr ⟨reply, id, fun e => .refl e, ?_⟩⟩
  rw [Option.map_id]
  rfl

theorem spares_limitChannels {f : IntParam} (size : IntParam) (value : Int)
    (hf : f.isSelection = false) : Spares d (d.limitChannels f size value) := by
  unfold limitChannels
  split
  · exact spares_setIntegerParam _ hf
  · split
    · exact spares_setIntegerParam _ hf
    · exact .refl d

theorem spares_setROI (d : Driver) : Spares d (d.withParams d.toParams.setROI) := by
  apply spares_withParams
  intro q hq
  have hX : q ≠ .adSizeX := IntParam.ne_of_isSelection hq rfl
  have hY : q ≠ .adSizeY := IntParam.ne_of_isSelection hq rfl
  unfold Params.setROI
  dsimp only
  split <;> split <;> simp [hX, hY]

/-- The branches of the two dispatchers that keep clear of the selections. -/
def Write.isSelection : Write → Bool
  | .int function _ _ => function.isSelection
  | .float _ _ _ => false

theorem settles_writeInt32 (base : ADDriver) {f : IntParam} (value : Int) (reply : AdjustReply)
    (hf : f.isSelection = false) :
    Settles d ((d.writeInt32 base f value reply).map Prod.fst) := by
  have hset : Spares d (d.setIntegerParam f value) := spares_setIntegerParam value hf
  have hbase : Spares d ((d.setIntegerParam f value).withParams
      (base.writeInt32 (d.setIntegerParam f value).toParams f value)) := by
    apply hset.trans
    apply spares_withParams
    intro q hq
    have hother : ∀ i, q ≠ .otherBase i := fun i => IntParam.ne_of_isSelection hq rfl
    exact base.writeInt32_int _ f value q (IntParam.ne_of_isSelection hq hf) hother
  cases f
  case elementSet | lensMode | detectorMode | passEnergy | analyserAcquisitionMode |
      analyserWithSlice | analyserWithAngleY => cases hf
  case adMinX | adMinY | adSizeX | adSizeY =>
    simp only [writeInt32, map_fst_none]
    exact settles_setup (hset.trans (spares_setROI _)) reply
  case energyMode =>
    refine ⟨_, hset, Or.inr ⟨reply, fun e => e.setStringParam .energyModeStr
      (if value ≠ 0 then "Binding" else "Kinetic"), fun e => spares_setStringParam _ _, ?_⟩⟩
    simp only [writeInt32, Option.map_map]
    rfl
  case detectorChannels =>
    simp only [writeInt32, map_fst_none, writeDetectorChannels]
    have hlimited := hset.trans (spares_limitChannels .adSizeX value hf)
    split
    · exact settles_some hlimited
    · exact settles_setup hlimited reply
  case detectorSlices =>
    simp only [writeInt32, map_fst_none, writeDetectorSlices]
    exact settles_setup (hset.trans (spares_limitChannels .adSizeY value hf)) reply
  case ndDataType | ndColorMode =>
    exact settles_some (hset.trans (spares_setIntegerParam _ rfl))
  case adNumExposures =>
    apply settles_some
    refine hset.trans (spares_withParams fun q _ => ?_)
    exact congrFun (setETA_spares _ _).1 q
  all_goals
    first
      | exact settles_some hbase
      | exact settles_some hset

theorem settles_writeFloat64 (base : ADDriver) (f : FloatParam) (value : ℚ)
    (reply : AdjustReply) : Settles d (d.writeFloat64 base f value reply) := by
  have hset : Spares d (d.setDoubleParam f value) := spares_setDoubleParam f value
  cases f
  case excitationEnergy | workFunction =>
    simp only [writeFloat64]
    split
    · exact settles_setup hset reply
    · exact settles_some hset
  case focalPositionX | focalPositionY | focalPositionZ | adAcquireTime =>
    exact settles_setup hset reply
  case analyserCenterSlice => exact settles_setup (hset.trans (spares_request _ _)) reply
  case analyserHighEnergy | analyserLowEnergy | analyserEnergyStep | analyserHighAngleY |
      analyserLowAngleY | analyserAngleYStep =>
    simp only [writeFloat64, writeRange]
    split
    · exact settles_setup (hset.trans (spares_request _ _)) reply
    · apply settles_some
      exact hset.trans ((spares_request _ _).trans (spares_setDoubleParam _ _))
  case analyserCenterEnergy | analyserCenterAngleY =>
    simp only [writeFloat64, writeCenter]
    refine settles_setup ?_ reply
    split
    · exact hset.trans ((spares_request _ _).trans ((spares_request _ _).trans (spares_request _ _)))
    · exact hset.trans (spares_request _ _)
  case otherBase i =>
    apply settles_some
    refine hset.trans (spares_withParams fun q hq => ?_)
    exact base.writeFloat64_int _ _ value q fun i => IntParam.ne_of_isSelection hq rfl
  all_goals exact settles_some hset

theorem settles_write (base : ADDriver) {w : Write} (hw : w.isSelection = false) :
    Settles d (d.write base w) := by
  cases w with
  | int f value reply => exact settles_writeInt32 base value reply hw
  | float f value reply => exact settles_writeFloat64 base f value reply

/-! ### Writes of an index -/

/-- A value that is not an index of the list it is written for. -/
def writesInvalidIndex (d : Driver) : Write → Prop
  | .int function value _ =>
    (function = .elementSet ∧ ¬ ValidIndex d.elementsets value) ∨
    (function = .lensMode ∧ ¬ ValidIndex d.lensModes value) ∨
    (function = .passEnergy ∧ ¬ ValidIndex d.passEnergies value) ∨
    (function = .detectorMode ∧ ¬ ValidIndex d.detectorModes value)
  | .float _ _ _ => False

/-- The write has a defined result with valid indices, and a value that is no index leaves
only a message. -/
def Guarded (base : ADDriver) (d : Driver) (w : Write) : Prop :=
  ∃ d', d.write base w = some d' ∧ IndicesValid d' ∧
    (d.writesInvalidIndex w → ∃ text, d' = d.setStringParam .adStatusMessage text)

/-- A lens mode or a pass energy that is not negative; an element set or a detector mode
that is listed. -/
def fitsIndices (d : Driver) : Write → Prop
  | .int function value _ =>
    (function = .lensMode ∨ function = .passEnergy → 0 ≤ value) ∧
    (function = .elementSet → ValidIndex d.elementsets value) ∧
    (function = .detectorMode → ValidIndex d.detectorModes value)
  | .float _ _ _ => True

instance (d : Driver) : DecidablePred d.fitsIndices
  | .int _ _ _ =>
    @instDecidableAnd _ _ inferInstance <| @instDecidableAnd _ _ inferInstance inferInstance
  | .float _ _ _ => .isTrue trivial

theorem settled_valid (hv : IndicesValid d) {outcome : Option Driver} (h : Settles d outcome) :
    ∃ d', outcome = some d' ∧ IndicesValid d' := by
  obtain ⟨prepared, hspares, rfl | ⟨reply, finish, hfinish, rfl⟩⟩ := h
  · exact ⟨prepared, rfl, hv.spared hspares⟩
  · obtain ⟨d', hd'⟩ := setup_defined (hv.spared hspares) reply
    rw [hd']
    exact ⟨finish d', rfl, (indicesValid_setup (hv.spared hspares) hd').spared (hfinish d')⟩

/-- Storing a value and putting the old one back leaves the message between them. -/
theorem restored (d : Driver) (f : IntParam) (value : Int) (text : String) :
    ((d.setIntegerParam f value).report text).setIntegerParam f (d.int f) = d.report text := by
  simp [setIntegerParam, report, setStringParam, withParams, Params.setIntegerParam,
    Params.setStringParam]

theorem IndicesValid.setIntegerParam (hv : IndicesValid d) {f : IntParam} {value : Int}
    (helementSet : f = .elementSet → ValidIndex d.elementsets value)
    (hlensMode : f = .lensMode → ValidIndex d.lensModes value)
    (hpassEnergy : f = .passEnergy → ValidIndex d.passEnergies value)
    (hdetectorMode : f = .detectorMode → ValidIndex d.detectorModes value) :
    IndicesValid (d.setIntegerParam f value) := by
  refine ⟨?_, ?_, ?_, ?_⟩
  all_goals
    rw [int_setIntegerParam]
    split
    · rename_i heq
      first
        | exact helementSet heq.symm
        | exact hlensMode heq.symm
        | exact hpassEnergy heq.symm
        | exact hdetectorMode heq.symm
    · first
        | exact hv.elementSet
        | exact hv.lensMode
        | exact hv.passEnergy
        | exact hv.detectorMode

theorem guarded_settled {base : ADDriver} {w : Write} (hv : IndicesValid d)
    (hw : ¬ d.writesInvalidIndex w) (h : Settles d (d.write base w)) : Guarded base d w := by
  obtain ⟨d', hd', hvalid⟩ := settled_valid hv h
  exact ⟨d', hd', hvalid, fun hinvalid => absurd hinvalid hw⟩

/-- A refused index leaves the message that refuses it. -/
theorem guarded_refused {base : ADDriver} {w : Write} {text : String} (hv : IndicesValid d)
    (h : d.write base w = some (d.report text)) : Guarded base d w :=
  ⟨_, h, hv.spared (spares_setStringParam _ _), fun _ => ⟨_, rfl⟩⟩

theorem write_lensMode (base : ADDriver) (d : Driver) (value : Int) (reply : AdjustReply) :
    d.write base (.int .lensMode value reply) =
      (d.setIntegerParam .lensMode value).writeLensMode (d.int .lensMode) value reply :=
  map_fst_none _

theorem write_passEnergy (base : ADDriver) (d : Driver) (value : Int) (reply : AdjustReply) :
    d.write base (.int .passEnergy value reply) =
      (d.setIntegerParam .passEnergy value).writePassEnergy (d.int .passEnergy) value reply :=
  map_fst_none _

theorem write_acquisitionMode (base : ADDriver) (d : Driver) (value : Int) (reply : AdjustReply) :
    d.write base (.int .analyserAcquisitionMode value reply) =
      (d.setIntegerParam .analyserAcquisitionMode value).writeAcquisitionMode
        (d.int .analyserAcquisitionMode) value reply :=
  map_fst_none _

/-- The lens mode of a listed index, and the flags of what it supports. -/
def selectLensMode (d : Driver) (value : Int) (lens : LensModeSetting) : Driver :=
  ((d.setIntegerParam .lensMode value).setIntegerParam .analyserWithSlice
    (if lens.hasXDeflection then 1 else 0)).setIntegerParam .analyserWithAngleY
    (if lens.hasYDeflection then 1 else 0)

/-- The lens mode can be selected with the acquisition mode as it is. -/
def supportsMode (d : Driver) (lens : LensModeSetting) : Prop :=
  sweepsAngleY (d.int .analyserAcquisitionMode) = true → lens.hasYDeflection = true

/-- The ways in which a write of `LensMode` can end: refused, outside of the list, or taken. -/
theorem lensMode_cases (base : ADDriver) (d : Driver) (value : Int) (reply : AdjustReply) :
    (0 ≤ value ∧ (∀ lens, at? d.lensModes value = some lens → ¬ d.supportsMode lens) ∧
      ∃ text, d.write base (.int .lensMode value reply) = some (d.report text)) ∨
    (value < 0 ∧ d.write base (.int .lensMode value reply) = none) ∨
    ∃ lens, at? d.lensModes value = some lens ∧ d.supportsMode lens ∧
      d.write base (.int .lensMode value reply) =
        (d.selectLensMode value lens).setupSpectrumDefinition reply := by
  rw [write_lensMode, writeLensMode]
  by_cases hhigh : value < ((d.setIntegerParam .lensMode value).lensModes.length : Int)
  · rw [if_pos hhigh]
    by_cases hlow : 0 ≤ value
    · have hvalid : ValidIndex d.lensModes value := ⟨hlow, hhigh⟩
      obtain ⟨lens, hlens⟩ := at?_of_valid hvalid
      change (_ ∧ _ ∧ ∃ text, (at? d.lensModes value).bind _ = _) ∨
        (_ ∧ (at? d.lensModes value).bind _ = _) ∨ ∃ lens, _ ∧ _ ∧ (at? d.lensModes value).bind _ = _
      simp only [hlens, Option.bind_some, int_setIntegerParam, reduceCtorEq, if_false]
      split
      · rename_i hrefused
        rw [Bool.and_eq_true, Bool.not_eq_true'] at hrefused
        refine Or.inl ⟨hlow, ?_, _, congrArg some (restored d .lensMode value _)⟩
        rintro other hother hsupports
        obtain rfl := Option.some.inj hother
        rw [hsupports hrefused.1] at hrefused
        cases hrefused.2
      · rename_i htaken
        refine Or.inr (Or.inr ⟨lens, rfl, fun hswept => ?_, rfl⟩)
        by_contra hno
        exact htaken (by simp [hswept, hno])
    · refine Or.inr (Or.inl ⟨by omega, ?_⟩)
      change (at? d.lensModes value).bind _ = none
      rw [at?_of_not_valid fun h => hlow h.1]
      rfl
  · rw [if_neg hhigh]
    change ¬ value < (d.lensModes.length : Int) at hhigh
    refine Or.inl ⟨by omega, fun lens hlens => ?_, _,
      congrArg some (restored d .lensMode value _)⟩
    exact absurd (valid_of_at? hlens).2 hhigh

/-- The ways in which a write of `AnalyserAcquisitionMode` can end. -/
theorem acquisitionMode_cases (base : ADDriver) (d : Driver) (value : Int) (reply : AdjustReply) :
    (∃ text, d.write base (.int .analyserAcquisitionMode value reply) = some (d.report text)) ∨
    (at? d.lensModes (d.int .lensMode) = none ∧
      d.write base (.int .analyserAcquisitionMode value reply) = none) ∨
    ((sweepsAngleY value = true → ∃ lens, at? d.lensModes (d.int .lensMode) = some lens ∧
        lens.hasYDeflection = true) ∧
      d.write base (.int .analyserAcquisitionMode value reply) =
        (d.setIntegerParam .analyserAcquisitionMode value).setupSpectrumDefinition reply) := by
  rw [write_acquisitionMode, writeAcquisitionMode]
  by_cases hswept : sweepsAngleY value = true
  · rw [if_pos hswept]
    change (∃ text, (at? d.lensModes (d.int .lensMode)).bind _ = _) ∨
      (_ ∧ (at? d.lensModes (d.int .lensMode)).bind _ = _) ∨
        (_ ∧ (at? d.lensModes (d.int .lensMode)).bind _ = _)
    cases hlens : at? d.lensModes (d.int .lensMode) with
    | none => exact Or.inr (Or.inl ⟨rfl, rfl⟩)
    | some lens =>
      simp only [Option.bind_some]
      by_cases hY : lens.hasYDeflection = true
      · rw [if_pos hY]
        exact Or.inr (Or.inr ⟨fun _ => ⟨lens, rfl, hY⟩, rfl⟩)
      · rw [if_neg hY]
        exact Or.inl ⟨_, congrArg some (restored d .analyserAcquisitionMode value _)⟩
  · rw [if_neg hswept]
    exact Or.inr (Or.inr ⟨fun h => absurd h hswept, rfl⟩)

/-- The ways in which a write of `PassEnergy` can end. -/
theorem passEnergy_cases (base : ADDriver) (d : Driver) (value : Int) (reply : AdjustReply) :
    (∃ text, d.write base (.int .passEnergy value reply) = some (d.report text) ∧
      ¬ value < d.passEnergies.length) ∨
    (value < d.passEnergies.length ∧ d.write base (.int .passEnergy value reply) =
      (d.setIntegerParam .passEnergy value).setupSpectrumDefinition reply) := by
  rw [write_passEnergy, writePassEnergy]
  by_cases hhigh : value < ((d.setIntegerParam .passEnergy value).passEnergies.length : Int)
  · rw [if_pos hhigh]
    exact Or.inr ⟨hhigh, rfl⟩
  · rw [if_neg hhigh]
    exact Or.inl ⟨_, congrArg some (restored d .passEnergy value _), hhigh⟩

theorem IndicesValid.rebuild {base : ADDriver} {w : Write} {reply : AdjustReply}
    (hv : IndicesValid d') (hw : ¬ d.writesInvalidIndex w)
    (h : d.write base w = d'.setupSpectrumDefinition reply) : Guarded base d w := by
  obtain ⟨d'', hd''⟩ := setup_defined hv reply
  exact ⟨d'', h.trans hd'', indicesValid_setup hv hd'', fun hinvalid => absurd hinvalid hw⟩

theorem guarded_lensMode {base : ADDriver} {value : Int} {reply : AdjustReply}
    (hv : IndicesValid d) : Guarded base d (.int .lensMode value reply) ↔ 0 ≤ value := by
  obtain ⟨hlow, -, text, hwrite⟩ | ⟨hnegative, hwrite⟩ | ⟨lens, hlens, -, hwrite⟩ :=
    lensMode_cases base d value reply
  · exact iff_of_true (guarded_refused hv hwrite) hlow
  · constructor
    · rintro ⟨d', hd', -⟩
      rw [hwrite] at hd'
      cases hd'
    · intro hlow
      omega
  · have hvalid : ValidIndex d.lensModes value := valid_of_at? hlens
    have hselected : IndicesValid (d.selectLensMode value lens) := by
      apply IndicesValid.setIntegerParam _ (by simp) (by simp) (by simp) (by simp)
      apply IndicesValid.setIntegerParam _ (by simp) (by simp) (by simp) (by simp)
      exact hv.setIntegerParam (by simp) (fun _ => hvalid) (by simp) (by simp)
    refine iff_of_true (hselected.rebuild ?_ hwrite) hvalid.1
    simp [writesInvalidIndex, hvalid]

/-- A pass energy index that is negative passes the range check and is used. -/
theorem setup_negative {value : Int} {reply : AdjustReply} (hv : IndicesValid d)
    (hnegative : value < 0) :
    (d.setIntegerParam .passEnergy value).setupSpectrumDefinition reply = none := by
  cases hsetup : (d.setIntegerParam .passEnergy value).setupSpectrumDefinition reply with
  | none => rfl
  | some d' =>
    obtain ⟨hout, -⟩ | ⟨_, _, _, _, _, hselected, -⟩ := setup_cases hsetup
    · have hin := hv.inRange
      simp only [enumOutOfRange, int_setIntegerParam, Bool.or_eq_true, Bool.or_eq_false_iff,
        decide_eq_true_eq, decide_eq_false_iff_not, reduceCtorEq, if_false, if_true] at hout hin
      change ((d.int .elementSet ≥ d.elementsets.length ∨ d.int .lensMode ≥ d.lensModes.length) ∨
        value ≥ d.passEnergies.length) ∨ d.int .detectorMode ≥ d.detectorModes.length at hout
      omega
    · have hvalid := valid_of_at? hselected.hrequested
      rw [int_setIntegerParam, if_pos rfl] at hvalid
      exact absurd hvalid.1 (by omega)

theorem guarded_passEnergy {base : ADDriver} {value : Int} {reply : AdjustReply}
    (hv : IndicesValid d) : Guarded base d (.int .passEnergy value reply) ↔ 0 ≤ value := by
  obtain ⟨text, hwrite, hhigh⟩ | ⟨hhigh, hwrite⟩ := passEnergy_cases base d value reply
  · exact iff_of_true (guarded_refused hv hwrite) (by omega)
  · by_cases hlow : 0 ≤ value
    · have hvalid : ValidIndex d.passEnergies value := ⟨hlow, hhigh⟩
      have hstored : IndicesValid (d.setIntegerParam .passEnergy value) :=
        hv.setIntegerParam (by simp) (by simp) (fun _ => hvalid) (by simp)
      refine iff_of_true (hstored.rebuild ?_ hwrite) hlow
      simp [writesInvalidIndex, hvalid]
    · refine iff_of_false ?_ hlow
      rintro ⟨d', hd', -⟩
      rw [hwrite, setup_negative hv (by omega)] at hd'
      cases hd'

theorem guarded_acquisitionMode (base : ADDriver) (value : Int) (reply : AdjustReply)
    (hv : IndicesValid d) : Guarded base d (.int .analyserAcquisitionMode value reply) := by
  obtain ⟨text, hwrite⟩ | ⟨hnone, -⟩ | ⟨-, hwrite⟩ := acquisitionMode_cases base d value reply
  · exact guarded_refused hv hwrite
  · obtain ⟨lens, hlens⟩ := at?_of_valid hv.lensMode
    rw [hnone] at hlens
    cases hlens
  · have hstored : IndicesValid (d.setIntegerParam .analyserAcquisitionMode value) :=
      hv.setIntegerParam (by simp) (by simp) (by simp) (by simp)
    exact hstored.rebuild (by simp [writesInvalidIndex]) hwrite

/-- A write that is only stored. -/
theorem guarded_stored {base : ADDriver} {w : Write} {f : IntParam} {value : Int}
    (hwrite : d.write base w = some (d.setIntegerParam f value))
    (hstored : IndicesValid (d.setIntegerParam f value)) (hw : ¬ d.writesInvalidIndex w) :
    Guarded base d w :=
  ⟨_, hwrite, hstored, fun hinvalid => absurd hinvalid hw⟩

theorem guarded_elementSet {base : ADDriver} {value : Int} {reply : AdjustReply}
    (hv : IndicesValid d) :
    Guarded base d (.int .elementSet value reply) ↔ ValidIndex d.elementsets value := by
  constructor
  · rintro ⟨d', hd', hvalid, -⟩
    obtain rfl := Option.some.inj hd'
    have helementSet := hvalid.elementSet
    rwa [int_setIntegerParam, if_pos rfl] at helementSet
  · intro hvalid
    apply guarded_stored rfl
    · exact hv.setIntegerParam (fun _ => hvalid) (by simp) (by simp) (by simp)
    · simp [writesInvalidIndex, hvalid]

theorem guarded_detectorMode {base : ADDriver} {value : Int} {reply : AdjustReply}
    (hv : IndicesValid d) :
    Guarded base d (.int .detectorMode value reply) ↔ ValidIndex d.detectorModes value := by
  constructor
  · rintro ⟨d', hd', hvalid, -⟩
    obtain rfl := Option.some.inj hd'
    have hdetectorMode := hvalid.detectorMode
    rwa [int_setIntegerParam, if_pos rfl] at hdetectorMode
  · intro hvalid
    apply guarded_stored rfl
    · exact hv.setIntegerParam (by simp) (by simp) (by simp) (fun _ => hvalid)
    · simp [writesInvalidIndex, hvalid]

/-- With valid indices, a write is answered as it should exactly if its value fits. -/
theorem guarded_iff_fits {base : ADDriver} {w : Write} (hv : IndicesValid d) :
    Guarded base d w ↔ d.fitsIndices w := by
  cases w with
  | float f value reply =>
    refine iff_of_true (guarded_settled hv ?_ (settles_writeFloat64 base f value reply)) trivial
    exact not_false
  | int f value reply =>
    cases f
    case lensMode =>
      rw [guarded_lensMode hv]
      simp [fitsIndices]
    case passEnergy =>
      rw [guarded_passEnergy hv]
      simp [fitsIndices]
    case elementSet =>
      rw [guarded_elementSet hv]
      simp [fitsIndices]
    case detectorMode =>
      rw [guarded_detectorMode hv]
      simp [fitsIndices]
    case analyserAcquisitionMode =>
      refine iff_of_true (guarded_acquisitionMode base value reply hv) ?_
      simp [fitsIndices]
    case analyserWithSlice | analyserWithAngleY =>
      refine iff_of_true (guarded_stored rfl ?_ ?_) ?_
      · exact hv.setIntegerParam (by simp) (by simp) (by simp) (by simp)
      · simp [writesInvalidIndex]
      · simp [fitsIndices]
    all_goals
      refine iff_of_true (guarded_settled hv ?_ (settles_write base rfl)) ?_
      · simp [writesInvalidIndex]
      · simp [fitsIndices]

/-! ### Connecting -/

section Chain
variable (names : List String) (name : String) (f : IntParam) (text : Option StringParam)

theorem elementsets_selectListed : (d.selectListed names name f text).elementsets = d.elementsets := by
  unfold selectListed
  split
  · cases text <;> rfl
  · rfl

theorem passEnergies_selectListed :
    (d.selectListed names name f text).passEnergies = d.passEnergies := by
  unfold selectListed
  split
  · cases text <;> rfl
  · rfl

theorem detectorModes_selectListed :
    (d.selectListed names name f text).detectorModes = d.detectorModes := by
  unfold selectListed
  split
  · cases text <;> rfl
  · rfl

theorem spectrumDefinition_selectListed :
    (d.selectListed names name f text).spectrumDefinition = d.spectrumDefinition := by
  unfold selectListed
  split
  · cases text <;> rfl
  · rfl

theorem int_selectListed (q : IntParam) :
    (d.selectListed names name f text).int q =
      if q = f then (position names name).getD (d.int f) else d.int q := by
  unfold selectListed
  cases position names name with
  | none =>
    by_cases hq : q = f
    · simp [hq]
    · simp [hq]
  | some index => cases text <;> exact int_setIntegerParam f index

theorem int_setPassEnergy_index (passEnergy : ℚ) (q : IntParam) :
    (d.setPassEnergy passEnergy).int q =
      if q = .passEnergy then d.passEnergyIndex passEnergy else d.int q := by
  split
  · rename_i heq
    rw [heq]
    exact (setPassEnergy_cases d passEnergy).2.1
  · rename_i hne
    exact int_setPassEnergy_other d passEnergy hne

end Chain

/-- The enabled lens modes, sorted by their names. -/
def listedLensModes (info : ServerInfo) : List LensModeSetting :=
  ((info.opticsLensModes.filter LensModeInfo.enabled).map
    LensModeInfo.setting).insertionSort fun a b => a.name ≤ b.name

/-- What `connectAnalyser` has selected when it calls `setupSpectrumDefinition`. -/
theorem connect_selects (d : Driver) (info : ServerInfo) (reply : AdjustReply) :
    ∃ d₀ : Driver, d.connectAnalyser info reply = d₀.setupSpectrumDefinition reply ∧
      d₀.elementsets = info.configurations ∧ d₀.lensModes = listedLensModes info ∧
      d₀.passEnergies = info.calibratedPassEnergies ∧ d₀.detectorModes = info.acquisitionModes ∧
      d₀.int .elementSet =
        (position info.configurations info.configurationName).getD (d.int .elementSet) ∧
      d₀.int .lensMode =
        (position ((listedLensModes info).map (·.name)) info.lensModeName).getD (d.int .lensMode) ∧
      d₀.int .passEnergy =
        (position info.calibratedPassEnergies info.passEnergy).getD (d.int .passEnergy) ∧
      d₀.int .detectorMode =
        (position info.acquisitionModes info.acquisitionMode).getD (d.int .detectorMode) ∧
      d₀.int .analyserAcquisitionMode = d.int .analyserAcquisitionMode ∧
      d₀.spectrumDefinition.sweepZ = none := by
  refine ⟨_, rfl, ?_⟩
  simp only [setSlit, setDetectorMode, setLensMode, setElementSet, setIntegerParam, setDoubleParam,
    withParams, elementsets_selectListed, selectListed_lensModes, passEnergies_selectListed,
    detectorModes_selectListed, spectrumDefinition_selectListed,
    (setPassEnergy_cases _ _).1.elementsets,
    (setPassEnergy_cases _ _).1.lensModes, (setPassEnergy_cases _ _).1.passEnergies,
    (setPassEnergy_cases _ _).1.detectorModes, Params.int_setIntegerParam, Params.int_setDoubleParam,
    int_selectListed, int_setPassEnergy_index, passEnergyIndex, reduceCtorEq, if_false, if_true,
    listedLensModes, and_self]

/-- Each selection that the servers answer with is listed, or else the index that the parameter
still has fits the new list. -/
def findsIndices (d : Driver) (info : ServerInfo) : Prop :=
  (info.configurationName ∈ info.configurations ∨
    ValidIndex info.configurations (d.int .elementSet)) ∧
  (info.lensModeName ∈ (listedLensModes info).map (·.name) ∨
    ValidIndex (listedLensModes info) (d.int .lensMode)) ∧
  (info.passEnergy ∈ info.calibratedPassEnergies ∨
    ValidIndex info.calibratedPassEnergies (d.int .passEnergy)) ∧
  (info.acquisitionMode ∈ info.acquisitionModes ∨
    ValidIndex info.acquisitionModes (d.int .detectorMode))

instance (d : Driver) (info : ServerInfo) : Decidable (d.findsIndices info) :=
  @instDecidableAnd _ _ inferInstance <| @instDecidableAnd _ _ inferInstance <|
    @instDecidableAnd _ _ inferInstance inferInstance

theorem valid_position {α β : Type} [DecidableEq α] {names : List α} {list : List β} {name : α}
    (old : Int) (hlength : names.length = list.length) :
    ValidIndex list ((position names name).getD old) ↔ name ∈ names ∨ ValidIndex list old := by
  by_cases hmem : name ∈ names
  · obtain ⟨index, hindex⟩ := position_of_mem hmem
    obtain ⟨hlow, hhigh⟩ := valid_of_position hindex
    rw [hindex, Option.getD_some]
    exact iff_of_true ⟨hlow, by omega⟩ (Or.inl hmem)
  · rw [position_of_not_mem hmem, Option.getD_none]
    exact ⟨Or.inr, fun h => h.resolve_left hmem⟩

theorem indicesValid_before_setup {reply : AdjustReply}
    (h : d.setupSpectrumDefinition reply = some d') (hv : IndicesValid d') : IndicesValid d := by
  obtain ⟨-, rfl⟩ | ⟨_, _, _, _, _, hselected, -⟩ := setup_cases h
  · exact hv
  · exact ⟨valid_of_at? hselected.helementSet, valid_of_at? hselected.hlens,
      valid_of_at? hselected.hrequested, valid_of_at? hselected.hdetectorMode⟩

theorem connect_valid_iff {info : ServerInfo} {reply : AdjustReply}
    (h : d.connectAnalyser info reply = some d') : IndicesValid d' ↔ d.findsIndices info := by
  obtain ⟨d₀, hconnect, helementsets, hlensModes, hpassEnergies, hdetectorModes, helementSet,
    hlensMode, hpassEnergy, hdetectorMode, -, -⟩ := connect_selects d info reply
  rw [hconnect] at h
  have hsetup : IndicesValid d' ↔ IndicesValid d₀ :=
    ⟨indicesValid_before_setup h, fun hv => indicesValid_setup hv h⟩
  have hlength : ((listedLensModes info).map (·.name)).length = (listedLensModes info).length :=
    List.length_map _
  rw [hsetup, findsIndices, ← valid_position (d.int .elementSet) rfl,
    ← valid_position (d.int .lensMode) hlength, ← valid_position (d.int .passEnergy) rfl,
    ← valid_position (d.int .detectorMode) rfl, ← helementSet, ← hlensMode, ← hpassEnergy,
    ← hdetectorMode, ← helementsets, ← hlensModes, ← hpassEnergies, ← hdetectorModes]
  exact ⟨fun ⟨h₁, h₂, h₃, h₄⟩ => ⟨h₁, h₂, h₃, h₄⟩, fun ⟨h₁, h₂, h₃, h₄⟩ => ⟨h₁, h₂, h₃, h₄⟩⟩

/-- After a connection that finds an index for each list, and writes that fit, the indices are
valid, and it is the writes that fit that are answered as they should. -/
theorem indices_stay_valid {base : ADDriver} {d₀ d₁ : Driver} {info : ServerInfo}
    {reply : AdjustReply} (hconnect : d.connectAnalyser info reply = some d₀)
    (hfinds : d.findsIndices info) (hrun : Run (write base) fitsIndices d₀ d₁) :
    IndicesValid d₁ ∧ ∀ w, Guarded base d₁ w ↔ d₁.fitsIndices w := by
  have hstep : ∀ a w b, IndicesValid a → a.fitsIndices w → a.write base w = some b →
      IndicesValid b := by
    intro a w b hv hfits hwrite
    have hguarded : Guarded base a w := (guarded_iff_fits hv).mpr hfits
    obtain ⟨b', hb', hvalid, -⟩ := hguarded
    rw [hwrite] at hb'
    obtain rfl := Option.some.inj hb'
    exact hvalid
  have hv : IndicesValid d₁ := hrun.invariant hstep ((connect_valid_iff hconnect).mpr hfinds)
  exact ⟨hv, fun w => guarded_iff_fits hv⟩

theorem indices_stay_valid_after_refusal :
    ∃ d₀ d₁, unconnected.connectAnalyser smallAnalyser .raised = some d₀ ∧
      Run (write (.store 8)) fitsIndices d₀ d₁ ∧ d₁.int .lensMode = 0 ∧ d₁.int .passEnergy = 0 ∧
      IndicesValid d₁ ∧ ∀ w, Guarded (.store 8) d₁ w ↔ d₁.fitsIndices w := by
  have hreach : (unconnected.connectAnalyser smallAnalyser .raised).any fun d₀ =>
      reaches (write (.store 8)) fitsIndices d₀
        [.int .lensMode 7 .raised, .int .passEnergy 0 .raised]
        (fun d₁ => d₁.int .lensMode = 0 ∧ d₁.int .passEnergy = 0) := by
    decide +kernel
  obtain ⟨d₀, hconnect, hwrites⟩ := (Option.any_eq_true _ _).mp hreach
  obtain ⟨d₁, hrun, hindices⟩ := run_of_reaches hwrites
  have hfinds : unconnected.findsIndices smallAnalyser := by decide +kernel
  obtain ⟨hlensMode, hpassEnergy⟩ := of_decide_eq_true hindices
  exact ⟨d₀, d₁, hconnect, hrun, hlensMode, hpassEnergy,
    indices_stay_valid hconnect hfinds hrun⟩

/-- A write of `writeInt32`. -/
def Write.isInt32 : Write → Bool
  | .int _ _ _ => true
  | .float _ _ _ => false

/-- A detector mode that is not listed stays, and the lens mode -1 is looked up in the list. -/
theorem indices_unchecked :
    ∃ d₀, unconnected.connectAnalyser smallAnalyser .raised = some d₀ ∧
      d₀.write (.store 8) (.int .lensMode (-1) .raised) = none ∧
      ¬ ∀ d₁, Run (write (.store 8)) (fun _ w => w.isInt32 = true) d₀ d₁ →
        IndicesValid d₁ ∧ ∀ f value reply, Guarded (.store 8) d₁ (.int f value reply) := by
  have hreach : (unconnected.connectAnalyser smallAnalyser .raised).any fun d₀ =>
      (d₀.write (.store 8) (.int .lensMode (-1) .raised)).isNone &&
      reaches (write (.store 8)) (fun _ w => w.isInt32 = true) d₀ [.int .detectorMode 5 .raised]
        (fun d₁ => ¬ ValidIndex d₁.detectorModes (d₁.int .detectorMode)) := by
    decide +kernel
  obtain ⟨d₀, hconnect, hboth⟩ := (Option.any_eq_true _ _).mp hreach
  obtain ⟨hnone, hwrite⟩ := Bool.and_eq_true_iff.mp hboth
  obtain ⟨d₁, hrun, hinvalid⟩ := run_of_reaches hwrite
  refine ⟨d₀, hconnect, Option.isNone_iff_eq_none.mp hnone, fun hclaim => ?_⟩
  exact of_decide_eq_true hinvalid (hclaim d₁ hrun).1.detectorMode

end Driver

end PeakAnalyser

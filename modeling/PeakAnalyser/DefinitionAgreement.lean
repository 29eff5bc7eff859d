import PeakAnalyser.Library.Runs
import PeakAnalyser.WriteFrames

/-!
# The spectrum definition and the parameters it is built from

`rebuilt` is the definition that `setupSpectrumDefinition` would store. A write
either rebuilds it or touches nothing that it is built from, with two exceptions:
the detector mode and the element set. And a rebuild may return before it has stored
anything, which leaves the definition of other parameters in force.
-/

namespace PeakAnalyser

set_option autoImplicit false

open Runs

/-- The parameters that the definition is built from, but for the pass energy, which a
rebuild corrects. -/
def IntParam.selects : IntParam → Bool
  | .elementSet | .lensMode | .detectorMode | .energyMode | .analyserAcquisitionMode
  | .adMinX | .adMinY | .adSizeX | .adSizeY | .detectorChannels | .detectorSlices => true
  | _ => false

def FloatParam.selects : FloatParam → Bool
  | .adAcquireTime | .excitationEnergy | .workFunction
  | .focalPositionX | .focalPositionY | .focalPositionZ => true
  | _ => false

theorem clamp_clamp {range : ℚ × ℚ} (h : range.1 ≤ range.2) (value : ℚ) :
    clamp (clamp value range) range = clamp value range := by
  have hlow : ¬ range.1 < range.1 := lt_irrefl _
  have hhigh : ¬ range.2 < range.1 := not_lt.mpr h
  by_cases hless : value < range.1
  · simp [clamp, hless, not_lt.mpr h]
  · by_cases hmore : value > range.2
    · simp [clamp, hless, hmore, hhigh]
    · simp [clamp, hless, hmore]

theorem at?_position {α : Type} [DecidableEq α] {list : List α} {a : α} {index : Int}
    (h : position list a = some index) : at? list index = some a := by
  obtain ⟨n, hn, rfl⟩ := Option.map_eq_some_iff.mp h
  obtain ⟨hlt, hget, _⟩ := List.idxOf?_eq_some_iff.mp hn
  simp [at?, hget, hlt]

/-- The range that the analyser answers for a lens mode has its ends in order. -/
def ServerInfo.ordered (info : ServerInfo) : Prop :=
  ∀ lens ∈ info.opticsLensModes, lens.passEnergy.1 ≤ lens.passEnergy.2

instance (info : ServerInfo) : Decidable info.ordered := by
  unfold ServerInfo.ordered
  infer_instance

namespace Driver

variable {d d' : Driver}

/-- Lines 1608 to 1612 or 1638 to 1641 return without a new definition. -/
def returnsEarly (d : Driver) : Bool := d.enumOutOfRange || d.energyRefused

/-- The index that `PassEnergy` is left with when the setting of `passEnergy` is asked for. -/
def passEnergyIndex (d : Driver) (passEnergy : ℚ) : Int :=
  (position d.passEnergies passEnergy).getD (d.int .passEnergy)

/-- The definition that `setupSpectrumDefinition` would store. -/
def rebuilt (d : Driver) : Option SpectrumDefinition :=
  if d.returnsEarly then none
  else do
    let requested ← at? d.passEnergies (d.int .passEnergy)
    let lens ← at? d.lensModes (d.int .lensMode)
    let elementSet ← at? d.elementsets (d.int .elementSet)
    let detectorMode ← at? d.detectorModes (d.int .detectorMode)
    let passEnergy ← at? d.passEnergies
      (d.passEnergyIndex (clamp requested lens.passEnergyRange))
    some (d.filledDefinition elementSet lens passEnergy detectorMode)

/-- Evaluating `setupSpectrumDefinition` once more would leave the definition as it is. -/
def Agrees (d : Driver) : Prop :=
  ∀ reply d', d.setupSpectrumDefinition reply = some d' →
    d'.spectrumDefinition = d.spectrumDefinition

/-- Everything that a definition is built from is the same, but perhaps for the pass energy. -/
structure Alike (d d' : Driver) : Prop where
  elementsets : d'.elementsets = d.elementsets
  lensModes : d'.lensModes = d.lensModes
  passEnergies : d'.passEnergies = d.passEnergies
  detectorModes : d'.detectorModes = d.detectorModes
  requestedAxes : d'.requestedAxes = d.requestedAxes
  pixelDensity : d'.pixelDensity = d.pixelDensity
  channelCenterX : d'.channelCenterX = d.channelCenterX
  channelCenterY : d'.channelCenterY = d.channelCenterY
  int : ∀ q, q.selects = true → d'.int q = d.int q
  float : ∀ r, r.selects = true → d'.float r = d.float r

theorem Alike.refl (d : Driver) : Alike d d :=
  ⟨rfl, rfl, rfl, rfl, rfl, rfl, rfl, rfl, fun _ _ => rfl, fun _ _ => rfl⟩

theorem Alike.trans {d₁ d₂ d₃ : Driver} (h : Alike d₁ d₂) (h' : Alike d₂ d₃) : Alike d₁ d₃ where
  elementsets := h'.elementsets.trans h.elementsets
  lensModes := h'.lensModes.trans h.lensModes
  passEnergies := h'.passEnergies.trans h.passEnergies
  detectorModes := h'.detectorModes.trans h.detectorModes
  requestedAxes := h'.requestedAxes.trans h.requestedAxes
  pixelDensity := h'.pixelDensity.trans h.pixelDensity
  channelCenterX := h'.channelCenterX.trans h.channelCenterX
  channelCenterY := h'.channelCenterY.trans h.channelCenterY
  int q hq := (h'.int q hq).trans (h.int q hq)
  float r hr := (h'.float r hr).trans (h.float r hr)

/-- A change of the parameter library that spares what a definition is built from. -/
theorem alike_withParams {p : Params} (hint : ∀ q, q.selects = true → p.int q = d.int q)
    (hfloat : ∀ r, r.selects = true → p.float r = d.float r) : Alike d (d.withParams p) :=
  ⟨rfl, rfl, rfl, rfl, rfl, rfl, rfl, rfl, hint, hfloat⟩

/-- The same choices of the client lead to the same definition. -/
structure SameChoice (d d' : Driver) : Prop where
  elementsets : d'.elementsets = d.elementsets
  lensModes : d'.lensModes = d.lensModes
  passEnergies : d'.passEnergies = d.passEnergies
  detectorModes : d'.detectorModes = d.detectorModes
  elementSet : d'.int .elementSet = d.int .elementSet
  lensMode : d'.int .lensMode = d.int .lensMode
  passEnergy : d'.int .passEnergy = d.int .passEnergy
  detectorMode : d'.int .detectorMode = d.int .detectorMode
  refused : d'.energyRefused = d.energyRefused
  filled : d'.filledDefinition = d.filledDefinition

theorem Alike.energyRequest (h : Alike d d') : d'.energyRequest = d.energyRequest := by
  unfold Driver.energyRequest
  rw [h.requestedAxes, h.int .energyMode rfl, h.float .excitationEnergy rfl,
    h.float .workFunction rfl]

theorem Alike.refused (h : Alike d d') : d'.energyRefused = d.energyRefused := by
  unfold energyRefused
  rw [h.energyRequest, h.int .analyserAcquisitionMode rfl]

theorem Alike.filled (h : Alike d d') : d'.filledDefinition = d.filledDefinition := by
  funext elementSet lens passEnergy detectorMode
  unfold filledDefinition detectorArea angleYRequest
  rw [h.energyRequest, h.requestedAxes, h.pixelDensity, h.channelCenterX, h.channelCenterY,
    h.int .analyserAcquisitionMode rfl, h.int .adMinX rfl, h.int .adMinY rfl, h.int .adSizeX rfl,
    h.int .adSizeY rfl, h.int .detectorChannels rfl, h.int .detectorSlices rfl,
    h.float .adAcquireTime rfl, h.float .focalPositionX rfl, h.float .focalPositionY rfl,
    h.float .focalPositionZ rfl]

theorem Alike.sameChoice (h : Alike d d') (hpass : d'.int .passEnergy = d.int .passEnergy) :
    SameChoice d d' :=
  ⟨h.elementsets, h.lensModes, h.passEnergies, h.detectorModes, h.int _ rfl, h.int _ rfl, hpass,
    h.int _ rfl, h.refused, h.filled⟩

theorem SameChoice.rebuilt (h : SameChoice d d') : d'.rebuilt = d.rebuilt := by
  unfold Driver.rebuilt returnsEarly enumOutOfRange passEnergyIndex
  rw [h.elementsets, h.lensModes, h.passEnergies, h.detectorModes, h.elementSet, h.lensMode,
    h.passEnergy, h.detectorMode, h.refused, h.filled]

/-! ### What a rebuild does -/

theorem setPassEnergy_cases (d : Driver) (passEnergy : ℚ) :
    Alike d (d.setPassEnergy passEnergy) ∧
      (d.setPassEnergy passEnergy).int .passEnergy = d.passEnergyIndex passEnergy ∧
      (d.setPassEnergy passEnergy).spectrumDefinition = d.spectrumDefinition := by
  unfold setPassEnergy passEnergyIndex
  split
  · rename_i index hindex
    refine ⟨alike_withParams (fun q hq => ?_) (fun r hr => ?_), by simp [hindex], rfl⟩
    · have hne : q ≠ .passEnergy := by
        rintro rfl
        cases hq
      simp [setIntegerParam, withParams, hne]
    · have hne : r ≠ .passEnergyValue := by
        rintro rfl
        cases hr
      simp [setIntegerParam, withParams, hne]
  · rename_i hindex
    exact ⟨.refl d, by simp [hindex], rfl⟩

theorem setRegion_spares (p : Params) (settings : ChannelSettings) :
    (∀ q, q.selects = true ∨ q = .passEnergy → (p.setRegion settings).int q = p.int q) ∧
      ∀ r, r.selects = true → (p.setRegion settings).float r = p.float r := by
  constructor
  · intro q hq
    have hne : ∀ f : IntParam, f.selects = false → f ≠ .passEnergy → q ≠ f := by
      rintro f hf hfp rfl
      obtain hq | hq := hq
      · rw [hf] at hq
        cases hq
      · exact hfp hq
    simp [Params.setRegion, hne .analyserEnergyCount rfl (by simp),
      hne .analyserSliceCount rfl (by simp), hne .analyserAngleYCount rfl (by simp),
      hne .acqNumSteps rfl (by simp), hne .acqNumStepsCounter rfl (by simp)]
  · intro r hr
    have hne : ∀ f : FloatParam, f.selects = false → r ≠ f := by
      rintro f hf rfl
      rw [hf] at hr
      cases hr
    simp only [Params.setRegion, Params.setAxis, Params.float_setIntegerParam,
      Params.float_setDoubleParam, hne .analyserLowEnergy rfl, hne .analyserEnergyStep rfl,
      hne .analyserHighEnergy rfl, hne .analyserCenterEnergy rfl, hne .analyserLowSlice rfl,
      hne .analyserSliceStep rfl, hne .analyserHighSlice rfl, hne .analyserCenterSlice rfl,
      hne .analyserLowAngleY rfl, hne .analyserAngleYStep rfl, hne .analyserHighAngleY rfl,
      hne .analyserCenterAngleY rfl, if_false]

theorem setETA_spares (p : Params) (eta : Number) :
    (p.setETA eta).int = p.int ∧ (p.setETA eta).float = p.float := by
  cases eta <;> exact ⟨rfl, rfl⟩

theorem adjusted_cases (d : Driver) (reply : AdjustReply) :
    Alike d (d.adjusted reply) ∧ (d.adjusted reply).int .passEnergy = d.int .passEnergy ∧
      (d.adjusted reply).spectrumDefinition = d.spectrumDefinition := by
  cases reply with
  | raised => exact ⟨.refl d, rfl, rfl⟩
  | adjusted settings wallClockTime =>
    obtain ⟨hint, hfloat⟩ := setRegion_spares d.toParams settings
    have heta := setETA_spares (d.toParams.setRegion settings)
      (.finite (wallClockTime * d.int .adNumExposures))
    refine ⟨alike_withParams (fun q hq => ?_) (fun r hr => ?_), ?_, rfl⟩
    · rw [heta.1]
      exact hint q (Or.inl hq)
    · rw [heta.2]
      exact hfloat r hr
    · exact (congrFun heta.1 .passEnergy).trans (hint .passEnergy (Or.inr rfl))

/-- Lines 1618 to 1621. -/
theorem labelled_cases (d : Driver) (elementSet lens detectorMode : String) (passEnergy : ℚ) :
    let d' := (((d.setStringParam .elementSetStr elementSet).setStringParam .lensModeStr
      lens).setStringParam .detectorModeStr detectorMode).setDoubleParam .passEnergyValue passEnergy
    Alike d d' ∧ d'.int .passEnergy = d.int .passEnergy ∧
      d'.spectrumDefinition = d.spectrumDefinition := by
  refine ⟨alike_withParams (fun q _ => rfl) (fun r hr => ?_), rfl, rfl⟩
  have hne : r ≠ .passEnergyValue := by
    rintro rfl
    cases hr
  simp [setStringParam, withParams, hne]

theorem Alike.of_definition (d : Driver) (definition : SpectrumDefinition) :
    Alike d { d with spectrumDefinition := definition } :=
  ⟨rfl, rfl, rfl, rfl, rfl, rfl, rfl, rfl, fun _ _ => rfl, fun _ _ => rfl⟩

/-- What `setupSpectrumDefinition` has looked up once it is past the range check. -/
structure Selected (d : Driver) (lens : LensModeSetting) (elementSet detectorMode : String)
    (requested passEnergy : ℚ) : Prop where
  inRange : d.enumOutOfRange = false
  hrequested : at? d.passEnergies (d.int .passEnergy) = some requested
  hlens : at? d.lensModes (d.int .lensMode) = some lens
  helementSet : at? d.elementsets (d.int .elementSet) = some elementSet
  hdetectorMode : at? d.detectorModes (d.int .detectorMode) = some detectorMode
  hpassEnergy : at? d.passEnergies
    (d.passEnergyIndex (clamp requested lens.passEnergyRange)) = some passEnergy

theorem Selected.rebuilt {lens : LensModeSetting} {elementSet detectorMode : String}
    {requested passEnergy : ℚ}
    (h : Selected d lens elementSet detectorMode requested passEnergy) :
    d.rebuilt = if d.energyRefused then none
      else some (d.filledDefinition elementSet lens passEnergy detectorMode) := by
  unfold Driver.rebuilt returnsEarly
  simp only [h.inRange, h.hrequested, h.hlens, h.helementSet, h.hdetectorMode, h.hpassEnergy,
    Bool.false_or, Option.bind_eq_bind, Option.bind_some]

/-- What a call of `setupSpectrumDefinition` leaves behind. -/
theorem setup_cases {reply : AdjustReply} (h : d.setupSpectrumDefinition reply = some d') :
    (d.enumOutOfRange = true ∧ d' = d) ∨
    ∃ lens elementSet detectorMode requested passEnergy,
      Selected d lens elementSet detectorMode requested passEnergy ∧ Alike d d' ∧
      d'.int .passEnergy = d.passEnergyIndex (clamp requested lens.passEnergyRange) ∧
      d'.spectrumDefinition = (d.rebuilt).getD d.spectrumDefinition := by
  unfold setupSpectrumDefinition at h
  split at h
  · rename_i hrange
    exact Or.inl ⟨hrange, (Option.some.inj h).symm⟩
  · rename_i hrange
    obtain ⟨requested, hrequested, h⟩ := Option.bind_eq_some_iff.mp h
    obtain ⟨lens, hlens, h⟩ := Option.bind_eq_some_iff.mp h
    obtain ⟨halike, hindex, hdefinition⟩ :=
      setPassEnergy_cases d (clamp requested lens.passEnergyRange)
    obtain ⟨elementSet, helementSet, h⟩ := Option.bind_eq_some_iff.mp h
    obtain ⟨detectorMode, hdetectorMode, h⟩ := Option.bind_eq_some_iff.mp h
    obtain ⟨passEnergy, hpassEnergy, h⟩ := Option.bind_eq_some_iff.mp h
    rw [halike.elementsets, halike.int .elementSet rfl] at helementSet
    rw [halike.detectorModes, halike.int .detectorMode rfl] at hdetectorMode
    rw [halike.passEnergies, hindex] at hpassEnergy
    have hselected : Selected d lens elementSet detectorMode requested passEnergy :=
      ⟨by simpa using hrange, hrequested, hlens, helementSet, hdetectorMode, hpassEnergy⟩
    obtain ⟨hlabels, hlabelled, hkept⟩ := labelled_cases
      (d.setPassEnergy (clamp requested lens.passEnergyRange)) elementSet lens.name detectorMode
      passEnergy
    have hprepared := halike.trans hlabels
    refine Or.inr ⟨lens, elementSet, detectorMode, requested, passEnergy, hselected, ?_⟩
    rw [hselected.rebuilt]
    dsimp only at h
    split at h
    · rename_i hrefused
      obtain rfl := Option.some.inj h
      rw [hprepared.refused] at hrefused
      rw [if_pos hrefused]
      exact ⟨hprepared, hlabelled.trans hindex, hkept.trans hdefinition⟩
    · rename_i hrefused
      obtain rfl := Option.some.inj h
      rw [hprepared.refused] at hrefused
      rw [if_neg hrefused]
      obtain ⟨hadjusted, hpass, hstored⟩ := adjusted_cases _ reply
      refine ⟨?_, hpass.trans (hlabelled.trans hindex), hstored.trans ?_⟩
      · exact hprepared.trans (Alike.trans (.of_definition _ _) hadjusted)
      · exact congrFun (congrFun (congrFun (congrFun hprepared.filled _) _) _) _

/-- The definition is the one that the parameters call for. -/
def InForce (d : Driver) : Prop := d.rebuilt = some d.spectrumDefinition

/-- The range of every lens mode has its ends in order. -/
def Ordered (d : Driver) : Prop :=
  ∀ lens ∈ d.lensModes, lens.passEnergyRange.1 ≤ lens.passEnergyRange.2

theorem InForce.agrees (h : InForce d) : Agrees d := by
  intro reply d' hsetup
  obtain ⟨_, rfl⟩ | ⟨_, _, _, _, _, _, _, _, hdefinition⟩ := setup_cases hsetup
  · rfl
  · rw [hdefinition, h]
    rfl

/-- The pass energy that a rebuild has set is the one that the next rebuild asks for. -/
theorem passEnergy_again {requested passEnergy : ℚ} {range : ℚ × ℚ} (hrange : range.1 ≤ range.2)
    (halike : Alike d d') (hindex : d'.int .passEnergy = d.passEnergyIndex (clamp requested range))
    (hrequested : at? d.passEnergies (d.int .passEnergy) = some requested)
    (hpass : at? d.passEnergies (d.passEnergyIndex (clamp requested range)) = some passEnergy) :
    d'.passEnergyIndex (clamp passEnergy range) = d.passEnergyIndex (clamp requested range) := by
  unfold passEnergyIndex at *
  rw [halike.passEnergies, hindex]
  cases hposition : position d.passEnergies (clamp requested range) with
  | some index =>
    rw [hposition] at hpass
    have hvalue : passEnergy = clamp requested range :=
      Option.some.inj (hpass.symm.trans (at?_position hposition))
    rw [hvalue, clamp_clamp hrange, hposition]
    rfl
  | none =>
    rw [hposition] at hpass
    have hvalue : passEnergy = requested := Option.some.inj (hpass.symm.trans hrequested)
    rw [hvalue, hposition]
    rfl

theorem at?_mem {α : Type} {list : List α} {index : Int} {a : α} (h : at? list index = some a) :
    a ∈ list := by
  unfold at? at h
  split at h
  · exact List.mem_of_getElem? h
  · cases h

theorem at?_lt {α : Type} {list : List α} {index : Int} {a : α} (h : at? list index = some a) :
    index < list.length := by
  unfold at? at h
  split at h
  · obtain ⟨hlt, -⟩ := List.getElem?_eq_some_iff.mp h
    omega
  · cases h

theorem inRange_of_lookups {requested : ℚ} {lens : LensModeSetting}
    {elementSet detectorMode : String}
    (hrequested : at? d.passEnergies (d.int .passEnergy) = some requested)
    (hlens : at? d.lensModes (d.int .lensMode) = some lens)
    (helementSet : at? d.elementsets (d.int .elementSet) = some elementSet)
    (hdetectorMode : at? d.detectorModes (d.int .detectorMode) = some detectorMode) :
    d.enumOutOfRange = false := by
  simp [enumOutOfRange, at?_lt hrequested, at?_lt hlens, at?_lt helementSet, at?_lt hdetectorMode]

/-- The parameters call for a definition. -/
theorem rebuilt_eq_some {definition : SpectrumDefinition} :
    d.rebuilt = some definition ↔ ∃ lens elementSet detectorMode requested passEnergy,
      Selected d lens elementSet detectorMode requested passEnergy ∧ d.energyRefused = false ∧
        d.filledDefinition elementSet lens passEnergy detectorMode = definition := by
  constructor
  · intro h
    unfold Driver.rebuilt at h
    split at h
    · cases h
    · rename_i hearly
      obtain ⟨hrange, hrefused⟩ := Bool.or_eq_false_iff.mp (Bool.not_eq_true _ ▸ hearly)
      obtain ⟨requested, hrequested, h⟩ := Option.bind_eq_some_iff.mp h
      obtain ⟨lens, hlens, h⟩ := Option.bind_eq_some_iff.mp h
      obtain ⟨elementSet, helementSet, h⟩ := Option.bind_eq_some_iff.mp h
      obtain ⟨detectorMode, hdetectorMode, h⟩ := Option.bind_eq_some_iff.mp h
      obtain ⟨passEnergy, hpassEnergy, h⟩ := Option.bind_eq_some_iff.mp h
      exact ⟨lens, elementSet, detectorMode, requested, passEnergy,
        ⟨hrange, hrequested, hlens, helementSet, hdetectorMode, hpassEnergy⟩, hrefused,
        Option.some.inj h⟩
  · intro h
    obtain ⟨lens, elementSet, detectorMode, requested, passEnergy, hselected, hrefused, rfl⟩ := h
    rw [hselected.rebuilt, hrefused]
    rfl

/-- A rebuild puts the definition of its parameters in force exactly when it does not return
early. -/
theorem inForce_of_setup_iff {reply : AdjustReply} (hordered : Ordered d)
    (h : d.setupSpectrumDefinition reply = some d') : InForce d' ↔ d.returnsEarly = false := by
  obtain ⟨hrange, rfl⟩ | ⟨lens, elementSet, detectorMode, requested, passEnergy, hselected,
    halike, hindex, hdefinition⟩ := setup_cases h
  · simp [InForce, Driver.rebuilt, returnsEarly, hrange]
  · have hlens := hordered lens (at?_mem hselected.hlens)
    have hagain := passEnergy_again hlens halike hindex hselected.hrequested hselected.hpassEnergy
    have hpass : at? d'.passEnergies (d'.int .passEnergy) = some passEnergy := by
      rw [halike.passEnergies, hindex]
      exact hselected.hpassEnergy
    have hlens' : at? d'.lensModes (d'.int .lensMode) = some lens := by
      rw [halike.lensModes, halike.int .lensMode rfl]
      exact hselected.hlens
    have helementSet : at? d'.elementsets (d'.int .elementSet) = some elementSet := by
      rw [halike.elementsets, halike.int .elementSet rfl]
      exact hselected.helementSet
    have hdetectorMode : at? d'.detectorModes (d'.int .detectorMode) = some detectorMode := by
      rw [halike.detectorModes, halike.int .detectorMode rfl]
      exact hselected.hdetectorMode
    have hselected' : Selected d' lens elementSet detectorMode passEnergy passEnergy := by
      refine ⟨inRange_of_lookups hpass hlens' helementSet hdetectorMode, hpass, hlens', helementSet,
        hdetectorMode, ?_⟩
      rw [hagain, halike.passEnergies]
      exact hselected.hpassEnergy
    have hsame : d'.rebuilt = d.rebuilt := by
      rw [hselected'.rebuilt, hselected.rebuilt, halike.refused, halike.filled]
    rw [InForce, hsame, hdefinition, returnsEarly, hselected.inRange, Bool.false_or,
      hselected.rebuilt]
    cases d.energyRefused <;> simp

/-- Whether a rebuild has returned early shows in what it leaves behind. -/
theorem returnsEarly_setup {reply : AdjustReply} (h : d.setupSpectrumDefinition reply = some d') :
    d'.returnsEarly = d.returnsEarly := by
  obtain ⟨_, rfl⟩ | ⟨lens, elementSet, detectorMode, requested, passEnergy, hselected, halike,
    hindex, _⟩ := setup_cases h
  · rfl
  · have hrange : d'.enumOutOfRange = false := by
      have hpassEnergy : at? d'.passEnergies (d'.int .passEnergy) = some passEnergy := by
        rw [halike.passEnergies, hindex]
        exact hselected.hpassEnergy
      have hlens : at? d'.lensModes (d'.int .lensMode) = some lens := by
        rw [halike.lensModes, halike.int .lensMode rfl]
        exact hselected.hlens
      have helementSet : at? d'.elementsets (d'.int .elementSet) = some elementSet := by
        rw [halike.elementsets, halike.int .elementSet rfl]
        exact hselected.helementSet
      have hdetectorMode : at? d'.detectorModes (d'.int .detectorMode) = some detectorMode := by
        rw [halike.detectorModes, halike.int .detectorMode rfl]
        exact hselected.hdetectorMode
      exact inRange_of_lookups hpassEnergy hlens helementSet hdetectorMode
    rw [returnsEarly, returnsEarly, hrange, hselected.inRange, halike.refused]

theorem setup_lensModes {reply : AdjustReply} (h : d.setupSpectrumDefinition reply = some d') :
    d'.lensModes = d.lensModes := by
  obtain ⟨_, rfl⟩ | ⟨_, _, _, _, _, _, halike, _, _⟩ := setup_cases h
  · rfl
  · exact halike.lensModes

theorem SameChoice.inForce_iff (h : SameChoice d d')
    (hdefinition : d'.spectrumDefinition = d.spectrumDefinition) : InForce d' ↔ InForce d := by
  rw [InForce, InForce, h.rebuilt, hdefinition]

/-! ### Writes that change no choice -/

/-- Only the parameter library changes, and nothing that a definition is built from. -/
theorem sameChoice_of_params (h : d' = d.withParams d'.toParams)
    (hint : ∀ q, q.selects = true ∨ q = .passEnergy → d'.int q = d.int q)
    (hfloat : ∀ r, r.selects = true → d'.float r = d.float r) : SameChoice d d' := by
  rw [h]
  exact (alike_withParams (fun q hq => hint q (Or.inl hq)) hfloat).sameChoice (hint _ (Or.inr rfl))

theorem ne_of_idle {q f : IntParam} (hq : q.selects = true ∨ q = .passEnergy)
    (hf : f.selects = false) (hfp : f ≠ .passEnergy) : q ≠ f := by
  rintro rfl
  obtain hq | hq := hq
  · rw [hf] at hq
    cases hq
  · exact hfp hq

theorem sameChoice_setIntegerParam {f : IntParam} (value : Int) (hf : f.selects = false)
    (hfp : f ≠ .passEnergy) : SameChoice d (d.setIntegerParam f value) :=
  sameChoice_of_params rfl (fun q hq => by simp [ne_of_idle hq hf hfp]) fun _ _ => rfl

/-- A refused write: the old value is put back, and a message is left. -/
theorem sameChoice_restored (d : Driver) (f : IntParam) (value : Int) (text : String) :
    SameChoice d (((d.setIntegerParam f value).report text).setIntegerParam f (d.int f)) := by
  refine sameChoice_of_params rfl (fun q _ => ?_) fun _ _ => rfl
  by_cases hq : q = f
  · subst hq
    simp
  · simp [hq, report]

/-- With the energy swept, the number of channels is not part of a definition. -/
theorem sameChoice_detectorChannels {value : Int}
    (hswept : sweepsEnergy (d.int .analyserAcquisitionMode) = true) :
    SameChoice d (d.setIntegerParam .detectorChannels value) where
  elementsets := rfl
  lensModes := rfl
  passEnergies := rfl
  detectorModes := rfl
  elementSet := by simp
  lensMode := by simp
  passEnergy := by simp
  detectorMode := by simp
  refused := by
    have hrequest : (d.setIntegerParam .detectorChannels value).energyRequest =
        d.energyRequest := by
      simp [energyRequest, setIntegerParam, withParams]
    simp [energyRefused, hrequest]
  filled := by
    funext elementSet lens passEnergy detectorMode
    simp [filledDefinition, energyRequest, angleYRequest, detectorArea, setIntegerParam, withParams,
      hswept]

/-- In kinetic energies, the excitation energy and the work function are not part of a
definition. -/
theorem sameChoice_shift {f : FloatParam} {value : ℚ} (hf : f = .excitationEnergy ∨ f = .workFunction)
    (hmode : d.int .energyMode ≠ 1) : SameChoice d (d.setDoubleParam f value) := by
  have hrequest : (d.setDoubleParam f value).energyRequest = d.energyRequest := by
    simp [energyRequest, setDoubleParam, withParams, hmode]
  refine ⟨rfl, rfl, rfl, rfl, rfl, rfl, rfl, rfl, ?_, ?_⟩
  · simp [energyRefused, hrequest]
  · funext elementSet lens passEnergy detectorMode
    unfold filledDefinition
    rw [hrequest]
    obtain rfl | rfl := hf <;> rfl

/-- What a write of the ends or the step of an axis leaves while the axis is not swept. -/
def keptRequest (d : Driver) (f : FloatParam) (value : ℚ) : Driver :=
  ((d.setDoubleParam f value).request f value).setDoubleParam f (d.float f)

/-- The ends and the step of the energies are not part of a definition while these are not
swept. -/
theorem sameChoice_energyRange {f : FloatParam} {value : ℚ}
    (hf : f = .analyserHighEnergy ∨ f = .analyserLowEnergy ∨ f = .analyserEnergyStep)
    (hswept : sweepsEnergy (d.int .analyserAcquisitionMode) = false) :
    SameChoice d (d.keptRequest f value) := by
  have hmode : sweepsEnergy ((d.keptRequest f value).int .analyserAcquisitionMode) = false := hswept
  refine ⟨rfl, rfl, rfl, rfl, rfl, rfl, rfl, rfl, ?_, ?_⟩
  · unfold energyRefused
    rw [hmode, hswept]
    rfl
  · funext elementSet lens passEnergy detectorMode
    unfold filledDefinition
    simp only [hmode, hswept, Bool.false_eq_true, if_false]
    obtain rfl | rfl | rfl := hf <;> rfl

/-- The same for the ThetaY angles. -/
theorem sameChoice_angleYRange {f : FloatParam} {value : ℚ}
    (hf : f = .analyserHighAngleY ∨ f = .analyserLowAngleY ∨ f = .analyserAngleYStep)
    (hswept : sweepsAngleY (d.int .analyserAcquisitionMode) = false) :
    SameChoice d (d.keptRequest f value) := by
  have hmode : sweepsAngleY ((d.keptRequest f value).int .analyserAcquisitionMode) = false := hswept
  refine ⟨rfl, rfl, rfl, rfl, rfl, rfl, rfl, rfl, ?_, ?_⟩
  · obtain rfl | rfl | rfl := hf <;> rfl
  · funext elementSet lens passEnergy detectorMode
    unfold filledDefinition
    simp only [hmode, hswept, Bool.false_eq_true, if_false]
    obtain rfl | rfl | rfl := hf <;> rfl

/-! ### The two dispatchers -/

/-- The writes that the two dispatchers take. -/
inductive Write where
  | int (function : IntParam) (value : Int) (reply : AdjustReply)
  | float (function : FloatParam) (value : ℚ) (reply : AdjustReply)

def write (base : ADDriver) (d : Driver) : Write → Option Driver
  | .int function value reply => (d.writeInt32 base function value reply).map Prod.fst
  | .float function value reply => d.writeFloat64 base function value reply

/-- The driver on which a write of the center of an axis calls `setupSpectrumDefinition`. -/
def centered (d : Driver) (center low high : FloatParam) (value : ℚ) (swept : Bool) : Driver :=
  let d := d.request center value
  if swept then
    let width := |d.requestedAxes high - d.requestedAxes low|
    (d.request low (value - width / 2)).request high (value + width / 2)
  else d

/-- The driver on which a write calls `setupSpectrumDefinition`, if it comes to this. -/
def prepared (d : Driver) : Write → Option Driver
  | .int function value _ =>
    let d := d.setIntegerParam function value
    let acquisitionMode := d.int .analyserAcquisitionMode
    match function with
    | .analyserAcquisitionMode =>
      if sweepsAngleY value then
        (at? d.lensModes (d.int .lensMode)).bind fun lens =>
          if lens.hasYDeflection then some d else none
      else some d
    | .energyMode => some d
    | .detectorChannels =>
      let d := d.limitChannels .detectorChannels .adSizeX value
      let acquisitionMode := d.int .analyserAcquisitionMode
      if sweepsEnergy acquisitionMode && sweepsAngleY acquisitionMode then none else some d
    | .detectorSlices => some (d.limitChannels .detectorSlices .adSizeY value)
    | .lensMode =>
      if value < d.lensModes.length then
        (at? d.lensModes value).bind fun lens =>
          if sweepsAngleY acquisitionMode && !lens.hasYDeflection then none
          else
            some ((d.setIntegerParam .analyserWithSlice
              (if lens.hasXDeflection then 1 else 0)).setIntegerParam .analyserWithAngleY
              (if lens.hasYDeflection then 1 else 0))
      else none
    | .passEnergy => if value < d.passEnergies.length then some d else none
    | .adMinX | .adMinY | .adSizeX | .adSizeY => some (d.withParams d.toParams.setROI)
    | _ => none
  | .float function value _ =>
    let d := d.setDoubleParam function value
    let acquisitionMode := d.int .analyserAcquisitionMode
    match function with
    | .excitationEnergy | .workFunction => if d.int .energyMode = 1 then some d else none
    | .focalPositionX | .focalPositionY | .focalPositionZ | .adAcquireTime => some d
    | .analyserCenterSlice => some (d.request function value)
    | .analyserHighEnergy | .analyserLowEnergy | .analyserEnergyStep =>
      if sweepsEnergy acquisitionMode then some (d.request function value) else none
    | .analyserCenterEnergy =>
      some (d.centered .analyserCenterEnergy .analyserLowEnergy .analyserHighEnergy value
        (sweepsEnergy acquisitionMode))
    | .analyserHighAngleY | .analyserLowAngleY | .analyserAngleYStep =>
      if sweepsAngleY acquisitionMode then some (d.request function value) else none
    | .analyserCenterAngleY =>
      some (d.centered .analyserCenterAngleY .analyserLowAngleY .analyserHighAngleY value
        (sweepsAngleY acquisitionMode))
    | _ => none

/-- What a write comes to: it touches nothing that a definition is built from, or calls
`setupSpectrumDefinition` on what it has prepared. -/
inductive WriteOutcome (d : Driver) (prepared : Option Driver) (d' : Driver) : Prop where
  | kept (hprepared : prepared = none) (hsame : SameChoice d d')
      (hdefinition : d'.spectrumDefinition = d.spectrumDefinition)
  | rebuilt {p d₂ : Driver} {reply : AdjustReply} (hprepared : prepared = some p)
      (hlenses : p.lensModes = d.lensModes) (hsetup : p.setupSpectrumDefinition reply = some d₂)
      (hsame : SameChoice d₂ d') (hdefinition : d'.spectrumDefinition = d₂.spectrumDefinition)

theorem WriteOutcome.setup {p : Driver} {reply : AdjustReply}
    (h : p.setupSpectrumDefinition reply = some d') (hlenses : p.lensModes = d.lensModes) :
    WriteOutcome d (some p) d' :=
  .rebuilt rfl hlenses h ((Alike.refl d').sameChoice rfl) rfl

theorem WriteOutcome.lensModes {prepared : Option Driver} (h : WriteOutcome d prepared d') :
    d'.lensModes = d.lensModes := by
  cases h with
  | kept _ hsame _ => exact hsame.lensModes
  | rebuilt _ hlenses hsetup hsame _ =>
    rw [hsame.lensModes, setup_lensModes hsetup, hlenses]

/-- The definition stays in force exactly when no rebuild returns early. -/
theorem WriteOutcome.inForce_iff {prepared : Option Driver} (h : WriteOutcome d prepared d')
    (hd : InForce d) (hordered : Ordered d) :
    InForce d' ↔ ∀ p ∈ prepared, p.returnsEarly = false := by
  cases h with
  | kept hprepared hsame hdefinition =>
    have hkept : InForce d' := (hsame.inForce_iff hdefinition).mpr hd
    simp [hprepared, hkept]
  | rebuilt hprepared hlenses hsetup hsame hdefinition =>
    rw [hprepared, hsame.inForce_iff hdefinition, inForce_of_setup_iff ?_ hsetup]
    · simp
    · unfold Ordered
      rw [hlenses]
      exact hordered

theorem outcome_writeAcquisitionMode {base : ADDriver} {value : Int} {reply : AdjustReply}
    (h : d.write base (.int .analyserAcquisitionMode value reply) = some d') :
    WriteOutcome d (d.prepared (.int .analyserAcquisitionMode value reply)) d' := by
  simp only [write, writeInt32, map_fst_none, writeAcquisitionMode] at h
  simp only [prepared]
  split at h
  · rename_i hswept
    rw [if_pos hswept]
    obtain ⟨lens, hlens, h⟩ := Option.bind_eq_some_iff.mp h
    rw [hlens, Option.bind_some]
    split at h
    · rename_i hy
      rw [if_pos hy]
      exact .setup h rfl
    · rename_i hy
      rw [if_neg hy]
      obtain rfl := Option.some.inj h
      exact .kept rfl (sameChoice_restored d _ _ _) rfl
  · rename_i hswept
    rw [if_neg hswept]
    exact .setup h rfl

theorem limitChannels_cases (d : Driver) (f size : IntParam) (value : Int) :
    ∃ n, ((d.setIntegerParam f value).limitChannels f size value) = d.setIntegerParam f n := by
  have htwice : ∀ n, (d.setIntegerParam f value).setIntegerParam f n = d.setIntegerParam f n := by
    intro n
    simp [setIntegerParam, withParams, Params.setIntegerParam]
  unfold limitChannels
  split
  · exact ⟨_, htwice _⟩
  · split
    · exact ⟨1, htwice 1⟩
    · exact ⟨value, rfl⟩

theorem outcome_writeDetectorChannels {base : ADDriver} {value : Int} {reply : AdjustReply}
    (h : d.write base (.int .detectorChannels value reply) = some d') :
    WriteOutcome d (d.prepared (.int .detectorChannels value reply)) d' := by
  obtain ⟨n, hlimited⟩ := limitChannels_cases d .detectorChannels .adSizeX value
  simp only [write, writeInt32, map_fst_none, writeDetectorChannels, hlimited] at h
  simp only [prepared, hlimited]
  split at h
  · rename_i hswept
    rw [if_pos hswept]
    obtain rfl := Option.some.inj h
    refine .kept rfl (sameChoice_detectorChannels ?_) rfl
    simp only [int_setIntegerParam, Bool.and_eq_true] at hswept
    exact hswept.1
  · rename_i hswept
    rw [if_neg hswept]
    exact .setup h rfl

theorem outcome_writeLensMode {base : ADDriver} {value : Int} {reply : AdjustReply}
    (h : d.write base (.int .lensMode value reply) = some d') :
    WriteOutcome d (d.prepared (.int .lensMode value reply)) d' := by
  simp only [write, writeInt32, map_fst_none, writeLensMode] at h
  simp only [prepared]
  split at h
  · rename_i hlisted
    rw [if_pos hlisted]
    obtain ⟨lens, hlens, h⟩ := Option.bind_eq_some_iff.mp h
    rw [hlens, Option.bind_some]
    split at h
    · rename_i hrefused
      rw [if_pos hrefused]
      obtain rfl := Option.some.inj h
      exact .kept rfl (sameChoice_restored d _ _ _) rfl
    · rename_i hrefused
      rw [if_neg hrefused]
      exact .setup h rfl
  · rename_i hlisted
    rw [if_neg hlisted]
    obtain rfl := Option.some.inj h
    exact .kept rfl (sameChoice_restored d _ _ _) rfl

theorem outcome_writePassEnergy {base : ADDriver} {value : Int} {reply : AdjustReply}
    (h : d.write base (.int .passEnergy value reply) = some d') :
    WriteOutcome d (d.prepared (.int .passEnergy value reply)) d' := by
  simp only [write, writeInt32, map_fst_none, writePassEnergy] at h
  simp only [prepared]
  split at h
  · rename_i hlisted
    rw [if_pos hlisted]
    exact .setup h rfl
  · rename_i hlisted
    rw [if_neg hlisted]
    obtain rfl := Option.some.inj h
    exact .kept rfl (sameChoice_restored d _ _ _) rfl

theorem outcome_writeInt32 {base : ADDriver} {f : IntParam} {value : Int} {reply : AdjustReply}
    (helement : f ≠ .elementSet) (hdetector : f ≠ .detectorMode)
    (h : d.write base (.int f value reply) = some d') :
    WriteOutcome d (d.prepared (.int f value reply)) d' := by
  have hbase : ∀ g : IntParam, g.selects = false → g ≠ .passEnergy →
      WriteOutcome d none ((d.setIntegerParam g value).withParams
        (base.writeInt32 (d.setIntegerParam g value).toParams g value)) := by
    intro g hg hgp
    refine .kept rfl (sameChoice_of_params rfl (fun q hq => ?_) fun r hr => ?_) rfl
    · have hne := ne_of_idle hq hg hgp
      refine (base.writeInt32_int _ g value q hne fun i => ne_of_idle hq rfl (by simp)).trans ?_
      exact (int_setIntegerParam g value).trans (if_neg hne)
    · refine base.writeInt32_float _ g value r fun i => ?_
      rintro rfl
      cases hr
  cases f
  case elementSet => exact absurd rfl helement
  case detectorMode => exact absurd rfl hdetector
  case analyserAcquisitionMode => exact outcome_writeAcquisitionMode h
  case detectorChannels => exact outcome_writeDetectorChannels h
  case lensMode => exact outcome_writeLensMode h
  case passEnergy => exact outcome_writePassEnergy h
  case detectorSlices =>
    obtain ⟨n, hlimited⟩ := limitChannels_cases d .detectorSlices .adSizeY value
    simp only [write, writeInt32, map_fst_none, writeDetectorSlices] at h
    refine .setup h ?_
    rw [hlimited]
    rfl
  case adMinX | adMinY | adSizeX | adSizeY =>
    simp only [write, writeInt32, map_fst_none] at h
    exact .setup h rfl
  case energyMode =>
    simp only [write, writeInt32, Option.map_map] at h
    obtain ⟨d₂, hsetup, rfl⟩ := Option.map_eq_some_iff.mp h
    exact .rebuilt rfl rfl hsetup (sameChoice_of_params rfl (fun _ _ => rfl) fun _ _ => rfl) rfl
  case ndDataType | ndColorMode =>
    obtain rfl := Option.some.inj h
    refine .kept rfl (sameChoice_of_params rfl (fun q hq => ?_) fun _ _ => rfl) rfl
    simp [ne_of_idle hq (f := .ndDataType) rfl (by simp), ne_of_idle hq (f := .ndColorMode) rfl (by simp)]
  case adNumExposures =>
    obtain rfl := Option.some.inj h
    refine .kept rfl (sameChoice_of_params rfl (fun q hq => ?_) fun r _ => ?_) rfl
    · dsimp only
      rw [int_rescaleETA]
      simp [ne_of_idle hq (f := .adNumExposures) rfl (by simp)]
    · exact congrFun (setETA_spares _ _).2 r
  case adAcquire | zeroSupplies =>
    obtain rfl := Option.some.inj h
    exact .kept rfl (sameChoice_setIntegerParam value rfl (by simp)) rfl
  all_goals
    obtain rfl := Option.some.inj h
    first
      | exact hbase _ rfl (by simp)
      | exact .kept rfl (sameChoice_setIntegerParam value rfl (by simp)) rfl

theorem outcome_writeFloat64 {base : ADDriver} {f : FloatParam} {value : ℚ} {reply : AdjustReply}
    (h : d.write base (.float f value reply) = some d') :
    WriteOutcome d (d.prepared (.float f value reply)) d' := by
  cases f
  case excitationEnergy | workFunction =>
    simp only [write, writeFloat64] at h
    simp only [prepared]
    split at h
    · rename_i hmode
      rw [if_pos hmode]
      exact .setup h rfl
    · rename_i hmode
      rw [if_neg hmode]
      obtain rfl := Option.some.inj h
      exact .kept rfl (sameChoice_shift (by simp) hmode) rfl
  case focalPositionX | focalPositionY | focalPositionZ | adAcquireTime | analyserCenterSlice =>
    exact .setup h rfl
  case analyserHighEnergy | analyserLowEnergy | analyserEnergyStep =>
    simp only [write, writeFloat64, writeRange] at h
    simp only [prepared]
    split at h
    · rename_i hswept
      rw [if_pos hswept]
      exact .setup h rfl
    · rename_i hswept
      rw [if_neg hswept]
      obtain rfl := Option.some.inj h
      exact .kept rfl (sameChoice_energyRange (by simp) (by simpa using hswept)) rfl
  case analyserHighAngleY | analyserLowAngleY | analyserAngleYStep =>
    simp only [write, writeFloat64, writeRange] at h
    simp only [prepared]
    split at h
    · rename_i hswept
      rw [if_pos hswept]
      exact .setup h rfl
    · rename_i hswept
      rw [if_neg hswept]
      obtain rfl := Option.some.inj h
      exact .kept rfl (sameChoice_angleYRange (by simp) (by simpa using hswept)) rfl
  case analyserCenterEnergy | analyserCenterAngleY =>
    refine .setup h ?_
    unfold centered
    dsimp only
    split <;> rfl
  case otherBase i =>
    obtain rfl := Option.some.inj h
    refine .kept rfl (sameChoice_of_params rfl (fun q hq => ?_) fun r hr => ?_) rfl
    · refine base.writeFloat64_int _ _ value q fun i => ?_
      rintro rfl
      obtain hq | hq := hq <;> cases hq
    · have hother : ∀ i, r ≠ .otherBase i := by
        rintro i rfl
        cases hr
      refine (base.writeFloat64_float _ _ value r (hother i) hother).trans ?_
      exact (Params.float_setDoubleParam ..).trans (if_neg (hother i))
  all_goals
    obtain rfl := Option.some.inj h
    refine .kept rfl (sameChoice_of_params rfl (fun _ _ => rfl) fun r hr => ?_) rfl
    cases r <;> first | rfl | cases hr

/-! ### The two lists of which a selection is not rebuilt -/

theorem inForce_detectorMode_iff {value : Int} (hd : InForce d) :
    InForce (d.setIntegerParam .detectorMode value) ↔
      at? d.detectorModes value = at? d.detectorModes (d.int .detectorMode) := by
  obtain ⟨lens, elementSet, detectorMode, requested, passEnergy, hselected, hrefused, hdefinition⟩ :=
    rebuilt_eq_some.mp hd
  have hself : (d.setIntegerParam .detectorMode value).int .detectorMode = value := by simp
  rw [hselected.hdetectorMode, InForce, rebuilt_eq_some]
  constructor
  · intro h
    obtain ⟨lens', elementSet', detectorMode', requested', passEnergy', hselected', -, hdefinition'⟩ := h
    have hmode : detectorMode' = detectorMode := by
      have hsame := congrArg SpectrumDefinition.acquisitionMode (hdefinition'.trans hdefinition.symm)
      exact Option.some.inj hsame
    have hlisted := hselected'.hdetectorMode
    rw [hmode, hself] at hlisted
    exact hlisted
  · intro h
    have hlisted : at? (d.setIntegerParam .detectorMode value).detectorModes
        ((d.setIntegerParam .detectorMode value).int .detectorMode) = some detectorMode := by
      rw [hself]
      exact h
    refine ⟨lens, elementSet, detectorMode, requested, passEnergy, ⟨?_, hselected.hrequested,
      hselected.hlens, hselected.helementSet, ?_, hselected.hpassEnergy⟩, hrefused, hdefinition⟩
    · exact inRange_of_lookups (d := d.setIntegerParam .detectorMode value) hselected.hrequested
        hselected.hlens hselected.helementSet hlisted
    · exact hlisted

theorem inForce_elementSet_iff {value : Int} (hd : InForce d) :
    InForce (d.setIntegerParam .elementSet value) ↔
      at? d.elementsets value = at? d.elementsets (d.int .elementSet) := by
  obtain ⟨lens, elementSet, detectorMode, requested, passEnergy, hselected, hrefused, hdefinition⟩ :=
    rebuilt_eq_some.mp hd
  have hself : (d.setIntegerParam .elementSet value).int .elementSet = value := by simp
  rw [hselected.helementSet, InForce, rebuilt_eq_some]
  constructor
  · intro h
    obtain ⟨lens', elementSet', detectorMode', requested', passEnergy', hselected', -, hdefinition'⟩ := h
    have hset : elementSet' = elementSet :=
      congrArg SpectrumDefinition.elementSetName (hdefinition'.trans hdefinition.symm)
    have hlisted := hselected'.helementSet
    rw [hset, hself] at hlisted
    exact hlisted
  · intro h
    have hlisted : at? (d.setIntegerParam .elementSet value).elementsets
        ((d.setIntegerParam .elementSet value).int .elementSet) = some elementSet := by
      rw [hself]
      exact h
    refine ⟨lens, elementSet, detectorMode, requested, passEnergy, ⟨?_, hselected.hrequested,
      hselected.hlens, ?_, hselected.hdetectorMode, hselected.hpassEnergy⟩, hrefused, hdefinition⟩
    · exact inRange_of_lookups (d := d.setIntegerParam .elementSet value) hselected.hrequested
        hselected.hlens hlisted hselected.hdetectorMode
    · exact hlisted

/-- A write of the detector mode or of the element set selects what is selected already, and the
rebuild that another write makes does not return early. -/
def rebuilds (d : Driver) (w : Write) : Prop :=
  match w with
  | .int .detectorMode value _ =>
    at? d.detectorModes value = at? d.detectorModes (d.int .detectorMode)
  | .int .elementSet value _ => at? d.elementsets value = at? d.elementsets (d.int .elementSet)
  | _ => ∀ p ∈ d.prepared w, p.returnsEarly = false

instance (d : Driver) (w : Write) : Decidable (d.rebuilds w) := by
  unfold rebuilds
  split <;> infer_instance

theorem inForce_write {base : ADDriver} {w : Write} (hd : InForce d) (hordered : Ordered d)
    (h : d.write base w = some d') : Ordered d' ∧ (InForce d' ↔ d.rebuilds w) := by
  have houtcome : WriteOutcome d (d.prepared w) d' →
      Ordered d' ∧ (InForce d' ↔ ∀ p ∈ d.prepared w, p.returnsEarly = false) := by
    intro houtcome
    refine ⟨?_, houtcome.inForce_iff hd hordered⟩
    unfold Ordered
    rw [houtcome.lensModes]
    exact hordered
  cases w with
  | float f value reply => exact houtcome (outcome_writeFloat64 h)
  | int f value reply =>
    by_cases hdetector : f = .detectorMode
    · subst hdetector
      obtain rfl := Option.some.inj h
      exact ⟨hordered, inForce_detectorMode_iff hd⟩
    · by_cases helement : f = .elementSet
      · subst helement
        obtain rfl := Option.some.inj h
        exact ⟨hordered, inForce_elementSet_iff hd⟩
      · have hrebuilds : d.rebuilds (.int f value reply) ↔
            ∀ p ∈ d.prepared (.int f value reply), p.returnsEarly = false := by
          unfold rebuilds
          split <;> simp_all
        rw [hrebuilds]
        exact houtcome (outcome_writeInt32 helement hdetector h)

/-! ### Connecting -/

theorem selectListed_lensModes (names : List String) (name : String) (f : IntParam)
    (text : Option StringParam) : (d.selectListed names name f text).lensModes = d.lensModes := by
  unfold selectListed
  split
  · cases text <;> rfl
  · rfl

/-- What `connectAnalyser` sets up last. -/
theorem connect_setup {info : ServerInfo} {reply : AdjustReply} (hinfo : info.ordered)
    (h : d.connectAnalyser info reply = some d') :
    Ordered d' ∧ (InForce d' ↔ d'.returnsEarly = false) := by
  obtain ⟨p, hordered, hsetup⟩ : ∃ p, Ordered p ∧ p.setupSpectrumDefinition reply = some d' := by
    refine ⟨_, ?_, h⟩
    simp only [Ordered, setIntegerParam, setDoubleParam, withParams, setSlit, setDetectorMode,
      setLensMode, setElementSet, selectListed_lensModes, (setPassEnergy_cases _ _).1.lensModes]
    intro lens hlens
    rw [List.mem_insertionSort] at hlens
    obtain ⟨answer, hanswer, rfl⟩ := List.mem_map.mp hlens
    exact hinfo answer (List.mem_filter.mp hanswer).1
  constructor
  · unfold Ordered
    rw [setup_lensModes hsetup]
    exact hordered
  · rw [inForce_of_setup_iff hordered hsetup, returnsEarly_setup hsetup]

/-- After a connection that has set a definition up, and as long as no write selects another
detector mode or element set and no rebuild returns early, the definition is the one that the
parameters call for, and rebuilding it changes nothing. The first write for which this is not so
leaves another definition than the parameters call for. -/
theorem definition_agrees {base : ADDriver} {d₀ d₁ : Driver} {info : ServerInfo}
    {reply : AdjustReply} (hinfo : info.ordered) (hconnect : d.connectAnalyser info reply = some d₀)
    (hbuilt : d₀.returnsEarly = false) (hrun : Run (write base) rebuilds d₀ d₁) :
    Agrees d₁ ∧ InForce d₁ ∧
      ∀ w d₂, d₁.write base w = some d₂ → (InForce d₂ ↔ d₁.rebuilds w) := by
  obtain ⟨hordered₀, hstart⟩ := connect_setup hinfo hconnect
  have hkept : InForce d₁ ∧ Ordered d₁ := by
    apply Run.invariant (P := fun d => InForce d ∧ Ordered d) ?_ hrun ⟨hstart.mpr hbuilt, hordered₀⟩
    intro a w b ha hok hwrite
    obtain ⟨hordered, hinForce⟩ := inForce_write ha.1 ha.2 hwrite
    exact ⟨hinForce.mpr hok, hordered⟩
  obtain ⟨hinForce, hordered⟩ := hkept
  exact ⟨hinForce.agrees, hinForce, fun w d₂ hwrite => (inForce_write hinForce hordered hwrite).2⟩

/-- A driver that has not been connected yet. -/
def unconnected : Driver where
  spectrumDefinition := { elementSetName := "", lensModeName := "", passEnergy := 0, dwellTime := 0 }
  pixelDensity := 0
  channelCenterX := 0
  channelCenterY := 0

/-- The answers of an analyser with one lens mode and two acquisition modes. -/
def smallAnalyser : ServerInfo where
  configurations := ["Standard"]
  configurationName := "Standard"
  opticsLensModes := [{ name := "Transmission", enabled := true, passEnergy := (1, 200) }]
  calibratedPassEnergies := [10, 50]
  acquisitionModes := ["Image", "Event"]
  dwellTime := 1
  kineticEnergy := 100
  passEnergy := 50
  lensModeName := "Transmission"
  acquisitionMode := "Image"
  channelWidth := 1000
  channelHeight := 800
  channelCenterX := 500
  channelCenterY := 400
  detectorWidth := 20
  slits := ["Curved"]
  currentSlit := "Curved"
  roiOffsetX := 0
  roiOffsetY := 0
  roiWidth := 1000
  roiHeight := 800

theorem definition_agrees_after_passEnergy :
    ∃ d₀ d₁, unconnected.connectAnalyser smallAnalyser .raised = some d₀ ∧
      Run (write (.store 8)) rebuilds d₀ d₁ ∧ d₁.spectrumDefinition.passEnergy = 10 ∧
      Agrees d₁ ∧ InForce d₁ := by
  have hreach : (unconnected.connectAnalyser smallAnalyser .raised).any fun d₀ =>
      !d₀.returnsEarly && reaches (write (.store 8)) rebuilds d₀ [.int .passEnergy 0 .raised]
        (fun d₁ => d₁.spectrumDefinition.passEnergy = 10) := by
    decide +kernel
  obtain ⟨d₀, hconnect, htest⟩ := (Option.any_eq_true _ _).mp hreach
  obtain ⟨hbuilt, hwrite⟩ := (Bool.and_eq_true _ _).mp htest
  obtain ⟨d₁, hrun, hpass⟩ := run_of_reaches hwrite
  have hinfo : smallAnalyser.ordered := by decide +kernel
  obtain ⟨hagrees, hinForce, -⟩ := definition_agrees hinfo hconnect (by simpa using hbuilt) hrun
  exact ⟨d₀, d₁, hconnect, hrun, of_decide_eq_true hpass, hagrees, hinForce⟩

/-- The other detector mode is selected: the next definition still names the first one. -/
theorem detectorMode_not_rebuilt :
    ∃ d₀, unconnected.connectAnalyser smallAnalyser .raised = some d₀ ∧
      ¬ ∀ d₁, Run (write (.store 8)) always d₀ d₁ → Agrees d₁ := by
  have hreach : (unconnected.connectAnalyser smallAnalyser .raised).any fun d₀ =>
      reaches (write (.store 8)) always d₀ [.int .detectorMode 1 .raised] fun d₁ =>
        (d₁.setupSpectrumDefinition .raised).any fun d₂ =>
          d₂.spectrumDefinition ≠ d₁.spectrumDefinition := by
    decide +kernel
  obtain ⟨d₀, hconnect, hwrite⟩ := (Option.any_eq_true _ _).mp hreach
  obtain ⟨d₁, hrun, hdiffers⟩ := run_of_reaches hwrite
  obtain ⟨d₂, hsetup, hne⟩ := (Option.any_eq_true _ _).mp hdiffers
  refine ⟨d₀, hconnect, fun hclaim => ?_⟩
  exact (of_decide_eq_true hne) (hclaim d₁ hrun .raised d₂ hsetup)

end Driver

end PeakAnalyser

import PeakAnalyser.Selections

/-!
# The pass energy of a definition

`setupSpectrumDefinition` pulls the selected pass energy back to the range of the lens mode and
looks the result up in the list of calibrated pass energies. The end of a range need not be listed,
and then the selection stays where it was.
-/

namespace PeakAnalyser

set_option autoImplicit false

open Runs

theorem clamp_of_mem {value : ℚ} {range : ℚ × ℚ} (hlow : range.1 ≤ value)
    (hhigh : value ≤ range.2) : clamp value range = value := by
  unfold clamp
  rw [if_neg (not_lt.mpr hlow), if_neg (not_lt.mpr hhigh)]

theorem clamp_of_lt {value : ℚ} {range : ℚ × ℚ} (h : value < range.1) :
    clamp value range = range.1 := if_pos h

theorem clamp_of_gt {value : ℚ} {range : ℚ × ℚ} (horder : range.1 ≤ range.2)
    (h : range.2 < value) : clamp value range = range.2 := by
  unfold clamp
  rw [if_neg (not_lt.mpr (horder.trans h.le)), if_pos h]

theorem clamp_mem {range : ℚ × ℚ} (horder : range.1 ≤ range.2) (value : ℚ) :
    range.1 ≤ clamp value range ∧ clamp value range ≤ range.2 := by
  rcases lt_or_ge value range.1 with hlow | hlow
  · rw [clamp_of_lt hlow]
    exact ⟨le_rfl, horder⟩
  · rcases lt_or_ge range.2 value with hhigh | hhigh
    · rw [clamp_of_gt horder hhigh]
      exact ⟨horder, le_rfl⟩
    · rw [clamp_of_mem hlow hhigh]
      exact ⟨hlow, hhigh⟩

namespace Driver

variable {d d' : Driver}

/-- The pass energy of the definition lies in the range and is listed, and the index and the value
that the parameters show are those of it. -/
structure ShowsPassEnergy (range : ℚ × ℚ) (d : Driver) : Prop where
  inRange : range.1 ≤ d.spectrumDefinition.passEnergy ∧
    d.spectrumDefinition.passEnergy ≤ range.2
  listed : d.spectrumDefinition.passEnergy ∈ d.passEnergies
  index : at? d.passEnergies (d.int .passEnergy) = some d.spectrumDefinition.passEnergy
  value : d.float .passEnergyValue = d.spectrumDefinition.passEnergy

/-- The selected pass energy fits the range, or the end of the range that it is pulled back to is
itself listed. -/
def fitsRange (d : Driver) (requested : ℚ) (range : ℚ × ℚ) : Prop :=
  (range.1 ≤ requested ∧ requested ≤ range.2) ∨
    (requested < range.1 ∧ range.1 ∈ d.passEnergies) ∨
    (range.2 < requested ∧ range.2 ∈ d.passEnergies)

theorem float_adjusted_passEnergyValue (d : Driver) (reply : AdjustReply) :
    (d.adjusted reply).float .passEnergyValue = d.float .passEnergyValue := by
  cases reply with
  | raised => rfl
  | adjusted settings wallClockTime =>
    have heta := setETA_spares (d.toParams.setRegion settings)
      (.finite (wallClockTime * d.int .adNumExposures))
    refine (congrFun heta.2 .passEnergyValue).trans ?_
    simp [Params.setRegion, Params.setAxis]

/-- A rebuild that fills the definition shows the pass energy of the definition. -/
theorem filled_passEnergy {lens : LensModeSetting} {requested : ℚ} {reply : AdjustReply}
    (hfills : d.returnsEarly = false) (hlens : at? d.lensModes (d.int .lensMode) = some lens)
    (hrequested : at? d.passEnergies (d.int .passEnergy) = some requested)
    (h : d.setupSpectrumDefinition reply = some d') :
    d'.passEnergies = d.passEnergies ∧
      at? d.passEnergies (d.passEnergyIndex (clamp requested lens.passEnergyRange)) =
        some d'.spectrumDefinition.passEnergy ∧
      at? d'.passEnergies (d'.int .passEnergy) = some d'.spectrumDefinition.passEnergy := by
  rcases setup_cases h with ⟨hout, _⟩ | ⟨lens', elementSet, detectorMode, requested', passEnergy,
    hselected, halike, hindex, hdefinition⟩
  · unfold returnsEarly at hfills
    rw [hout] at hfills
    cases hfills
  · obtain rfl := Option.some.inj (hlens.symm.trans hselected.hlens)
    obtain rfl := Option.some.inj (hrequested.symm.trans hselected.hrequested)
    have hrefused : d.energyRefused = false := (Bool.or_eq_false_iff.mp hfills).2
    have hpassEnergy : d'.spectrumDefinition.passEnergy = passEnergy := by
      rw [hdefinition, hselected.rebuilt, hrefused]
      rfl
    rw [hpassEnergy, halike.passEnergies, hindex]
    exact ⟨rfl, hselected.hpassEnergy, hselected.hpassEnergy⟩

theorem filled_passEnergyValue {reply : AdjustReply} (hfills : d.returnsEarly = false)
    (h : d.setupSpectrumDefinition reply = some d') :
    d'.float .passEnergyValue = d'.spectrumDefinition.passEnergy := by
  obtain ⟨hout, hrefused⟩ := Bool.or_eq_false_iff.mp hfills
  unfold setupSpectrumDefinition at h
  rw [hout, if_neg (by decide)] at h
  obtain ⟨requested, _, h⟩ := Option.bind_eq_some_iff.mp h
  obtain ⟨lens, _, h⟩ := Option.bind_eq_some_iff.mp h
  obtain ⟨elementSet, _, h⟩ := Option.bind_eq_some_iff.mp h
  obtain ⟨detectorMode, _, h⟩ := Option.bind_eq_some_iff.mp h
  obtain ⟨passEnergy, _, h⟩ := Option.bind_eq_some_iff.mp h
  obtain ⟨halike, _⟩ := setPassEnergy_cases d (clamp requested lens.passEnergyRange)
  obtain ⟨hlabels, _⟩ := labelled_cases (d.setPassEnergy (clamp requested lens.passEnergyRange))
    elementSet lens.name detectorMode passEnergy
  dsimp only at h
  rw [(halike.trans hlabels).refused, hrefused, if_neg (by decide)] at h
  obtain rfl := Option.some.inj h
  obtain ⟨_, _, hdefinition⟩ := adjusted_cases _ reply
  rw [float_adjusted_passEnergyValue, hdefinition]
  simp [setDoubleParam, withParams, filledDefinition]

/-- The selection that is written is the pulled back one if that is listed, and else the one that
was selected. -/
theorem at?_passEnergyIndex {requested passEnergy value : ℚ}
    (hrequested : at? d.passEnergies (d.int .passEnergy) = some requested)
    (h : at? d.passEnergies (d.passEnergyIndex value) = some passEnergy) :
    (value ∈ d.passEnergies ∧ passEnergy = value) ∨
      (value ∉ d.passEnergies ∧ passEnergy = requested) := by
  unfold passEnergyIndex at h
  by_cases hlisted : value ∈ d.passEnergies
  · obtain ⟨index, hindex⟩ := position_of_mem hlisted
    rw [hindex, Option.getD_some, at?_position hindex] at h
    exact Or.inl ⟨hlisted, (Option.some.inj h).symm⟩
  · rw [position_of_not_mem hlisted, Option.getD_none, hrequested] at h
    exact Or.inr ⟨hlisted, (Option.some.inj h).symm⟩

theorem fitsRange_iff {requested : ℚ} {range : ℚ × ℚ} (horder : range.1 ≤ range.2)
    (hrequested : requested ∈ d.passEnergies) :
    d.fitsRange requested range ↔ clamp requested range ∈ d.passEnergies := by
  unfold fitsRange
  rcases lt_or_ge requested range.1 with hlow | hlow
  · have hhigh : ¬ range.2 < requested := not_lt.mpr (hlow.le.trans horder)
    simp [clamp_of_lt hlow, hlow, not_le.mpr hlow, hhigh]
  · rcases lt_or_ge range.2 requested with hhigh | hhigh
    · simp [clamp_of_gt horder hhigh, hhigh, not_le.mpr hhigh, not_lt.mpr hlow]
    · simp [clamp_of_mem hlow hhigh, hlow, hhigh, hrequested]

/-- When the definition is filled, its pass energy is listed and in the range of the lens mode, and
the parameters show it, if and only if the selection fits the range or the end of the range that it
is pulled back to is listed. -/
theorem showsPassEnergy_iff {lens : LensModeSetting} {requested : ℚ} {reply : AdjustReply}
    (hlens : at? d.lensModes (d.int .lensMode) = some lens)
    (hsome : ∃ energy ∈ d.passEnergies,
      lens.passEnergyRange.1 ≤ energy ∧ energy ≤ lens.passEnergyRange.2)
    (hrequested : at? d.passEnergies (d.int .passEnergy) = some requested)
    (hfills : d.returnsEarly = false) (h : d.setupSpectrumDefinition reply = some d') :
    ShowsPassEnergy lens.passEnergyRange d' ↔ d.fitsRange requested lens.passEnergyRange := by
  obtain ⟨energy, _, hlow, hhigh⟩ := hsome
  have horder : lens.passEnergyRange.1 ≤ lens.passEnergyRange.2 := hlow.trans hhigh
  obtain ⟨hsame, hwritten, hindex⟩ := filled_passEnergy hfills hlens hrequested h
  have hmem : requested ∈ d.passEnergies := at?_mem hrequested
  rw [fitsRange_iff horder hmem]
  rcases at?_passEnergyIndex hrequested hwritten with ⟨hlisted, hvalue⟩ | ⟨hlisted, hvalue⟩
  · apply iff_of_true ?_ hlisted
    refine ⟨?_, at?_mem hindex, hindex, filled_passEnergyValue hfills h⟩
    rw [hvalue]
    exact clamp_mem horder requested
  · apply iff_of_false ?_ hlisted
    intro hshows
    have hrange := hshows.inRange
    rw [hvalue] at hrange
    rw [clamp_of_mem hrange.1 hrange.2] at hlisted
    exact hlisted hmem

/-- The analyser of the examples with a second lens mode. -/
def narrowAnalyser (passEnergies : List ℚ) : ServerInfo :=
  { smallAnalyser with
    calibratedPassEnergies := passEnergies
    opticsLensModes := [{ name := "Narrow", enabled := true, passEnergy := (2, 20) },
      { name := "Transmission", enabled := true, passEnergy := (1, 200) }] }

theorem showsPassEnergy_narrowed :
    ∃ d d' : Driver, d.setupSpectrumDefinition .raised = some d' ∧ d.lensModes.length = 2 ∧
      at? d.passEnergies (d.int .passEnergy) = some 50 ∧ ShowsPassEnergy (2, 20) d' := by
  have hreach : (unconnected.connectAnalyser (narrowAnalyser [10, 20, 50]) .raised).any fun d₀ =>
      let d := d₀.setIntegerParam .lensMode 0
      (d.setupSpectrumDefinition .raised).isSome && decide (d.lensModes.length = 2) &&
        decide (at? d.lensModes (d.int .lensMode) = some
          { name := "Narrow", hasXDeflection := false, hasYDeflection := false,
            passEnergyRange := (2, 20) }) && decide (d.passEnergies = [10, 20, 50]) &&
        decide (at? d.passEnergies (d.int .passEnergy) = some 50) && !d.returnsEarly := by
    decide +kernel
  obtain ⟨d₀, _, h⟩ := (Option.any_eq_true _ _).mp hreach
  simp only [Bool.and_eq_true, decide_eq_true_eq, Bool.not_eq_true'] at h
  obtain ⟨⟨⟨⟨⟨hsome, hlength⟩, hlens⟩, hlist⟩, hrequested⟩, hfills⟩ := h
  obtain ⟨d', hd'⟩ := Option.isSome_iff_exists.mp hsome
  refine ⟨_, d', hd', hlength, hrequested, ?_⟩
  apply (showsPassEnergy_iff hlens ⟨10, ?_, ?_⟩ hrequested hfills hd').mpr
  · refine Or.inr (Or.inr ⟨by norm_num, ?_⟩)
    rw [hlist]
    simp
  · rw [hlist]
    simp
  · norm_num

/-- The pass energy 50 is pulled back to 20, which is not listed, and 50 is written, although 10 is
listed and fits. -/
theorem passEnergy_out_of_range :
    ∃ d₀ d₁, unconnected.connectAnalyser (narrowAnalyser [10, 50]) .raised = some d₀ ∧
      (d₀.write (.store 8) (.int .lensMode 0 .raised)) = some d₁ ∧
      (∃ energy ∈ d₁.passEnergies, 2 ≤ energy ∧ energy ≤ 20) ∧ d₁.returnsEarly = false ∧
      (at? d₁.lensModes (d₁.int .lensMode)).map (·.passEnergyRange) = some (2, 20) ∧
      d₁.spectrumDefinition.lensModeName = "Narrow" ∧
      d₁.spectrumDefinition.passEnergy = 50 ∧ ¬ ShowsPassEnergy (2, 20) d₁ := by
  have hreach : (unconnected.connectAnalyser (narrowAnalyser [10, 50]) .raised).any fun d₀ =>
      (d₀.write (.store 8) (.int .lensMode 0 .raised)).any fun d₁ =>
        decide (d₁.passEnergies = [10, 50]) && !d₁.returnsEarly &&
        decide ((at? d₁.lensModes (d₁.int .lensMode)).map (·.passEnergyRange) = some (2, 20)) &&
        decide (d₁.spectrumDefinition.lensModeName = "Narrow") &&
        decide (d₁.spectrumDefinition.passEnergy = 50) := by
    decide +kernel
  obtain ⟨d₀, hconnect, h⟩ := (Option.any_eq_true _ _).mp hreach
  obtain ⟨d₁, hd₁, h⟩ := (Option.any_eq_true _ _).mp h
  simp only [Bool.and_eq_true, decide_eq_true_eq, Bool.not_eq_true'] at h
  obtain ⟨⟨⟨⟨hlist, hfills⟩, hrange⟩, hname⟩, henergy⟩ := h
  refine ⟨d₀, d₁, hconnect, hd₁, ⟨10, ?_, ?_⟩, hfills, hrange, hname, henergy, ?_⟩
  · rw [hlist]
    simp
  · norm_num
  · intro hshows
    have hhigh := hshows.inRange.2
    rw [henergy] at hhigh
    norm_num at hhigh

end Driver

end PeakAnalyser

import PeakAnalyser.DetectorRegion
import PeakAnalyser.EstimatedTime
import PeakAnalyser.SweepAxes

/-!
# Divisions by zero

The divisors of `setupSpectrumDefinition` are the pixel density, the channels, the slices and the
steps of the swept axes; a write of `ADNumExposures` divides by the number it replaces. The
channels and slices are kept off zero by their writes, the steps and the exposures are not.
-/

namespace PeakAnalyser

set_option autoImplicit false

open Runs

namespace Number

/-- The number is finite: no division by zero has gone into it. -/
def IsFinite (n : Number) : Prop := ∃ q, n = .finite q

theorem isFinite_fdiv_iff {a b : ℚ} : IsFinite (fdiv a b) ↔ b ≠ 0 := by
  constructor
  · rintro ⟨q, hq⟩ rfl
    rw [fdiv_zero] at hq
    cases hq
  · intro hb
    exact ⟨a / b, fdiv_of_ne hb⟩

end Number

namespace AxisRequest

/-- The step is positive, or negative and larger than the distance of the ends. -/
def Countable (epsilon : ℚ) (r : AxisRequest) : Prop :=
  0 < r.step ∨ |r.high - r.low - epsilon| < -r.step

instance (epsilon : ℚ) (r : AxisRequest) : Decidable (r.Countable epsilon) :=
  inferInstanceAs (Decidable (_ ∨ _))

/-- The count of a sweep axis as it is sent: an integer that is at least one. -/
def IsCount (n : Number) : Prop := ∃ count : ℕ, 1 ≤ count ∧ n = .finite count

/-- The count of the source is a positive integer for exactly these steps. -/
theorem isCount_iff {epsilon : ℚ} {r : AxisRequest} :
    IsCount (sweepCount epsilon r.low r.high r.step) ↔ r.Countable epsilon := by
  unfold Countable
  rcases lt_trichotomy r.step 0 with hnegative | hzero | hpositive
  · have hcount : sweepCount epsilon r.low r.high r.step =
        .finite ((⌈|r.high - r.low - epsilon| / r.step⌉ + 1 : ℤ) : ℚ) := by
      unfold sweepCount
      rw [Number.fdiv_of_ne hnegative.ne, Int.cast_add, Int.cast_one]
      rfl
    have hceil : 0 ≤ ⌈|r.high - r.low - epsilon| / r.step⌉ ↔
        |r.high - r.low - epsilon| < -r.step := by
      have hle : 0 ≤ ⌈|r.high - r.low - epsilon| / r.step⌉ ↔
          ((-1 : ℤ) : ℚ) < |r.high - r.low - epsilon| / r.step := by
        rw [← Int.lt_ceil]
        omega
      rw [hle, lt_div_iff_of_neg hnegative]
      push_cast
      rw [neg_one_mul]
    rw [← hceil, hcount]
    constructor
    · rintro ⟨count, hone, heq⟩
      have hcast : ((⌈|r.high - r.low - epsilon| / r.step⌉ + 1 : ℤ) : ℚ) = ((count : ℤ) : ℚ) := by
        rw [Number.finite.inj heq]
        exact (Int.cast_natCast count).symm
      have hint := Int.cast_inj.mp hcast
      exact Or.inr (by omega)
    · intro h
      have hceil : 0 ≤ ⌈|r.high - r.low - epsilon| / r.step⌉ :=
        h.resolve_left (not_lt.mpr hnegative.le)
      obtain ⟨n, hn⟩ := Int.eq_ofNat_of_zero_le hceil
      refine ⟨n + 1, Nat.le_add_left 1 n, ?_⟩
      rw [hn]
      push_cast
      rfl
  · rw [hzero]
    apply iff_of_false
    · rintro ⟨count, _, heq⟩
      simp [sweepCount, Number.map] at heq
    · intro h
      rcases h with h | h
      · exact lt_irrefl 0 h
      · rw [neg_zero] at h
        exact absurd h (not_lt.mpr (abs_nonneg _))
  · apply iff_of_true ?_ (Or.inl hpositive)
    obtain ⟨n, hn⟩ := Int.eq_ofNat_of_zero_le (steps_nonneg hpositive epsilon)
    refine ⟨n + 1, Nat.le_add_left 1 n, ?_⟩
    rw [sweepCount_eq hpositive, hn]
    push_cast
    rfl

end AxisRequest

/-- Every number of the definition is finite, and the counts are positive integers. -/
structure SpectrumDefinition.FiniteNumbers (s : SpectrumDefinition) : Prop where
  area : ∀ area, s.detectorAreas = some area → area.lowX.IsFinite ∧ area.lowY.IsFinite ∧
    area.highX.IsFinite ∧ area.highY.IsFinite
  binningX : ∀ axis b, s.fixedX = some axis → axis.binning = some b → b.IsFinite
  binningY : ∀ axis b, s.fixedY = some axis → axis.binning = some b → b.IsFinite
  countX : ∀ axis, s.sweepX = some axis → AxisRequest.IsCount axis.count
  countZ : ∀ axis, s.sweepZ = some axis → AxisRequest.IsCount axis.count

namespace Params

variable (p : Params)

theorem acqETA_setIntegerParam (f : IntParam) (value : Int) :
    (p.setIntegerParam f value).acqETA = p.acqETA := rfl

theorem acqETA_setDoubleParam (f : FloatParam) (value : ℚ) :
    (p.setDoubleParam f value).acqETA = p.acqETA := rfl

end Params

namespace Driver

variable {d d' : Driver}

/-- No division by zero has gone into the definition or the estimated time. -/
structure Undivided (d : Driver) : Prop where
  definition : d.spectrumDefinition.FiniteNumbers
  acqETA : d.acqETA.IsFinite

/-- The divisors that do not depend on the requested axes. -/
structure Divisors (d : Driver) : Prop where
  pixelDensity : d.pixelDensity ≠ 0
  sizeX : d.int .adSizeX ≠ 0
  sizeY : d.int .adSizeY ≠ 0
  channels : d.int .detectorChannels ≠ 0
  slices : d.int .detectorSlices ≠ 0

/-- The steps of the swept axes give counts. -/
def SweepsCount (d : Driver) (lens : LensModeSetting) : Prop :=
  (sweepsEnergy (d.int .analyserAcquisitionMode) = true →
      d.energyRequest.Countable doubleEpsilon) ∧
    (sweepsAngleY (d.int .analyserAcquisitionMode) = true →
      (d.angleYRequest lens).Countable doubleEpsilon)

instance (d : Driver) (lens : LensModeSetting) : Decidable (d.SweepsCount lens) :=
  inferInstanceAs (Decidable (_ ∧ _))

/-! ### A rebuild -/

theorem finiteNumbers_filled_iff (hd : Divisors d) (elementSet : String) (lens : LensModeSetting)
    (passEnergy : ℚ) (detectorMode : String) :
    (d.filledDefinition elementSet lens passEnergy detectorMode).FiniteNumbers ↔
      d.SweepsCount lens := by
  constructor
  · intro h
    constructor
    · intro hswept
      apply AxisRequest.isCount_iff.mp
      exact h.countX (d.energyRequest.sweepAxis doubleEpsilon) (if_pos hswept)
    · intro hswept
      apply AxisRequest.isCount_iff.mp
      exact h.countZ ((d.angleYRequest lens).sweepAxis doubleEpsilon) (if_pos hswept)
  · intro h
    obtain ⟨henergy, hangleY⟩ := h
    refine ⟨?_, ?_, ?_, ?_, ?_⟩
    · intro area harea
      obtain rfl := Option.some.inj harea
      have hplaced : ∀ pixel : ℚ, (Number.fdiv pixel d.pixelDensity).IsFinite := fun pixel =>
        Number.isFinite_fdiv_iff.mpr hd.pixelDensity
      exact ⟨hplaced _, hplaced _, hplaced _, hplaced _⟩
    · intro axis b haxis hb
      simp only [filledDefinition] at haxis
      split at haxis
      · cases haxis
      · obtain rfl := Option.some.inj haxis
        obtain rfl := Option.some.inj hb
        exact Number.isFinite_fdiv_iff.mpr (Int.cast_ne_zero.mpr hd.channels)
    · intro axis b haxis hb
      obtain rfl := Option.some.inj haxis
      obtain rfl := Option.some.inj hb
      exact Number.isFinite_fdiv_iff.mpr (Int.cast_ne_zero.mpr hd.slices)
    · intro axis haxis
      simp only [filledDefinition] at haxis
      split at haxis
      · rename_i hswept
        obtain rfl := Option.some.inj haxis
        exact AxisRequest.isCount_iff.mpr (henergy hswept)
      · cases haxis
    · intro axis haxis
      simp only [filledDefinition] at haxis
      split at haxis
      · rename_i hswept
        obtain rfl := Option.some.inj haxis
        exact AxisRequest.isCount_iff.mpr (hangleY hswept)
      · cases haxis

/-- What a rebuild needs: it returns early, or the swept axes have steps that give counts. -/
def RebuildsFinite (d : Driver) : Prop :=
  d.returnsEarly = false → ∀ lens, d.currentLens = some lens → d.SweepsCount lens

theorem divisors_setup {reply : AdjustReply} (hd : Divisors d)
    (h : d.setupSpectrumDefinition reply = some d') : Divisors d' := by
  have hint : ∀ q : IntParam, q.isReadback = false → q ≠ .passEnergy → d'.int q = d.int q :=
    fun q hq hp => int_setup hq hp h
  refine ⟨?_, ?_, ?_, ?_, ?_⟩
  · rcases setup_cases h with ⟨_, rfl⟩ | ⟨_, _, _, _, _, _, halike, _⟩
    · exact hd.pixelDensity
    · rw [halike.pixelDensity]
      exact hd.pixelDensity
  · rw [hint _ rfl (by simp)]
    exact hd.sizeX
  · rw [hint _ rfl (by simp)]
    exact hd.sizeY
  · rw [hint _ rfl (by simp)]
    exact hd.channels
  · rw [hint _ rfl (by simp)]
    exact hd.slices

theorem undivided_setup_iff {reply : AdjustReply} (hd : Divisors d) (hw : Undivided d)
    (h : d.setupSpectrumDefinition reply = some d') : Undivided d' ↔ d.RebuildsFinite := by
  obtain ⟨_, hkept, hset⟩ := setup_time h
  have heta : d'.acqETA.IsFinite := by
    by_cases hstays : d.returnsEarly = true ∨ reply = .raised
    · rw [hkept hstays]
      exact hw.acqETA
    · cases reply with
      | raised => exact absurd (Or.inr rfl) hstays
      | adjusted settings wallClockTime =>
        have hnew : d.returnsEarly = false := by
          apply Bool.eq_false_of_not_eq_true
          intro hearly
          exact hstays (Or.inl hearly)
        exact ⟨_, hset settings wallClockTime rfl hnew⟩
  have hdefinition : d'.spectrumDefinition.FiniteNumbers ↔ d.RebuildsFinite := by
    unfold RebuildsFinite
    cases hearly : d.returnsEarly with
    | true =>
      have hsame : d'.spectrumDefinition = d.spectrumDefinition := by
        rcases setup_cases h with ⟨_, rfl⟩ | ⟨_, _, _, _, _, _, _, _, hdefinition⟩
        · rfl
        · have hnone : d.rebuilt = none := if_pos hearly
          rw [hdefinition, hnone, Option.getD_none]
      rw [hsame]
      exact iff_of_true hw.definition (fun hnew => by cases hnew)
    | false =>
      rcases setup_cases h with ⟨hout, _⟩ | ⟨lens, _, _, _, _, hselected, _, _, hdefinition⟩
      · rw [returnsEarly, hout, Bool.true_or] at hearly
        cases hearly
      · have hrefused := (Bool.or_eq_false_iff.mp hearly).2
        rw [hselected.rebuilt, hrefused, if_neg (by decide), Option.getD_some] at hdefinition
        have hlens : d.currentLens = some lens := hselected.hlens
        rw [hdefinition, finiteNumbers_filled_iff hd, hlens]
        constructor
        · intro hcounts _ other hother
          obtain rfl := Option.some.inj hother
          exact hcounts
        · intro hcounts
          exact hcounts rfl lens rfl
  constructor
  · intro h
    exact hdefinition.mp h.definition
  · intro hrebuilds
    exact ⟨hdefinition.mpr hrebuilds, heta⟩

/-! ### The writes of a scan -/

/-- The writes of the acquisition mode, the energies, the angles, the steps, the channels, the
slices and the number of exposures. -/
def Write.isScan : Write → Bool
  | .int function _ _ =>
    match function with
    | .analyserAcquisitionMode | .detectorChannels | .detectorSlices | .adNumExposures => true
    | _ => false
  | .float function _ _ =>
    match function with
    | .analyserHighEnergy | .analyserLowEnergy | .analyserCenterEnergy | .analyserEnergyStep
    | .analyserHighAngleY | .analyserLowAngleY | .analyserCenterAngleY | .analyserAngleYStep
    | .analyserCenterSlice | .excitationEnergy | .workFunction => true
    | _ => false

/-- The number of exposures that a write replaces is not zero. -/
def rescalesWell (d : Driver) : Write → Bool
  | .int .adNumExposures _ _ => d.int .adNumExposures ≠ 0
  | _ => true

/-- The write rescales by a number that is not zero, and the swept axes of the rebuild that it comes
to have steps that give counts. -/
def dividesWell (d : Driver) (w : Write) : Bool :=
  d.rescalesWell w && (d.prepared w).all fun p =>
    p.returnsEarly || p.currentLens.all fun lens => p.SweepsCount lens

/-- Up to its rebuild, a write leaves the numbers of the definition and the divisors alone. -/
structure Hands (d p : Driver) : Prop where
  definition : p.spectrumDefinition = d.spectrumDefinition
  acqETA : p.acqETA = d.acqETA
  divisors : Divisors d → Divisors p

theorem Hands.trans {d₁ d₂ d₃ : Driver} (h : Hands d₁ d₂) (h' : Hands d₂ d₃) : Hands d₁ d₃ where
  definition := h'.definition.trans h.definition
  acqETA := h'.acqETA.trans h.acqETA
  divisors hd := h'.divisors (h.divisors hd)

/-- A write of float parameters and requested values alone. -/
theorem hands_of_ints {p : Driver} (hdefinition : p.spectrumDefinition = d.spectrumDefinition)
    (hacqETA : p.acqETA = d.acqETA) (hdensity : p.pixelDensity = d.pixelDensity)
    (hint : p.int = d.int) : Hands d p where
  definition := hdefinition
  acqETA := hacqETA
  divisors hd := by
    constructor
    · rw [hdensity]
      exact hd.pixelDensity
    · rw [hint]
      exact hd.sizeX
    · rw [hint]
      exact hd.sizeY
    · rw [hint]
      exact hd.channels
    · rw [hint]
      exact hd.slices

theorem hands_setDoubleParam (f : FloatParam) (value : ℚ) : Hands d (d.setDoubleParam f value) :=
  hands_of_ints rfl rfl rfl rfl

theorem hands_request (f : FloatParam) (value : ℚ) : Hands d (d.request f value) :=
  hands_of_ints rfl rfl rfl rfl

theorem hands_reportNoThetaY (lens : LensModeSetting) : Hands d (d.reportNoThetaY lens) :=
  hands_of_ints rfl rfl rfl rfl

theorem hands_centered (center low high : FloatParam) (value : ℚ) (swept : Bool) :
    Hands d (d.centered center low high value swept) := by
  have hcenter : Hands d (d.request center value) := hands_request center value
  unfold centered
  dsimp only
  split
  · exact (hcenter.trans (hands_request _ _)).trans (hands_request _ _)
  · exact hcenter

theorem hands_mode (value : Int) : Hands d (d.setIntegerParam .analyserAcquisitionMode value) := by
  refine ⟨rfl, rfl, fun hd => ⟨hd.pixelDensity, ?_, ?_, ?_, ?_⟩⟩
  · simpa using hd.sizeX
  · simpa using hd.sizeY
  · simpa using hd.channels
  · simpa using hd.slices

/-- A number of channels or slices is never zero after its write, if the region has pixels. -/
theorem limited_ne_zero {f size : IntParam} (hne : size ≠ f) (value : Int) (hsize : d.int size ≠ 0) :
    ((d.setIntegerParam f value).limitChannels f size value).int f ≠ 0 := by
  have hkept : (d.setIntegerParam f value).int size = d.int size := by simp [hne]
  unfold limitChannels
  rw [hkept]
  split
  · simpa using hsize
  · split
    · simp
    · rename_i hpositive
      simp only [int_setIntegerParam, if_true]
      omega

/-- A number of channels or slices that is limited to the size of the region. -/
theorem hands_limited {f size : IntParam} (value : Int)
    (hkept : ∀ q : IntParam, q = .adSizeX ∨ q = .adSizeY → q ≠ f)
    (hcounts : Divisors d → ((d.setIntegerParam f value).limitChannels f size value).int
        .detectorChannels ≠ 0 ∧
      ((d.setIntegerParam f value).limitChannels f size value).int .detectorSlices ≠ 0) :
    Hands d ((d.setIntegerParam f value).limitChannels f size value) := by
  obtain ⟨n, hlimited⟩ := limitChannels_cases d f size value
  refine ⟨by rw [hlimited]; rfl, by rw [hlimited]; rfl, ?_⟩
  intro hd
  refine ⟨?_, ?_, ?_, (hcounts hd).1, (hcounts hd).2⟩
  · rw [hlimited]
    exact hd.pixelDensity
  · rw [int_limited_other (hkept .adSizeX (Or.inl rfl))]
    exact hd.sizeX
  · rw [int_limited_other (hkept .adSizeY (Or.inr rfl))]
    exact hd.sizeY

theorem hands_channels (value : Int) : Hands d
    ((d.setIntegerParam .detectorChannels value).limitChannels .detectorChannels .adSizeX value) := by
  apply hands_limited value
  · rintro q (rfl | rfl) <;> simp
  · intro hd
    refine ⟨limited_ne_zero (by simp) value hd.sizeX, ?_⟩
    rw [int_limited_other (by simp)]
    exact hd.slices

theorem hands_slices (value : Int) : Hands d
    ((d.setIntegerParam .detectorSlices value).limitChannels .detectorSlices .adSizeY value) := by
  apply hands_limited value
  · rintro q (rfl | rfl) <;> simp
  · intro hd
    refine ⟨?_, limited_ne_zero (by simp) value hd.sizeY⟩
    rw [int_limited_other (by simp)]
    exact hd.channels

/-- What a write of a scan comes to: a rebuild of the prepared driver, or none. -/
def Outcome (d : Driver) (w : Write) (d' : Driver) : Prop :=
  (∃ p, d.prepared w = some p ∧ Hands d p ∧ p.setupSpectrumDefinition w.reply = some d') ∨
    (d.prepared w = none ∧ Hands d d')

theorem outcome_acquisitionMode {base : ADDriver} {value : Int} {reply : AdjustReply}
    (h : d.write base (.int .analyserAcquisitionMode value reply) = some d') :
    Outcome d (.int .analyserAcquisitionMode value reply) d' := by
  simp only [write, writeInt32, map_fst_none, writeAcquisitionMode] at h
  unfold Outcome
  simp only [prepared]
  split at h
  · rename_i hswept
    rw [if_pos hswept]
    obtain ⟨lens, hlens, h⟩ := Option.bind_eq_some_iff.mp h
    rw [hlens, Option.bind_some]
    split at h
    · rename_i hdeflects
      exact Or.inl ⟨_, if_pos hdeflects, hands_mode value, h⟩
    · rename_i hdeflects
      obtain rfl := Option.some.inj h
      refine Or.inr ⟨if_neg hdeflects, ?_⟩
      exact ((hands_mode value).trans (hands_reportNoThetaY lens)).trans (hands_mode _)
  · rename_i hfixed
    exact Or.inl ⟨_, if_neg hfixed, hands_mode value, h⟩

theorem outcome_channels {base : ADDriver} {value : Int} {reply : AdjustReply}
    (h : d.write base (.int .detectorChannels value reply) = some d') :
    Outcome d (.int .detectorChannels value reply) d' := by
  simp only [write, writeInt32, map_fst_none, writeDetectorChannels] at h
  unfold Outcome
  simp only [prepared]
  split at h
  · rename_i hboth
    obtain rfl := Option.some.inj h
    exact Or.inr ⟨if_pos hboth, hands_channels value⟩
  · rename_i hone
    exact Or.inl ⟨_, if_neg hone, hands_channels value, h⟩

theorem outcome_slices {base : ADDriver} {value : Int} {reply : AdjustReply}
    (h : d.write base (.int .detectorSlices value reply) = some d') :
    Outcome d (.int .detectorSlices value reply) d' := by
  simp only [write, writeInt32, map_fst_none, writeDetectorSlices] at h
  exact Or.inl ⟨_, rfl, hands_slices value, h⟩

theorem outcome_float {base : ADDriver} {f : FloatParam} {value : ℚ} {reply : AdjustReply}
    (hscan : Write.isScan (.float f value reply) = true)
    (h : d.write base (.float f value reply) = some d') : Outcome d (.float f value reply) d' := by
  have hset : Hands d (d.setDoubleParam f value) := hands_setDoubleParam f value
  have hrequest : Hands d ((d.setDoubleParam f value).request f value) :=
    hset.trans (hands_request f value)
  unfold Outcome
  cases f
  case excitationEnergy | workFunction =>
    simp only [write, writeFloat64] at h
    simp only [prepared]
    split at h
    · rename_i hbinding
      exact Or.inl ⟨_, if_pos hbinding, hset, h⟩
    · rename_i hkinetic
      obtain rfl := Option.some.inj h
      exact Or.inr ⟨if_neg hkinetic, hset⟩
  case analyserCenterSlice => exact Or.inl ⟨_, rfl, hrequest, h⟩
  case analyserHighEnergy | analyserLowEnergy | analyserEnergyStep | analyserHighAngleY |
      analyserLowAngleY | analyserAngleYStep =>
    simp only [write, writeFloat64, writeRange] at h
    simp only [prepared]
    split at h
    · rename_i hswept
      exact Or.inl ⟨_, if_pos hswept, hrequest, h⟩
    · rename_i hfixed
      obtain rfl := Option.some.inj h
      exact Or.inr ⟨if_neg hfixed, hrequest.trans (hands_setDoubleParam _ _)⟩
  case analyserCenterEnergy | analyserCenterAngleY =>
    exact Or.inl ⟨_, rfl, hset.trans (hands_centered _ _ _ _ _), h⟩
  all_goals cases hscan

/-- The rescaled time is finite if the number of exposures was not zero. -/
theorem isFinite_rescaled_iff (hw : d.acqETA.IsFinite) (oldValue value : Int) :
    ((d.rescaleETA oldValue value).acqETA).IsFinite ↔ oldValue ≠ 0 := by
  obtain ⟨eta, heta⟩ := hw
  have hrescaled : (d.rescaleETA oldValue value).acqETA =
      (Number.fdiv eta oldValue).map (· * (value : ℚ)) := by
    unfold rescaleETA
    rw [heta]
    simp only [Number.bind, withParams]
    cases (Number.fdiv eta oldValue).map (· * (value : ℚ)) <;> rfl
  rw [hrescaled]
  by_cases hzero : oldValue = 0
  · subst hzero
    simp [Number.map, Number.IsFinite]
  · have hne : (oldValue : ℚ) ≠ 0 := Int.cast_ne_zero.mpr hzero
    rw [Number.fdiv_of_ne hne]
    exact iff_of_true ⟨_, rfl⟩ hzero

theorem rebuildsFinite_iff {p : Driver} : p.RebuildsFinite ↔
    (p.returnsEarly || p.currentLens.all fun lens => p.SweepsCount lens) = true := by
  unfold RebuildsFinite
  cases p.returnsEarly <;> cases p.currentLens <;> simp

/-- One write of a scan: the divisors stay, and the numbers stay finite if and only if the write
divides well. -/
theorem scan_step {base : ADDriver} {w : Write} (hscan : w.isScan = true) (hd : Divisors d)
    (hw : Undivided d) (h : d.write base w = some d') :
    Divisors d' ∧ (Undivided d' ↔ d.dividesWell w = true) := by
  have houtcome (hasks : Outcome d w d') (hrescales : d.rescalesWell w = true) :
      Divisors d' ∧ (Undivided d' ↔ d.dividesWell w = true) := by
    unfold dividesWell
    rw [hrescales, Bool.true_and]
    rcases hasks with ⟨p, hp, hhands, hsetup⟩ | ⟨hp, hhands⟩
    · have hprepared : Undivided p := ⟨hhands.definition ▸ hw.definition, hhands.acqETA ▸ hw.acqETA⟩
      have hdivisors := hhands.divisors hd
      refine ⟨divisors_setup hdivisors hsetup, ?_⟩
      rw [undivided_setup_iff hdivisors hprepared hsetup, hp, Option.all_some]
      exact rebuildsFinite_iff
    · refine ⟨hhands.divisors hd, ?_⟩
      rw [hp, Option.all_none]
      exact iff_of_true ⟨hhands.definition ▸ hw.definition, hhands.acqETA ▸ hw.acqETA⟩ rfl
  cases w with
  | float f value reply => exact houtcome (outcome_float hscan h) rfl
  | int f value reply =>
    cases f
    case analyserAcquisitionMode => exact houtcome (outcome_acquisitionMode h) rfl
    case detectorChannels => exact houtcome (outcome_channels h) rfl
    case detectorSlices => exact houtcome (outcome_slices h) rfl
    case adNumExposures =>
      obtain rfl := Option.some.inj h
      have hkept : ∀ q : IntParam, q ≠ .adNumExposures →
          ((d.setIntegerParam .adNumExposures value).rescaleETA (d.int .adNumExposures) value).int q =
            d.int q := by
        intro q hq
        simp [hq]
      constructor
      · refine ⟨hd.pixelDensity, ?_, ?_, ?_, ?_⟩
        · rw [hkept _ (by simp)]
          exact hd.sizeX
        · rw [hkept _ (by simp)]
          exact hd.sizeY
        · rw [hkept _ (by simp)]
          exact hd.channels
        · rw [hkept _ (by simp)]
          exact hd.slices
      · have hstored : (d.setIntegerParam .adNumExposures value).acqETA.IsFinite := hw.acqETA
        have hrescaled := isFinite_rescaled_iff hstored (d.int .adNumExposures) value
        have hdivides : d.dividesWell (.int .adNumExposures value reply) = true ↔
            d.int .adNumExposures ≠ 0 := by
          simp [dividesWell, rescalesWell, prepared]
        rw [hdivides, ← hrescaled]
        constructor
        · intro h
          exact h.acqETA
        · intro heta
          exact ⟨hw.definition, heta⟩
    all_goals cases hscan

/-! ### Runs -/

section Selected

variable {names : List String} {name : String} {f : IntParam} {text : Option StringParam}

theorem pixelDensity_selectListed :
    (d.selectListed names name f text).pixelDensity = d.pixelDensity := by
  unfold selectListed
  split
  · cases text <;> rfl
  · rfl

theorem acqETA_selectListed : (d.selectListed names name f text).acqETA = d.acqETA := by
  unfold selectListed
  split
  · cases text <;> rfl
  · rfl

end Selected

theorem acqETA_setPassEnergy (passEnergy : ℚ) : (d.setPassEnergy passEnergy).acqETA = d.acqETA :=
  (sameTime_setPassEnergy passEnergy).acqETA

/-- The detector and its region, as a connection finds them, have an extent. -/
def HasExtent (info : ServerInfo) : Prop :=
  (info.channelWidth ≠ 0 ∧ info.detectorWidth ≠ 0) ∧ info.roiWidth ≠ 0 ∧ info.roiHeight ≠ 0

/-- A connection takes its divisors from the servers, and asks for no sweep. -/
theorem connect_divides {info : ServerInfo} {reply : AdjustReply} (hextent : HasExtent info)
    (hmode : d.int .analyserAcquisitionMode = 0) (heta : d.acqETA.IsFinite)
    (h : d.connectAnalyser info reply = some d') : Divisors d' ∧ Undivided d' := by
  obtain ⟨⟨hwidth, hdetector⟩, hroiWidth, hroiHeight⟩ := hextent
  obtain ⟨d₀, hconnect, hdensity, hsizeX, hsizeY, hchannels, hslices, hmode₀, heta₀, hdefinition⟩ :
      ∃ d₀ : Driver, d.connectAnalyser info reply = d₀.setupSpectrumDefinition reply ∧
        d₀.pixelDensity = info.channelWidth / info.detectorWidth ∧
        d₀.int .adSizeX = info.roiWidth ∧ d₀.int .adSizeY = info.roiHeight ∧
        d₀.int .detectorChannels = info.roiWidth ∧ d₀.int .detectorSlices = info.roiHeight ∧
        d₀.int .analyserAcquisitionMode = d.int .analyserAcquisitionMode ∧
        d₀.acqETA = d.acqETA ∧ d₀.spectrumDefinition =
          { elementSetName := info.configurationName, lensModeName := info.lensModeName,
            passEnergy := info.passEnergy, dwellTime := info.dwellTime, fixedX := some {} } := by
    refine ⟨_, rfl, ?_⟩
    simp only [setSlit, setDetectorMode, setLensMode, setElementSet, setIntegerParam, setDoubleParam,
      withParams, spectrumDefinition_selectListed, Params.int_setIntegerParam,
      Params.int_setDoubleParam, int_selectListed, int_setPassEnergy_index, pixelDensity_selectListed,
      acqETA_selectListed, acqETA_setPassEnergy, Params.acqETA_setIntegerParam,
      Params.acqETA_setDoubleParam, reduceCtorEq, if_false, if_true, and_self]
  have hdivisors : Divisors d₀ := by
    refine ⟨?_, ?_, ?_, ?_, ?_⟩
    · rw [hdensity]
      exact div_ne_zero (Int.cast_ne_zero.mpr hwidth) hdetector
    · rwa [hsizeX]
    · rwa [hsizeY]
    · rwa [hchannels]
    · rwa [hslices]
  have hundivided : Undivided d₀ := by
    refine ⟨?_, heta₀ ▸ heta⟩
    rw [hdefinition]
    refine ⟨?_, ?_, ?_, ?_, ?_⟩
    · intro area harea
      cases harea
    · intro axis b haxis hb
      obtain rfl := Option.some.inj haxis
      cases hb
    · intro axis b haxis
      cases haxis
    · intro axis haxis
      cases haxis
    · intro axis haxis
      cases haxis
  rw [hconnect] at h
  refine ⟨divisors_setup hdivisors h, (undivided_setup_iff hdivisors hundivided h).mpr ?_⟩
  intro _ lens _
  unfold SweepsCount
  rw [hmode₀, hmode]
  constructor
  · intro hswept
    cases hswept
  · intro hswept
    cases hswept

/-- A write of a scan that divides well. -/
def scansWell (d : Driver) (w : Write) : Bool := w.isScan && d.dividesWell w

theorem requestedAxes_selectListed {names : List String} {name : String} {f : IntParam}
    {text : Option StringParam} :
    (d.selectListed names name f text).requestedAxes = d.requestedAxes := by
  unfold selectListed
  split
  · cases text <;> rfl
  · rfl

/-- A connection requests no axis values. -/
theorem requestedAxes_connect {info : ServerInfo} {reply : AdjustReply}
    (h : d.connectAnalyser info reply = some d') : d'.requestedAxes = d.requestedAxes := by
  obtain ⟨d₀, hconnect, hrequested⟩ : ∃ d₀ : Driver,
      d.connectAnalyser info reply = d₀.setupSpectrumDefinition reply ∧
        d₀.requestedAxes = d.requestedAxes := by
    refine ⟨_, rfl, ?_⟩
    simp only [setSlit, setDetectorMode, setLensMode, setElementSet, setIntegerParam, setDoubleParam,
      withParams, requestedAxes_selectListed, (setPassEnergy_cases _ _).1.requestedAxes]
  rw [hconnect] at h
  rcases setup_cases h with ⟨_, rfl⟩ | ⟨_, _, _, _, _, _, halike, _⟩
  · exact hrequested
  · exact halike.requestedAxes.trans hrequested

theorem extent_smallAnalyser : HasExtent smallAnalyser := by
  refine ⟨⟨?_, ?_⟩, ?_, ?_⟩ <;> norm_num [smallAnalyser]

/-- The step is requested before the sweep is selected. -/
def stepFirst : List Write :=
  [.float .analyserEnergyStep 1 .raised, .float .analyserLowEnergy 1 .raised,
    .float .analyserHighEnergy 10 .raised, .float .analyserCenterEnergy 5 .raised,
    .int .analyserAcquisitionMode 1 .raised, .int .adNumExposures 3 .raised]

end Driver

end PeakAnalyser

import Mathlib.Algebra.Order.Field.Basic
import PeakAnalyser.Selections

/-!
# The region of the detector and its channels

`setROI` shortens a region that reaches over the upper end of the detector. It
checks neither the offsets and sizes it is given nor the numbers of channels, which
a write of these alone limits.
-/

namespace PeakAnalyser

set_option autoImplicit false

open Runs

/-- The values of an `int`. -/
def Fits (value : Int) : Prop := -0x80000000 ≤ value ∧ value ≤ 0x7fffffff

instance (value : Int) : Decidable (Fits value) :=
  inferInstanceAs (Decidable (-0x80000000 ≤ value ∧ value ≤ 0x7fffffff))

def IntParam.isROI : IntParam → Bool
  | .adMinX | .adMinY | .adSizeX | .adSizeY => true
  | _ => false

/-- An interval of the detector in one direction, as the parameters give it. -/
structure Extent where
  offset : Int
  size : Int
  limit : Int
  deriving DecidableEq

namespace Extent

variable {e : Extent} {channels : Int}

/-- What `setROI` does in one direction. -/
def limited (e : Extent) : Extent :=
  if e.offset + e.size > e.limit then { e with size := e.limit - e.offset } else e

/-- The sums of `setROI` in one direction are values of an `int`. -/
def Computes (e : Extent) : Prop :=
  Fits (e.offset + e.size) ∧ (e.offset + e.size > e.limit → Fits (e.limit - e.offset))

instance (e : Extent) : Decidable e.Computes :=
  inferInstanceAs (Decidable (Fits _ ∧ (_ → Fits _)))

/-- A non-empty part of the detector. -/
def Inside (e : Extent) : Prop := 0 ≤ e.offset ∧ 1 ≤ e.size ∧ e.offset + e.size ≤ e.limit

instance (e : Extent) : Decidable e.Inside :=
  inferInstanceAs (Decidable (0 ≤ _ ∧ 1 ≤ _ ∧ _))

/-- The offset is a place of the detector, and the size is positive. -/
def Placed (e : Extent) : Prop :=
  0 ≤ e.offset ∧ e.offset < e.limit ∧ 1 ≤ e.size ∧ e.offset + e.size ≤ 0x7fffffff

instance (e : Extent) : Decidable e.Placed :=
  inferInstanceAs (Decidable (0 ≤ _ ∧ _ < _ ∧ 1 ≤ _ ∧ _))

@[simp] theorem offset_limited : e.limited.offset = e.offset := by
  unfold limited
  split <;> rfl

@[simp] theorem limit_limited : e.limited.limit = e.limit := by
  unfold limited
  split <;> rfl

theorem size_limited : e.limited.size = min e.size (e.limit - e.offset) := by
  unfold limited
  split
  · rename_i hover
    have hle : e.limit - e.offset ≤ e.size := by omega
    exact (min_eq_right hle).symm
  · rename_i hin
    exact (min_eq_left (by omega)).symm

/-- The limited interval lies inside the detector, by sums that do not overflow, for exactly the
placed intervals. -/
theorem inside_limited_iff (hlimit : e.limit ≤ 0x7fffffff) :
    e.Computes ∧ e.limited.Inside ↔ e.Placed := by
  unfold Computes Inside Placed Fits
  rw [offset_limited, limit_limited, size_limited]
  omega

/-- The region that leaves room for the channels. -/
def Holds (e : Extent) (channels : Int) : Prop :=
  channels ≤ e.size ∧ e.offset + channels ≤ e.limit

instance (e : Extent) (channels : Int) : Decidable (e.Holds channels) :=
  inferInstanceAs (Decidable (_ ∧ _))

theorem le_size_limited_iff : channels ≤ e.limited.size ↔ e.Holds channels := by
  unfold Holds
  rw [size_limited]
  omega

end Extent

namespace Params

variable (p : Params)

def extentX : Extent := ⟨p.int .adMinX, p.int .adSizeX, p.int .adMaxSizeX⟩

def extentY : Extent := ⟨p.int .adMinY, p.int .adSizeY, p.int .adMaxSizeY⟩

/-- `setROI` treats the two directions alike, and one without the other. -/
theorem setROI_extents :
    p.setROI.extentX = p.extentX.limited ∧ p.setROI.extentY = p.extentY.limited ∧
      ∀ q, q ≠ .adSizeX → q ≠ .adSizeY → p.setROI.int q = p.int q := by
  unfold setROI Extent.limited extentX extentY
  dsimp only
  split <;> split <;> simp_all

end Params

namespace Driver

variable {d d' : Driver}

/-- The region lies inside the detector. -/
structure InsideDetector (d : Driver) : Prop where
  x : d.toParams.extentX.Inside
  y : d.toParams.extentY.Inside

instance (d : Driver) : Decidable (InsideDetector d) :=
  decidable_of_iff (d.toParams.extentX.Inside ∧ d.toParams.extentY.Inside)
    ⟨fun h => ⟨h.1, h.2⟩, fun h => ⟨h.x, h.y⟩⟩

/-- The maximum sizes are values of an `int`, as all parameters are. -/
def SizesFit (d : Driver) : Prop :=
  d.int .adMaxSizeX ≤ 0x7fffffff ∧ d.int .adMaxSizeY ≤ 0x7fffffff

instance (d : Driver) : Decidable d.SizesFit := inferInstanceAs (Decidable (_ ∧ _))

/-- The parameters that a write of the region hands over to `setROI`. -/
def stored (d : Driver) (function : IntParam) (value : Int) : Params :=
  (d.setIntegerParam function value).toParams

/-- The writes of the region, by values of an `int`. -/
def writesROI (_ : Driver) : Write → Prop
  | .int function value _ => function.isROI = true ∧ Fits value
  | .float _ _ _ => False

instance (d : Driver) : DecidablePred d.writesROI
  | .int _ _ _ => inferInstanceAs (Decidable (_ ∧ _))
  | .float _ _ _ => .isFalse id

/-- A write of the region by a value that places it on the detector. -/
def placesROI (d : Driver) : Write → Prop
  | .int function value _ => function.isROI = true ∧
      (d.stored function value).extentX.Placed ∧ (d.stored function value).extentY.Placed
  | .float _ _ _ => False

instance (d : Driver) : DecidablePred d.placesROI
  | .int _ _ _ => inferInstanceAs (Decidable (_ ∧ _ ∧ _))
  | .float _ _ _ => .isFalse id

/-! ### What a write of the region does -/

theorem write_roi (base : ADDriver) {f : IntParam} (hf : f.isROI = true) (value : Int)
    (reply : AdjustReply) :
    d.write base (.int f value reply) =
      (d.withParams (d.stored f value).setROI).setupSpectrumDefinition reply := by
  cases f <;> first | exact map_fst_none _ | cases hf

theorem extents_setup {reply : AdjustReply} (h : d.setupSpectrumDefinition reply = some d') :
    d'.toParams.extentX = d.toParams.extentX ∧ d'.toParams.extentY = d.toParams.extentY := by
  unfold Params.extentX Params.extentY
  rw [int_setup rfl (by simp) h, int_setup rfl (by simp) h, int_setup rfl (by simp) h,
    int_setup rfl (by simp) h, int_setup rfl (by simp) h, int_setup rfl (by simp) h]
  exact ⟨rfl, rfl⟩

theorem extents_write {base : ADDriver} {f : IntParam} {value : Int} {reply : AdjustReply}
    (hf : f.isROI = true) (h : d.write base (.int f value reply) = some d') :
    d'.toParams.extentX = (d.stored f value).extentX.limited ∧
      d'.toParams.extentY = (d.stored f value).extentY.limited := by
  rw [write_roi base hf] at h
  obtain ⟨hX, hY⟩ := extents_setup h
  obtain ⟨hlimitedX, hlimitedY, -⟩ := (d.stored f value).setROI_extents
  exact ⟨hX.trans hlimitedX, hY.trans hlimitedY⟩

theorem limits_stored (d : Driver) {f : IntParam} (hf : f.isROI = true) (value : Int) :
    (d.stored f value).extentX.limit = d.int .adMaxSizeX ∧
      (d.stored f value).extentY.limit = d.int .adMaxSizeY := by
  have hX : IntParam.adMaxSizeX ≠ f := by
    rintro rfl
    cases hf
  have hY : IntParam.adMaxSizeY ≠ f := by
    rintro rfl
    cases hf
  exact ⟨(int_setIntegerParam f value).trans (if_neg hX),
    (int_setIntegerParam f value).trans (if_neg hY)⟩

theorem sizesFit_write {base : ADDriver} {f : IntParam} {value : Int} {reply : AdjustReply}
    (hf : f.isROI = true) (h : d.write base (.int f value reply) = some d') (hd : SizesFit d) :
    SizesFit d' := by
  obtain ⟨hX, hY⟩ := extents_write hf h
  obtain ⟨hlimitX, hlimitY⟩ := limits_stored d hf value
  have hx : d'.int .adMaxSizeX = d.int .adMaxSizeX := by
    rw [← hlimitX, ← Extent.limit_limited, ← hX]
    rfl
  have hy : d'.int .adMaxSizeY = d.int .adMaxSizeY := by
    rw [← hlimitY, ← Extent.limit_limited, ← hY]
    rfl
  rw [SizesFit, hx, hy]
  exact hd

theorem Alike.detectorArea (h : Alike d d') : d'.detectorArea = d.detectorArea := by
  unfold Driver.detectorArea
  rw [h.pixelDensity, h.channelCenterX, h.channelCenterY, h.int .adMinX rfl, h.int .adMinY rfl,
    h.int .adSizeX rfl, h.int .adSizeY rfl]

/-- The region of the definition is the one of the parameters, unless a rebuild returns early. -/
theorem setup_sends_region {reply : AdjustReply} (h : d.setupSpectrumDefinition reply = some d')
    (hnew : d.returnsEarly = false) :
    d'.spectrumDefinition.detectorAreas = some d'.detectorArea := by
  obtain ⟨hrange, hrefused⟩ := Bool.or_eq_false_iff.mp hnew
  rcases setup_cases h with ⟨hout, -⟩ | ⟨_, _, _, _, _, hselected, halike, -, hdefinition⟩
  · rw [hrange] at hout
    cases hout
  · rw [hselected.rebuilt, hrefused] at hdefinition
    rw [hdefinition, halike.detectorArea]
    rfl

theorem returnsEarly_roi {f : IntParam} (hf : f.isROI = true) (value : Int) :
    (d.withParams (d.stored f value).setROI).returnsEarly = d.returnsEarly := by
  obtain ⟨-, -, hkept⟩ := (d.stored f value).setROI_extents
  have hint : ∀ q : IntParam, q.isROI = false →
      (d.withParams (d.stored f value).setROI).int q = d.int q := by
    intro q hq
    have hne : ∀ g : IntParam, g.isROI = true → q ≠ g := by
      rintro g hg rfl
      rw [hg] at hq
      cases hq
    refine (hkept q (hne _ rfl) (hne _ rfl)).trans ?_
    exact (int_setIntegerParam f value).trans (if_neg (hne f hf))
  have hfloat : (d.withParams (d.stored f value).setROI).float = d.float := by
    unfold withParams Params.setROI
    dsimp only
    split <;> split <;> rfl
  unfold returnsEarly enumOutOfRange energyRefused energyRequest
  rw [hint .elementSet rfl, hint .lensMode rfl, hint .passEnergy rfl, hint .detectorMode rfl,
    hint .analyserAcquisitionMode rfl, hint .energyMode rfl, hfloat]
  rfl

/-! ### The region -/

/-- A write of the region: no sum of `setROI` overflows, and the region is inside the detector
afterwards. -/
def KeepsRegion (d : Driver) (f : IntParam) (value : Int) (d' : Driver) : Prop :=
  ((d.stored f value).extentX.Computes ∧ (d.stored f value).extentY.Computes) ∧ InsideDetector d'

theorem keepsRegion_iff {base : ADDriver} {f : IntParam} {value : Int} {reply : AdjustReply}
    (hd : SizesFit d) (hf : f.isROI = true) (h : d.write base (.int f value reply) = some d') :
    KeepsRegion d f value d' ↔ d.placesROI (.int f value reply) := by
  obtain ⟨hX, hY⟩ := extents_write hf h
  obtain ⟨hlimitX, hlimitY⟩ := limits_stored d hf value
  have hx := Extent.inside_limited_iff (e := (d.stored f value).extentX) (hlimitX.trans_le hd.1)
  have hy := Extent.inside_limited_iff (e := (d.stored f value).extentY) (hlimitY.trans_le hd.2)
  rw [← hX] at hx
  rw [← hY] at hy
  constructor
  · intro h
    obtain ⟨⟨hcomputesX, hcomputesY⟩, hinside⟩ := h
    exact ⟨hf, hx.mp ⟨hcomputesX, hinside.x⟩, hy.mp ⟨hcomputesY, hinside.y⟩⟩
  · intro h
    obtain ⟨_, hplacedX, hplacedY⟩ := h
    obtain ⟨hcomputesX, hinsideX⟩ := hx.mpr hplacedX
    obtain ⟨hcomputesY, hinsideY⟩ := hy.mpr hplacedY
    exact ⟨⟨hcomputesX, hcomputesY⟩, hinsideX, hinsideY⟩

theorem placesROI_step {base : ADDriver} {w : Write} (hd : SizesFit d) (hw : d.placesROI w)
    (h : d.write base w = some d') : SizesFit d' ∧ InsideDetector d' := by
  cases w with
  | float f value reply => exact absurd hw id
  | int f value reply =>
    exact ⟨sizesFit_write hw.1 h hd, ((keepsRegion_iff hd hw.1 h).mpr hw).2⟩

/-- As long as every write places the region on the detector, the region stays inside it; a write
of a region that is inside keeps it there only then. The definition is sent with this region. -/
theorem region_stays_inside {base : ADDriver} {d₀ d₁ : Driver} (hsizes : SizesFit d₀)
    (hinside : InsideDetector d₀) (hrun : Run (write base) placesROI d₀ d₁) :
    InsideDetector d₁ ∧ ∀ f value reply d₂, f.isROI = true →
      d₁.write base (.int f value reply) = some d₂ →
      (KeepsRegion d₁ f value d₂ ↔ d₁.placesROI (.int f value reply)) ∧
      (d₁.returnsEarly = false →
        d₂.spectrumDefinition.detectorAreas = some d₂.detectorArea) := by
  have hboth : SizesFit d₁ ∧ InsideDetector d₁ := by
    refine hrun.invariant (P := fun d => SizesFit d ∧ InsideDetector d) ?_ ⟨hsizes, hinside⟩
    intro a w b ha hw hwrite
    exact placesROI_step ha.1 hw hwrite
  refine ⟨hboth.2, fun f value reply d₂ hf hwrite => ⟨keepsRegion_iff hboth.1 hf hwrite, ?_⟩⟩
  intro hnew
  rw [write_roi base hf] at hwrite
  exact setup_sends_region hwrite ((returnsEarly_roi hf value).trans hnew)

theorem region_stays_inside_moved :
    ∃ d₀ d₁, unconnected.connectAnalyser smallAnalyser .raised = some d₀ ∧
      Run (write (.store 8)) placesROI d₀ d₁ ∧ d₁.int .adSizeX = 500 ∧ InsideDetector d₁ := by
  have hreach : (unconnected.connectAnalyser smallAnalyser .raised).any fun d₀ =>
      decide d₀.SizesFit && decide (InsideDetector d₀) &&
      reaches (write (.store 8)) placesROI d₀ [.int .adMinX 500 .raised] fun d₁ =>
        decide (d₁.int .adSizeX = 500) := by
    decide +kernel
  obtain ⟨d₀, hconnect, hall⟩ := (Option.any_eq_true _ _).mp hreach
  obtain ⟨hstart, hwrite⟩ := Bool.and_eq_true_iff.mp hall
  obtain ⟨hsizes, hinside⟩ := Bool.and_eq_true_iff.mp hstart
  obtain ⟨d₁, hrun, hsize⟩ := run_of_reaches hwrite
  exact ⟨d₀, d₁, hconnect, hrun, of_decide_eq_true hsize,
    (region_stays_inside (of_decide_eq_true hsizes) (of_decide_eq_true hinside) hrun).1⟩

/-- A negative offset is stored as it is. -/
theorem negative_offset_kept :
    ∃ d₀, unconnected.connectAnalyser smallAnalyser .raised = some d₀ ∧ d₀.SizesFit ∧
      InsideDetector d₀ ∧
      ¬ ∀ d₁, Run (write (.store 8)) writesROI d₀ d₁ → InsideDetector d₁ := by
  have hreach : (unconnected.connectAnalyser smallAnalyser .raised).any fun d₀ =>
      decide d₀.SizesFit && decide (InsideDetector d₀) &&
      reaches (write (.store 8)) writesROI d₀ [.int .adMinX (-5) .raised] fun d₁ =>
        !decide (InsideDetector d₁) := by
    decide +kernel
  obtain ⟨d₀, hconnect, hall⟩ := (Option.any_eq_true _ _).mp hreach
  obtain ⟨hstart, hwrite⟩ := Bool.and_eq_true_iff.mp hall
  obtain ⟨hsizes, hinside⟩ := Bool.and_eq_true_iff.mp hstart
  obtain ⟨d₁, hrun, houtside⟩ := run_of_reaches hwrite
  refine ⟨d₀, hconnect, of_decide_eq_true hsizes, of_decide_eq_true hinside, fun hclaim => ?_⟩
  rw [Bool.not_eq_true', decide_eq_false_iff_not] at houtside
  exact houtside (hclaim d₁ hrun)

/-! ### The channels -/

/-- A binning that joins at least one pixel. -/
def AtLeastOne (binning : Option Number) : Prop :=
  ∀ b, binning = some b → ∃ q, b = .finite q ∧ 1 ≤ q

/-- The channels and slices are positive and no more than the region has pixels; so are those that
the definition has been filled with. -/
structure ChannelsFit (d : Driver) : Prop where
  channels : 1 ≤ d.int .detectorChannels ∧ d.int .detectorChannels ≤ d.int .adSizeX
  slices : 1 ≤ d.int .detectorSlices ∧ d.int .detectorSlices ≤ d.int .adSizeY
  binningX : ∀ axis, d.spectrumDefinition.fixedX = some axis → AtLeastOne axis.binning
  binningY : ∀ axis, d.spectrumDefinition.fixedY = some axis → AtLeastOne axis.binning

/-- The writes that change the region or the numbers of channels. -/
def IntParam.isChannels : IntParam → Bool
  | .detectorChannels | .detectorSlices => true
  | _ => false

/-- A write of the channels or the slices, or one of the region that leaves room for them. -/
def leavesRoom (d : Driver) : Write → Prop
  | .int function value _ => IntParam.isChannels function = true ∨ function.isROI = true ∧
      ((d.stored function value).extentX.Computes ∧
        (d.stored function value).extentX.Holds (d.int .detectorChannels)) ∧
      ((d.stored function value).extentY.Computes ∧
        (d.stored function value).extentY.Holds (d.int .detectorSlices))
  | .float _ _ _ => False

instance (d : Driver) : DecidablePred d.leavesRoom
  | .int _ _ _ => inferInstanceAs (Decidable (_ ∨ _ ∧ (_ ∧ _) ∧ (_ ∧ _)))
  | .float _ _ _ => .isFalse id

theorem atLeastOne_fdiv {size count : Int} (h : 1 ≤ count) (hle : count ≤ size) :
    AtLeastOne (some (.fdiv (size : ℚ) (count : ℚ))) := by
  intro b hb
  obtain rfl := Option.some.inj hb
  have hpositive : (0 : ℚ) < count := by
    rw [Int.cast_pos]
    omega
  refine ⟨_, Number.fdiv_of_ne hpositive.ne', ?_⟩
  rw [one_le_div hpositive, Int.cast_le]
  exact hle

/-- A rebuild places such binnings if the channels fit. -/
theorem channelsFit_setup {reply : AdjustReply} (h : d.setupSpectrumDefinition reply = some d')
    (hd : ChannelsFit d) : ChannelsFit d' := by
  have hchannels : d'.int .detectorChannels = d.int .detectorChannels := int_setup rfl (by simp) h
  have hslices : d'.int .detectorSlices = d.int .detectorSlices := int_setup rfl (by simp) h
  have hsizeX : d'.int .adSizeX = d.int .adSizeX := int_setup rfl (by simp) h
  have hsizeY : d'.int .adSizeY = d.int .adSizeY := int_setup rfl (by simp) h
  have hbinnings : (∀ axis, d'.spectrumDefinition.fixedX = some axis → AtLeastOne axis.binning) ∧
      ∀ axis, d'.spectrumDefinition.fixedY = some axis → AtLeastOne axis.binning := by
    rcases setup_cases h with ⟨-, rfl⟩ | ⟨lens, elementSet, detectorMode, _, passEnergy, hselected,
      -, -, hdefinition⟩
    · exact ⟨hd.binningX, hd.binningY⟩
    · rw [hselected.rebuilt] at hdefinition
      by_cases hrefused : d.energyRefused = true
      · rw [if_pos hrefused] at hdefinition
        rw [hdefinition]
        exact ⟨hd.binningX, hd.binningY⟩
      · rw [if_neg hrefused, Option.getD_some] at hdefinition
        rw [hdefinition]
        constructor
        · intro axis haxis
          by_cases hswept : sweepsEnergy (d.int .analyserAcquisitionMode) = true
          · simp [filledDefinition, hswept] at haxis
          · simp only [filledDefinition, hswept, Bool.false_eq_true, if_false] at haxis
            obtain rfl := Option.some.inj haxis
            exact atLeastOne_fdiv hd.channels.1 hd.channels.2
        · intro axis haxis
          obtain rfl := Option.some.inj haxis
          exact atLeastOne_fdiv hd.slices.1 hd.slices.2
  refine ⟨?_, ?_, hbinnings.1, hbinnings.2⟩
  · rw [hchannels, hsizeX]
    exact hd.channels
  · rw [hslices, hsizeY]
    exact hd.slices

/-- A write of a number of channels leaves it between one and the size. -/
theorem int_limited {f size : IntParam} (hne : size ≠ f) (value : Int) (hsize : 1 ≤ d.int size) :
    1 ≤ ((d.setIntegerParam f value).limitChannels f size value).int f ∧
      ((d.setIntegerParam f value).limitChannels f size value).int f ≤ d.int size := by
  have hkept : (d.setIntegerParam f value).int size = d.int size := by simp [hne]
  unfold limitChannels
  rw [hkept]
  split
  · simp only [int_setIntegerParam, if_true]
    omega
  · split
    · simp only [int_setIntegerParam, if_true]
      omega
    · simp only [int_setIntegerParam, if_true]
      omega

theorem int_limited_other {f size q : IntParam} (hne : q ≠ f) (value : Int) :
    ((d.setIntegerParam f value).limitChannels f size value).int q = d.int q := by
  obtain ⟨n, hlimited⟩ := limitChannels_cases d f size value
  rw [hlimited]
  simp [hne]

theorem definition_limited {f size : IntParam} (value : Int) :
    ((d.setIntegerParam f value).limitChannels f size value).spectrumDefinition =
      d.spectrumDefinition := by
  obtain ⟨n, hlimited⟩ := limitChannels_cases d f size value
  rw [hlimited]
  rfl

theorem channelsFit_channels {base : ADDriver} {f : IntParam} {value : Int} {reply : AdjustReply}
    (hf : IntParam.isChannels f = true) (hd : ChannelsFit d)
    (h : d.write base (.int f value reply) = some d') : ChannelsFit d' := by
  cases f
  case detectorChannels =>
    have hlimited : ChannelsFit ((d.setIntegerParam .detectorChannels value).limitChannels
        .detectorChannels .adSizeX value) := by
      refine ⟨?_, ?_, ?_, ?_⟩
      · rw [int_limited_other (q := .adSizeX) (by simp)]
        exact int_limited (by simp) value (hd.channels.1.trans hd.channels.2)
      · rw [int_limited_other (by simp), int_limited_other (by simp)]
        exact hd.slices
      · rw [definition_limited]
        exact hd.binningX
      · rw [definition_limited]
        exact hd.binningY
    simp only [write, writeInt32, map_fst_none, writeDetectorChannels] at h
    split at h
    · obtain rfl := Option.some.inj h
      exact hlimited
    · exact channelsFit_setup h hlimited
  case detectorSlices =>
    have hlimited : ChannelsFit ((d.setIntegerParam .detectorSlices value).limitChannels
        .detectorSlices .adSizeY value) := by
      refine ⟨?_, ?_, ?_, ?_⟩
      · rw [int_limited_other (by simp), int_limited_other (by simp)]
        exact hd.channels
      · rw [int_limited_other (q := .adSizeY) (by simp)]
        exact int_limited (by simp) value (hd.slices.1.trans hd.slices.2)
      · rw [definition_limited]
        exact hd.binningX
      · rw [definition_limited]
        exact hd.binningY
    simp only [write, writeInt32, map_fst_none, writeDetectorSlices] at h
    exact channelsFit_setup h hlimited
  all_goals cases hf

theorem int_stored {f q : IntParam} (hne : q ≠ f) (value : Int) :
    (d.stored f value).int q = d.int q :=
  (int_setIntegerParam f value).trans (if_neg hne)

/-- What a write of the region leaves of the channels: they fit if the region holds them. -/
theorem channelsFit_roi_iff {base : ADDriver} {f : IntParam} {value : Int} {reply : AdjustReply}
    (hf : f.isROI = true) (hd : ChannelsFit d)
    (h : d.write base (.int f value reply) = some d') :
    ChannelsFit d' ↔ (d.stored f value).extentX.Holds (d.int .detectorChannels) ∧
      (d.stored f value).extentY.Holds (d.int .detectorSlices) := by
  rw [write_roi base hf] at h
  obtain ⟨hX, hY, hother⟩ := (d.stored f value).setROI_extents
  have hne : ∀ q : IntParam, q.isROI = false → q ≠ f := by
    rintro q hq rfl
    rw [hf] at hq
    cases hq
  have hchannels : (d.withParams (d.stored f value).setROI).int .detectorChannels =
      d.int .detectorChannels :=
    (hother _ (by simp) (by simp)).trans (int_stored (hne _ rfl) value)
  have hslices : (d.withParams (d.stored f value).setROI).int .detectorSlices =
      d.int .detectorSlices :=
    (hother _ (by simp) (by simp)).trans (int_stored (hne _ rfl) value)
  rw [← Extent.le_size_limited_iff, ← Extent.le_size_limited_iff, ← hX, ← hY]
  constructor
  · intro hfit
    have hkeptX : d'.int .detectorChannels = d.int .detectorChannels :=
      (int_setup rfl (by simp) h).trans hchannels
    have hkeptY : d'.int .detectorSlices = d.int .detectorSlices :=
      (int_setup rfl (by simp) h).trans hslices
    have hsizeX : d'.int .adSizeX = (d.stored f value).setROI.extentX.size :=
      int_setup rfl (by simp) h
    have hsizeY : d'.int .adSizeY = (d.stored f value).setROI.extentY.size :=
      int_setup rfl (by simp) h
    rw [← hkeptX, ← hkeptY, ← hsizeX, ← hsizeY]
    exact ⟨hfit.channels.2, hfit.slices.2⟩
  · intro h
    obtain ⟨hroomX, hroomY⟩ := h
    refine channelsFit_setup h ⟨?_, ?_, hd.binningX, hd.binningY⟩
    · rw [hchannels]
      exact ⟨hd.channels.1, hroomX⟩
    · rw [hslices]
      exact ⟨hd.slices.1, hroomY⟩

theorem leavesRoom_step {base : ADDriver} {w : Write} (hd : ChannelsFit d) (hw : d.leavesRoom w)
    (h : d.write base w = some d') : ChannelsFit d' := by
  cases w with
  | float f value reply => exact absurd hw id
  | int f value reply =>
    rcases hw with hf | ⟨hf, ⟨-, hroomX⟩, -, hroomY⟩
    · exact channelsFit_channels hf hd h
    · exact (channelsFit_roi_iff hf hd h).mpr ⟨hroomX, hroomY⟩

/-- A connection takes the size of the region for the numbers of channels. -/
theorem connect_channels {info : ServerInfo} {reply : AdjustReply} (hX : 1 ≤ info.roiWidth)
    (hY : 1 ≤ info.roiHeight) (h : d.connectAnalyser info reply = some d') : ChannelsFit d' := by
  obtain ⟨d₀, hconnect, hsizeX, hsizeY, hchannels, hslices, hfixedX, hfixedY⟩ :
      ∃ d₀ : Driver, d.connectAnalyser info reply = d₀.setupSpectrumDefinition reply ∧
        d₀.int .adSizeX = info.roiWidth ∧ d₀.int .adSizeY = info.roiHeight ∧
        d₀.int .detectorChannels = info.roiWidth ∧ d₀.int .detectorSlices = info.roiHeight ∧
        d₀.spectrumDefinition.fixedX = some {} ∧ d₀.spectrumDefinition.fixedY = none := by
    refine ⟨_, rfl, ?_⟩
    simp only [setSlit, setIntegerParam, withParams, spectrumDefinition_selectListed,
      Params.int_setIntegerParam, reduceCtorEq, if_false, if_true, and_self]
  rw [hconnect] at h
  refine channelsFit_setup h ⟨?_, ?_, ?_, ?_⟩
  · rw [hchannels, hsizeX]
    exact ⟨hX, le_refl _⟩
  · rw [hslices, hsizeY]
    exact ⟨hY, le_refl _⟩
  · intro axis haxis b hb
    rw [hfixedX] at haxis
    obtain rfl := Option.some.inj haxis
    cases hb
  · intro axis haxis
    rw [hfixedY] at haxis
    cases haxis

/-- As long as every write of the region leaves room for the channels and slices, these stay
between one and the size, and every binning is at least one; a write of the region that leaves no
room for them breaks this. -/
theorem channels_stay_within_size {base : ADDriver} {fresh d₀ d₁ : Driver} {info : ServerInfo}
    {reply : AdjustReply} (hconnect : fresh.connectAnalyser info reply = some d₀)
    (hX : 1 ≤ info.roiWidth) (hY : 1 ≤ info.roiHeight)
    (hrun : Run (write base) leavesRoom d₀ d₁) :
    ChannelsFit d₁ ∧ ∀ f value answer d₂, f.isROI = true →
      d₁.write base (.int f value answer) = some d₂ →
      (ChannelsFit d₂ ↔ (d₁.stored f value).extentX.Holds (d₁.int .detectorChannels) ∧
        (d₁.stored f value).extentY.Holds (d₁.int .detectorSlices)) := by
  have hfit : ChannelsFit d₁ :=
    hrun.invariant (fun _ _ _ hd hw hwrite => leavesRoom_step hd hw hwrite)
      (connect_channels hX hY hconnect)
  exact ⟨hfit, fun f value answer d₂ hf hwrite => channelsFit_roi_iff hf hfit hwrite⟩

theorem channels_stay_within_size_narrowed :
    ∃ d₀ d₁, unconnected.connectAnalyser smallAnalyser .raised = some d₀ ∧
      Run (write (.store 8)) leavesRoom d₀ d₁ ∧ d₁.int .detectorChannels = 400 ∧
      d₁.int .adSizeX = 500 ∧ ChannelsFit d₁ := by
  have hreach : (unconnected.connectAnalyser smallAnalyser .raised).any fun d₀ =>
      reaches (write (.store 8)) leavesRoom d₀
        [.int .detectorChannels 400 .raised, .int .adMinX 500 .raised] fun d₁ =>
        decide (d₁.int .detectorChannels = 400) && decide (d₁.int .adSizeX = 500) := by
    decide +kernel
  obtain ⟨d₀, hconnect, hwrites⟩ := (Option.any_eq_true _ _).mp hreach
  obtain ⟨d₁, hrun, hend⟩ := run_of_reaches hwrites
  obtain ⟨hchannels, hsize⟩ := Bool.and_eq_true_iff.mp hend
  exact ⟨d₀, d₁, hconnect, hrun, of_decide_eq_true hchannels, of_decide_eq_true hsize,
    (channels_stay_within_size hconnect (by decide) (by decide) hrun).1⟩

/-- A write of the channels, the slices or the region that keeps the region on the detector. -/
def keepsROI (d : Driver) : Write → Prop
  | .int function value reply => IntParam.isChannels function = true ∨
      d.placesROI (.int function value reply)
  | .float _ _ _ => False

instance (d : Driver) : DecidablePred d.keepsROI
  | .int _ _ _ => inferInstanceAs (Decidable (_ ∨ _))
  | .float _ _ _ => .isFalse id

/-- The region is narrowed and the channels are left: two of them share a pixel. -/
theorem channels_beyond_size :
    ∃ d₀, unconnected.connectAnalyser smallAnalyser .raised = some d₀ ∧ InsideDetector d₀ ∧
      ¬ ∀ d₁, Run (write (.store 8)) keepsROI d₀ d₁ → ChannelsFit d₁ := by
  have hreach : (unconnected.connectAnalyser smallAnalyser .raised).any fun d₀ =>
      decide (InsideDetector d₀) &&
      reaches (write (.store 8)) keepsROI d₀ [.int .adSizeX 500 .raised] fun d₁ =>
        decide (d₁.int .adSizeX < d₁.int .detectorChannels) := by
    decide +kernel
  obtain ⟨d₀, hconnect, hall⟩ := (Option.any_eq_true _ _).mp hreach
  obtain ⟨hinside, hwrite⟩ := Bool.and_eq_true_iff.mp hall
  obtain ⟨d₁, hrun, hless⟩ := run_of_reaches hwrite
  refine ⟨d₀, hconnect, of_decide_eq_true hinside, fun hclaim => ?_⟩
  have hfit := (hclaim d₁ hrun).channels.2
  have hmore := of_decide_eq_true hless
  omega

end Driver

end PeakAnalyser

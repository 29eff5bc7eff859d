import Mathlib.Tactic.NormNum
import PeakAnalyser.Library.Grids
import PeakAnalyser.ThetaY

/-!
# The grids of the sweep axes

An axis that is swept goes from its low end upwards, by as many steps as the rounded
distance of its ends asks for. The distance is taken as an absolute value, after
the epsilon has been subtracted: this matters for ends closer than the epsilon and
for ends in reverse order. The limits of ThetaY hold for the ends and not for the
rounded number of steps.
-/

namespace PeakAnalyser

set_option autoImplicit false

open Grids Runs

namespace AxisRequest

variable {r : AxisRequest} {epsilon : ℚ}

/-- `Offset`, `Delta` and `Count` of a sweep axis. -/
def sweepAxis (epsilon : ℚ) (r : AxisRequest) : SweepAxis :=
  ⟨r.low, r.step, sweepCount epsilon r.low r.high r.step⟩

/-- The law of the documentation for a sweep from low to high, and what is left of it for ends
in reverse order: every place between them is within one step of the grid. -/
structure FollowsLaw (epsilon : ℚ) (r : AxisRequest) (axis : SweepAxis) (n : ℤ) : Prop where
  offset : axis.offset = r.low
  delta : axis.delta = r.step
  count : axis.count = .finite n
  least : r.low ≤ r.high →
    IsLeast {m : ℤ | 1 ≤ m ∧ r.high - epsilon ≤ point axis.offset axis.delta (m - 1)} n
  rounded : r.low < r.high → n = ⌈(r.high - r.low - epsilon) / r.step⌉ + 1
  single : r.low = r.high → n = 1
  spans : r.high < r.low → ∀ x, r.high ≤ x → x ≤ r.low →
    ∃ i : ℤ, 0 ≤ i ∧ i < n ∧ |point axis.offset axis.delta i - x| ≤ axis.delta

/-- The number of steps that the source computes. -/
def steps (epsilon : ℚ) (r : AxisRequest) : ℤ := ⌈|r.high - r.low - epsilon| / r.step⌉

theorem sweepCount_eq (hstep : 0 < r.step) (epsilon : ℚ) :
    sweepCount epsilon r.low r.high r.step = .finite ((r.steps epsilon + 1 : ℤ) : ℚ) := by
  unfold sweepCount
  rw [Number.fdiv_of_ne hstep.ne', Int.cast_add, Int.cast_one]
  rfl

theorem steps_nonneg (hstep : 0 < r.step) (epsilon : ℚ) : 0 ≤ r.steps epsilon :=
  Int.ceil_nonneg (div_nonneg (abs_nonneg _) hstep.le)

/-- The count of the source is the least one if the ends are apart by the epsilon at least. -/
theorem follows_of_apart (hstep : 0 < r.step) (hepsilon : 0 < epsilon)
    (hapart : epsilon ≤ r.high - r.low) :
    FollowsLaw epsilon r (r.sweepAxis epsilon) (r.steps epsilon + 1) := by
  have hlt : r.low < r.high := by linarith
  have hsteps : r.steps epsilon = ⌈(r.high - r.low - epsilon) / r.step⌉ := by
    rw [steps, abs_of_nonneg (by linarith)]
  have hmax : max (r.steps epsilon) 0 = r.steps epsilon := max_eq_left (steps_nonneg hstep epsilon)
  refine ⟨rfl, rfl, sweepCount_eq hstep epsilon, ?_, ?_, ?_, ?_⟩
  · intro _
    have htarget : r.high - epsilon - r.low = r.high - r.low - epsilon := by ring
    have hleast : IsLeast {m : ℤ | 1 ≤ m ∧ r.high - epsilon ≤ point r.low r.step (m - 1)}
        (max ⌈(r.high - epsilon - r.low) / r.step⌉ 0 + 1) := isLeast_reaching hstep _
    rwa [htarget, ← hsteps, hmax] at hleast
  · intro _
    rw [hsteps]
  · intro heq
    exact absurd heq hlt.ne
  · intro hreverse
    exact absurd hreverse (not_lt.mpr hlt.le)

/-- With the ends closer than the epsilon there is one step, although the low end alone would
do. -/
theorem steps_of_close (hstep : 0 < r.step) (hle : epsilon ≤ r.step) (hordered : r.low ≤ r.high)
    (hclose : r.high - r.low < epsilon) : r.steps epsilon = 1 := by
  have habs : |r.high - r.low - epsilon| = epsilon - (r.high - r.low) := by
    rw [abs_of_neg (by linarith)]
    ring
  have hlow : 0 < |r.high - r.low - epsilon| / r.step := by
    rw [habs]
    exact div_pos (by linarith) hstep
  have hhigh : |r.high - r.low - epsilon| / r.step ≤ 1 := by
    rw [habs, div_le_one hstep]
    linarith
  have hpositive : 0 < r.steps epsilon := Int.ceil_pos.mpr hlow
  have hone : r.steps epsilon ≤ 1 := by
    unfold steps
    rw [Int.ceil_le, Int.cast_one]
    exact hhigh
  omega

theorem not_follows_of_close (hstep : 0 < r.step) (hle : epsilon ≤ r.step)
    (hordered : r.low ≤ r.high) (hclose : r.high - r.low < epsilon) (n : ℤ) :
    ¬ FollowsLaw epsilon r (r.sweepAxis epsilon) n := by
  intro h
  have hcount : (n : ℚ) = ((r.steps epsilon + 1 : ℤ) : ℚ) :=
    Number.finite.inj (h.count.symm.trans (sweepCount_eq hstep epsilon))
  have htwo : n = 2 := by
    rw [Int.cast_inj.mp hcount, steps_of_close hstep hle hordered hclose]
    rfl
  have hone : (1 : ℤ) ∈ {m : ℤ | 1 ≤ m ∧ r.high - epsilon ≤ point r.low r.step (m - 1)} := by
    refine ⟨le_refl 1, ?_⟩
    rw [sub_self, point_zero]
    linarith
  have hleast := (h.least hordered).2 hone
  omega

/-- The grid leaves from the low end upwards, so that it comes no closer to a high end below it
than its first place is. -/
theorem spans_iff_near (hstep : 0 < r.step) (hreverse : r.high < r.low) :
    (∀ x, r.high ≤ x → x ≤ r.low →
      ∃ i : ℤ, 0 ≤ i ∧ i < r.steps epsilon + 1 ∧ |point r.low r.step i - x| ≤ r.step) ↔
      r.low - r.high ≤ r.step := by
  constructor
  · intro h
    obtain ⟨i, hi, -, hnear⟩ := h r.high (le_refl _) hreverse.le
    have hpoint : r.low ≤ point r.low r.step i := offset_le_point hstep hi
    have habs := (abs_le.mp hnear).2
    linarith
  · intro hnear x hhigh hlow
    have hsteps := steps_nonneg hstep epsilon
    refine ⟨0, le_refl 0, by omega, ?_⟩
    rw [point_zero, abs_of_nonneg (by linarith)]
    linarith

/-- The ends of the request are apart by the epsilon, or in reverse order and apart by one step
at most. -/
def regular (epsilon : ℚ) (r : AxisRequest) : Prop :=
  (r.low ≤ r.high ∧ epsilon ≤ r.high - r.low) ∨ (r.high < r.low ∧ r.low - r.high ≤ r.step)

theorem follows_iff_regular (hstep : 0 < r.step) (hepsilon : 0 < epsilon) (hle : epsilon ≤ r.step) :
    (∃ n, FollowsLaw epsilon r (r.sweepAxis epsilon) n) ↔ r.regular epsilon := by
  constructor
  · intro h
    obtain ⟨n, h⟩ := h
    rcases le_or_gt r.low r.high with hordered | hreverse
    · rcases le_or_gt epsilon (r.high - r.low) with hapart | hclose
      · exact Or.inl ⟨hordered, hapart⟩
      · exact absurd h (not_follows_of_close hstep hle hordered hclose n)
    · have hcount : (n : ℚ) = ((r.steps epsilon + 1 : ℤ) : ℚ) :=
        Number.finite.inj (h.count.symm.trans (sweepCount_eq hstep epsilon))
      have hspans := h.spans hreverse
      rw [Int.cast_inj.mp hcount] at hspans
      exact Or.inr ⟨hreverse, (spans_iff_near hstep hreverse).mp hspans⟩
  · intro h
    rcases h with ⟨-, hapart⟩ | ⟨hreverse, hnear⟩
    · exact ⟨_, follows_of_apart hstep hepsilon hapart⟩
    · refine ⟨_, rfl, rfl, sweepCount_eq hstep epsilon, ?_, ?_, ?_, ?_⟩
      · intro hordered
        exact absurd hordered (not_le.mpr hreverse)
      · intro hlt
        exact absurd hlt (not_lt.mpr hreverse.le)
      · intro heq
        exact absurd heq hreverse.ne'
      · intro _
        exact (spans_iff_near hstep hreverse).mpr hnear

/-- Every place of the grid lies inside the range. -/
def Within (range : ℚ × ℚ) (axis : SweepAxis) : Prop :=
  ∃ n : ℤ, axis.count = .finite n ∧
    ∀ i, 0 ≤ i → i < n → range.1 ≤ point axis.offset axis.delta i ∧
      point axis.offset axis.delta i ≤ range.2

/-- With the low end inside the range, the grid stays inside if the steps that it needs fit into
the rest of the range. -/
theorem within_iff_fits (hstep : 0 < r.step) {range : ℚ × ℚ} (hlow : range.1 ≤ r.low) :
    Within range (r.sweepAxis epsilon) ↔
      ∃ k : ℤ, |r.high - r.low - epsilon| ≤ k * r.step ∧ k * r.step ≤ range.2 - r.low := by
  have hcount : (r.sweepAxis epsilon).count = .finite ((r.steps epsilon + 1 : ℤ) : ℚ) :=
    sweepCount_eq hstep epsilon
  have hsteps := steps_nonneg hstep epsilon
  have hlast : point r.low r.step (r.steps epsilon + 1 - 1) ≤ range.2 ↔
      r.steps epsilon * r.step ≤ range.2 - r.low := by
    rw [add_sub_cancel_right, point, le_sub_iff_add_le']
  rw [← ceil_div_mul_le_iff hstep, ← steps, ← hlast]
  constructor
  · intro h
    obtain ⟨n, hn, hall⟩ := h
    have heq : n = r.steps epsilon + 1 := Int.cast_inj.mp (Number.finite.inj (hn.symm.trans hcount))
    rw [heq] at hall
    exact ((within_iff hstep (by omega) range.1 range.2).mp hall).2
  · intro hhigh
    exact ⟨_, hcount, (within_iff hstep (by omega) range.1 range.2).mpr ⟨hlow, hhigh⟩⟩

end AxisRequest

theorem le_clamp {range : ℚ × ℚ} (h : range.1 ≤ range.2) (value : ℚ) :
    range.1 ≤ clamp value range := by
  unfold clamp
  split
  · exact le_refl _
  · split
    · exact h
    · rename_i hlow _
      exact not_lt.mp hlow

namespace Driver

open AxisRequest

variable {d d' : Driver} {reply : AdjustReply} {lens : LensModeSetting}

/-- The sweep axes that a rebuild places in the definition. -/
def RequestsSweeps (d d' : Driver) (lens : LensModeSetting) : Prop :=
  d'.spectrumDefinition.sweepX =
      (if sweepsEnergy (d.int .analyserAcquisitionMode) then
        some (d.energyRequest.sweepAxis doubleEpsilon) else none) ∧
    d'.spectrumDefinition.sweepZ =
      (if sweepsAngleY (d.int .analyserAcquisitionMode) then
        some ((d.angleYRequest lens).sweepAxis doubleEpsilon) else none)

theorem setup_requests (h : d.setupSpectrumDefinition reply = some d')
    (hnew : d.returnsEarly = false) (hlens : d.currentLens = some lens) :
    RequestsSweeps d d' lens := by
  obtain ⟨hrange, hrefused⟩ := Bool.or_eq_false_iff.mp hnew
  rcases setup_cases h with ⟨hout, -⟩ | ⟨other, _, _, _, _, hselected, -, -, hdefinition⟩
  · rw [hrange] at hout
    cases hout
  · have heq : other = lens := Option.some.inj (hselected.hlens.symm.trans hlens)
    rw [hselected.rebuilt, hrefused, heq] at hdefinition
    rw [RequestsSweeps, hdefinition]
    exact ⟨rfl, rfl⟩

/-- What a rebuild requests for a sweep is a grid of the source's own count, and such a grid
follows the documented law for exactly the regular requests. -/
theorem sweep_follows_law_iff {epsilon : ℚ} {r : AxisRequest} (hstep : 0 < r.step)
    (hepsilon : 0 < epsilon) (hle : epsilon ≤ r.step) :
    ((∃ n, FollowsLaw epsilon r (r.sweepAxis epsilon) n) ↔ r.regular epsilon) ∧
      ∀ d d' reply lens, d.setupSpectrumDefinition reply = some d' → d.returnsEarly = false →
        d.currentLens = some lens → RequestsSweeps d d' lens :=
  ⟨follows_iff_regular hstep hepsilon hle, fun _ _ _ _ h hnew hlens => setup_requests h hnew hlens⟩

theorem sweep_follows_law_by_tenths :
    (∃ n, FollowsLaw doubleEpsilon ⟨1, 1, 2, 1 / 10⟩
      (sweepAxis doubleEpsilon ⟨1, 1, 2, 1 / 10⟩) n) := by
  refine (sweep_follows_law_iff ?_ ?_ ?_).1.mpr (Or.inl ⟨?_, ?_⟩)
  all_goals norm_num [doubleEpsilon]

/-- A sweep over one energy requests two of them. -/
theorem single_energy_swept_twice :
    ¬ ∀ (epsilon : ℚ) (r : AxisRequest), 0 < r.step → 0 < epsilon → epsilon ≤ r.step →
      ∃ n, FollowsLaw epsilon r (r.sweepAxis epsilon) n := by
  intro hclaim
  obtain ⟨n, h⟩ := hclaim doubleEpsilon ⟨100, 100, 100, 1⟩ (by norm_num)
    (by norm_num [doubleEpsilon]) (by norm_num [doubleEpsilon])
  have hone : n = 1 := h.single rfl
  have hcount : sweepCount doubleEpsilon 100 100 1 = .finite 1 := by
    rw [hone] at h
    exact h.count
  exact absurd hcount (by decide +kernel)

/-- The angles of a ThetaY sweep stay inside the range of the lens mode if some number of whole
steps covers the held range and fits above its low end. -/
theorem angles_within_range_iff (h : d.setupSpectrumDefinition reply = some d')
    (hnew : d.returnsEarly = false) (hlens : d.currentLens = some lens)
    (hY : lens.hasYDeflection = true)
    (hrange : lens.yDeflectionRange.1 ≤ lens.yDeflectionRange.2)
    (hstep : 0 < d.requestedAxes .analyserAngleYStep)
    (hswept : sweepsAngleY (d.int .analyserAcquisitionMode) = true) :
    (∃ axis, d'.spectrumDefinition.sweepZ = some axis ∧ Within lens.yDeflectionRange axis) ↔
      ∃ k : ℤ,
        |clamp (d.requestedAxes .analyserHighAngleY) lens.yDeflectionRange -
            clamp (d.requestedAxes .analyserLowAngleY) lens.yDeflectionRange - doubleEpsilon| ≤
          k * d.requestedAxes .analyserAngleYStep ∧
        k * d.requestedAxes .analyserAngleYStep ≤ lens.yDeflectionRange.2 -
          clamp (d.requestedAxes .analyserLowAngleY) lens.yDeflectionRange := by
  have hZ := (setup_requests h hnew hlens).2
  rw [if_pos hswept] at hZ
  have hrequest : d.angleYRequest lens =
      { low := clamp (d.requestedAxes .analyserLowAngleY) lens.yDeflectionRange
        center := clamp (d.requestedAxes .analyserCenterAngleY) lens.yDeflectionRange
        high := clamp (d.requestedAxes .analyserHighAngleY) lens.yDeflectionRange
        step := d.requestedAxes .analyserAngleYStep } := by
    simp [angleYRequest, hY]
  have hlow : lens.yDeflectionRange.1 ≤ (d.angleYRequest lens).low := by
    rw [hrequest]
    exact le_clamp hrange _
  have hpositive : 0 < (d.angleYRequest lens).step := by
    rw [hrequest]
    exact hstep
  have hwithin : Within lens.yDeflectionRange ((d.angleYRequest lens).sweepAxis doubleEpsilon) ↔ _ :=
    within_iff_fits hpositive hlow
  rw [hrequest] at hwithin hZ
  rw [← hwithin, hZ]
  constructor
  · intro h
    obtain ⟨axis, haxis, hall⟩ := h
    rwa [Option.some.inj haxis]
  · intro hall
    exact ⟨_, rfl, hall⟩

/-- A ThetaY sweep over a range of angles by the given step. -/
def sweepWrites (low high step : ℚ) : List Write :=
  [.int .lensMode 0 .raised, .int .analyserAcquisitionMode 2 .raised,
    .float .analyserLowAngleY low .raised, .float .analyserHighAngleY high .raised,
    .float .analyserAngleYStep step .raised]

def angularLens : LensModeSetting where
  name := "Angular"
  hasXDeflection := false
  hasYDeflection := true
  yDeflectionRange := (-15, 15)
  passEnergyRange := (1, 200)

/-- What the tests below look up in the connected driver that has taken the writes. -/
def sweeps (low high step : ℚ) (sweep : SweepAxis) : Bool :=
  (unconnected.connectAnalyser angularAnalyser .raised).any fun d₀ =>
    reaches (write (.store 8)) always d₀ (sweepWrites low high step) fun d =>
      !d.returnsEarly && decide (d.currentLens = some angularLens) &&
      sweepsAngleY (d.int .analyserAcquisitionMode) &&
      decide (d.requestedAxes .analyserLowAngleY = low) &&
      decide (d.requestedAxes .analyserHighAngleY = high) &&
      decide (d.requestedAxes .analyserAngleYStep = step) &&
      (d.setupSpectrumDefinition .raised).any fun d' =>
        decide (d'.spectrumDefinition.sweepZ = some sweep)

theorem of_sweeps {low high step : ℚ} {sweep : SweepAxis} (h : sweeps low high step sweep = true) :
    ∃ d d' : Driver, d.setupSpectrumDefinition .raised = some d' ∧ d.returnsEarly = false ∧
      d.currentLens = some angularLens ∧
      sweepsAngleY (d.int .analyserAcquisitionMode) = true ∧
      d.requestedAxes .analyserLowAngleY = low ∧ d.requestedAxes .analyserHighAngleY = high ∧
      d.requestedAxes .analyserAngleYStep = step ∧ d'.spectrumDefinition.sweepZ = some sweep := by
  obtain ⟨d₀, -, hwrites⟩ := (Option.any_eq_true _ _).mp h
  obtain ⟨d, -, hd⟩ := run_of_reaches hwrites
  simp only [Bool.and_eq_true, Bool.not_eq_true', decide_eq_true_eq] at hd
  obtain ⟨⟨⟨⟨⟨⟨hnew, hlens⟩, hswept⟩, hlow⟩, hhigh⟩, hstep⟩, hany⟩ := hd
  obtain ⟨d', hsetup, hsweep⟩ := (Option.any_eq_true _ _).mp hany
  exact ⟨d, d', hsetup, hnew, hlens, hswept, hlow, hhigh, hstep, of_decide_eq_true hsweep⟩

theorem angles_within_range_by_ones :
    ∃ (d d' : Driver) (axis : SweepAxis), d.setupSpectrumDefinition .raised = some d' ∧
      d'.spectrumDefinition.sweepZ = some axis ∧ Within (-15, 15) axis := by
  obtain ⟨d, d', hsetup, hnew, hlens, hswept, hlow, hhigh, hstep, -⟩ :=
    of_sweeps (show sweeps (-5) 5 1 ⟨-5, 1, .finite 11⟩ = true by decide +kernel)
  have hfits := angles_within_range_iff hsetup hnew hlens rfl (by norm_num [angularLens])
    (by rw [hstep]; norm_num) hswept
  rw [hlow, hhigh, hstep] at hfits
  obtain ⟨axis, haxis, hwithin⟩ := hfits.mpr
    ⟨10, by norm_num [clamp, angularLens, doubleEpsilon, abs_le],
      by norm_num [clamp, angularLens]⟩
  exact ⟨d, d', axis, hsetup, haxis, hwithin⟩

/-- From -15 to 15 by steps of 4, the last of nine angles is 17. -/
theorem last_angle_beyond_range :
    ¬ ∀ (d d' : Driver) (reply : AdjustReply) (lens : LensModeSetting),
      d.setupSpectrumDefinition reply = some d' → d.returnsEarly = false →
      d.currentLens = some lens → lens.hasYDeflection = true →
      lens.yDeflectionRange.1 ≤ lens.yDeflectionRange.2 →
      0 < d.requestedAxes .analyserAngleYStep →
      sweepsAngleY (d.int .analyserAcquisitionMode) = true →
      ∃ axis, d'.spectrumDefinition.sweepZ = some axis ∧ Within lens.yDeflectionRange axis := by
  intro hclaim
  obtain ⟨d, d', hsetup, hnew, hlens, hswept, -, -, hstep, hsweep⟩ :=
    of_sweeps (show sweeps (-15) 15 4 ⟨-15, 4, .finite 9⟩ = true by decide +kernel)
  obtain ⟨axis, haxis, n, hcount, hall⟩ := hclaim d d' .raised angularLens hsetup hnew hlens rfl
    (by norm_num [angularLens]) (by rw [hstep]; norm_num) hswept
  have heq : (⟨-15, 4, .finite 9⟩ : SweepAxis) = axis := Option.some.inj (hsweep.symm.trans haxis)
  rw [← heq] at hcount hall
  have hn : n = 9 := by exact_mod_cast (Number.finite.inj hcount).symm
  have hlast := (hall 8 (by norm_num) (by omega)).2
  norm_num [point, angularLens] at hlast

end Driver

end PeakAnalyser

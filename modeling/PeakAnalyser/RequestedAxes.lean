import PeakAnalyser.EstimatedTime

/-!
# The requested axes

The writes of the ends, the step and the center of the energy and of ThetaY are kept in
`m_RequestedAxes`. While an axis is swept, a write of its center moves the requested range and
keeps its width; nothing else changes values that were not written.
-/

namespace PeakAnalyser

set_option autoImplicit false

open Runs

/-- The axes that can be swept. -/
inductive SweptAxis where
  | energy
  | angleY
  deriving DecidableEq

namespace SweptAxis

def low : SweptAxis → FloatParam
  | .energy => .analyserLowEnergy
  | .angleY => .analyserLowAngleY

def high : SweptAxis → FloatParam
  | .energy => .analyserHighEnergy
  | .angleY => .analyserHighAngleY

def step : SweptAxis → FloatParam
  | .energy => .analyserEnergyStep
  | .angleY => .analyserAngleYStep

def center : SweptAxis → FloatParam
  | .energy => .analyserCenterEnergy
  | .angleY => .analyserCenterAngleY

/-- The acquisition mode sweeps the axis. -/
def isSwept (acquisitionMode : Int) : SweptAxis → Bool
  | .energy => sweepsEnergy acquisitionMode
  | .angleY => sweepsAngleY acquisitionMode

/-- The parameters of the axis. -/
def owns (axis : SweptAxis) (f : FloatParam) : Prop :=
  f = axis.low ∨ f = axis.high ∨ f = axis.step ∨ f = axis.center

/-- The requested values after a write of a parameter of the axis. -/
def requested (axis : SweptAxis) (swept : Bool) (values : FloatParam → ℚ) (f : FloatParam)
    (value : ℚ) : FloatParam → ℚ :=
  let values' := Function.update values f value
  if f = axis.center ∧ swept then
    let width := |values axis.high - values axis.low|
    Function.update (Function.update values' axis.low (value - width / 2)) axis.high
      (value + width / 2)
  else values'

section Requested

variable {axis : SweptAxis} {swept : Bool} {values : FloatParam → ℚ} {f g : FloatParam} {value : ℚ}

theorem owns_disjoint {other : SweptAxis} (hother : other ≠ axis) (hf : axis.owns f) :
    ¬ other.owns f := by
  unfold owns at *
  cases axis <;> cases other <;> rcases hf with rfl | rfl | rfl | rfl <;>
    simp [low, high, step, center] at *

/-- A write of a parameter of the axis changes values of the axis only. -/
theorem requested_frame (hf : axis.owns f) (hg : ¬ axis.owns g) :
    axis.requested swept values f value g = values g := by
  have hne : g ≠ f := by
    rintro rfl
    exact hg hf
  have hlow : g ≠ axis.low := fun h => hg (Or.inl h)
  have hhigh : g ≠ axis.high := fun h => hg (Or.inr (Or.inl h))
  unfold requested
  dsimp only
  split
  · rw [Function.update_of_ne hhigh, Function.update_of_ne hlow, Function.update_of_ne hne]
  · rw [Function.update_of_ne hne]

theorem requested_of_ne_center (hf : f ≠ axis.center) :
    axis.requested swept values f value = Function.update values f value :=
  if_neg fun h => hf h.1

theorem requested_fixed :
    axis.requested false values f value = Function.update values f value :=
  if_neg fun h => Bool.false_ne_true h.2

/-- The range that a write of the center leaves. -/
theorem requested_center (axis : SweptAxis) (values : FloatParam → ℚ) (value : ℚ) :
    axis.requested true values axis.center value axis.low =
        value - |values axis.high - values axis.low| / 2 ∧
      axis.requested true values axis.center value axis.high =
        value + |values axis.high - values axis.low| / 2 ∧
      axis.requested true values axis.center value axis.center = value := by
  cases axis <;> simp [requested, low, high, center]

theorem requested_center_step :
    axis.requested true values axis.center value axis.step = values axis.step := by
  cases axis <;> simp [requested, low, high, step, center]

theorem owns_center (axis : SweptAxis) : axis.owns axis.center := Or.inr (Or.inr (Or.inr rfl))

/-- The width is kept, so that nothing is left of a write of the center after the next one. -/
theorem requested_center_center (value' : ℚ) :
    axis.requested true (axis.requested true values axis.center value) axis.center value' =
      axis.requested true values axis.center value' := by
  obtain ⟨hlow, hhigh, _⟩ := requested_center axis values value
  obtain ⟨hlow', hhigh', hcenter'⟩ := requested_center axis values value'
  obtain ⟨hlow₂, hhigh₂, hcenter₂⟩ :=
    requested_center axis (axis.requested true values axis.center value) value'
  have hwidth : |axis.requested true values axis.center value axis.high -
      axis.requested true values axis.center value axis.low| =
      |values axis.high - values axis.low| := by
    rw [hlow, hhigh, add_sub_sub_cancel, add_halves, abs_abs]
  rw [hwidth] at hlow₂ hhigh₂
  funext g
  by_cases hg : axis.owns g
  · rcases hg with rfl | rfl | rfl | rfl
    · exact hlow₂.trans hlow'.symm
    · exact hhigh₂.trans hhigh'.symm
    · rw [requested_center_step, requested_center_step, requested_center_step]
    · exact hcenter₂.trans hcenter'.symm
  · rw [requested_frame axis.owns_center hg, requested_frame axis.owns_center hg,
      requested_frame axis.owns_center hg]

end Requested

end SweptAxis

/-! ### The writes -/

namespace Driver

variable {d d' : Driver} {base : ADDriver} {reply : AdjustReply}

theorem requestedAxes_setup (h : d.setupSpectrumDefinition reply = some d') :
    d'.requestedAxes = d.requestedAxes := by
  rcases setup_cases h with ⟨_, rfl⟩ | ⟨_, _, _, _, _, _, halike, _⟩
  · rfl
  · exact halike.requestedAxes

theorem requestedAxes_writeRange {f : FloatParam} {value oldValue : ℚ} {swept : Bool}
    (h : d.writeRange f value oldValue swept reply = some d') :
    d'.requestedAxes = Function.update d.requestedAxes f value := by
  unfold writeRange at h
  dsimp only at h
  split at h
  · exact requestedAxes_setup h
  · obtain rfl := Option.some.inj h
    rfl

theorem requestedAxes_writeCenter {axis : SweptAxis} {value : ℚ} {swept : Bool}
    (h : d.writeCenter axis.center axis.low axis.high value swept reply = some d') :
    d'.requestedAxes = axis.requested swept d.requestedAxes axis.center value := by
  unfold writeCenter at h
  dsimp only at h
  rw [requestedAxes_setup h]
  cases swept with
  | false => exact SweptAxis.requested_fixed.symm
  | true => cases axis <;> simp [request, SweptAxis.requested, SweptAxis.low, SweptAxis.high,
      SweptAxis.center]

/-- The eight branches of the source, told apart by the axis. -/
theorem write_owned {axis : SweptAxis} {f : FloatParam} (hf : axis.owns f) (value : ℚ) :
    d.write base (.float f value reply) =
      if f = axis.center then
        (d.setDoubleParam f value).writeCenter axis.center axis.low axis.high value
          (axis.isSwept (d.int .analyserAcquisitionMode)) reply
      else
        (d.setDoubleParam f value).writeRange f value (d.float f)
          (axis.isSwept (d.int .analyserAcquisitionMode)) reply := by
  cases axis <;> rcases hf with rfl | rfl | rfl | rfl <;> rfl

/-- What a write of a parameter of an axis makes of the requested values. -/
theorem requestedAxes_write {axis : SweptAxis} {f : FloatParam} {value : ℚ} (hf : axis.owns f)
    (h : d.write base (.float f value reply) = some d') :
    d'.requestedAxes = axis.requested (axis.isSwept (d.int .analyserAcquisitionMode))
      d.requestedAxes f value := by
  rw [write_owned hf] at h
  split at h
  · rename_i hcenter
    subst hcenter
    have hrequested := requestedAxes_writeCenter h
    exact hrequested
  · rename_i hrange
    have hrequested := requestedAxes_writeRange h
    rw [SweptAxis.requested_of_ne_center hrange]
    exact hrequested

theorem mode_write {axis : SweptAxis} {f : FloatParam} {value : ℚ} (hf : axis.owns f)
    (h : d.write base (.float f value reply) = some d') :
    d'.int .analyserAcquisitionMode = d.int .analyserAcquisitionMode := by
  have hsetup : ∀ p : Driver, p.setupSpectrumDefinition reply = some d' →
      d'.int .analyserAcquisitionMode = p.int .analyserAcquisitionMode :=
    fun p hp => int_setup rfl (by decide) hp
  rw [write_owned hf] at h
  split at h
  · refine (hsetup _ h).trans ?_
    dsimp only
    split <;> rfl
  · unfold writeRange at h
    dsimp only at h
    split at h
    · have hmode := hsetup _ h
      exact hmode
    · obtain rfl := Option.some.inj h
      rfl

theorem requestedAxes_writeMode {value : Int}
    (h : d.write base (.int .analyserAcquisitionMode value reply) = some d') :
    d'.requestedAxes = d.requestedAxes := by
  obtain ⟨⟨d₁, action⟩, hwrite, rfl⟩ := Option.map_eq_some_iff.mp h
  obtain ⟨d₂, hmode, heq⟩ := Option.map_eq_some_iff.mp hwrite
  obtain ⟨rfl, -⟩ := Prod.mk.inj heq
  unfold writeAcquisitionMode at hmode
  split at hmode
  · obtain ⟨lens, _, hmode⟩ := Option.bind_eq_some_iff.mp hmode
    split at hmode
    · have hrequested := requestedAxes_setup hmode
      exact hrequested
    · obtain rfl := Option.some.inj hmode
      rfl
  · have hrequested := requestedAxes_setup hmode
    exact hrequested

/-- A write of a parameter of the axis, or of the acquisition mode. -/
def writesAxis (axis : SweptAxis) : Write → Prop
  | .float f _ _ => axis.owns f
  | .int f _ _ => f = .analyserAcquisitionMode

/-- A write of the center of an axis. -/
def centerWrite (axis : SweptAxis) (write : ℚ × AdjustReply) : Write :=
  .float axis.center write.1 write.2

/-- Writes of the center of a swept axis leave what the last of them alone leaves. -/
theorem requestedAxes_centers {axis : SweptAxis}
    (hswept : axis.isSwept (d.int .analyserAcquisitionMode) = true) (writes : List (ℚ × AdjustReply))
    (last : ℚ × AdjustReply)
    (h : exec (write base) always d ((writes ++ [last]).map (centerWrite axis)) = some d') :
    d'.requestedAxes = axis.requested true d.requestedAxes axis.center last.1 := by
  induction writes generalizing d with
  | nil =>
    obtain ⟨d₁, hfirst, hrest⟩ := Option.bind_eq_some_iff.mp h
    obtain rfl := Option.some.inj hrest
    rw [requestedAxes_write axis.owns_center hfirst, hswept]
  | cons first writes ih =>
    obtain ⟨d₁, hfirst, hrest⟩ := Option.bind_eq_some_iff.mp h
    have hmode := mode_write axis.owns_center hfirst
    rw [ih (by rwa [hmode]) hrest, requestedAxes_write axis.owns_center hfirst, hswept,
      SweptAxis.requested_center_center]

/-- What the writes do to the requested values, whatever has been written before. -/
structure RequestsKept (base : ADDriver) (d : Driver) : Prop where
  /-- Writes of one axis, in changing modes, leave all requested values of the other one alone. -/
  frame : ∀ (axis other : SweptAxis) (d' : Driver), other ≠ axis →
    Run (write base) (fun _ w => writesAxis axis w) d d' →
      ∀ f, other.owns f → d'.requestedAxes f = d.requestedAxes f
  /-- A write of the center moves the range of a swept axis and keeps its width. -/
  swept : ∀ (axis : SweptAxis) (c : ℚ) (reply : AdjustReply) (d' : Driver),
    axis.isSwept (d.int .analyserAcquisitionMode) = true →
    d.write base (.float axis.center c reply) = some d' →
      let w := |d.requestedAxes axis.high - d.requestedAxes axis.low|
      d'.requestedAxes axis.low = c - w / 2 ∧ d'.requestedAxes axis.high = c + w / 2 ∧
        d'.requestedAxes axis.center = c
  /-- A write of the center leaves the range of a fixed axis alone. -/
  fixed : ∀ (axis : SweptAxis) (c : ℚ) (reply : AdjustReply) (d' : Driver),
    axis.isSwept (d.int .analyserAcquisitionMode) = false →
    d.write base (.float axis.center c reply) = some d' →
      d'.requestedAxes axis.low = d.requestedAxes axis.low ∧
        d'.requestedAxes axis.high = d.requestedAxes axis.high
  /-- Of consecutive writes of the center of a swept axis only the last one counts. -/
  last : ∀ (axis : SweptAxis) (writes : List (ℚ × AdjustReply)) (last : ℚ × AdjustReply)
    (d₁ d₂ : Driver), axis.isSwept (d.int .analyserAcquisitionMode) = true →
    exec (write base) always d ((writes ++ [last]).map (centerWrite axis)) = some d₁ →
    d.write base (centerWrite axis last) = some d₂ → d₁.requestedAxes = d₂.requestedAxes

theorem requestedAxes_run {axis other : SweptAxis} (hother : other ≠ axis)
    (hrun : Run (write base) (fun _ w => writesAxis axis w) d d') {f : FloatParam}
    (hf : other.owns f) : d'.requestedAxes f = d.requestedAxes f := by
  apply hrun.constant (P := fun _ => True) (fun d => d.requestedAxes f) ?_ trivial
  intro a w b _ hw h
  have hnot : ¬ axis.owns f := SweptAxis.owns_disjoint hother.symm hf
  refine ⟨trivial, ?_⟩
  cases w with
  | int g value reply =>
    obtain rfl : g = .analyserAcquisitionMode := hw
    rw [requestedAxes_writeMode h]
  | float g value reply =>
    have hg : axis.owns g := hw
    rw [requestedAxes_write hg h]
    exact SweptAxis.requested_frame hg hnot

theorem requestsKept (base : ADDriver) (d : Driver) : RequestsKept base d where
  frame _ _ _ hother hrun _ hf := requestedAxes_run hother hrun hf
  swept axis c reply d' hswept h := by
    rw [requestedAxes_write axis.owns_center h, hswept]
    exact SweptAxis.requested_center axis d.requestedAxes c
  fixed axis c reply d' hfixed h := by
    rw [requestedAxes_write axis.owns_center h, hfixed, SweptAxis.requested_fixed]
    cases axis
    · exact ⟨Function.update_of_ne (by decide) _ _, Function.update_of_ne (by decide) _ _⟩
    · exact ⟨Function.update_of_ne (by decide) _ _, Function.update_of_ne (by decide) _ _⟩
  last axis writes last d₁ d₂ hswept h₁ h₂ := by
    rw [requestedAxes_centers hswept writes last h₁, requestedAxes_write axis.owns_center h₂, hswept]

end Driver

end PeakAnalyser

import Mathlib.Algebra.Order.Floor.Ring
import Mathlib.Algebra.Order.Field.Basic
import Mathlib.Order.Bounds.Basic
import Mathlib.Tactic.Ring
import Mathlib.Tactic.Linarith

/-!
# Grids of equal steps

`point offset delta i` is the place number `i` of a grid. A grid is used through
its number of places, which is usually a length divided by the step and rounded
up.
-/

namespace Grids

set_option autoImplicit false

variable {K : Type*} [Field K]

/-- The place number `i` of the grid. -/
def point (offset delta : K) (i : ℤ) : K := offset + i * delta

@[simp] theorem point_zero (offset delta : K) : point offset delta 0 = offset := by
  simp [point]

variable [LinearOrder K] [IsStrictOrderedRing K] {offset delta : K}

theorem point_mono (hdelta : 0 < delta) {i j : ℤ} (h : i ≤ j) :
    point offset delta i ≤ point offset delta j := by
  have hcast : (i : K) ≤ j := Int.cast_le.mpr h
  have hmul : (i : K) * delta ≤ j * delta := mul_le_mul_of_nonneg_right hcast hdelta.le
  unfold point
  linarith

theorem offset_le_point (hdelta : 0 < delta) {i : ℤ} (h : 0 ≤ i) :
    offset ≤ point offset delta i := by
  have hle : point offset delta 0 ≤ point offset delta i := point_mono hdelta h
  rwa [point_zero] at hle

/-- A grid lies inside an interval once its first and its last place do. -/
theorem within_iff (hdelta : 0 < delta) {n : ℤ} (hn : 1 ≤ n) (low high : K) :
    (∀ i, 0 ≤ i → i < n → low ≤ point offset delta i ∧ point offset delta i ≤ high) ↔
      low ≤ offset ∧ point offset delta (n - 1) ≤ high := by
  constructor
  · intro h
    obtain ⟨hlow, -⟩ := h 0 (le_refl 0) (by omega)
    obtain ⟨-, hhigh⟩ := h (n - 1) (by omega) (by omega)
    rw [point_zero] at hlow
    exact ⟨hlow, hhigh⟩
  · intro h i hi hlt
    obtain ⟨hlow, hhigh⟩ := h
    have hlast : i ≤ n - 1 := by omega
    exact ⟨hlow.trans (offset_le_point hdelta hi), (point_mono hdelta hlast).trans hhigh⟩

section Rounding
variable [FloorRing K]

theorem ceil_div_le_iff (hdelta : 0 < delta) (length : K) (k : ℤ) :
    ⌈length / delta⌉ ≤ k ↔ length ≤ k * delta := by
  rw [Int.ceil_le, div_le_iff₀ hdelta]

theorem le_ceil_div_mul (hdelta : 0 < delta) (length : K) :
    length ≤ ⌈length / delta⌉ * delta :=
  (ceil_div_le_iff hdelta length _).mp (le_refl _)

/-- The rounded length fits into a room exactly if some number of whole steps lies between. -/
theorem ceil_div_mul_le_iff (hdelta : 0 < delta) (length room : K) :
    ⌈length / delta⌉ * delta ≤ room ↔ ∃ k : ℤ, length ≤ k * delta ∧ k * delta ≤ room := by
  constructor
  · intro h
    exact ⟨_, le_ceil_div_mul hdelta length, h⟩
  · intro h
    obtain ⟨k, hlength, hroom⟩ := h
    have hle : (⌈length / delta⌉ : K) ≤ k :=
      Int.cast_le.mpr ((ceil_div_le_iff hdelta length k).mpr hlength)
    exact (mul_le_mul_of_nonneg_right hle hdelta.le).trans hroom

/-- The least number of places, at least one, of which the last one reaches a target. -/
theorem isLeast_reaching (hdelta : 0 < delta) (target : K) :
    IsLeast {n : ℤ | 1 ≤ n ∧ target ≤ point offset delta (n - 1)}
      (max ⌈(target - offset) / delta⌉ 0 + 1) := by
  have hreach : ∀ n : ℤ, target ≤ point offset delta (n - 1) ↔
      ⌈(target - offset) / delta⌉ ≤ n - 1 := by
    intro n
    rw [ceil_div_le_iff hdelta, point, sub_le_iff_le_add']
  constructor
  · refine ⟨by omega, (hreach _).mpr ?_⟩
    omega
  · intro n ⟨hone, htarget⟩
    have hle := (hreach n).mp htarget
    omega

end Rounding

end Grids

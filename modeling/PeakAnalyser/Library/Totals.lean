import Mathlib.Algebra.BigOperators.Group.Finset.Piecewise
import Mathlib.Algebra.Order.BigOperators.Group.Finset
import Mathlib.Data.Finset.Basic

/-!
# Totals of a family of amounts

`Within f used total` says that what the family `f` has, over any finite set of indices,
and what has been used are together no more than `total`. An amount that is added to the
family is added to the total; one that is taken out of it is used.
-/

namespace Totals

set_option autoImplicit false

universe u

variable {Index : Type u} {f g : Index → Nat} {used total : Nat}

def Within (f : Index → Nat) (used total : Nat) : Prop :=
  ∀ S : Finset Index, ∑ i ∈ S, f i + used ≤ total

theorem within_zero : Within (fun _ : Index => 0) 0 0 := by
  intro S
  simp

namespace Within

theorem used_le (h : Within f used total) : used ≤ total := by
  simpa using h ∅

theorem mono (h : Within f used total) (hle : ∀ i, g i ≤ f i) : Within g used total := by
  intro S
  have hsum : ∑ i ∈ S, g i ≤ ∑ i ∈ S, f i := Finset.sum_le_sum fun i _ => hle i
  exact (Nat.add_le_add_right hsum used).trans (h S)

variable [DecidableEq Index]

/-- More is put in at one index. -/
theorem put (h : Within f used total) (i : Index) (n : Nat) :
    Within (Function.update f i (f i + n)) used (total + n) := by
  intro S
  have hold := h S
  by_cases hmem : i ∈ S
  · rw [Finset.sum_update_of_mem hmem]
    have hsplit : f i + ∑ j ∈ S \ {i}, f j = ∑ j ∈ S, f j := by
      rw [← Finset.sum_update_of_mem hmem f (f i), Function.update_eq_self]
    omega
  · rw [Finset.sum_update_of_notMem hmem]
    omega

/-- Some is taken out at one index. -/
theorem take (h : Within f used total) {i : Index} {n : Nat} (hn : n ≤ f i) :
    Within (Function.update f i (f i - n)) (used + n) total := by
  intro S
  have hold := h (insert i S)
  have hsplit : ∑ j ∈ insert i S, f j = f i + ∑ j ∈ insert i S \ {i}, f j := by
    rw [← Finset.sum_update_of_mem (Finset.mem_insert_self i S) f (f i), Function.update_eq_self]
  have hrest : ∑ j ∈ S \ {i}, f j ≤ ∑ j ∈ insert i S \ {i}, f j :=
    Finset.sum_le_sum_of_subset (Finset.sdiff_subset_sdiff (Finset.subset_insert i S) le_rfl)
  by_cases hmem : i ∈ S
  · rw [Finset.sum_update_of_mem hmem]
    omega
  · rw [Finset.sum_update_of_notMem hmem]
    have hwithout : S \ {i} = S := by
      rw [Finset.sdiff_singleton_eq_erase, Finset.erase_eq_of_notMem hmem]
    rw [hwithout] at hrest
    omega

end Within

end Totals

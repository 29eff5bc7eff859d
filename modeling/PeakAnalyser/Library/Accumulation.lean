import Mathlib.Algebra.BigOperators.Group.Finset.Basic

/-!
# Sums that are built up in place

Two nested loops add rows of numbers to the entries of an array, one number after the other. A
number that cannot be read ends them.
-/

namespace Accumulation

set_option autoImplicit false

universe u v

variable {M : Type u} [AddCommMonoid M]

/-- `array[i] += read(i)` -/
def addAt (read : Nat → Option M) (array : List M) (i : Nat) : Option (List M) :=
  match read i, array[i]? with
  | some x, some y => some (array.set i (y + x))
  | _, _ => none

/-- `for (i = 0; i < width; i++) array[i] += read(i)` -/
def addRow (width : Nat) (read : Nat → Option M) (array : List M) : Option (List M) :=
  (List.range width).foldlM (addAt read) array

/-- `for (j = 0; j < height; j++)`, and in it the loop over row `j`. -/
def addRows (width height : Nat) (read : Nat → Nat → Option M) (array : List M) :
    Option (List M) :=
  (List.range height).foldlM (fun array j => addRow width (read j) array) array

variable {width height : Nat}

theorem foldlM_range_succ {β : Type v} (f : β → Nat → Option β) (init : β) (n : Nat) :
    (List.range (n + 1)).foldlM f init =
      ((List.range n).foldlM f init).bind fun b => f b n := by
  rw [List.range_succ, List.foldlM_append]
  cases (List.range n).foldlM f init with
  | none => rfl
  | some b =>
    change List.foldlM f b [n] = f b n
    rw [List.foldlM_cons]
    cases f b n <;> rfl

theorem foldlM_eq_none {α : Type u} {β : Type v} {f : β → α → Option β} {l : List α} {x : α} (hx : x ∈ l)
    (hf : ∀ b, f b x = none) (init : β) : l.foldlM f init = none := by
  induction l generalizing init with
  | nil => cases hx
  | cons y l ih =>
    rw [List.foldlM_cons]
    rcases List.mem_cons.mp hx with rfl | hx
    · rw [hf]
      rfl
    · cases hy : f init y with
      | none => rfl
      | some b => exact ih hx b

section Row

variable {read : Nat → Option M} {a : Nat → M}

/-- After `n` steps the first `n` numbers have been added. -/
theorem foldlM_addAt (hread : ∀ i < width, read i = some (a i)) (f : Nat → M) {n : Nat}
    (hn : n ≤ width) : (List.range n).foldlM (addAt read) ((List.range width).map f) =
      some ((List.range width).map fun i => if i < n then f i + a i else f i) := by
  induction n with
  | zero => simp
  | succ n ih =>
    rw [foldlM_range_succ, ih (by omega), Option.bind_some]
    have hentry : ((List.range width).map fun i => if i < n then f i + a i else f i)[n]? =
        some (f n) := by
      rw [List.getElem?_map, List.getElem?_range (by omega)]
      simp
    unfold addAt
    rw [hread n (by omega), hentry]
    apply congrArg some
    apply List.ext_getElem?
    intro i
    rw [List.getElem?_set, List.getElem?_map, List.getElem?_map, List.length_map,
      List.length_range]
    by_cases hi : n = i
    · subst hi
      rw [if_pos rfl, if_pos (by omega), List.getElem?_range (by omega), Option.map_some,
        if_pos (Nat.lt_succ_self n)]
    · have hlt : i < n + 1 ↔ i < n := by omega
      rw [if_neg hi]
      by_cases hwidth : i < width
      · rw [List.getElem?_range hwidth, Option.map_some, Option.map_some]
        simp only [hlt]
      · rw [List.getElem?_eq_none (by rw [List.length_range]; omega)]
        rfl

theorem addRow_eq (hread : ∀ i < width, read i = some (a i)) (f : Nat → M) :
    addRow width read ((List.range width).map f) =
      some ((List.range width).map fun i => f i + a i) := by
  unfold addRow
  rw [foldlM_addAt hread f le_rfl]
  apply congrArg some
  apply List.map_congr_left
  intro i hi
  exact if_pos (List.mem_range.mp hi)

theorem addRow_eq_none {i : Nat} (hi : i < width) (hread : read i = none) (array : List M) :
    addRow width read array = none := by
  apply foldlM_eq_none (List.mem_range.mpr hi)
  intro array
  unfold addAt
  rw [hread]

end Row

section Rows

variable {read : Nat → Nat → Option M} {a : Nat → Nat → M}

/-- After `n` rows every entry has the sum of its column so far. -/
theorem foldlM_addRow (hread : ∀ j < height, ∀ i < width, read j i = some (a j i)) {n : Nat}
    (hn : n ≤ height) :
    (List.range n).foldlM (fun array j => addRow width (read j) array) (.replicate width 0) =
      some ((List.range width).map fun i => ∑ j ∈ Finset.range n, a j i) := by
  induction n with
  | zero => simp
  | succ n ih =>
    rw [foldlM_range_succ, ih (by omega), Option.bind_some, addRow_eq (hread n (by omega))]
    apply congrArg some
    apply List.map_congr_left
    intro i _
    exact (Finset.sum_range_succ (fun j => a j i) n).symm

theorem addRows_eq (hread : ∀ j < height, ∀ i < width, read j i = some (a j i)) :
    addRows width height read (.replicate width 0) =
      some ((List.range width).map fun i => ∑ j ∈ Finset.range height, a j i) :=
  foldlM_addRow hread le_rfl

theorem addRows_eq_none {i j : Nat} (hi : i < width) (hj : j < height) (hread : read j i = none)
    (array : List M) : addRows width height read array = none :=
  foldlM_eq_none (List.mem_range.mpr hj) (fun array => addRow_eq_none hi hread array) array

end Rows

end Accumulation

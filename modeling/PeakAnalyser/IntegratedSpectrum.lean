import Mathlib.Algebra.BigOperators.Intervals
import PeakAnalyser.Library.Accumulation
import PeakAnalyser.SpectrumData

/-!
# The integrated spectrum

`integrate` adds up the rows of the last frame of an image in two nested loops. Its result is
stated for spectra whose data are as many numbers as their dimensions say.
-/

namespace PeakAnalyser

set_option autoImplicit false

open Accumulation

namespace PeakSpectrum

variable (value : Bytes → ℚ) (s : PeakSpectrum)

/-- `integrate` with its loops (lines 84 to 96); `none` if it reads beyond the end of `data`. -/
def integrateLoops : Option (List ℚ) :=
  let width := s.dims.getD 0 0
  let height := s.dims.getD 1 0
  addRows width height (fun j i => (s.number? (s.imageOffset + (j * width + i))).map value)
    (.replicate width 0)

/-- `data[index]` as a number. -/
def element (index : Nat) : ℚ := value ((s.data.drop (4 * index)).take 4)

/-- The last frame, of which a spectrum of rank 2 has only one. -/
def lastFrame : Nat := if s.rank = 3 then s.dims.getD 2 0 - 1 else 0

/-- The index of the last frame in `data`. -/
def frameOffset : Nat := s.lastFrame * s.dims.getD 1 0 * s.dims.getD 0 0

/-- An image or a stack of images, with all its numbers; their count is a `size_t`. -/
structure Complete (s : PeakSpectrum) : Prop where
  rank : s.rank = 2 ∨ s.rank = 3
  dims : ∀ n ∈ s.dims, 1 ≤ n
  size : s.data.length = 4 * s.dims.prod
  count : s.dims.prod < 0x10000000000000000

variable {value s}

theorem number?_eq_some {index : Nat} (h : 4 * index + 4 ≤ s.data.length) :
    (s.number? index).map value = some (s.element value index) := by
  unfold number? element
  rw [if_pos h]
  rfl

theorem number?_eq_none {index : Nat} (h : ¬ 4 * index + 4 ≤ s.data.length) :
    s.number? index = none :=
  if_neg h

/-- The result if every number is there. -/
theorem integrateLoops_of_inBounds (h : ∀ j < s.dims.getD 1 0, ∀ i < s.dims.getD 0 0,
    4 * (s.imageOffset + (j * s.dims.getD 0 0 + i)) + 4 ≤ s.data.length) :
    s.integrateLoops value = some ((List.range (s.dims.getD 0 0)).map fun i =>
      ∑ j ∈ Finset.range (s.dims.getD 1 0),
        s.element value (s.imageOffset + (j * s.dims.getD 0 0 + i))) := by
  apply addRows_eq (a := fun j i => s.element value (s.imageOffset + (j * s.dims.getD 0 0 + i)))
  intro j hj i hi
  exact number?_eq_some (h j hj i hi)

theorem sum_range_eq (n : Nat) (f : Nat → ℚ) :
    ∑ j ∈ Finset.range n, f j = ((List.range n).map f).sum := rfl

theorem mapM_eq_map {α β : Type} {f : α → Option β} {g : α → β} {l : List α}
    (h : ∀ x ∈ l, f x = some (g x)) : l.mapM f = some (l.map g) := by
  induction l with
  | nil => rfl
  | cons x l ih =>
    rw [List.mapM_cons, h x List.mem_cons_self, ih fun y hy => h y (List.mem_cons_of_mem x hy)]
    rfl

/-- The loops give the sums of the columns, and come to an end as early as these. -/
theorem integrateLoops_eq_integrate : s.integrateLoops value = s.integrate value := by
  by_cases h : ∀ j < s.dims.getD 1 0, ∀ i < s.dims.getD 0 0,
      4 * (s.imageOffset + (j * s.dims.getD 0 0 + i)) + 4 ≤ s.data.length
  · rw [integrateLoops_of_inBounds h]
    unfold integrate
    refine (mapM_eq_map ?_).symm
    intro i hi
    have hcolumn : (List.range (s.dims.getD 1 0)).mapM (fun j =>
        s.number? (s.imageOffset + (j * s.dims.getD 0 0 + i))) =
        some ((List.range (s.dims.getD 1 0)).map fun j =>
          (s.data.drop (4 * (s.imageOffset + (j * s.dims.getD 0 0 + i)))).take 4) := by
      apply mapM_eq_map
      intro j hj
      exact if_pos (h j (List.mem_range.mp hj) i (List.mem_range.mp hi))
    rw [hcolumn]
    change some (List.sum _) = some _
    rw [List.map_map, sum_range_eq]
    rfl
  · push Not at h
    obtain ⟨j, hj, i, hi, hbeyond⟩ := h
    have hloops : s.integrateLoops value = none := by
      apply addRows_eq_none hi hj
      rw [number?_eq_none (by omega)]
      rfl
    have hnone : ¬ (s.integrate value).isSome := by
      intro hsome
      have hinside := integrate_isSome.mp hsome i hi j hj
      omega
    rw [hloops, Option.not_isSome_iff_eq_none.mp hnone]

namespace Complete

theorem dims_cases (h : s.Complete) :
    (∃ a b, s.dims = [a, b] ∧ 1 ≤ a ∧ 1 ≤ b) ∨
      ∃ a b c, s.dims = [a, b, c] ∧ 1 ≤ a ∧ 1 ≤ b ∧ 1 ≤ c := by
  have hdims := h.dims
  rcases h.rank with htwo | hthree
  · obtain ⟨a, b, hcase⟩ := List.length_eq_two.mp htwo
    rw [hcase] at hdims
    exact Or.inl ⟨a, b, hcase, by simpa using hdims⟩
  · obtain ⟨a, b, c, hcase⟩ := List.length_eq_three.mp hthree
    rw [hcase] at hdims
    exact Or.inr ⟨a, b, c, hcase, by simpa using hdims⟩

/-- The frames in front of the last one and the last frame are all of the data. -/
theorem frames (h : s.Complete) :
    s.frameOffset + s.dims.getD 0 0 * s.dims.getD 1 0 = s.dims.prod := by
  rcases h.dims_cases with ⟨a, b, hdims, ha, hb⟩ | ⟨a, b, c, hdims, ha, hb, hc⟩
  · simp [frameOffset, lastFrame, PeakSpectrum.rank, hdims]
  · obtain ⟨c, rfl⟩ := Nat.exists_eq_add_of_le' hc
    simp [frameOffset, lastFrame, PeakSpectrum.rank, hdims]
    ring

theorem imageOffset_eq (h : s.Complete) : s.imageOffset = s.frameOffset := by
  have hframes := h.frames
  have hcount := h.count
  have hproduct : s.dims.getD 0 0 * s.dims.getD 1 0 * s.lastFrame = s.frameOffset := by
    unfold frameOffset
    ring
  have hframe : (if s.rank = 3 then (s.dims.getD 2 0 + 0xffffffffffffffff) % 0x10000000000000000
      else 0) = s.lastFrame := by
    unfold lastFrame
    rcases h.dims_cases with ⟨a, b, hdims, ha, hb⟩ | ⟨a, b, c, hdims, ha, hb, hc⟩
    · simp [PeakSpectrum.rank, hdims]
    · have hle : c ≤ s.dims.prod := by
        have hpos := Nat.le_mul_of_pos_left c (Nat.mul_pos ha hb)
        rw [hdims]
        simpa [Nat.mul_assoc] using hpos
      simp [PeakSpectrum.rank, hdims]
      omega
  unfold imageOffset
  dsimp only
  rw [hframe, hproduct, Nat.mod_eq_of_lt (by omega)]

/-- Every number that the loops read is there. -/
theorem inBounds (h : s.Complete) {i j : Nat} (hi : i < s.dims.getD 0 0)
    (hj : j < s.dims.getD 1 0) :
    4 * (s.imageOffset + (j * s.dims.getD 0 0 + i)) + 4 ≤ s.data.length := by
  have hframes := h.frames
  have hrow : (j + 1) * s.dims.getD 0 0 ≤ s.dims.getD 1 0 * s.dims.getD 0 0 :=
    Nat.mul_le_mul_right _ hj
  rw [Nat.add_mul, Nat.one_mul, Nat.mul_comm (s.dims.getD 1 0)] at hrow
  rw [h.imageOffset_eq, h.size]
  omega

end Complete

/-- Rows of equal length, one after the other. -/
theorem sum_rows (width height : Nat) (f : Nat → ℚ) :
    ∑ k ∈ Finset.range (width * height), f k =
      ∑ j ∈ Finset.range height, ∑ i ∈ Finset.range width, f (j * width + i) := by
  induction height with
  | zero => simp
  | succ height ih =>
    rw [Nat.mul_succ, Finset.sum_range_add, ih, Finset.sum_range_succ, Nat.mul_comm width]

/-- The integrated spectrum of a complete spectrum: entry `i` is the sum of column `i` of the last
frame, all entries together are the sum of the last frame, and nothing in front of that frame has
an effect on them. -/
theorem integrateLoops_complete (value : Bytes → ℚ) (h : s.Complete) :
    ∃ spectrum, s.integrateLoops value = some spectrum ∧
      spectrum.length = s.dims.getD 0 0 ∧
      (∀ i < s.dims.getD 0 0, spectrum[i]? = some (∑ j ∈ Finset.range (s.dims.getD 1 0),
        s.element value ((s.lastFrame * s.dims.getD 1 0 + j) * s.dims.getD 0 0 + i))) ∧
      spectrum.sum = ∑ k ∈ Finset.range (s.dims.getD 0 0 * s.dims.getD 1 0),
        s.element value (s.frameOffset + k) ∧
      ∀ t : PeakSpectrum, t.Complete → t.dims = s.dims →
        t.data.drop (4 * s.frameOffset) = s.data.drop (4 * s.frameOffset) →
        t.integrateLoops value = some spectrum := by
  have hloops : ∀ t : PeakSpectrum, t.Complete → t.integrateLoops value =
      some ((List.range (t.dims.getD 0 0)).map fun i => ∑ j ∈ Finset.range (t.dims.getD 1 0),
        t.element value (t.frameOffset + (j * t.dims.getD 0 0 + i))) := by
    intro t ht
    rw [← ht.imageOffset_eq]
    exact integrateLoops_of_inBounds fun j hj i hi => ht.inBounds hi hj
  refine ⟨_, hloops s h, ?_, ?_, ?_, ?_⟩
  · rw [List.length_map, List.length_range]
  · intro i hi
    rw [List.getElem?_map, List.getElem?_range hi, Option.map_some]
    apply congrArg some
    apply Finset.sum_congr rfl
    intro j _
    apply congrArg
    unfold frameOffset
    ring
  · rw [sum_rows _ _ fun k => s.element value (s.frameOffset + k), Finset.sum_comm, sum_range_eq]
  · intro t ht hdims hdata
    have hoffset : t.frameOffset = s.frameOffset := by
      unfold frameOffset lastFrame rank
      rw [hdims]
    have helement : ∀ k, t.element value (s.frameOffset + k) =
        s.element value (s.frameOffset + k) := by
      intro k
      unfold element
      rw [Nat.mul_add, ← List.drop_drop, hdata, List.drop_drop]
    rw [hloops t ht, hdims, hoffset]
    simp only [helement]

/-- Two frames of two rows of two numbers, of which the second frame counts. -/
def twoFrames : PeakSpectrum where
  dims := [2, 2, 2]
  data := [9, 9, 9, 9, 3, 5, 7, 1].flatMap fun n => [n, 0, 0, 0]

theorem integrateLoops_two_frames :
    ∃ spectrum, twoFrames.integrateLoops (fun number => (number.getD 0 0).toNat) = some spectrum ∧
      spectrum.length = 2 ∧
      spectrum[1]? = some (∑ j ∈ Finset.range 2,
        twoFrames.element (fun number => (number.getD 0 0).toNat) ((1 * 2 + j) * 2 + 1)) ∧
      spectrum.sum = ∑ k ∈ Finset.range (2 * 2),
        twoFrames.element (fun number => (number.getD 0 0).toNat) (4 + k) := by
  have hcomplete : twoFrames.Complete := by
    constructor <;> decide
  obtain ⟨spectrum, hspectrum, hlength, hcolumns, hsum, _⟩ :=
    integrateLoops_complete (fun number => (number.getD 0 0).toNat) hcomplete
  exact ⟨spectrum, hspectrum, hlength, hcolumns 1 (by decide), hsum⟩

end PeakSpectrum

end PeakAnalyser

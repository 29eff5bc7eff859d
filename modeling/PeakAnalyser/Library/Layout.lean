import Mathlib.Algebra.BigOperators.Group.List.Basic
import Mathlib.Data.List.Forall2

/-!
# Arrays in one list

An array of any rank is stored one number after the other, its first index running fastest, and
each number takes a block of one length.
-/

namespace Layout

set_option autoImplicit false

universe u v

/-! ### Blocks of one length -/

section Blocks

variable {α : Type u} {β : Type v} {block : α → List β} {k : Nat}

theorem length_blocks (h : ∀ a, (block a).length = k) (l : List α) :
    (l.flatMap block).length = k * l.length := by
  induction l with
  | nil => rfl
  | cons a l ih =>
    rw [List.flatMap_cons, List.length_append, h, ih, List.length_cons, Nat.mul_succ, Nat.add_comm]

/-- Block number `i` starts `k * i` places behind the beginning. -/
theorem take_drop_blocks (h : ∀ a, (block a).length = k) {l : List α} {i : Nat} {a : α}
    (ha : l[i]? = some a) : ((l.flatMap block).drop (k * i)).take k = block a := by
  induction l generalizing i with
  | nil => cases ha
  | cons b l ih =>
    cases i with
    | zero =>
      obtain rfl := Option.some.inj ha
      rw [Nat.mul_zero, List.drop_zero, List.flatMap_cons, List.take_left' (h b)]
    | succ i =>
      have hskip : k * (i + 1) = (block b).length + k * i := by
        rw [h, Nat.mul_succ, Nat.add_comm]
      rw [hskip, List.flatMap_cons, List.drop_length_add_append]
      exact ih ha

/-- Place `j` of block number `i`. -/
theorem getElem?_blocks (h : ∀ a, (block a).length = k) {l : List α} {i j : Nat} {a : α}
    (ha : l[i]? = some a) (hj : j < k) : (l.flatMap block)[k * i + j]? = (block a)[j]? := by
  rw [← take_drop_blocks h ha, List.getElem?_take_of_lt hj, List.getElem?_drop]

end Blocks

/-! ### Arrays -/

/-- The indices of an array, in the order in which its numbers are stored. -/
def indices : List Nat → List (List Nat)
  | [] => [[]]
  | n :: dims => (indices dims).flatMap fun rest => (List.range n).map (· :: rest)

/-- The place of the number with this index. -/
def place : List Nat → List Nat → Nat
  | n :: dims, i :: rest => n * place dims rest + i
  | _, _ => 0

/-- The array has a number with this index. -/
def Within (dims index : List Nat) : Prop := List.Forall₂ (fun n i => i < n) dims index

theorem length_indices (dims : List Nat) : (indices dims).length = dims.prod := by
  induction dims with
  | nil => rfl
  | cons n dims ih =>
    have hrow : ∀ rest : List Nat, ((List.range n).map (· :: rest)).length = n := by
      intro rest
      rw [List.length_map, List.length_range]
    rw [indices, length_blocks hrow, ih, List.prod_cons]

theorem getElem?_indices {dims index : List Nat} (h : Within dims index) :
    (indices dims)[place dims index]? = some index := by
  induction h with
  | nil => rfl
  | @cons n i dims rest hi _ ih =>
    have hrow : ∀ rest : List Nat, ((List.range n).map (· :: rest)).length = n := by
      intro rest
      rw [List.length_map, List.length_range]
    rw [indices, place, getElem?_blocks hrow ih hi, List.getElem?_map, List.getElem?_range hi]
    rfl

section Stored

variable {β : Type v} {k : Nat} {word : List Nat → List β}

/-- The array as it is stored. -/
def stored (dims : List Nat) (word : List Nat → List β) : List β := (indices dims).flatMap word

theorem length_stored (h : ∀ index, (word index).length = k) (dims : List Nat) :
    (stored dims word).length = k * dims.prod := by
  rw [stored, length_blocks h, length_indices]

/-- A number is found at its place. -/
theorem word_stored (h : ∀ index, (word index).length = k) {dims index : List Nat}
    (hindex : Within dims index) :
    ((stored dims word).drop (k * place dims index)).take k = word index :=
  take_drop_blocks h (getElem?_indices hindex)

end Stored

end Layout

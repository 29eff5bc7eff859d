import Mathlib.Data.List.Count
import Mathlib.Data.List.Perm.Basic
import Mathlib.Data.List.TakeWhile

/-!
# Messages in transit

A list holds what is on its way, the oldest first. A message is sent by being
appended and taken from a position: the first one where order is kept, any one
where it is not.
-/

namespace InTransit

set_option autoImplicit false

universe u v

variable {α : Type u} {β : Type v} {l : List α} {i : Nat} {a b : α}

/-- What is taken and what is left are together what there was. -/
theorem perm_eraseIdx (h : l[i]? = some a) : l.Perm (a :: l.eraseIdx i) := by
  obtain ⟨hi, rfl⟩ := List.getElem?_eq_some_iff.mp h
  exact (List.getElem_cons_eraseIdx_perm hi).symm

theorem countP_eraseIdx_add (f : α → Bool) (h : l[i]? = some a) :
    (l.eraseIdx i).countP f + (f a).toNat = l.countP f := by
  rw [(perm_eraseIdx h).countP_eq, List.countP_cons]
  cases f a with
  | true => rfl
  | false => rfl

/-- Another message than the one taken is still there. -/
theorem mem_eraseIdx_of_ne (h : l[i]? = some b) (ha : a ∈ l) (hne : a ≠ b) :
    a ∈ l.eraseIdx i := by
  rcases List.mem_cons.mp ((perm_eraseIdx h).mem_iff.mp ha) with heq | hmem
  · exact absurd heq hne
  · exact hmem

/-- A message that the function passes over may be taken unnoticed. -/
theorem filterMap_eraseIdx {f : α → Option β} (h : l[i]? = some a) (hf : f a = none) :
    (l.eraseIdx i).filterMap f = l.filterMap f := by
  induction l generalizing i with
  | nil => cases h
  | cons b l ih =>
    cases i with
    | zero =>
      obtain rfl := Option.some.inj h
      rw [List.eraseIdx_cons_zero, List.filterMap_cons_none hf]
    | succ i =>
      rw [List.getElem?_cons_succ] at h
      rw [List.eraseIdx_cons_succ, List.filterMap_cons, List.filterMap_cons, ih h]

theorem eq_cons_of_getElem?_zero (h : l[0]? = some a) : ∃ rest, l = a :: rest := by
  cases l with
  | nil => cases h
  | cons b rest =>
    obtain rfl := Option.some.inj h
    exact ⟨rest, rfl⟩

/-- Behind the first message that does not satisfy `p` comes what was there, or what is sent. -/
theorem mem_dropWhile_append {p : α → Bool} (h : a ∈ (l ++ [b]).dropWhile p) :
    a ∈ l.dropWhile p ∨ a = b := by
  rw [List.dropWhile_append] at h
  split at h
  · exact .inr (List.mem_singleton.mp ((List.dropWhile_suffix p).subset h))
  · rcases List.mem_append.mp h with h | h
    · exact .inl h
    · exact .inr (List.mem_singleton.mp h)

end InTransit

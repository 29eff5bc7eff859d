import Mathlib.Data.List.Infix

/-!
# Searching a text for a pattern

`find` and `rfind` are the first and the last place of a pattern in a text. A pattern is unbordered
if none of its proper beginnings is also an end of it: then it cannot lie across the place where it
has been appended to a text, and the first place in `a ++ pattern ++ b` is the end of `a`, unless
the pattern is in `a` already.
-/

namespace Searching

set_option autoImplicit false

universe u

variable {α : Type u}

/-- No beginning is an end, but the empty one and the whole. -/
def Unbordered (pattern : List α) : Prop :=
  ∀ n < pattern.length, 0 < n → pattern.take n ≠ pattern.drop (pattern.length - n)

theorem unbordered_singleton (c : α) : Unbordered [c] := by
  intro n hn hpos
  simp only [List.length_singleton] at hn
  omega

theorem isInfix_of_place {text pattern : List α} {i : Nat} (h : pattern <+: text.drop i) :
    pattern <:+: text :=
  h.isInfix.trans (List.drop_suffix i text).isInfix

/-- A place of the pattern leaves room for it. -/
theorem add_length_le_of_place {text pattern : List α} {i : Nat} (hpattern : pattern ≠ [])
    (h : pattern <+: text.drop i) :
    i + pattern.length ≤ text.length := by
  have hle := h.length_le
  have hpos := List.length_pos_iff.mpr hpattern
  rw [List.length_drop] at hle
  omega

/-- An unbordered pattern does not begin within a text without it and end behind the text. -/
theorem not_place_of_unbordered {pattern : List α} (hpattern : Unbordered pattern) {a b : List α}
    (ha : ¬ pattern <:+: a) {j : Nat} (hj : j < a.length) :
    ¬ pattern <+: (a ++ (pattern ++ b)).drop j := by
  intro h
  rw [List.drop_append_of_le_length hj.le] at h
  have hrest : (a.drop j).length = a.length - j := List.length_drop
  rcases le_or_gt pattern.length (a.drop j).length with hle | hlt
  · apply ha
    exact isInfix_of_place (List.prefix_of_prefix_length_le h (List.prefix_append _ _) hle)
  · have hbegin : a.drop j <+: pattern :=
      List.prefix_of_prefix_length_le (List.prefix_append _ _) h hlt.le
    obtain ⟨border, hborder⟩ := hbegin
    have hlength : (a.drop j).length + border.length = pattern.length := by
      rw [← List.length_append, hborder]
    have hprefix : border <+: pattern := by
      rw [← hborder, List.prefix_append_right_inj, hborder] at h
      exact List.prefix_of_prefix_length_le h (List.prefix_append _ _) (by omega)
    apply hpattern border.length (by omega) (by omega)
    rw [← List.prefix_iff_eq_take.mp hprefix]
    have hdrop : pattern.length - border.length = (a.drop j).length := by omega
    rw [hdrop]
    conv_rhs => rw [← hborder]
    exact List.drop_left.symm

variable [BEq α]

def find (text pattern : List α) : Option Nat :=
  (List.range (text.length + 1)).find? fun i => pattern.isPrefixOf (text.drop i)

/-- The last place up to `i`. -/
def rfindTo (text pattern : List α) : Nat → Option Nat
  | 0 => if pattern.isPrefixOf text then some 0 else none
  | i + 1 => if pattern.isPrefixOf (text.drop (i + 1)) then some (i + 1) else rfindTo text pattern i

def rfind (text pattern : List α) : Option Nat := rfindTo text pattern text.length

variable [LawfulBEq α] {text pattern : List α} {i : Nat}

/-! ### The first place -/

theorem find_eq_some_iff : find text pattern = some i ↔
    i ≤ text.length ∧ pattern <+: text.drop i ∧ ∀ j < i, ¬ pattern <+: text.drop j := by
  unfold find
  rw [List.find?_range_eq_some]
  simp only [List.isPrefixOf_iff_prefix, List.mem_range, Bool.not_eq_true', Bool.eq_false_iff, ne_eq]
  constructor
  · rintro ⟨hplace, hle, hfirst⟩
    exact ⟨by omega, hplace, hfirst⟩
  · rintro ⟨hle, hplace, hfirst⟩
    exact ⟨hplace, by omega, hfirst⟩

theorem find_eq_none_iff : find text pattern = none ↔ ¬ pattern <:+: text := by
  unfold find
  rw [List.find?_eq_none]
  simp only [List.mem_range, List.isPrefixOf_iff_prefix]
  constructor
  · rintro h ⟨before, after, htext⟩
    apply h before.length
    · rw [← htext, List.length_append, List.length_append]
      omega
    · rw [← htext, List.append_assoc, List.drop_left]
      exact List.prefix_append _ _
  · intro h i _ hplace
    exact h (isInfix_of_place hplace)

theorem find_append (hpattern : Unbordered pattern) {a : List α} (ha : ¬ pattern <:+: a)
    (b : List α) : find (a ++ (pattern ++ b)) pattern = some a.length := by
  apply find_eq_some_iff.mpr
  refine ⟨?_, ?_, ?_⟩
  · rw [List.length_append]
    omega
  · rw [List.drop_left]
    exact List.prefix_append _ _
  · intro j hj
    exact not_place_of_unbordered hpattern ha hj

/-! ### The last place -/

theorem rfindTo_eq_some_iff {n : Nat} : rfindTo text pattern n = some i ↔
    i ≤ n ∧ pattern <+: text.drop i ∧ ∀ j, i < j → j ≤ n → ¬ pattern <+: text.drop j := by
  induction n with
  | zero =>
    unfold rfindTo
    split
    · rename_i hplace
      have hplace : pattern <+: text := List.isPrefixOf_iff_prefix.mp hplace
      constructor
      · intro h
        obtain rfl := Option.some.inj h
        exact ⟨le_rfl, hplace, fun j _ _ => by omega⟩
      · rintro ⟨hle, _, _⟩
        rw [Nat.le_zero.mp hle]
    · rename_i hnone
      apply iff_of_false
      · intro h
        cases h
      · rintro ⟨hle, hplace, _⟩
        rw [Nat.le_zero.mp hle] at hplace
        exact hnone (List.isPrefixOf_iff_prefix.mpr hplace)
  | succ n ih =>
    unfold rfindTo
    split
    · rename_i hplace
      have hplace : pattern <+: text.drop (n + 1) := List.isPrefixOf_iff_prefix.mp hplace
      constructor
      · intro h
        obtain rfl := Option.some.inj h
        exact ⟨le_rfl, hplace, fun j _ _ => by omega⟩
      · rintro ⟨hle, _, hlast⟩
        have heq : i = n + 1 := by
          by_contra hne
          exact hlast (n + 1) (by omega) le_rfl hplace
        rw [heq]
    · rename_i hnone
      have hnone : ¬ pattern <+: text.drop (n + 1) := by
        rwa [List.isPrefixOf_iff_prefix] at hnone
      rw [ih]
      constructor
      · rintro ⟨hle, hplace, hlast⟩
        refine ⟨by omega, hplace, ?_⟩
        intro j hj hjn
        rcases Nat.lt_or_eq_of_le hjn with hlt | rfl
        · exact hlast j hj (by omega)
        · exact hnone
      · rintro ⟨hle, hplace, hlast⟩
        refine ⟨?_, hplace, fun j hj hjn => hlast j hj (by omega)⟩
        rcases Nat.lt_or_eq_of_le hle with hlt | rfl
        · omega
        · exact absurd hplace hnone

/-- The last place is at the end if and only if the text ends in the pattern. -/
theorem rfind_end_iff (hpattern : pattern ≠ []) (hle : pattern.length ≤ text.length) :
    rfind text pattern = some (text.length - pattern.length) ↔ pattern <:+ text := by
  unfold rfind
  rw [rfindTo_eq_some_iff, List.suffix_iff_eq_drop]
  constructor
  · rintro ⟨_, hplace, _⟩
    apply hplace.eq_of_length
    rw [List.length_drop]
    omega
  · intro hend
    refine ⟨Nat.sub_le _ _, ?_, ?_⟩
    · rw [← hend]
    · intro j hj _ hplace
      have hroom := add_length_le_of_place hpattern hplace
      omega

/-- A pattern that is longer than the text has no place in it. -/
theorem rfind_eq_none (hpattern : pattern ≠ []) (hlt : text.length < pattern.length) :
    rfind text pattern = none := by
  cases h : rfind text pattern with
  | none => rfl
  | some i =>
    obtain ⟨_, hplace, _⟩ := rfindTo_eq_some_iff.mp h
    have hroom := add_length_le_of_place hpattern hplace
    omega

end Searching

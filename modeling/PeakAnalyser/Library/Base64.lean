import Mathlib.Data.List.Basic

/-!
# Base64 texts

Which texts stand for which bytes, with the standard alphabet or the one for URLs, with
padding, and with line breaks between the groups of four.
-/

namespace Base64

set_option autoImplicit false

/-- The symbol of a number below 64. -/
def symbol (v : Nat) : UInt8 :=
  if v < 26 then .ofNat (65 + v)
  else if v < 52 then .ofNat (71 + v)
  else if v < 62 then .ofNat (v - 4)
  else if v = 62 then 43
  else 47

/-- The same in the alphabet for URLs. -/
def urlSymbol (v : Nat) : UInt8 := if v = 62 then 45 else if v = 63 then 95 else symbol v

def Stands (b : UInt8) (v : Nat) : Prop := v < 64 ∧ (b = symbol v ∨ b = urlSymbol v)

def padding : UInt8 := 61

def LineBreak (b : UInt8) : Prop := b = 13 ∨ b = 10

/-- The four numbers of three bytes. -/
def sextets (x y z : UInt8) : Nat × Nat × Nat × Nat :=
  (x.toNat / 4, x.toNat % 4 * 16 + y.toNat / 16, y.toNat % 16 * 4 + z.toNat / 64, z.toNat % 64)

/-- A text and the bytes it stands for. The bits that padding leaves over can be anything. -/
inductive Encodes : List UInt8 → List UInt8 → Prop where
  | nil : Encodes [] []
  | lineBreak {b : UInt8} {text bytes : List UInt8} :
      LineBreak b → Encodes text bytes → Encodes (b :: text) bytes
  | three {p q r s x y z : UInt8} {text bytes : List UInt8} :
      Stands p (sextets x y z).1 → Stands q (sextets x y z).2.1 →
      Stands r (sextets x y z).2.2.1 → Stands s (sextets x y z).2.2.2 →
      Encodes text bytes → Encodes (p :: q :: r :: s :: text) (x :: y :: z :: bytes)
  | two {p q r x y z : UInt8} {text : List UInt8} :
      Stands p (sextets x y z).1 → Stands q (sextets x y z).2.1 → Stands r (sextets x y z).2.2.1 →
      Encodes text [] → Encodes (p :: q :: r :: padding :: text) [x, y]
  | one {p q x y z : UInt8} {text : List UInt8} :
      Stands p (sextets x y z).1 → Stands q (sextets x y z).2.1 →
      Encodes text [] → Encodes (p :: q :: padding :: padding :: text) [x]

instance (b : UInt8) : Decidable (LineBreak b) := inferInstanceAs (Decidable (b = 13 ∨ b = 10))

/-- How many groups a text has. The last one can have fewer than four symbols. -/
def groups : List UInt8 → Nat
  | p :: q :: r :: s :: text =>
    if LineBreak p then groups (q :: r :: s :: text) else groups text + 1
  | [p, q, r] => if LineBreak p then groups [q, r] else 1
  | [p, q] => if LineBreak p then groups [q] else 1
  | [p] => if LineBreak p then 0 else 1
  | [] => 0

/-- What the four numbers of three bytes make together. -/
theorem sextets_value (x y z : UInt8) :
    (sextets x y z).1 * 262144 + (sextets x y z).2.1 * 4096 + (sextets x y z).2.2.1 * 64 +
      (sextets x y z).2.2.2 = x.toNat * 65536 + y.toNat * 256 + z.toNat := by
  have hx := x.toNat_lt
  have hy := y.toNat_lt
  have hz := z.toNat_lt
  simp only [sextets]
  omega

/-- No symbol is a line break. -/
theorem Stands.not_lineBreak {b : UInt8} {v : Nat} (h : Stands b v) : ¬ LineBreak b := by
  have hsymbols : ∀ v < 64, (symbol v ≠ 13 ∧ symbol v ≠ 10) ∧ urlSymbol v ≠ 13 ∧ urlSymbol v ≠ 10 := by
    decide
  obtain ⟨hv, hsymbol | hsymbol⟩ := h
  · rintro (hb | hb)
    · exact (hsymbols v hv).1.1 (hsymbol ▸ hb)
    · exact (hsymbols v hv).1.2 (hsymbol ▸ hb)
  · rintro (hb | hb)
    · exact (hsymbols v hv).2.1 (hsymbol ▸ hb)
    · exact (hsymbols v hv).2.2 (hsymbol ▸ hb)

/-! ### Line breaks anywhere -/

/-- A text without its line breaks. -/
def unwrapped (text : List UInt8) : List UInt8 := text.filter fun b => ¬ LineBreak b

/-- With `n` symbols before the text, each line break in it comes after fours of symbols. -/
def BreaksBetweenGroups (n : Nat) : List UInt8 → Prop
  | [] => True
  | b :: text =>
    if LineBreak b then 4 ∣ n ∧ BreaksBetweenGroups n text else BreaksBetweenGroups (n + 1) text

variable {b p q r s : UInt8} {text : List UInt8}

theorem unwrapped_lineBreak (h : LineBreak b) : unwrapped (b :: text) = unwrapped text := by
  simp [unwrapped, h]

theorem unwrapped_symbol (h : ¬ LineBreak b) : unwrapped (b :: text) = b :: unwrapped text := by
  simp [unwrapped, h]

theorem unwrapped_unwrapped (text : List UInt8) : unwrapped (unwrapped text) = unwrapped text := by
  simp [unwrapped, List.filter_filter]

theorem length_unwrapped_cons (b : UInt8) (text : List UInt8) :
    (unwrapped (b :: text)).length = (if LineBreak b then 0 else 1) + (unwrapped text).length := by
  by_cases h : LineBreak b
  · rw [unwrapped_lineBreak h, if_pos h, Nat.zero_add]
  · rw [unwrapped_symbol h, if_neg h, List.length_cons, Nat.add_comm]

theorem breaksBetweenGroups_lineBreak {n : Nat} (h : LineBreak b) :
    BreaksBetweenGroups n (b :: text) ↔ 4 ∣ n ∧ BreaksBetweenGroups n text := by
  simp [BreaksBetweenGroups, h]

theorem breaksBetweenGroups_symbol {n : Nat} (h : ¬ LineBreak b) :
    BreaksBetweenGroups n (b :: text) ↔ BreaksBetweenGroups (n + 1) text := by
  simp [BreaksBetweenGroups, h]

/-- Only the place within a group counts. -/
theorem breaksBetweenGroups_add_four {n : Nat} :
    BreaksBetweenGroups (n + 4) text ↔ BreaksBetweenGroups n text := by
  induction text generalizing n with
  | nil => exact Iff.rfl
  | cons b text ih =>
    by_cases hb : LineBreak b
    · rw [breaksBetweenGroups_lineBreak hb, breaksBetweenGroups_lineBreak hb, ih,
        Nat.dvd_add_left (Nat.dvd_refl 4)]
    · rw [breaksBetweenGroups_symbol hb, breaksBetweenGroups_symbol hb]
      exact ih

/-- Within a group there is no place for a line break. -/
theorem breaksBetweenGroups_inside {n : Nat} (hn : ¬ 4 ∣ n) :
    BreaksBetweenGroups n (b :: text) ↔ ¬ LineBreak b ∧ BreaksBetweenGroups (n + 1) text := by
  by_cases hb : LineBreak b
  · rw [breaksBetweenGroups_lineBreak hb]
    constructor
    · intro h
      exact absurd h.1 hn
    · intro h
      exact absurd hb h.1
  · rw [breaksBetweenGroups_symbol hb]
    exact ⟨fun h => ⟨hb, h⟩, And.right⟩

theorem breaksBetweenGroups_group (hp : ¬ LineBreak p) :
    BreaksBetweenGroups 0 (p :: q :: r :: s :: text) ↔
      ¬ LineBreak q ∧ ¬ LineBreak r ∧ ¬ LineBreak s ∧ BreaksBetweenGroups 0 text := by
  rw [breaksBetweenGroups_symbol hp, breaksBetweenGroups_inside (by omega),
    breaksBetweenGroups_inside (by omega), breaksBetweenGroups_inside (by omega),
    breaksBetweenGroups_add_four]

theorem length_unwrapped_le (text : List UInt8) :
    (unwrapped text).length ≤ 4 * groups text := by
  fun_induction groups text with
  | case1 p q r s text h ih =>
    rw [unwrapped_lineBreak h]
    exact ih
  | case2 p q r s text h ih =>
    simp only [length_unwrapped_cons]
    split_ifs <;> omega
  | case3 p q r h ih =>
    rw [unwrapped_lineBreak h]
    exact ih
  | case4 p q r h => exact Nat.le_trans (List.length_filter_le _ _) (by simp)
  | case5 p q h ih =>
    rw [unwrapped_lineBreak h]
    exact ih
  | case6 p q h => exact Nat.le_trans (List.length_filter_le _ _) (by simp)
  | case7 p h =>
    rw [unwrapped_lineBreak h]
    exact Nat.le_refl 0
  | case8 p h => exact Nat.le_trans (List.length_filter_le _ _) (by simp)
  | case9 => exact Nat.le_refl 0

/-- A symbol and fewer than three more characters are no whole group. -/
theorem not_dvd_of_short (h : ¬ LineBreak p) (hshort : text.length < 3) :
    ¬ 4 ∣ (unwrapped (p :: text)).length := by
  have hle : (unwrapped text).length ≤ text.length := List.length_filter_le _ _
  rw [unwrapped_symbol h, List.length_cons]
  omega

/-- A text of whole groups has as many of them as its symbols fill, unless a line break takes
the place of a symbol. -/
theorem groups_eq_iff (h : 4 ∣ (unwrapped text).length) :
    4 * groups text = (unwrapped text).length ↔ BreaksBetweenGroups 0 text := by
  have hbreak : ∀ {b : UInt8} {text : List UInt8}, LineBreak b →
      (BreaksBetweenGroups 0 (b :: text) ↔ BreaksBetweenGroups 0 text) := by
    intro b text hb
    rw [breaksBetweenGroups_lineBreak hb]
    exact and_iff_right (Nat.dvd_zero 4)
  fun_induction groups text with
  | case1 p q r s text hp ih =>
    rw [unwrapped_lineBreak hp] at h ⊢
    rw [hbreak hp]
    exact ih h
  | case2 p q r s text hp ih =>
    have hle := length_unwrapped_le text
    rw [breaksBetweenGroups_group hp]
    simp only [length_unwrapped_cons, if_neg hp] at h ⊢
    constructor
    · intro hgroups
      have hq : ¬ LineBreak q := by
        intro hq
        rw [if_pos hq] at hgroups
        split_ifs at hgroups <;> omega
      have hr : ¬ LineBreak r := by
        intro hr
        rw [if_neg hq, if_pos hr] at hgroups
        split_ifs at hgroups <;> omega
      have hs : ¬ LineBreak s := by
        intro hs
        rw [if_neg hq, if_neg hr, if_pos hs] at hgroups
        omega
      rw [if_neg hq, if_neg hr, if_neg hs] at h hgroups
      exact ⟨hq, hr, hs, (ih (by omega)).mp (by omega)⟩
    · intro hbreaks
      obtain ⟨hq, hr, hs, hrest⟩ := hbreaks
      rw [if_neg hq, if_neg hr, if_neg hs] at h ⊢
      have := (ih (by omega)).mpr hrest
      omega
  | case3 p q r hp ih =>
    rw [unwrapped_lineBreak hp] at h ⊢
    rw [hbreak hp]
    exact ih h
  | case4 p q r hp => exact absurd h (not_dvd_of_short hp (by simp))
  | case5 p q hp ih =>
    rw [unwrapped_lineBreak hp] at h ⊢
    rw [hbreak hp]
    exact ih h
  | case6 p q hp => exact absurd h (not_dvd_of_short hp (by simp))
  | case7 p hp =>
    rw [unwrapped_lineBreak hp, hbreak hp]
    exact iff_of_true rfl trivial
  | case8 p hp => exact absurd h (not_dvd_of_short hp (by simp))
  | case9 => exact iff_of_true rfl trivial

theorem not_lineBreak_padding : ¬ LineBreak padding := by decide

/-- A padded text has four symbols for each three bytes, or the beginning of three. -/
theorem Encodes.length_unwrapped {bytes : List UInt8} (h : Encodes text bytes) :
    (unwrapped text).length = 4 * ((bytes.length + 2) / 3) := by
  induction h with
  | nil => rfl
  | lineBreak hb _ ih =>
    rw [unwrapped_lineBreak hb]
    exact ih
  | three hp hq hr hs _ ih =>
    simp only [length_unwrapped_cons, if_neg hp.not_lineBreak, if_neg hq.not_lineBreak,
      if_neg hr.not_lineBreak, if_neg hs.not_lineBreak, ih, List.length_cons]
    omega
  | two hp hq hr _ ih =>
    simp only [length_unwrapped_cons, if_neg hp.not_lineBreak, if_neg hq.not_lineBreak,
      if_neg hr.not_lineBreak, if_neg not_lineBreak_padding, ih, List.length_cons, List.length_nil]
  | one hp hq _ ih =>
    simp only [length_unwrapped_cons, if_neg hp.not_lineBreak, if_neg hq.not_lineBreak,
      if_neg not_lineBreak_padding, ih, List.length_cons, List.length_nil]

/-- A text with line breaks anywhere has more groups than the bytes need, unless they stand
between the groups. -/
theorem Encodes.groups_eq_iff {bytes : List UInt8} (h : Encodes (unwrapped text) bytes) :
    groups text = (bytes.length + 2) / 3 ↔ BreaksBetweenGroups 0 text := by
  have hlength := h.length_unwrapped
  rw [unwrapped_unwrapped] at hlength
  rw [← Base64.groups_eq_iff ⟨_, hlength⟩]
  omega

theorem Encodes.le_groups {bytes : List UInt8} (h : Encodes (unwrapped text) bytes) :
    (bytes.length + 2) / 3 ≤ groups text := by
  have hlength := h.length_unwrapped
  have hle := length_unwrapped_le text
  rw [unwrapped_unwrapped] at hlength
  omega

theorem Encodes.breaksBetweenGroups {bytes : List UInt8} (h : Encodes text bytes) :
    BreaksBetweenGroups 0 text := by
  induction h with
  | nil => exact trivial
  | lineBreak hb _ ih => exact (breaksBetweenGroups_lineBreak hb).mpr ⟨Nat.dvd_zero 4, ih⟩
  | three hp hq hr hs _ ih =>
    apply (breaksBetweenGroups_group hp.not_lineBreak).mpr
    exact ⟨hq.not_lineBreak, hr.not_lineBreak, hs.not_lineBreak, ih⟩
  | two hp hq hr _ ih =>
    apply (breaksBetweenGroups_group hp.not_lineBreak).mpr
    exact ⟨hq.not_lineBreak, hr.not_lineBreak, not_lineBreak_padding, ih⟩
  | one hp hq _ ih =>
    apply (breaksBetweenGroups_group hp.not_lineBreak).mpr
    exact ⟨hq.not_lineBreak, not_lineBreak_padding, not_lineBreak_padding, ih⟩

theorem Encodes.unwrapped {bytes : List UInt8} (h : Encodes text bytes) :
    Encodes (unwrapped text) bytes := by
  induction h with
  | nil => exact .nil
  | lineBreak hb _ ih =>
    rw [unwrapped_lineBreak hb]
    exact ih
  | three hp hq hr hs _ ih =>
    rw [unwrapped_symbol hp.not_lineBreak, unwrapped_symbol hq.not_lineBreak,
      unwrapped_symbol hr.not_lineBreak, unwrapped_symbol hs.not_lineBreak]
    exact .three hp hq hr hs ih
  | two hp hq hr _ ih =>
    rw [unwrapped_symbol hp.not_lineBreak, unwrapped_symbol hq.not_lineBreak,
      unwrapped_symbol hr.not_lineBreak, unwrapped_symbol not_lineBreak_padding]
    exact .two hp hq hr ih
  | one hp hq _ ih =>
    rw [unwrapped_symbol hp.not_lineBreak, unwrapped_symbol hq.not_lineBreak,
      unwrapped_symbol not_lineBreak_padding, unwrapped_symbol not_lineBreak_padding]
    exact .one hp hq ih

end Base64

import Mathlib.Data.List.Count
import PeakAnalyser.Library.Runs

/-!
# Runs that come to an end

A rank that the counted steps lower bounds how many of them a run has. If a state that is not
final can always be left for one of a lower rank, every run can be carried on to a final state.
-/

namespace Runs

set_option autoImplicit false

universe u v

variable {State : Type u} {Label : Type v} {step : State → Label → Option State}
  {ok : State → Label → Prop}

/-- A run together with its labels. -/
inductive Path (step : State → Label → Option State) (ok : State → Label → Prop) :
    State → List Label → State → Prop where
  | nil (s : State) : Path step ok s [] s
  | snoc {s t u : State} {ls : List Label} {l : Label} :
      Path step ok s ls t → ok t l → step t l = some u → Path step ok s (ls ++ [l]) u

namespace Path

variable {s t : State} {ls : List Label}

theorem run (h : Path step ok s ls t) : Run step ok s t := by
  induction h with
  | nil => exact .refl _
  | snoc _ hok hs ih => exact .tail ih hok hs

/-- The counted steps of a run and the rank of the state it leads to. -/
theorem count_add_rank_le {P : State → Prop} {rank : State → Nat} {counted : Label → Bool}
    (keep : ∀ a l b, P a → ok a l → step a l = some b → P b)
    (lower : ∀ a l b, P a → ok a l → step a l = some b →
      rank b + (if counted l then 1 else 0) ≤ rank a)
    (h : Path step ok s ls t) (base : P s) : ls.countP counted + rank t ≤ rank s := by
  have hkept : ∀ {u : State} {ms : List Label}, Path step ok s ms u → P u :=
    fun hpath => hpath.run.invariant keep base
  induction h with
  | nil =>
    rw [List.countP_nil]
    omega
  | snoc hpath hok hs ih =>
    have hlower := lower _ _ _ (hkept hpath) hok hs
    rw [List.countP_append, List.countP_singleton]
    omega

theorem cons {l : Label} {u : State} (hok : ok s l) (hs : step s l = some t)
    (h : Path step ok t ls u) : Path step ok s (l :: ls) u := by
  induction h with
  | nil => exact .snoc (.nil s) hok hs
  | snoc _ hok' hs' ih => exact .snoc ih hok' hs'

end Path

/-- How a concrete execution yields a run with its labels. -/
theorem path_of_reaches [∀ s l, Decidable (ok s l)] {s : State} {ls : List Label}
    {test : State → Bool} (h : reaches step ok s ls test = true) :
    ∃ t, Path step ok s ls t ∧ test t = true := by
  obtain ⟨t, hexec, htest⟩ := (Option.any_eq_true test (exec step ok s ls)).mp h
  refine ⟨t, ?_, htest⟩
  clear h htest
  induction ls generalizing s with
  | nil =>
    obtain rfl := Option.some.inj hexec
    exact .nil s
  | cons l ls ih =>
    simp only [exec] at hexec
    split at hexec
    · rename_i hok
      obtain ⟨a, ha, hrest⟩ := Option.bind_eq_some_iff.mp hexec
      exact .cons hok ha (ih hrest)
    · cases hexec

/-- A state that satisfies `P` and is not final can be left for one of a lower rank. -/
theorem exists_final {P Final : State → Prop} {rank : State → Nat}
    (advance : ∀ s, P s → ¬ Final s → ∃ t, Run step ok s t ∧ P t ∧ rank t < rank s)
    {s : State} (hs : P s) : ∃ t, Run step ok s t ∧ Final t := by
  induction hrank : rank s using Nat.strongRecOn generalizing s with
  | _ n ih =>
    by_cases hfinal : Final s
    · exact ⟨s, .refl s, hfinal⟩
    · obtain ⟨t, hst, ht, hlt⟩ := advance s hs hfinal
      obtain ⟨u, htu, hu⟩ := ih (rank t) (by omega) ht rfl
      exact ⟨u, hst.trans htu, hu⟩

end Runs

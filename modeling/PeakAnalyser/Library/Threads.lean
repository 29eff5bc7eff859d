import Mathlib.Data.Set.Subsingleton
import Mathlib.Logic.Function.Basic

/-!
# Program counters of threads

`thread : Tid → Pc` says where each thread is. A thread steps by
`Function.update`. `Sole p thread` says that at most one thread is at a place
that satisfies `p`.
-/

namespace Threads

set_option autoImplicit false

universe u v

variable {Tid : Type u} {Pc : Type v} {p : Pc → Prop} {thread : Tid → Pc} {t u : Tid} {pc : Pc}

/-- At most one thread is at a place that satisfies `p`. -/
def Sole (p : Pc → Prop) (thread : Tid → Pc) : Prop :=
  {t | p (thread t)}.Subsingleton

theorem sole_of_forall_not (h : ∀ t, ¬ p (thread t)) : Sole p thread :=
  fun t ht => absurd ht (h t)

theorem Sole.not_of_ne (h : Sole p thread) (ht : p (thread t)) (hne : u ≠ t) : ¬ p (thread u) :=
  fun hu => hne (h hu ht)

section Update

variable [DecidableEq Tid]

/-- A thread may come to such a place when it was at one, or when no thread was. -/
theorem Sole.update (h : Sole p thread)
    (hpc : p pc → p (thread t) ∨ ∀ u, ¬ p (thread u)) :
    Sole p (Function.update thread t pc) := by
  intro a ha b hb
  change p (Function.update thread t pc a) at ha
  change p (Function.update thread t pc b) at hb
  have other : ∀ c, c ≠ t → p (Function.update thread t pc c) → p (thread c) := by
    intro c hc hpcc
    rwa [Function.update_of_ne hc] at hpcc
  have entered : ∀ c, c ≠ t → p pc → ¬ p (Function.update thread t pc c) := by
    intro c hc hp hpcc
    rcases hpc hp with hold | hnone
    · exact h.not_of_ne hold hc (other c hc hpcc)
    · exact hnone c (other c hc hpcc)
  by_cases hat : a = t <;> by_cases hbt : b = t
  · rw [hat, hbt]
  · subst hat
    rw [Function.update_self] at ha
    exact absurd hb (entered b hbt ha)
  · subst hbt
    rw [Function.update_self] at hb
    exact absurd ha (entered a hat hb)
  · exact h (other a hat ha) (other b hbt hb)

/-- The other threads stay where they are, so what holds of every place holds after a step
if it holds of the new place. -/
theorem forall_update {P : Tid → Pc → Prop} (hpc : P t pc)
    (h : ∀ u, u ≠ t → P u (thread u)) : ∀ u, P u (Function.update thread t pc u) := by
  intro u
  by_cases hut : u = t
  · subst hut
    rwa [Function.update_self]
  · rw [Function.update_of_ne hut]
    exact h u hut

end Update

end Threads

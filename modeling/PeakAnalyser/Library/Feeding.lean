import Mathlib.Data.List.Basic

/-!
# Machines that are fed item by item

A machine is a function `take : State → Option (Item → State)`; `none` says that the
state wants no more items. What it makes of an input does not depend on the pieces in
which the input arrives.
-/

namespace Feeding

set_option autoImplicit false

universe u v

variable {State : Type u} {Item : Type v} (take : State → Option (Item → State))

/-- The machine takes an input as far as it wants it: its state then, and what it leaves. -/
def run (state : State) : List Item → State × List Item
  | [] => (state, [])
  | a :: s =>
    match take state with
    | some next => run (next a) s
    | none => (state, a :: s)

variable {take} {state state' : State} {s t : List Item}

@[simp] theorem run_nil : run take state [] = (state, []) := rfl

theorem run_of_stopped (h : take state = none) (s : List Item) : run take state s = (state, s) := by
  cases s with
  | nil => rfl
  | cons a s => simp [run, h]

theorem run_cons {next : Item → State} (h : take state = some next) (a : Item) (s : List Item) :
    run take state (a :: s) = run take (next a) s := by
  simp [run, h]

theorem run_append (h : (run take state s).2 = []) (t : List Item) :
    run take state (s ++ t) = run take (run take state s).1 t := by
  induction s generalizing state with
  | nil => rfl
  | cons a s ih =>
    cases hnext : take state with
    | none =>
      rw [run_of_stopped hnext] at h
      cases h
    | some next =>
      rw [run_cons hnext] at h
      rw [List.cons_append, run_cons hnext, run_cons hnext]
      exact ih h

/-- A machine that takes a whole input takes every beginning of it. -/
theorem run_beginning (h : (run take state (s ++ t)).2 = []) : (run take state s).2 = [] := by
  induction s generalizing state with
  | nil => rfl
  | cons a s ih =>
    cases hnext : take state with
    | none =>
      rw [run_of_stopped hnext] at h
      cases h
    | some next =>
      rw [List.cons_append, run_cons hnext] at h
      rw [run_cons hnext]
      exact ih h

/-- What is left to do after a beginning. -/
theorem run_rest (h : run take state (s ++ t) = (state', [])) :
    run take (run take state s).1 t = (state', []) := by
  rw [← run_append (run_beginning (by rw [h]))]
  exact h

/-- A machine that has stopped within an input it takes as a whole has taken all of it. -/
theorem eq_nil_of_stopped (h : run take state (s ++ t) = (state', []))
    (hstopped : take (run take state s).1 = none) : t = [] ∧ (run take state s).1 = state' := by
  have hrest := run_rest h
  rw [run_of_stopped hstopped] at hrest
  obtain ⟨hstate, ht⟩ := Prod.mk.inj hrest
  exact ⟨ht, hstate⟩

end Feeding
